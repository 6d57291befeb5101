namespace GraphicsBlock

abbrev Word := BitVec 32

def wordCount : Nat := 0x1000

abbrev WordIndex := Fin wordCount

/-- Address registers hold a byte address divided by eight; the product wraps. -/
def Word.byteAddress (raw : Word) : Word := raw * 8#32

@[simp] theorem Word.toNat_byteAddress (raw : Word) :
    (Word.byteAddress raw).toNat = 8 * raw.toNat % 0x100000000 := by
  simp [Word.byteAddress, BitVec.toNat_mul, Nat.mul_comm]

end GraphicsBlock

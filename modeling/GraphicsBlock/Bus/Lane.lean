import GraphicsBlock.BitField
import GraphicsBlock.Address

namespace GraphicsBlock

inductive Width
  | byte
  | half
  | full
  deriving DecidableEq

namespace Width

@[reducible] def bits : Width → Nat
  | .byte => 8
  | .half => 16
  | .full => 32

theorem bits_pos (w : Width) : 0 < w.bits := by
  cases w <;> decide

def bytes : Width → Nat
  | .byte => 1
  | .half => 2
  | .full => 4

def all : List Width := [.byte, .half, .full]

def ofBits? (bits : Nat) : Option Width := all.find? (·.bits = bits)

def value? (w : Width) (n : Nat) : Option (BitVec w.bits) :=
  if (BitVec.ofNat w.bits n).toNat = n then some (BitVec.ofNat w.bits n) else none

end Width

/-- The lane's first byte: the address modulo four, rounded down to the access size. -/
def laneByte (w : Width) (address : Address) : Nat := address.toNat % 4 / w.bytes * w.bytes

theorem laneByte_fits (w : Width) (address : Address) : laneByte w address * 8 + w.bits ≤ 32 := by
  cases w <;> simp only [laneByte, Width.bytes, Width.bits] <;> omega

def lane (w : Width) (address : Address) : BitField :=
  ⟨laneByte w address * 8, w.bits, by simpa using ⟨w.bits_pos, laneByte_fits w address⟩⟩

def laneMask (w : Width) (address : Address) : Word := (lane w address).placedMask

def readLane (w : Width) (address : Address) (word : Word) : BitVec w.bits :=
  ((lane w address).extract word).setWidth w.bits

def mergeLane (w : Width) (address : Address) (word : Word) (value : BitVec w.bits) : Word :=
  (lane w address).deposit word (value.setWidth 32)

theorem getLsbD_laneMask (w : Width) (address : Address) (i : Nat) :
    (laneMask w address).getLsbD i =
      (decide ((lane w address).offset ≤ i) && decide (i < (lane w address).offset + w.bits)) :=
  BitField.getLsbD_placedMask ..

theorem getLsbD_mergeLane (w : Width) (address : Address) (word : Word) (value : BitVec w.bits)
    (i : Nat) :
    (mergeLane w address word value).getLsbD i =
      if (lane w address).offset ≤ i ∧ i < (lane w address).offset + w.bits then
        value.getLsbD (i - (lane w address).offset)
      else word.getLsbD i := by
  have fits : (lane w address).offset + w.bits ≤ 32 := laneByte_fits w address
  rw [mergeLane, BitField.getLsbD_deposit]
  change (if (lane w address).offset ≤ i ∧ i < (lane w address).offset + w.bits then _ else _) = _
  by_cases covered : (lane w address).offset ≤ i ∧ i < (lane w address).offset + w.bits
  · have inside : i - (lane w address).offset < 32 := by omega
    rw [if_pos covered, if_pos covered, BitVec.getLsbD_setWidth, decide_eq_true inside,
      Bool.true_and]
  · rw [if_neg covered, if_neg covered]

theorem getLsbD_mergeLane_of_not_mem {w : Width} {address : Address} {i : Nat}
    (h : (laneMask w address).getLsbD i = false) (word : Word) (value : BitVec w.bits) :
    (mergeLane w address word value).getLsbD i = word.getLsbD i := by
  rw [getLsbD_laneMask, Bool.and_eq_false_iff, decide_eq_false_iff_not,
    decide_eq_false_iff_not] at h
  rw [getLsbD_mergeLane, if_neg]
  exact fun ⟨low, high⟩ => h.elim (· low) (· high)

theorem getLsbD_readLane (w : Width) (address : Address) (word : Word) {i : Nat}
    (h : i < w.bits) :
    (readLane w address word).getLsbD i = word.getLsbD ((lane w address).offset + i) := by
  rw [readLane, BitVec.getLsbD_setWidth, BitField.getLsbD_extract]
  change (decide (i < w.bits) && (decide (i < w.bits) && _)) = _
  rw [decide_eq_true h, Bool.true_and, Bool.true_and]

example : readLane .half 0x103#32 0x44332211#32 = 0x4433#16 := by decide
example : mergeLane .byte 2#32 0x44332211#32 0xAA#8 = 0x44AA2211#32 := by decide

end GraphicsBlock

import GraphicsBlock.Fault

namespace GraphicsBlock

abbrev Address := BitVec 32

def windowBytes : Nat := wordCount * 4

def physicalBase : Address := 0x1EF00000#32

def windowOffset? (physical : Address) : Option Address :=
  if physicalBase.toNat ≤ physical.toNat ∧
      physical.toNat - physicalBase.toNat < windowBytes then
    some (physical - physicalBase)
  else none

def wordIndex? (offset : Address) : Except RegisterFault WordIndex :=
  if h : offset.toNat / 4 < wordCount then .ok ⟨offset.toNat / 4, h⟩
  else .error (.outOfRange (offset.toNat / 4))

theorem wordIndex?_eq_ok_iff {offset : Address} {i : WordIndex} :
    wordIndex? offset = .ok i ↔ offset.toNat / 4 = i := by
  unfold wordIndex?
  split
  · simp [Fin.ext_iff]
  · next h => exact ⟨nofun, fun e => absurd (e ▸ i.isLt) h⟩

theorem wordIndex?_eq_error_iff {offset : Address} {fault : RegisterFault} :
    wordIndex? offset = .error fault ↔
      windowBytes ≤ offset.toNat ∧ fault = .outOfRange (offset.toNat / 4) := by
  unfold wordIndex? windowBytes
  split
  · next h => exact ⟨nofun, fun e => by omega⟩
  · next h => exact ⟨fun e => ⟨by omega, by cases e; rfl⟩, fun e => e.2 ▸ rfl⟩

end GraphicsBlock

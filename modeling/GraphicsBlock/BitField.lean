import GraphicsBlock.Fault
import GraphicsBlock.Text.Outline

namespace GraphicsBlock

/-- A range of at least one bit, all of it inside a word. -/
structure BitField where
  offset : Nat
  width : Nat
  valid : (0 < width && offset + width ≤ 32) = true := by exact Eq.refl true
  deriving DecidableEq

def lowOnes (width : Nat) : Word :=
  if 32 ≤ width then BitVec.allOnes 32 else (1#32 <<< width) - 1#32

theorem getLsbD_lowOnes (width i : Nat) :
    (lowOnes width).getLsbD i = (decide (i < 32) && decide (i < width)) := by
  unfold lowOnes
  split
  · rw [BitVec.getLsbD_allOnes, Bool.eq_iff_iff]
    simp only [decide_eq_true_eq, Bool.and_eq_true]
    omega
  · next small =>
    have below : 2 ^ width < 2 ^ 32 := Nat.pow_lt_pow_right (by decide) (Nat.lt_of_not_le small)
    have shifted : (1#32 <<< width).toNat = 2 ^ width := by
      rw [BitVec.toNat_shiftLeft, BitVec.toNat_ofNat, Nat.shiftLeft_eq, Nat.one_mul,
        Nat.mod_eq_of_lt below]
    have positive : 1#32 ≤ 1#32 <<< width := by
      rw [BitVec.le_def, shifted]
      exact Nat.two_pow_pos width
    rw [BitVec.getLsbD, BitVec.toNat_sub_of_le positive, shifted]
    change (2 ^ width - 1).testBit i = _
    rw [Nat.testBit_two_pow_sub_one, Bool.eq_iff_iff]
    simp only [decide_eq_true_eq, Bool.and_eq_true]
    omega

namespace BitField

theorem width_pos (f : BitField) : 0 < f.width :=
  of_decide_eq_true (Bool.and_eq_true_iff.1 f.valid).1

theorem fits (f : BitField) : f.offset + f.width ≤ 32 :=
  of_decide_eq_true (Bool.and_eq_true_iff.1 f.valid).2

def Fits (offset width : Word) : Prop := 0 < width ∧ offset < 32 ∧ width ≤ 32 - offset

instance (offset width : Word) : Decidable (Fits offset width) :=
  inferInstanceAs (Decidable (_ ∧ _))

theorem fits_iff {offset width : Word} :
    Fits offset width ↔ 0 < width.toNat ∧ offset.toNat + width.toNat ≤ 32 := by
  unfold Fits
  constructor <;> intro h <;> bv_omega

def ofFits {offset width : Word} (h : Fits offset width) : BitField :=
  ⟨offset.toNat, width.toNat, by simpa using fits_iff.1 h⟩

def ofBounds? (offset width : Word) : Except RegisterFault BitField :=
  if h : Fits offset width then .ok (ofFits h) else .error (.badGeometry offset width)

def declare (offset width : Word) : Except DeclarationFault BitField :=
  if h : Fits offset width then .ok (ofFits h) else .error .outsideWord

def mask (f : BitField) : Word := lowOnes f.width

def placedMask (f : BitField) : Word := f.mask <<< f.offset

def extract (f : BitField) (word : Word) : Word := (word >>> f.offset) &&& f.mask

def deposit (f : BitField) (word value : Word) : Word :=
  (word &&& ~~~f.placedMask) ||| ((value <<< f.offset) &&& f.placedMask)

def insert (f : BitField) (word value : Word) : Except RegisterFault Word :=
  if value ≤ f.mask then .ok (f.deposit word value) else .error (.fieldOverflow value f.width)

def isSet (f : BitField) (word : Word) : Bool := f.extract word != 0

def withFlag (f : BitField) (word : Word) (set : Bool) : Word :=
  f.deposit word (if set then 1 else 0)

def outline (f : BitField) : Text.Outline :=
  .record "PackedField" [("offset", .nat f.offset), ("width", .nat f.width)]

@[simp] theorem getLsbD_mask (f : BitField) (i : Nat) :
    f.mask.getLsbD i = decide (i < f.width) := by
  have := f.fits
  rw [mask, getLsbD_lowOnes]
  by_cases h : i < f.width
  · simp [h]
    omega
  · simp [h]

@[simp] theorem getLsbD_placedMask (f : BitField) (i : Nat) :
    f.placedMask.getLsbD i = (decide (f.offset ≤ i) && decide (i < f.offset + f.width)) := by
  have := f.fits
  simp only [placedMask, BitVec.getLsbD_shiftLeft, getLsbD_mask]
  by_cases h : f.offset ≤ i <;> by_cases h' : i < f.offset + f.width <;> simp [h, h'] <;> omega

theorem getLsbD_extract (f : BitField) (word : Word) (i : Nat) :
    (f.extract word).getLsbD i = (decide (i < f.width) && word.getLsbD (f.offset + i)) := by
  simp [extract, Bool.and_comm]

theorem getLsbD_deposit (f : BitField) (word value : Word) (i : Nat) :
    (f.deposit word value).getLsbD i =
      if f.offset ≤ i ∧ i < f.offset + f.width then value.getLsbD (i - f.offset)
      else word.getLsbD i := by
  have := f.fits
  simp only [deposit, BitVec.getLsbD_or, BitVec.getLsbD_and, BitVec.getLsbD_not,
    BitVec.getLsbD_shiftLeft, getLsbD_placedMask, ← Bool.decide_and]
  by_cases h : f.offset ≤ i ∧ i < f.offset + f.width
  · have hi : i < 32 := by omega
    simp only [h, hi, Nat.not_lt_of_le h.1, and_self, decide_true, decide_false, Bool.not_true,
      Bool.not_false, Bool.and_true, Bool.and_false, Bool.true_and, Bool.false_or, if_true]
  · by_cases hi : i < 32
    · simp only [h, hi, decide_true, decide_false, Bool.not_false, Bool.and_true, Bool.and_false,
        Bool.or_false, if_false]
    · simp only [h, hi, decide_false, Bool.false_and, Bool.and_false, Bool.or_false, if_false]
      exact (BitVec.getLsbD_of_ge _ _ (Nat.le_of_not_lt hi)).symm

theorem extract_eq_slice (f : BitField) (word : Word) :
    f.extract word = (word.extractLsb' f.offset f.width).setWidth 32 := by
  apply BitVec.eq_of_getLsbD_eq
  intro i hi
  rw [getLsbD_extract, BitVec.getLsbD_setWidth, BitVec.getLsbD_extractLsb', decide_eq_true hi,
    Bool.true_and]

theorem width_le (f : BitField) : f.width ≤ 32 :=
  Nat.le_trans (Nat.le_add_left ..) f.fits

theorem toNat_extract (f : BitField) (word : Word) :
    (f.extract word).toNat = (word.extractLsb' f.offset f.width).toNat := by
  rw [extract_eq_slice, BitVec.toNat_setWidth_of_le f.width_le]

theorem setWidth_extract {f : BitField} {n : Nat} (h : n ≤ f.width) (word : Word) :
    (f.extract word).setWidth n = word.extractLsb' f.offset n := by
  rw [extract_eq_slice, BitVec.setWidth_setWidth_of_le _ (Nat.le_trans h f.width_le),
    BitVec.setWidth_extractLsb'_of_le h]

@[simp] theorem extract_deposit (f : BitField) (word value : Word) :
    f.extract (f.deposit word value) = value &&& f.mask := by
  apply BitVec.eq_of_getLsbD_eq
  intro i _
  simp only [getLsbD_extract, getLsbD_deposit, BitVec.getLsbD_and, getLsbD_mask]
  by_cases h : i < f.width
  · simp [h]
  · simp [h]

def Disjoint (f g : BitField) : Prop :=
  f.offset + f.width ≤ g.offset ∨ g.offset + g.width ≤ f.offset

instance (f g : BitField) : Decidable (f.Disjoint g) := inferInstanceAs (Decidable (_ ∨ _))

theorem extract_deposit_of_disjoint {f g : BitField} (h : f.Disjoint g) (word value : Word) :
    g.extract (f.deposit word value) = g.extract word := by
  apply BitVec.eq_of_getLsbD_eq
  intro i _
  simp only [getLsbD_extract, getLsbD_deposit]
  by_cases hi : i < g.width
  · have : ¬(f.offset ≤ g.offset + i ∧ g.offset + i < f.offset + f.width) := by
      unfold Disjoint at h
      omega
    rw [if_neg this]
  · simp [hi]

@[simp] theorem isSet_withFlag (f : BitField) (word : Word) (set : Bool) :
    f.isSet (f.withFlag word set) = set := by
  rw [isSet, withFlag, extract_deposit]
  cases set
  · simp
  · have : ((1 : Word) &&& f.mask).getLsbD 0 = true := by
      rw [BitVec.getLsbD_and, getLsbD_mask]
      simp [f.width_pos]
    simp only [if_true, bne_iff_ne]
    intro h
    rw [h] at this
    simp at this

theorem isSet_withFlag_of_disjoint {f g : BitField} (h : f.Disjoint g) (word : Word) (set : Bool) :
    g.isSet (f.withFlag word set) = g.isSet word := by
  rw [isSet, withFlag, extract_deposit_of_disjoint h, isSet]

theorem bne_zero_of_single {word : Word} (place : Nat) {set : Bool}
    (h : ∀ i, word.getLsbD i = (set && decide (i = place))) : (word != 0) = set := by
  cases set with
  | false =>
    have clear : word = 0 := by
      apply BitVec.eq_of_getLsbD_eq
      intro i _
      rw [h, Bool.false_and]
      exact BitVec.getLsbD_zero.symm
    simp [clear]
  | true =>
    rw [bne_iff_ne]
    intro clear
    have := h place
    simp [clear] at this

theorem and_placedMask_ne_zero {f : BitField} (h : f.width = 1) (word : Word) :
    (word &&& f.placedMask != 0) = word.getLsbD f.offset := by
  apply bne_zero_of_single f.offset
  intro i
  have single : decide (f.offset ≤ i ∧ i < f.offset + 1) = decide (i = f.offset) :=
    decide_eq_decide.2 (by omega)
  rw [BitVec.getLsbD_and, getLsbD_placedMask, h, ← Bool.decide_and, single]
  by_cases hi : i = f.offset <;> simp [hi]

theorem isSet_eq_getLsbD {f : BitField} (h : f.width = 1) (word : Word) :
    f.isSet word = word.getLsbD f.offset := by
  apply bne_zero_of_single 0
  intro i
  rw [getLsbD_extract, h]
  by_cases hi : i = 0 <;> simp [hi]

theorem getLsbD_withFlag {f : BitField} (h : f.width = 1) (word : Word) (set : Bool) (i : Nat) :
    (f.withFlag word set).getLsbD i = if i = f.offset then set else word.getLsbD i := by
  rw [withFlag, getLsbD_deposit, h]
  by_cases hi : i = f.offset
  · subst hi
    cases set <;> simp
  · rw [if_neg hi, if_neg (by omega)]

end BitField

/-- Bits `offset` to `offset + width`; those past the top of the word read as zero. -/
def extractBits (word offset width : Word) : Word := (word >>> offset) &&& lowOnes width.toNat

def insertBits (word offset width value : Word) : Except RegisterFault Word := do
  (← BitField.ofBounds? offset width).insert word value

end GraphicsBlock

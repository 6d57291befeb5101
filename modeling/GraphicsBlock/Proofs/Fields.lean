import GraphicsBlock.BitField
import Mathlib.Algebra.Group.Nat.Defs

namespace GraphicsBlock

theorem toNat_and_lowOnes (word : Word) (width : Nat) :
    (word &&& lowOnes width).toNat = word.toNat % 2 ^ width := by
  apply Nat.eq_of_testBit_eq
  intro i
  rw [Nat.testBit_mod_two_pow]
  change (word &&& lowOnes width).getLsbD i = (decide (i < width) && word.getLsbD i)
  rw [BitVec.getLsbD_and, getLsbD_lowOnes]
  by_cases inside : i < 32
  · rw [decide_eq_true inside, Bool.true_and, Bool.and_comm]
  · rw [BitVec.getLsbD_of_ge _ _ (Nat.le_of_not_lt inside), Bool.false_and, Bool.and_false]

theorem toNat_lowOnes {width : Nat} (h : width ≤ 32) : (lowOnes width).toNat = 2 ^ width - 1 := by
  apply Nat.eq_of_testBit_eq
  intro i
  change (lowOnes width).getLsbD i = _
  rw [getLsbD_lowOnes, Nat.testBit_two_pow_sub_one, Bool.eq_iff_iff]
  simp only [decide_eq_true_eq, Bool.and_eq_true]
  omega

theorem toNat_extractBits (word offset width : Word) :
    (extractBits word offset width).toNat =
      word.toNat / 2 ^ offset.toNat % 2 ^ width.toNat := by
  rw [extractBits, toNat_and_lowOnes, BitVec.ushiftRight_eq', BitVec.toNat_ushiftRight,
    Nat.shiftRight_eq_div_pow]

namespace BitField

theorem toNat_mask (f : BitField) : f.mask.toNat = 2 ^ f.width - 1 :=
  toNat_lowOnes f.width_le

theorem le_mask_iff {f : BitField} {value : Word} :
    value ≤ f.mask ↔ value.toNat < 2 ^ f.width := by
  have positive : 0 < 2 ^ f.width := Nat.two_pow_pos _
  rw [BitVec.le_def, toNat_mask]
  omega

theorem toNat_and_mask (f : BitField) (value : Word) :
    (value &&& f.mask).toNat = value.toNat % 2 ^ f.width :=
  toNat_and_lowOnes value f.width

theorem and_mask_of_le {f : BitField} {value : Word} (h : value ≤ f.mask) :
    value &&& f.mask = value := by
  apply BitVec.eq_of_toNat_eq
  rw [toNat_and_mask, Nat.mod_eq_of_lt (le_mask_iff.1 h)]

theorem toNat_extract_eq_mod (f : BitField) (word : Word) :
    (f.extract word).toNat = word.toNat / 2 ^ f.offset % 2 ^ f.width := by
  rw [extract, toNat_and_mask, BitVec.toNat_ushiftRight, Nat.shiftRight_eq_div_pow]

theorem insert_eq_ok_iff {f : BitField} {word value next : Word} :
    f.insert word value = .ok next ↔ value.toNat < 2 ^ f.width ∧ next = f.deposit word value := by
  rw [← le_mask_iff]
  by_cases fits : value ≤ f.mask
  · simp [insert, fits, eq_comm]
  · simp [insert, fits]

theorem insert_eq_error_iff {f : BitField} {word value : Word} {fault : RegisterFault} :
    f.insert word value = .error fault ↔
      2 ^ f.width ≤ value.toNat ∧ fault = .fieldOverflow value f.width := by
  rw [← Nat.not_lt, ← le_mask_iff]
  by_cases fits : value ≤ f.mask
  · simp [insert, fits]
  · simp [insert, fits, eq_comm]

theorem deposit_extract (f : BitField) (word : Word) : f.deposit word (f.extract word) = word := by
  apply BitVec.eq_of_getLsbD_eq
  intro i _
  rw [getLsbD_deposit, getLsbD_extract]
  split
  · next inside =>
    have within : i - f.offset < f.width := by omega
    rw [decide_eq_true within, Bool.true_and, Nat.add_sub_of_le inside.1]
  · rfl

theorem deposit_deposit (f : BitField) (word value later : Word) :
    f.deposit (f.deposit word value) later = f.deposit word later := by
  apply BitVec.eq_of_getLsbD_eq
  intro i _
  simp only [getLsbD_deposit]
  split <;> rfl

theorem Disjoint.symm {f g : BitField} (h : f.Disjoint g) : g.Disjoint f := Or.symm h

theorem deposit_comm {f g : BitField} (h : f.Disjoint g) (word value other : Word) :
    g.deposit (f.deposit word value) other = f.deposit (g.deposit word other) value := by
  apply BitVec.eq_of_getLsbD_eq
  intro i _
  simp only [getLsbD_deposit]
  by_cases inside : f.offset ≤ i ∧ i < f.offset + f.width
  · have outside : ¬(g.offset ≤ i ∧ i < g.offset + g.width) := by
      unfold Disjoint at h
      omega
    rw [if_neg outside, if_pos inside, if_pos inside]
  · rw [if_neg inside, if_neg inside]

theorem ofBounds?_eq_ok_iff {offset width : Word} {f : BitField} :
    ofBounds? offset width = .ok f ↔ f.offset = offset.toNat ∧ f.width = width.toNat := by
  unfold ofBounds?
  split
  · next fits =>
    cases f
    simp [ofFits, eq_comm]
  · next refused =>
    refine ⟨nofun, fun bounds => absurd (fits_iff.2 ?_) refused⟩
    exact ⟨bounds.2 ▸ f.width_pos, bounds.1 ▸ bounds.2 ▸ f.fits⟩

theorem ofBounds?_eq_error_iff {offset width : Word} {fault : RegisterFault} :
    ofBounds? offset width = .error fault ↔
      ¬(1 ≤ width.toNat ∧ offset.toNat + width.toNat ≤ 32) ∧ fault = .badGeometry offset width := by
  rw [show 1 ≤ width.toNat ∧ _ ↔ Fits offset width from fits_iff.symm]
  by_cases fits : Fits offset width
  · simp [ofBounds?, fits]
  · simp [ofBounds?, fits, eq_comm]

theorem exists_ofBounds?_iff {offset width : Word} :
    (∃ f, ofBounds? offset width = .ok f) ↔
      1 ≤ width.toNat ∧ offset.toNat + width.toNat ≤ 32 := by
  constructor
  · rintro ⟨f, bounds⟩
    obtain ⟨start, size⟩ := ofBounds?_eq_ok_iff.1 bounds
    exact start ▸ size ▸ ⟨f.width_pos, f.fits⟩
  · intro wide
    exact ⟨ofFits (fits_iff.2 wide), ofBounds?_eq_ok_iff.2 ⟨rfl, rfl⟩⟩

theorem ofBounds?_bounds (f : BitField) :
    ofBounds? (BitVec.ofNat 32 f.offset) (BitVec.ofNat 32 f.width) = .ok f := by
  have fits := f.fits
  have offset : f.offset < 2 ^ 32 := by omega
  have width : f.width < 2 ^ 32 := by omega
  rw [ofBounds?_eq_ok_iff, BitVec.toNat_ofNat, BitVec.toNat_ofNat, Nat.mod_eq_of_lt offset,
    Nat.mod_eq_of_lt width]
  exact ⟨rfl, rfl⟩

theorem declare_eq_ok_iff {offset width : Word} {f : BitField} :
    declare offset width = .ok f ↔ ofBounds? offset width = .ok f := by
  by_cases fits : Fits offset width
  · simp [declare, ofBounds?, fits]
  · simp [declare, ofBounds?, fits]

theorem declare_eq_error_iff {offset width : Word} {fault : DeclarationFault} :
    declare offset width = .error fault ↔ ∃ fault, ofBounds? offset width = .error fault := by
  cases fault
  by_cases fits : Fits offset width
  · simp [declare, ofBounds?, fits]
  · simp [declare, ofBounds?, fits]

theorem extractBits_of_ofBounds? {offset width : Word} {f : BitField}
    (bounds : ofBounds? offset width = .ok f) (word : Word) :
    extractBits word offset width = f.extract word := by
  obtain ⟨start, size⟩ := ofBounds?_eq_ok_iff.1 bounds
  rw [extract, mask, start, size]
  rfl

theorem insertBits_of_ofBounds? {offset width : Word} {f : BitField}
    (bounds : ofBounds? offset width = .ok f) (word value : Word) :
    insertBits word offset width value = f.insert word value := by
  rw [insertBits, bounds]
  rfl

theorem insertBits_eq_badGeometry_iff {word offset width value o w : Word} :
    insertBits word offset width value = .error (.badGeometry o w) ↔
      ¬(1 ≤ width.toNat ∧ offset.toNat + width.toNat ≤ 32) ∧ o = offset ∧ w = width := by
  cases bounds : ofBounds? offset width with
  | ok f =>
    rw [insertBits_of_ofBounds? bounds, insert_eq_error_iff]
    simp [exists_ofBounds?_iff.1 ⟨f, bounds⟩]
  | error fault =>
    obtain ⟨refused, rfl⟩ := ofBounds?_eq_error_iff.1 bounds
    rw [insertBits, bounds]
    change Except.error (RegisterFault.badGeometry offset width) = _ ↔ _
    simp [refused, eq_comm]

/-- A field as a lens: what is read is what was last put there, as far as it fits, and the bits
outside the field stay as they are. An insertion is a deposit of what fits. -/
structure IsLens (f : BitField) : Prop where
  extract_deposit : ∀ word value : Word,
    (f.extract (f.deposit word value)).toNat = value.toNat % 2 ^ f.width
  deposit_extract : ∀ word : Word, f.deposit word (f.extract word) = word
  deposit_deposit : ∀ word value later : Word,
    f.deposit (f.deposit word value) later = f.deposit word later
  outside : ∀ (word value : Word) (i : Nat), ¬(f.offset ≤ i ∧ i < f.offset + f.width) →
    (f.deposit word value).getLsbD i = word.getLsbD i
  insert_ok : ∀ word value next : Word,
    f.insert word value = .ok next ↔ value.toNat < 2 ^ f.width ∧ next = f.deposit word value
  insert_error : ∀ (word value : Word) (fault : RegisterFault),
    f.insert word value = .error fault ↔
      2 ^ f.width ≤ value.toNat ∧ fault = .fieldOverflow value f.width

theorem isLens (f : BitField) : f.IsLens where
  extract_deposit word value := by rw [BitField.extract_deposit, toNat_and_mask]
  deposit_extract := f.deposit_extract
  deposit_deposit := f.deposit_deposit
  outside word value i spared := by rw [getLsbD_deposit, if_neg spared]
  insert_ok _ _ _ := insert_eq_ok_iff
  insert_error _ _ _ := insert_eq_error_iff

/-- Fields that take no notice of each other. -/
structure Independent (f g : BitField) : Prop where
  deposit_comm : ∀ word value other : Word,
    g.deposit (f.deposit word value) other = f.deposit (g.deposit word other) value
  extract_deposit : ∀ word value : Word, g.extract (f.deposit word value) = g.extract word
  extract_deposit_symm : ∀ word value : Word, f.extract (g.deposit word value) = f.extract word

theorem Disjoint.independent {f g : BitField} (h : f.Disjoint g) : f.Independent g where
  deposit_comm := BitField.deposit_comm h
  extract_deposit := extract_deposit_of_disjoint h
  extract_deposit_symm := extract_deposit_of_disjoint h.symm

end BitField

/-- Bounds make a field exactly when they lie inside a word, and a declared field is refused exactly
when its bounds make none. Every field is a lens, and disjoint fields are independent. Bits are read
at any bounds, as a field reads them where there is one; they are inserted only through a field, and
bad bounds are reported before the value is looked at. -/
theorem fields_are_lenses :
    (∀ (offset width : Word) (f : BitField), BitField.ofBounds? offset width = .ok f ↔
      f.offset = offset.toNat ∧ f.width = width.toNat) ∧
    (∀ offset width : Word, (∃ f, BitField.ofBounds? offset width = .ok f) ↔
      1 ≤ width.toNat ∧ offset.toNat + width.toNat ≤ 32) ∧
    (∀ (offset width : Word) (fault : RegisterFault),
      BitField.ofBounds? offset width = .error fault ↔
        ¬(1 ≤ width.toNat ∧ offset.toNat + width.toNat ≤ 32) ∧
          fault = .badGeometry offset width) ∧
    (∀ f : BitField,
      BitField.ofBounds? (BitVec.ofNat 32 f.offset) (BitVec.ofNat 32 f.width) = .ok f) ∧
    (∀ (offset width : Word) (f : BitField), BitField.declare offset width = .ok f ↔
      BitField.ofBounds? offset width = .ok f) ∧
    (∀ offset width : Word, BitField.declare offset width = .error .outsideWord ↔
      ∃ fault, BitField.ofBounds? offset width = .error fault) ∧
    (∀ f : BitField, f.IsLens) ∧
    (∀ f g : BitField, f.Disjoint g → f.Independent g) ∧
    (∀ word offset width : Word, (extractBits word offset width).toNat =
      word.toNat / 2 ^ offset.toNat % 2 ^ width.toNat) ∧
    (∀ (offset width : Word) (f : BitField), BitField.ofBounds? offset width = .ok f →
      ∀ word : Word, extractBits word offset width = f.extract word ∧
        ∀ value : Word, insertBits word offset width value = f.insert word value) ∧
    (∀ word offset width value o w : Word,
      insertBits word offset width value = .error (.badGeometry o w) ↔
        ¬(1 ≤ width.toNat ∧ offset.toNat + width.toNat ≤ 32) ∧ o = offset ∧ w = width) := by
  refine ⟨fun _ _ _ => BitField.ofBounds?_eq_ok_iff, fun _ _ => BitField.exists_ofBounds?_iff,
    fun _ _ _ => BitField.ofBounds?_eq_error_iff, BitField.ofBounds?_bounds,
    fun _ _ _ => BitField.declare_eq_ok_iff, fun _ _ => BitField.declare_eq_error_iff,
    BitField.isLens, fun _ _ disjoint => disjoint.independent, toNat_extractBits, ?_,
    fun _ _ _ _ _ _ => BitField.insertBits_eq_badGeometry_iff⟩
  intro offset width f bounds word
  exact ⟨BitField.extractBits_of_ofBounds? bounds word,
    BitField.insertBits_of_ofBounds? bounds word⟩

end GraphicsBlock

import GraphicsBlock.Proofs.LineWords
import GraphicsBlock.Text.Numeral

namespace GraphicsBlock.Text

def Spells (r : Radix) (s : List Char) (n : Nat) : Prop :=
  ∃ zeros, lower (s.filter (· != '_')) = List.replicate zeros '0' ++ Nat.toDigits r.base n

inductive Denotes : List Char → Nat → Prop
  | decimal {s n} : Spells .decimal s n → Denotes s n
  | hexadecimal {mark s n} : mark = 'x' ∨ mark = 'X' → Spells .hexadecimal s n →
      Denotes ('0' :: mark :: s) n

theorem Radix.one_lt_base (r : Radix) : 1 < r.base := by
  cases r <;> decide

theorem Radix.base_pos (r : Radix) : 0 < r.base := Nat.zero_lt_of_lt r.one_lt_base

theorem digitValue?_digitChar (r : Radix) {d : Nat} (h : d < r.base) :
    digitValue? r (Nat.digitChar d) = some d := by
  have decimal : ∀ d < 10, digitValue? .decimal (Nat.digitChar d) = some d := by decide
  have hexadecimal : ∀ d < 16, digitValue? .hexadecimal (Nat.digitChar d) = some d := by decide
  cases r with
  | decimal => exact decimal d h
  | hexadecimal => exact hexadecimal d h

theorem toLower_of_not_upper {c : Char} (h : ¬(65 ≤ c.toNat ∧ c.toNat < 91)) : c.toLower = c := by
  unfold Char.toLower
  rw [dif_neg]
  rintro ⟨low, high⟩
  exact h ⟨UInt32.le_iff_toNat_le.1 low, Nat.lt_succ_of_le (UInt32.le_iff_toNat_le.1 high)⟩

theorem digitValue?_toLower (r : Radix) (c : Char) :
    digitValue? r c.toLower = digitValue? r c := by
  have capitals : ∀ n < 91, 65 ≤ n →
      digitValue? r (Char.ofNat n).toLower = digitValue? r (Char.ofNat n) := by
    cases r <;> decide
  by_cases upper : 65 ≤ c.toNat ∧ c.toNat < 91
  · have same := capitals c.toNat upper.2 upper.1
    rwa [Char.ofNat_toNat] at same
  · rw [toLower_of_not_upper upper]

theorem mem_toDigits {b n : Nat} (hb : 1 < b) {c : Char} (mem : c ∈ Nat.toDigits b n) :
    ∃ d < b, c = Nat.digitChar d := by
  induction n using Nat.base_induction b hb with
  | single d digit =>
    rw [Nat.toDigits_of_lt_base digit, List.mem_singleton] at mem
    exact ⟨d, digit, mem⟩
  | digit m d digit pos ih =>
    rw [← Nat.toDigits_append_toDigits hb pos digit, Nat.toDigits_of_lt_base digit,
      List.mem_append, List.mem_singleton] at mem
    exact mem.elim ih fun last => ⟨d, digit, last⟩

theorem spells_toDigits (r : Radix) (n : Nat) : Spells r (Nat.toDigits r.base n) n := by
  have digits : ∀ d < 16, Nat.digitChar d ≠ '_' ∧ (Nat.digitChar d).toLower = Nat.digitChar d := by
    decide
  have plain : ∀ c ∈ Nat.toDigits r.base n, c ≠ '_' ∧ c.toLower = c := by
    intro c mem
    obtain ⟨d, digit, rfl⟩ := mem_toDigits r.one_lt_base mem
    exact digits d (Nat.lt_of_lt_of_le digit (by cases r <;> decide))
  refine ⟨0, ?_⟩
  rw [List.filter_eq_self.2 fun c mem => bne_iff_ne.2 (plain c mem).1]
  exact (List.map_congr_left fun c mem => (plain c mem).2).trans (List.map_id' _)

theorem readDigits_append (r : Radix) (value : Nat) (s t : List Char) :
    readDigits r value (s ++ t) = (readDigits r value s).bind (readDigits r · t) := by
  induction s generalizing value with
  | nil => rfl
  | cons c s ih =>
    rw [List.cons_append, readDigits, readDigits]
    cases digitValue? r c with
    | none => rfl
    | some d =>
      simp only
      split
      · exact ih _
      · rfl

theorem readDigits_lower (r : Radix) (value : Nat) (s : List Char) :
    readDigits r value (lower s) = readDigits r value s := by
  induction s generalizing value with
  | nil => rfl
  | cons c s ih =>
    rw [lower, List.map_cons, readDigits, readDigits, digitValue?_toLower]
    cases digitValue? r c with
    | none => rfl
    | some d =>
      simp only
      split
      · exact ih _
      · rfl

theorem readDigits_zeros (r : Radix) (zeros : Nat) (s : List Char) :
    readDigits r 0 (List.replicate zeros '0' ++ s) = readDigits r 0 s := by
  induction zeros with
  | zero => rfl
  | succ zeros ih =>
    have zero : digitValue? r '0' = some 0 :=
      digitValue?_digitChar r (d := 0) (by cases r <;> decide)
    rw [List.replicate_succ, List.cons_append, readDigits, zero]
    simpa using ih

theorem readDigits_digitChar (r : Radix) {value d : Nat} (digit : d < r.base)
    (fits : value * r.base + d < 0x100000000) :
    readDigits r value [Nat.digitChar d] = .ok (value * r.base + d) := by
  rw [readDigits, digitValue?_digitChar r digit]
  exact if_pos fits

theorem readDigits_toDigits (r : Radix) {n : Nat} (fits : n < 0x100000000) :
    readDigits r 0 (Nat.toDigits r.base n) = .ok n := by
  induction n using Nat.base_induction r.base r.one_lt_base with
  | single d digit =>
    rw [Nat.toDigits_of_lt_base digit, readDigits_digitChar r digit (by omega), Nat.zero_mul,
      Nat.zero_add]
  | digit m d digit pos ih =>
    have smaller : m ≤ r.base * m := Nat.le_mul_of_pos_left m r.base_pos
    rw [← Nat.toDigits_append_toDigits r.one_lt_base pos digit, Nat.toDigits_of_lt_base digit,
      readDigits_append, ih (by omega)]
    rw [Nat.mul_comm r.base m] at fits ⊢
    exact readDigits_digitChar r digit fits

theorem readDigits_of_spells {r : Radix} {s : List Char} {n : Nat} (h : Spells r s n)
    (fits : n < 0x100000000) : readDigits r 0 (s.filter (· != '_')) = .ok n := by
  obtain ⟨zeros, spelling⟩ := h
  rw [← readDigits_lower, spelling, readDigits_zeros, readDigits_toDigits r fits]

theorem digits_of_readDigits {r : Radix} {value n : Nat} {s : List Char}
    (h : readDigits r value s = .ok n) : ∀ c ∈ s, (digitValue? r c).isSome = true := by
  induction s generalizing value with
  | nil => exact nofun
  | cons c s ih =>
    rw [readDigits] at h
    split at h
    · cases h
    · next d digit =>
      simp only at h
      split at h
      · exact List.forall_mem_cons.2 ⟨by rw [digit]; rfl, ih h⟩
      · cases h

theorem dropSign_eq_self {s : List Char} (absent : '+' ∉ s) : dropSign s = s := by
  unfold dropSign
  split
  · exact absurd List.mem_cons_self absent
  · rfl

theorem splitRadix_eq_decimal {s : List Char} (small : 'x' ∉ s) (capital : 'X' ∉ s) :
    splitRadix s = (.decimal, s) := by
  unfold splitRadix
  split
  · simp at small
  · simp at capital
  · rfl

theorem readUnsigned_of_spells {r : Radix} {s : List Char} {n : Nat} (h : Spells r s n)
    (fits : n < 0x100000000) : readUnsigned r (s.filter (· != '_')) = .ok n := by
  have read := readDigits_of_spells h fits
  have unsigned : '+' ∉ s.filter (· != '_') := by
    intro mem
    have digit := digits_of_readDigits read _ mem
    cases r <;> exact absurd digit (by decide)
  have ne_nil : s.filter (· != '_') ≠ [] := by
    intro empty
    obtain ⟨zeros, spelling⟩ := h
    rw [empty] at spelling
    exact Nat.toDigits_ne_nil (List.append_eq_nil_iff.1 spelling.symm).2
  rw [readUnsigned, if_neg ne_nil, dropSign_eq_self unsigned, read]

theorem Spells.notMem {r : Radix} {s : List Char} {n : Nat} (h : Spells r s n) (fits : n < 0x100000000)
    {c : Char} (visible : c ≠ '_') (other : digitValue? r c = none) : c ∉ s := by
  intro mem
  have digit := digits_of_readDigits (readDigits_of_spells h fits) c
    (List.mem_filter.2 ⟨mem, bne_iff_ne.2 visible⟩)
  rw [other] at digit
  cases digit

theorem readNumeral_of_denotes {s : List Char} {n : Nat} (h : Denotes s n) (fits : n < 0x100000000) :
    readNumeral s = .ok (BitVec.ofNat 32 n) := by
  cases h with
  | decimal spells =>
    have split := splitRadix_eq_decimal (spells.notMem (c := 'x') fits (by decide) (by decide))
      (spells.notMem (c := 'X') fits (by decide) (by decide))
    rw [readNumeral, split]
    simp only [readUnsigned_of_spells spells fits]
    rfl
  | hexadecimal mark spells =>
    rcases mark with rfl | rfl <;>
    · rw [readNumeral]
      simp only [splitRadix, readUnsigned_of_spells spells fits]
      rfl

open Script (IsPlain IsWord)

theorem isPlain_of_digit {r : Radix} {c : Char} (digit : (digitValue? r c).isSome = true) :
    IsPlain c := by
  unfold digitValue? at digit
  split at digit
  · next h => exact ⟨Char.le_trans (by decide) h.1, Char.le_trans h.2 (by decide)⟩
  · cases r with
    | decimal => cases digit
    | hexadecimal =>
      simp only at digit
      split at digit
      · next h => exact ⟨Char.le_trans (by decide) h.1, Char.le_trans h.2 (by decide)⟩
      · split at digit
        · next h => exact ⟨Char.le_trans (by decide) h.1, Char.le_trans h.2 (by decide)⟩
        · cases digit

theorem isPlain_of_readUnsigned {r : Radix} {s : List Char} {n : Nat}
    (h : readUnsigned r s = .ok n) : ∀ c ∈ s, IsPlain c := by
  unfold readUnsigned at h
  split at h
  · cases h
  · have digits := fun c mem => isPlain_of_digit (digits_of_readDigits h c mem)
    unfold dropSign at digits
    split at digits
    · exact List.forall_mem_cons.2 ⟨⟨by decide, by decide⟩, digits⟩
    · exact digits

theorem forall_mem_of_splitRadix {P : Char → Prop} (zero : P '0') (small : P 'x') (capital : P 'X')
    {s : List Char} (h : ∀ c ∈ (splitRadix s).2, P c) : ∀ c ∈ s, P c := by
  unfold splitRadix at h
  split at h
  · exact List.forall_mem_cons.2 ⟨zero, List.forall_mem_cons.2 ⟨small, h⟩⟩
  · exact List.forall_mem_cons.2 ⟨zero, List.forall_mem_cons.2 ⟨capital, h⟩⟩
  · exact h

theorem isPlain_of_readNumeral {s : List Char} {n : Word} (h : readNumeral s = .ok n) :
    ∀ c ∈ s, IsPlain c := by
  change (readUnsigned (splitRadix s).1 ((splitRadix s).2.filter (· != '_'))).map _ = _ at h
  cases read : readUnsigned (splitRadix s).1 ((splitRadix s).2.filter (· != '_')) with
  | error =>
    rw [read] at h
    cases h
  | ok value =>
    apply forall_mem_of_splitRadix (P := IsPlain) ⟨by decide, by decide⟩ ⟨by decide, by decide⟩
      ⟨by decide, by decide⟩
    intro c mem
    by_cases underscore : c = '_'
    · exact underscore ▸ ⟨by decide, by decide⟩
    · exact isPlain_of_readUnsigned read c (List.mem_filter.2 ⟨mem, bne_iff_ne.2 underscore⟩)

theorem isWord_of_readNumeral {s : List Char} {n : Word} (h : readNumeral s = .ok n) :
    IsWord s := by
  apply Script.isWord_of_plain _ (isPlain_of_readNumeral h)
  rintro rfl
  cases h

end GraphicsBlock.Text

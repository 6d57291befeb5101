import GraphicsBlock.Proofs.Numeral
import GraphicsBlock.Script.Parser
import Mathlib.Data.List.Forall2
import Mathlib.Data.Nat.Digits.Defs

namespace GraphicsBlock

namespace Text

def IsDigit (r : Radix) (c : Char) (d : Nat) : Prop := d < r.base ∧ c.toLower = Nat.digitChar d

/-- Digits, the highest first, and the number that they stand for. -/
def Worth (r : Radix) (s : List Char) (n : Nat) : Prop :=
  ∃ ds, List.Forall₂ (IsDigit r) s ds ∧ n = Nat.ofDigits r.base ds.reverse

inductive Judged (r : Radix) (s : List Char) : Except NumeralFault Nat → Prop
  | number {n} : Worth r s n → n < 0x100000000 → Judged r s (.ok n)
  | badDigit {before c rest n} : s = before ++ c :: rest → (∀ d, ¬IsDigit r c d) →
      Worth r before n → n < 0x100000000 → Judged r s (.error .badDigit)
  | tooLarge {before rest n} : s = before ++ rest → Worth r before n → 0x100000000 ≤ n →
      Judged r s (.error .tooLarge)

theorem digitValue?_eq_some_iff {r : Radix} {c : Char} {d : Nat} :
    digitValue? r c = some d ↔ IsDigit r c d := by
  have table : ∀ n < 127, (digitValue? r (Char.ofNat n)).all (fun d =>
      d < r.base && (Char.ofNat n).toLower == Nat.digitChar d) = true := by
    cases r <;> decide
  constructor
  · intro h
    have digit : (digitValue? r c).isSome = true := h ▸ rfl
    have plain := Script.isPlain_iff.1 (isPlain_of_digit digit)
    have entry := table c.toNat (Nat.lt_succ_of_le plain.2)
    rw [Char.ofNat_toNat, h, Option.all_some, Bool.and_eq_true, decide_eq_true_iff,
      beq_iff_eq] at entry
    exact entry
  · rintro ⟨digit, lower⟩
    rw [← digitValue?_toLower, lower, digitValue?_digitChar r digit]

theorem IsDigit.unique {r : Radix} {c : Char} {d e : Nat} (h : IsDigit r c d) (h' : IsDigit r c e) :
    d = e :=
  Option.some.inj ((digitValue?_eq_some_iff.2 h).symm.trans (digitValue?_eq_some_iff.2 h'))

section

variable {r : Radix} {s t : List Char} {m n : Nat}

@[simp] theorem worth_nil : Worth r [] n ↔ n = 0 := by
  simp [Worth]

theorem Worth.concat (h : Worth r s n) {c : Char} {d : Nat} (digit : IsDigit r c d) :
    Worth r (s ++ [c]) (n * r.base + d) := by
  obtain ⟨ds, digits, rfl⟩ := h
  refine ⟨ds ++ [d], List.rel_append digits (.cons digit .nil), ?_⟩
  rw [List.reverse_append, List.reverse_singleton, List.singleton_append, Nat.ofDigits_cons,
    Nat.add_comm, Nat.mul_comm]

theorem Worth.unique (h : Worth r s m) (h' : Worth r s n) : m = n := by
  obtain ⟨ds, digits, rfl⟩ := h
  obtain ⟨es, digits', rfl⟩ := h'
  have alone : Relator.RightUnique (IsDigit r) := fun _ _ _ => IsDigit.unique
  rw [alone.forall₂ digits digits']

theorem Worth.exists_digit {c : Char} (h : Worth r (c :: s) n) : ∃ d, IsDigit r c d := by
  obtain ⟨_, digits, _⟩ := h
  cases digits with
  | cons digit _ => exact ⟨_, digit⟩

theorem Worth.exists_of_append (h : Worth r (s ++ t) n) :
    ∃ m, Worth r s m ∧ m ≤ n ∧ ∃ k, Worth r t k := by
  obtain ⟨ds, digits, rfl⟩ := h
  have first := (List.forall₂_take_append ds s t digits.flip).flip
  have rest := (List.forall₂_drop_append ds s t digits.flip).flip
  refine ⟨_, ⟨_, first, rfl⟩, ?_, _, _, rest, rfl⟩
  conv_rhs => rw [← List.take_append_drop s.length ds, List.reverse_append, Nat.ofDigits_append]
  exact Nat.le_add_left_of_le (Nat.le_mul_of_pos_left _ (Nat.pow_pos r.base_pos))

theorem Worth.le_of_append (h : Worth r s m) (h' : Worth r (s ++ t) n) : m ≤ n := by
  obtain ⟨k, first, le, _⟩ := h'.exists_of_append
  exact h.unique first ▸ le

end

section

variable {r : Radix} {s : List Char}

theorem judged_readDigits {seen : List Char} {value : Nat} (worth : Worth r seen value)
    (fits : value < 0x100000000) : Judged r (seen ++ s) (readDigits r value s) := by
  induction s generalizing seen value with
  | nil =>
    rw [List.append_nil]
    exact .number worth fits
  | cons c s ih =>
    rw [readDigits]
    split
    · next none =>
      refine .badDigit rfl (fun d digit => ?_) worth fits
      cases none.symm.trans (digitValue?_eq_some_iff.2 digit)
    · next d digit =>
      have more := worth.concat (digitValue?_eq_some_iff.1 digit)
      have split : seen ++ c :: s = (seen ++ [c]) ++ s := by simp
      dsimp only
      split
      · next room =>
        rw [split]
        exact ih more room
      · next full => exact .tooLarge split more (Nat.le_of_not_lt full)

theorem Worth.exists_digit_of_append {before rest : List Char} {c : Char} {n : Nat}
    (h : Worth r (before ++ c :: rest) n) : ∃ d, IsDigit r c d := by
  obtain ⟨_, _, _, _, digits⟩ := h.exists_of_append
  exact digits.exists_digit

theorem lt_of_badDigit {before rest before' rest' : List Char} {c : Char} {m n : Nat}
    (same : before ++ c :: rest = before' ++ rest') (bad : ∀ d, ¬IsDigit r c d)
    (worth : Worth r before m) (fits : m < 0x100000000) (worth' : Worth r before' n) :
    n < 0x100000000 := by
  rcases List.append_eq_append_iff.1 same with ⟨more, rfl, tail⟩ | ⟨more, rfl, tail⟩
  · cases more with
    | nil =>
      rw [List.append_nil] at worth'
      exact worth.unique worth' ▸ fits
    | cons =>
      cases tail
      obtain ⟨d, digit⟩ := worth'.exists_digit_of_append
      exact absurd digit (bad d)
  · exact Nat.lt_of_le_of_lt (worth'.le_of_append worth) fits

theorem Judged.eq_of_number {n : Nat} {verdict : Except NumeralFault Nat} (worth : Worth r s n)
    (fits : n < 0x100000000) (h : Judged r s verdict) : verdict = .ok n := by
  cases h with
  | number worth' => rw [worth.unique worth']
  | badDigit split bad =>
    obtain ⟨d, digit⟩ := (split ▸ worth).exists_digit_of_append
    exact absurd digit (bad d)
  | tooLarge split worth' exceeds =>
    have le := worth'.le_of_append (split ▸ worth)
    omega

theorem Judged.unique {a b : Except NumeralFault Nat} (h : Judged r s a) (h' : Judged r s b) :
    a = b := by
  cases h with
  | number worth fits => exact (h'.eq_of_number worth fits).symm
  | badDigit split bad worth fits =>
    cases h' with
    | number worth' fits' => exact Judged.eq_of_number worth' fits' (.badDigit split bad worth fits)
    | badDigit => rfl
    | tooLarge split' worth' exceeds =>
      exact absurd (lt_of_badDigit (split.symm.trans split') bad worth fits worth')
        (Nat.not_lt_of_le exceeds)
  | tooLarge split worth exceeds =>
    cases h' with
    | number worth' fits' => exact Judged.eq_of_number worth' fits' (.tooLarge split worth exceeds)
    | badDigit split' bad worth' fits' =>
      exact absurd (lt_of_badDigit (split'.symm.trans split) bad worth' fits' worth)
        (Nat.not_lt_of_le exceeds)
    | tooLarge => rfl

theorem readDigits_eq_iff {verdict : Except NumeralFault Nat} :
    readDigits r 0 s = verdict ↔ Judged r s verdict := by
  have judged : Judged r s (readDigits r 0 s) := judged_readDigits (worth_nil.2 rfl) (by decide)
  exact ⟨fun h => h ▸ judged, judged.unique⟩

end

inductive Marked : List Char → Radix → List Char → Prop
  | hexadecimal {mark s} : mark = 'x' ∨ mark = 'X' → Marked ('0' :: mark :: s) .hexadecimal s
  | decimal {s} : (∀ mark rest, s = '0' :: mark :: rest → mark ≠ 'x' ∧ mark ≠ 'X') →
      Marked s .decimal s

inductive Unsigned : List Char → List Char → Prop
  | plus {s} : s ≠ [] → Unsigned ('+' :: s) s
  | bare {s} : (∀ rest, s = '+' :: rest → rest = []) → Unsigned s s

theorem marked_splitRadix (s : List Char) : Marked s (splitRadix s).1 (splitRadix s).2 := by
  unfold splitRadix
  split
  · exact .hexadecimal (.inl rfl)
  · exact .hexadecimal (.inr rfl)
  · next small capital =>
    refine .decimal fun mark rest same => ⟨?_, ?_⟩
    · rintro rfl
      exact small rest same
    · rintro rfl
      exact capital rest same

theorem unsigned_dropSign (s : List Char) : Unsigned s (dropSign s) := by
  unfold dropSign
  split
  · exact .plus (List.cons_ne_nil _ _)
  · next lone =>
    refine .bare fun rest same => ?_
    cases rest with
    | nil => rfl
    | cons c rest => exact absurd same (lone c rest)

theorem Unsigned.eq_nil_iff {s digits : List Char} (h : Unsigned s digits) :
    digits = [] ↔ s = [] := by
  cases h with
  | plus ne_nil => simp [ne_nil]
  | bare => rfl

variable {r : Radix} {s : List Char}

theorem readUnsigned_eq_iff (ne_nil : s ≠ []) {verdict : Except NumeralFault Nat} :
    readUnsigned r s = verdict ↔ Judged r (dropSign s) verdict := by
  rw [readUnsigned, if_neg ne_nil, readDigits_eq_iff]

theorem readUnsigned_eq_empty_iff : readUnsigned r s = .error .empty ↔ s = [] := by
  by_cases empty : s = []
  · simp [readUnsigned, empty]
  · rw [readUnsigned_eq_iff empty]
    constructor
    · intro judged
      cases judged
    · exact fun h => absurd h empty

theorem readUnsigned_eq_ok_iff {n : Nat} :
    readUnsigned r s = .ok n ↔ dropSign s ≠ [] ∧ Worth r (dropSign s) n ∧ n < 0x100000000 := by
  rw [ne_eq, (unsigned_dropSign s).eq_nil_iff]
  by_cases empty : s = []
  · simp [readUnsigned, empty]
  · rw [readUnsigned_eq_iff empty]
    constructor
    · rintro ⟨worth, fits⟩
      exact ⟨empty, worth, fits⟩
    · rintro ⟨_, worth, fits⟩
      exact .number worth fits

def Breaks (r : Radix) (s : List Char) : Prop :=
  ∃ before c rest n, s = before ++ c :: rest ∧ (∀ d, ¬IsDigit r c d) ∧ Worth r before n ∧
    n ≤ 0xFFFFFFFF

def Overflows (r : Radix) (s : List Char) : Prop :=
  ∃ before rest n, s = before ++ rest ∧ Worth r before n ∧ 0xFFFFFFFF < n

theorem readUnsigned_eq_badDigit_iff :
    readUnsigned r s = .error .badDigit ↔ Breaks r (dropSign s) := by
  by_cases empty : s = []
  · subst empty
    simp [readUnsigned, dropSign, Breaks]
  · rw [readUnsigned_eq_iff empty]
    constructor
    · intro judged
      cases judged with
      | badDigit split bad worth fits =>
        exact ⟨_, _, _, _, split, bad, worth, Nat.le_of_lt_succ fits⟩
    · rintro ⟨_, _, _, _, split, bad, worth, fits⟩
      exact .badDigit split bad worth (Nat.lt_succ_of_le fits)

theorem readUnsigned_eq_tooLarge_iff :
    readUnsigned r s = .error .tooLarge ↔ Overflows r (dropSign s) := by
  by_cases empty : s = []
  · subst empty
    simp [readUnsigned, dropSign, Overflows]
  · rw [readUnsigned_eq_iff empty]
    constructor
    · intro judged
      cases judged with
      | tooLarge split worth exceeds => exact ⟨_, _, _, split, worth, exceeds⟩
    · rintro ⟨_, _, _, split, worth, exceeds⟩
      exact .tooLarge split worth exceeds

theorem readUnsigned_eq_tooLarge_iff_not :
    readUnsigned r s = .error .tooLarge ↔ dropSign s ≠ [] ∧ ¬Breaks r (dropSign s) ∧
      ∀ n ≤ 0xFFFFFFFF, ¬Worth r (dropSign s) n := by
  have nothing : dropSign s = [] ↔ readUnsigned r s = .error .empty :=
    (unsigned_dropSign s).eq_nil_iff.trans readUnsigned_eq_empty_iff.symm
  rw [← readUnsigned_eq_badDigit_iff, ne_eq, nothing]
  constructor
  · intro tooLarge
    rw [tooLarge]
    refine ⟨nofun, nofun, fun n fits worth => ?_⟩
    have some : dropSign s ≠ [] := fun empty => nomatch tooLarge.symm.trans (nothing.1 empty)
    have read := readUnsigned_eq_ok_iff.2 ⟨some, worth, Nat.lt_succ_of_le fits⟩
    cases tooLarge.symm.trans read
  · rintro ⟨some, legible, exceeds⟩
    cases read : readUnsigned r s with
    | ok n =>
      obtain ⟨_, worth, fits⟩ := readUnsigned_eq_ok_iff.1 read
      exact absurd worth (exceeds n (Nat.le_of_lt_succ fits))
    | error fault =>
      cases fault with
      | empty => exact absurd read some
      | badDigit => exact absurd read legible
      | tooLarge => rfl

end Text

namespace Script

def plainDigits (token : List Char) : List Char := (Text.splitRadix token).2.filter (· != '_')

variable {token : List Char}

theorem readNumeral_eq (token : List Char) :
    Text.readNumeral token =
      (Text.readUnsigned (Text.splitRadix token).1 (plainDigits token)).map (BitVec.ofNat 32) :=
  rfl

theorem readNumber_eq_ok_iff {n : Nat} :
    (∃ word, readNumber token = .ok word ∧ word.toNat = n) ↔
      Text.readUnsigned (Text.splitRadix token).1 (plainDigits token) = .ok n := by
  rw [readNumber, readNumeral_eq]
  cases read : Text.readUnsigned (Text.splitRadix token).1 (plainDigits token) with
  | error fault => simp [Except.map]
  | ok value =>
    obtain ⟨_, _, fits⟩ := Text.readUnsigned_eq_ok_iff.1 read
    simp [Except.map, Nat.mod_eq_of_lt fits]

theorem readNumber_eq_error_iff {fault : Fault} :
    readNumber token = .error fault ↔ ∃ cause, fault = .badNumeral (String.ofList token) cause ∧
      Text.readUnsigned (Text.splitRadix token).1 (plainDigits token) = .error cause := by
  rw [readNumber, readNumeral_eq]
  cases Text.readUnsigned (Text.splitRadix token).1 (plainDigits token) with
  | error cause => simp [Except.map, eq_comm]
  | ok value => simp [Except.map]

/-- The token is refused, and the innermost fault is the cause. -/
def FailsBy (token : List Char) (cause : Text.NumeralFault) : Prop :=
  readNumber token = .error (.badNumeral (String.ofList token) cause)

theorem failsBy_iff {cause : Text.NumeralFault} :
    FailsBy token cause ↔
      Text.readUnsigned (Text.splitRadix token).1 (plainDigits token) = .error cause := by
  rw [FailsBy, readNumber_eq_error_iff]
  simp

/-- What a token comes to. After the mark underscores and one plus sign do not count. A number is
read if digits remain and are worth a word, however many zeros stand in front; if not, the innermost
fault says whether nothing is left, a character that is no digit comes first, or the digits are
worth too much. -/
theorem number_classified (token : List Char) :
    ∃ r s digits, Text.Marked token r s ∧ Text.Unsigned (s.filter (· != '_')) digits ∧
      (∀ n, (∃ word, readNumber token = .ok word ∧ word.toNat = n) ↔
        digits ≠ [] ∧ Text.Worth r digits n ∧ n ≤ 0xFFFFFFFF) ∧
      (∀ fault, readNumber token = .error fault → ∃ cause, FailsBy token cause ∧
        fault.chain.getLast? = some cause.message) ∧
      (FailsBy token .empty ↔ s.filter (· != '_') = []) ∧
      (FailsBy token .badDigit ↔ Text.Breaks r digits) ∧
      (FailsBy token .tooLarge ↔ Text.Overflows r digits) ∧
      (FailsBy token .tooLarge ↔ digits ≠ [] ∧ ¬Text.Breaks r digits ∧
        ∀ n ≤ 0xFFFFFFFF, ¬Text.Worth r digits n) := by
  refine ⟨_, _, _, Text.marked_splitRadix token, Text.unsigned_dropSign _, fun n => ?_, ?_,
    failsBy_iff.trans Text.readUnsigned_eq_empty_iff,
    failsBy_iff.trans Text.readUnsigned_eq_badDigit_iff,
    failsBy_iff.trans Text.readUnsigned_eq_tooLarge_iff,
    failsBy_iff.trans Text.readUnsigned_eq_tooLarge_iff_not⟩
  · rw [readNumber_eq_ok_iff, Text.readUnsigned_eq_ok_iff, Nat.lt_succ_iff]
    rfl
  · intro fault refused
    obtain ⟨cause, rfl, _⟩ := readNumber_eq_error_iff.1 refused
    exact ⟨cause, refused, rfl⟩

end Script

end GraphicsBlock

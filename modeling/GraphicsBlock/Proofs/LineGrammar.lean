import GraphicsBlock.Proofs.NumeralValue
import GraphicsBlock.Proofs.Rendering

namespace GraphicsBlock.Script

/-- Words stand apart by blanks, and a comment ends them. -/
inductive Holds : List Char → List (List Char) → Prop
  | blank {gap} : Text.AllBlank gap → Holds gap []
  | comment {gap text} : Text.AllBlank gap → Holds (gap ++ '#' :: text) []
  | word {gap word rest words} : Text.AllBlank gap → IsWord word → Closes rest → Holds rest words →
      Holds (gap ++ (word ++ rest)) (word :: words)

def placeOf (n : Word) : Address :=
  if 0x1EF00000 ≤ n.toNat ∧ n.toNat < 0x1EF04000 then n - 0x1EF00000#32 else n

inductive Means : List (List Char) → Option Instruction → Prop
  | nothing : Means [] none
  | complete {c} : Names c .complete → Means [c] (some .complete)
  | read {c a w n} : Names c (.read w) → Text.readNumeral a = .ok n →
      Means [c, a] (some (.read w (placeOf n)))
  | write {c a v w n m} : Names c (.write w) → Text.readNumeral a = .ok n →
      Text.readNumeral v = .ok m → m.toNat < 2 ^ w.bits →
      Means [c, a, v] (some (.write w (placeOf n) (m.setWidth w.bits)))

theorem Holds.linePieces_eq {line : List Char} {words : List (List Char)} (h : Holds line words) :
    linePieces line = words := by
  induction h with
  | @blank gap blank =>
    have pieces := linePieces_blank_append blank []
    rwa [List.append_nil] at pieces
  | comment blank => rw [linePieces_blank_append blank, linePieces_comment]
  | word blank word closes _ ih =>
    rw [linePieces_blank_append blank, linePieces_word_append word closes, ih]

theorem holds_nil_of_linePieces {line : List Char} (h : linePieces line = []) : Holds line [] := by
  induction line with
  | nil => exact .blank nofun
  | cons c line ih =>
    by_cases blank : Text.isBlank c = true
    · have single : Text.AllBlank [c] := List.forall_mem_singleton.2 blank
      have later := ih ((linePieces_blank_append single line).symm.trans h)
      cases later with
      | blank gap => exact .blank (List.forall_mem_cons.2 ⟨blank, gap⟩)
      | @comment gap _ gap' =>
        exact @Holds.comment (c :: gap) _ (List.forall_mem_cons.2 ⟨blank, gap'⟩)
    · by_cases mark : c = '#'
      · subst mark
        exact @Holds.comment [] _ nofun
      · obtain ⟨word, rest, split, isWord, closes⟩ :=
          exists_word_of_visible (Bool.eq_false_iff.2 blank) mark line
        rw [split, linePieces_word_append isWord closes] at h
        cases h

theorem holds_linePieces (line : List Char) : Holds line (linePieces line) := by
  generalize found : linePieces line = words
  induction words generalizing line with
  | nil => exact holds_nil_of_linePieces found
  | cons word words ih =>
    obtain ⟨lead, rest, rfl, blank, isWord, closes, more⟩ := exists_of_linePieces_cons found
    exact .word blank isWord closes (ih rest more)

theorem holds_iff {line : List Char} {words : List (List Char)} :
    Holds line words ↔ linePieces line = words :=
  ⟨Holds.linePieces_eq, fun h => h ▸ holds_linePieces line⟩

theorem toOffset_eq (n : Word) : toOffset n = placeOf n := by
  have base : physicalBase.toNat = 0x1EF00000 := rfl
  have size : windowBytes = 0x4000 := rfl
  have inside : (physicalBase.toNat ≤ n.toNat ∧ n.toNat - physicalBase.toNat < windowBytes) ↔
      0x1EF00000 ≤ n.toNat ∧ n.toNat < 0x1EF04000 := by omega
  rw [toOffset, windowOffset?, placeOf, if_congr inside rfl rfl]
  split <;> rfl

theorem isOffset_placeOf (n : Word) : IsOffset (placeOf n) := by
  unfold placeOf IsOffset
  split
  · next inside =>
    have base : (0x1EF00000#32).toNat = 0x1EF00000 := rfl
    have below : 0x1EF00000#32 ≤ n := BitVec.le_def.2 inside.1
    left
    rw [BitVec.toNat_sub_of_le below]
    omega
  · omega

theorem readAddress_eq_ok_iff {token : List Char} {address : Address} :
    readAddress token = .ok address ↔
      ∃ n, Text.readNumeral token = .ok n ∧ address = placeOf n := by
  rw [readAddress, readNumber]
  cases Text.readNumeral token with
  | error => simp [Except.map]
  | ok n => simp [Except.map, toOffset_eq, eq_comm]

theorem readNumber_eq_ok_iff_readNumeral {token : List Char} {n : Word} :
    readNumber token = .ok n ↔ Text.readNumeral token = .ok n := by
  rw [readNumber]
  cases Text.readNumeral token <;> simp

theorem value?_eq_some_iff {w : Width} {m : Word} {value : BitVec w.bits} :
    w.value? m.toNat = some value ↔ m.toNat < 2 ^ w.bits ∧ value = m.setWidth w.bits := by
  have room : m.toNat % 2 ^ w.bits = m.toNat ↔ m.toNat < 2 ^ w.bits :=
    Nat.mod_eq_iff_lt (Nat.two_pow_pos _).ne'
  rw [Width.value?, BitVec.ofNat_toNat, BitVec.toNat_setWidth, ← room]
  split
  · next fits => simp [fits, eq_comm]
  · next wide => simp [wide]

theorem Verb.ofName?_eq_some_iff {command : List Char} {v : Verb} :
    Verb.ofName? (Text.lower command) = some v ↔ Names command v := by
  refine ⟨fun found => ?_, Names.ofName?⟩
  have named := List.find?_some found
  exact (eq_of_beq named).symm

theorem Means.readPieces {words : List (List Char)} {content : Option Instruction}
    (h : Means words content) : readPieces words = .ok content := by
  cases h with
  | nothing => rfl
  | complete verb => rw [readPieces_of_names verb]; rfl
  | read verb address =>
    rw [readPieces_of_names verb, readOperands, readAddress_eq_ok_iff.2 ⟨_, address, rfl⟩]
    rfl
  | @write _ _ _ w n m verb address number fits =>
    have narrow := value?_eq_some_iff.2 ⟨fits, rfl⟩
    rw [readPieces_of_names verb, readOperands, readWrite,
      readNumber_eq_ok_iff_readNumeral.2 number]
    simp only [narrow, readAddress_eq_ok_iff.2 ⟨n, address, rfl⟩]
    rfl

theorem exists_of_map_eq_ok {ε α β : Type} {x : Except ε α} {f : α → β} {b : β}
    (h : x.map f = .ok b) : ∃ a, x = .ok a ∧ f a = b := by
  cases x with
  | error => cases h
  | ok a => exact ⟨a, rfl, Except.ok.inj h⟩

theorem means_of_readWrite {w : Width} {command address value : List Char} {i : Instruction}
    (named : Names command (.write w)) (h : readWrite w address value = .ok i) :
    Means [command, address, value] (some i) := by
  unfold readWrite at h
  split at h
  · cases h
  · next m number =>
    split at h
    · cases h
    · next narrow =>
      obtain ⟨fits, rfl⟩ := value?_eq_some_iff.1 narrow
      obtain ⟨place, read, rfl⟩ := exists_of_map_eq_ok h
      obtain ⟨n, numeral, rfl⟩ := readAddress_eq_ok_iff.1 read
      exact .write named numeral (readNumber_eq_ok_iff_readNumeral.1 number) fits

theorem means_of_readOperands {v : Verb} {command : List Char} {operands : List (List Char)}
    {i : Instruction} (named : Names command v) (h : readOperands v command operands = .ok i) :
    Means (command :: operands) (some i) := by
  unfold readOperands at h
  split at h
  · cases h
    exact .complete named
  · obtain ⟨place, read, rfl⟩ := exists_of_map_eq_ok h
    obtain ⟨n, numeral, rfl⟩ := readAddress_eq_ok_iff.1 read
    exact .read named numeral
  · exact means_of_readWrite named h
  · cases h

theorem means_of_readPieces {words : List (List Char)} {content : Option Instruction}
    (h : Script.readPieces words = .ok content) : Means words content := by
  cases words with
  | nil =>
    cases h
    exact .nothing
  | cons command operands =>
    simp only [Script.readPieces] at h
    split at h
    · cases h
    · next v named =>
      obtain ⟨i, read, rfl⟩ := exists_of_map_eq_ok h
      exact means_of_readOperands (Verb.ofName?_eq_some_iff.1 named) read

theorem readPieces_eq_ok_iff {words : List (List Char)} {content : Option Instruction} :
    Script.readPieces words = .ok content ↔ Means words content :=
  ⟨means_of_readPieces, Means.readPieces⟩

theorem parseLine_eq_ok_iff {line : List Char} {content : Option Instruction} :
    parseLine line = .ok content ↔ ∃ words, Holds line words ∧ Means words content := by
  rw [parseLine, readPieces_eq_ok_iff]
  constructor
  · intro means
    exact ⟨_, holds_linePieces line, means⟩
  · rintro ⟨words, holds, means⟩
    rwa [holds.linePieces_eq]

end GraphicsBlock.Script

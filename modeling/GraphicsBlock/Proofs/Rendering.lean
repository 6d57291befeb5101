import GraphicsBlock.Proofs.Numeral
import Mathlib.Data.List.ReduceOption

namespace GraphicsBlock.Script

def IsGap (s : List Char) : Prop := Text.AllBlank s ∧ '\n' ∉ s

instance (s : List Char) : Decidable (IsGap s) := inferInstanceAs (Decidable (_ ∧ _))

def Names (command : List Char) (v : Verb) : Prop := Text.lower command = v.name.toList

inductive Wording : Instruction → List (List Char) → Prop
  | complete {c} : Names c .complete → Wording .complete [c]
  | read {c a w address} : Names c (.read w) → Text.Denotes a address.toNat →
      Wording (.read w address) [c, a]
  | write {c a v w address value} : Names c (.write w) → Text.Denotes a address.toNat →
      Text.Denotes v value.toNat → Wording (.write w address value) [c, a, v]

/-- More words, each after a gap, and then the end of the line or a comment. -/
inductive Follows : List (List Char) → List Char → Prop
  | gap {s} : IsGap s → Follows [] s
  | comment {s text} : IsGap s → '\n' ∉ text → Follows [] (s ++ '#' :: text)
  | word {gap word words s} : gap ≠ [] → IsGap gap → Follows words s →
      Follows (word :: words) (gap ++ (word ++ s))

inductive Writes : Option Instruction → List Char → Prop
  | nothing {s} : Follows [] s → Writes none s
  | instruction {i word words lead s} : Wording i (word :: words) → IsGap lead → Follows words s →
      Writes (some i) (lead ++ (word ++ s))

structure WrittenLine where
  content : Option Instruction
  text : List Char
  writes : Writes content text

inductive LineEnd
  | newline
  | returnNewline

def LineEnd.chars : LineEnd → List Char
  | .newline => ['\n']
  | .returnNewline => ['\r', '\n']

/-- Ended lines, and perhaps one more without an end. -/
structure Page where
  ended : List (WrittenLine × LineEnd)
  last : Option WrittenLine := none

namespace Page

def contents (page : Page) : List (Option Instruction) :=
  page.ended.map (·.1.content) ++ (page.last.map (·.content)).toList

def chars (page : Page) : List Char :=
  page.ended.flatMap (fun (line, ending) => line.text ++ ending.chars) ++
    (page.last.elim [] (·.text))

def text (page : Page) : String := String.ofList page.chars

end Page

def numbered (number : Nat) (contents : List (Option Instruction)) : List Line :=
  (contents.zipIdx number).filterMap fun (content, n) => content.map (Line.mk n)

theorem numbered_cons (number : Nat) (content : Option Instruction)
    (contents : List (Option Instruction)) :
    numbered number (content :: contents) =
      (content.map (Line.mk number)).toList ++ numbered (number + 1) contents := by
  cases content <;> rfl

theorem instructions_numbered (number : Nat) (contents : List (Option Instruction)) :
    (numbered number contents).map (·.instruction) = contents.reduceOption := by
  induction contents generalizing number with
  | nil => rfl
  | cons content contents ih =>
    rw [numbered_cons, List.map_append, ih]
    cases content <;> rfl

theorem IsPlain.of_toLower {c : Char} (h : IsPlain c.toLower) : IsPlain c := by
  by_cases upper : 65 ≤ c.toNat ∧ c.toNat < 91
  · exact isPlain_iff.2 (by omega)
  · rwa [Text.toLower_of_not_upper upper] at h

theorem Verb.isPlain_of_mem_name (v : Verb) : ∀ c ∈ v.name.toList, IsPlain c := by
  apply forall_isPlain
  rcases v with _ | w | w
  · decide +kernel
  · cases w <;> decide +kernel
  · cases w <;> decide +kernel

theorem Names.isWord {command : List Char} {v : Verb} (h : Names command v) : IsWord command := by
  apply isWord_of_plain
  · rintro rfl
    have named := Verb.ofName?_name v
    rw [← show Text.lower [] = v.name.toList from h] at named
    cases named
  · intro c mem
    apply IsPlain.of_toLower
    apply v.isPlain_of_mem_name
    rw [← show Text.lower command = v.name.toList from h]
    exact List.mem_map_of_mem mem

theorem isWord_of_denotes {s : List Char} {n : Nat} (h : Text.Denotes s n) (fits : n < 0x100000000) :
    IsWord s :=
  Text.isWord_of_readNumeral (Text.readNumeral_of_denotes h fits)

theorem toNat_lt_of_width {w : Width} (value : BitVec w.bits) : value.toNat < 0x100000000 :=
  Nat.lt_of_lt_of_le value.isLt (by cases w <;> decide)

theorem Wording.isWord {i : Instruction} {words : List (List Char)} (h : Wording i words) :
    ∀ word ∈ words, IsWord word := by
  cases h with
  | complete verb => exact List.forall_mem_singleton.2 verb.isWord
  | read verb address =>
    exact List.forall_mem_cons.2 ⟨verb.isWord,
      List.forall_mem_singleton.2 (isWord_of_denotes address (BitVec.isLt _))⟩
  | write verb address value =>
    exact List.forall_mem_cons.2 ⟨verb.isWord, List.forall_mem_cons.2
      ⟨isWord_of_denotes address (BitVec.isLt _),
        List.forall_mem_singleton.2 (isWord_of_denotes value (toNat_lt_of_width _))⟩⟩

theorem IsWord.notMem_newline {word : List Char} (h : IsWord word) : '\n' ∉ word :=
  fun mem => absurd (h.visible _ mem) (by decide)

theorem Follows.closes {words : List (List Char)} {s : List Char} (h : Follows words s) :
    Closes s := by
  cases h with
  | @gap s blank =>
    intro c head
    exact .inl (blank.1 c (List.mem_of_mem_head? head))
  | @comment s text blank =>
    cases s with
    | nil =>
      rintro _ ⟨⟩
      exact .inr rfl
    | cons => exact closes_of_gap (List.cons_ne_nil _ _) blank.1 _
  | word ne_nil blank => exact closes_of_gap ne_nil blank.1 _

theorem Follows.linePieces {words : List (List Char)} {s : List Char} (h : Follows words s)
    (spelled : ∀ word ∈ words, IsWord word) : linePieces s = words := by
  induction h with
  | @gap s blank =>
    have pieces := linePieces_blank_append blank.1 []
    rwa [List.append_nil] at pieces
  | comment blank => rw [linePieces_blank_append blank.1, linePieces_comment]
  | word _ blank follows ih =>
    obtain ⟨first, rest⟩ := List.forall_mem_cons.1 spelled
    rw [linePieces_blank_append blank.1, linePieces_word_append first follows.closes, ih rest]

theorem Follows.notMem_newline {words : List (List Char)} {s : List Char} (h : Follows words s)
    (spelled : ∀ word ∈ words, IsWord word) : '\n' ∉ s := by
  induction h with
  | gap blank => exact blank.2
  | comment blank absent => simp [blank.2, absent]
  | word _ blank _ ih =>
    obtain ⟨first, rest⟩ := List.forall_mem_cons.1 spelled
    simp [blank.2, first.notMem_newline, ih rest]

theorem Writes.notMem_newline {content : Option Instruction} {s : List Char}
    (h : Writes content s) : '\n' ∉ s := by
  cases h with
  | nothing follows => exact follows.notMem_newline nofun
  | instruction wording lead follows =>
    obtain ⟨first, rest⟩ := List.forall_mem_cons.1 wording.isWord
    simp [lead.2, first.notMem_newline, follows.notMem_newline rest]

def IsOffset (address : Address) : Prop :=
  address.toNat < 0x1EF00000 ∨ 0x1EF04000 ≤ address.toNat

def Instruction.address? : Instruction → Option Address
  | .read _ address => some address
  | .write _ address _ => some address
  | .complete => none

theorem toOffset_of_isOffset {address : Address} (h : IsOffset address) :
    toOffset address = address := by
  have outside : windowOffset? address = none := by
    apply if_neg
    rintro ⟨low, high⟩
    have base : physicalBase.toNat = 0x1EF00000 := rfl
    have size : windowBytes = 0x4000 := rfl
    unfold IsOffset at h
    omega
  rw [toOffset, outside]
  rfl

theorem readNumber_of_denotes {s : List Char} {n : Nat} (h : Text.Denotes s n)
    (fits : n < 0x100000000) : readNumber s = .ok (BitVec.ofNat 32 n) := by
  rw [readNumber, Text.readNumeral_of_denotes h fits]

theorem readAddress_of_denotes {s : List Char} {address : Address}
    (h : Text.Denotes s address.toNat) (offset : IsOffset address) :
    readAddress s = .ok address := by
  rw [readAddress, readNumber_of_denotes h address.isLt, BitVec.ofNat_toNat]
  exact congrArg Except.ok (toOffset_of_isOffset offset)

theorem value?_toNat (w : Width) (value : BitVec w.bits) : w.value? value.toNat = some value := by
  simp [Width.value?]

theorem Names.ofName? {command : List Char} {v : Verb} (h : Names command v) :
    Verb.ofName? (Text.lower command) = some v := by
  rw [show Text.lower command = v.name.toList from h, Verb.ofName?_name]

theorem readPieces_of_names {command : List Char} {v : Verb} (h : Names command v)
    (operands : List (List Char)) :
    readPieces (command :: operands) = (readOperands v command operands).map some := by
  simp only [readPieces, h.ofName?]

theorem Wording.readPieces {i : Instruction} {words : List (List Char)} (h : Wording i words)
    (offset : ∀ address ∈ i.address?, IsOffset address) :
    readPieces words = .ok (some i) := by
  cases h with
  | complete verb => rw [readPieces_of_names verb]; rfl
  | read verb address =>
    rw [readPieces_of_names verb, readOperands, readAddress_of_denotes address (offset _ rfl)]
    rfl
  | @write _ _ _ w _ value verb address number =>
    have fits := toNat_lt_of_width value
    rw [readPieces_of_names verb, readOperands, readWrite, readNumber_of_denotes number fits]
    simp only [BitVec.toNat_ofNat, Nat.mod_eq_of_lt fits, value?_toNat,
      readAddress_of_denotes address (offset _ rfl)]
    rfl

theorem Writes.parseLine {content : Option Instruction} {s : List Char} (h : Writes content s)
    (offset : ∀ i ∈ content, ∀ address ∈ i.address?, IsOffset address) :
    parseLine s = .ok content := by
  cases h with
  | nothing follows => rw [Script.parseLine, follows.linePieces nofun]; rfl
  | instruction wording lead follows =>
    obtain ⟨first, rest⟩ := List.forall_mem_cons.1 wording.isWord
    rw [Script.parseLine, linePieces_blank_append lead.1,
      linePieces_word_append first follows.closes, follows.linePieces rest,
      wording.readPieces (offset _ rfl)]

theorem lines_append_newline {s : List Char} (absent : '\n' ∉ s) (rest : List Char) :
    Text.lines (s ++ '\n' :: rest) = Text.stripReturn s :: Text.lines rest := by
  rw [Text.lines_append, List.splitOn_eq_singleton absent]
  rfl

theorem WrittenLine.exists_line (line : WrittenLine) (ending : LineEnd) (rest : List Char) :
    ∃ kept, Text.lines (line.text ++ ending.chars ++ rest) = kept :: Text.lines rest ∧
      linePieces kept = linePieces line.text := by
  have absent := line.writes.notMem_newline
  cases ending with
  | newline =>
    refine ⟨Text.stripReturn line.text, ?_, linePieces_stripReturn _⟩
    rw [LineEnd.chars, List.append_assoc]
    exact lines_append_newline absent rest
  | returnNewline =>
    refine ⟨Text.stripReturn (line.text ++ ['\r']), ?_, ?_⟩
    · rw [LineEnd.chars, ← lines_append_newline (by simp [absent]) rest, List.append_assoc,
        List.append_assoc]
      rfl
    · rw [linePieces_stripReturn, linePieces_append_blank _ (by decide)]

def HasOffsets (contents : List (Option Instruction)) : Prop :=
  ∀ content ∈ contents, ∀ i ∈ content, ∀ address ∈ i.address?, IsOffset address

namespace Page

theorem parseLines_last (last : Option WrittenLine)
    (offsets : HasOffsets (last.map (·.content)).toList) (number : Nat) :
    parseLines number (Text.lines (last.elim [] (·.text))) =
      .ok (numbered number (last.map (·.content)).toList) := by
  cases last with
  | none => rfl
  | some line =>
    have read := line.writes.parseLine (offsets _ List.mem_cons_self)
    change parseLines number (Text.linesOf (line.text.splitOn '\n')) =
      .ok (numbered number [line.content])
    rw [List.splitOn_eq_singleton line.writes.notMem_newline, Text.linesOf, Text.openLine]
    split
    · next empty =>
      rw [empty] at read
      have nothing : line.content = none := (Except.ok.inj read).symm
      rw [nothing]
      rfl
    · rw [parseLines_cons_of_ok read, numbered_cons]
      rfl

theorem parseLines_chars (page : Page) (offsets : HasOffsets page.contents) (number : Nat) :
    parseLines number (Text.lines page.chars) = .ok (numbered number page.contents) := by
  obtain ⟨ended, last⟩ := page
  induction ended generalizing number with
  | nil => exact parseLines_last last offsets number
  | cons entry ended ih =>
    obtain ⟨line, ending⟩ := entry
    obtain ⟨first, rest⟩ := List.forall_mem_cons.1 offsets
    obtain ⟨kept, lines, pieces⟩ := line.exists_line ending (chars ⟨ended, last⟩)
    have read : parseLine kept = .ok line.content := by
      rw [parseLine, pieces, ← line.writes.parseLine first, parseLine]
    have split : chars ⟨(line, ending) :: ended, last⟩ =
        line.text ++ ending.chars ++ chars ⟨ended, last⟩ := List.append_assoc ..
    rw [split, lines, parseLines_cons_of_ok read, ih (number + 1) rest]
    exact congrArg Except.ok (numbered_cons number line.content _).symm

end Page

theorem names_name (v : Verb) : Names v.name.toList v := by
  rcases v with _ | w | w
  · unfold Names; decide +kernel
  · unfold Names; cases w <;> decide +kernel
  · unfold Names; cases w <;> decide +kernel

theorem denotes_hex (n : Nat) : Text.Denotes (Text.hex n).toList n := by
  have marked : (Text.hex n).toList = '0' :: 'x' :: Nat.toDigits 16 n := by
    simp [Text.hex, Text.hexDigits]
  rw [marked]
  exact .hexadecimal (.inl rfl) (Text.spells_toDigits .hexadecimal n)

theorem follows_spaced (words : List (List Char)) : Follows words (words.flatMap (' ' :: ·)) := by
  induction words with
  | nil => exact .gap ⟨nofun, nofun⟩
  | cons word words ih =>
    exact .word (List.cons_ne_nil ' ' []) (by decide) ih

theorem Wording.writes {i : Instruction} {word : List Char} {words : List (List Char)}
    (h : Wording i (word :: words)) : Writes (some i) (word ++ words.flatMap (' ' :: ·)) :=
  @Writes.instruction _ _ _ [] _ h ⟨nofun, nofun⟩ (follows_spaced words)

def Instruction.plainLine : Instruction → WrittenLine
  | .complete => ⟨some .complete, _, Wording.writes (.complete (names_name .complete))⟩
  | .read w address =>
    ⟨some (.read w address), _,
      Wording.writes (.read (names_name (.read w)) (denotes_hex address.toNat))⟩
  | .write w address value =>
    ⟨some (.write w address value), _,
      Wording.writes (.write (names_name (.write w)) (denotes_hex address.toNat)
        (denotes_hex value.toNat))⟩

def plainPage (instructions : List Instruction) : Page :=
  ⟨instructions.map fun i => (i.plainLine, .newline), none⟩

theorem contents_plainPage (instructions : List Instruction) :
    (plainPage instructions).contents = instructions.map some := by
  rw [Page.contents, plainPage, List.map_map]
  exact (List.append_nil _).trans (List.map_congr_left fun i _ => by cases i <;> rfl)

/-- Whatever page a list of instructions is written on, reading it gives these instructions, in
order, each with the number of its line; and every list can be written. Physical addresses are left
out, since they are read as offsets. -/
theorem parse_page (instructions : List Instruction)
    (offsets : ∀ i ∈ instructions, ∀ address ∈ i.address?, IsOffset address) :
    (∃ page : Page, page.contents = instructions.map some) ∧
    ∀ page : Page, page.contents.reduceOption = instructions →
      parse page.text = .ok (numbered 1 page.contents) ∧
      (numbered 1 page.contents).map (·.instruction) = instructions := by
  refine ⟨⟨_, contents_plainPage instructions⟩, fun page written => ⟨?_, ?_⟩⟩
  · rw [parse, Page.text, String.toList_ofList]
    apply page.parseLines_chars
    intro content mem i holds
    apply offsets
    rw [← written, List.reduceOption_mem_iff]
    exact holds ▸ mem
  · rw [instructions_numbered, written]

theorem parse_page_mixed :
    let instructions : List Instruction :=
      [.write .full 0x1C#32 0x201#32, .complete, .read .byte 24#32]
    (∀ i ∈ instructions, ∀ address ∈ i.address?, IsOffset address) ∧
      parse "# fill\n\tW32 0X_01c  513\u3000# go\r\n\nComplete\nr8 0_24" =
        .ok [⟨2, .write .full 0x1C#32 0x201#32⟩, ⟨4, .complete⟩, ⟨5, .read .byte 24#32⟩] := by
  intro instructions
  have offsets : ∀ i ∈ instructions, ∀ address ∈ i.address?, IsOffset address := by
    simp [instructions, Instruction.address?, IsOffset]
  have empty : IsGap [] := ⟨nofun, nofun⟩
  have blanks : ∀ s ∈ [[' '], ['\t'], [' ', ' '], ['\u3000']], IsGap s := by decide
  have fill : Wording (.write .full 0x1C#32 0x201#32)
      [['W', '3', '2'], ['0', 'X', '_', '0', '1', 'c'], ['5', '1', '3']] :=
    .write (by unfold Names; decide +kernel)
      (.hexadecimal (.inr rfl) ⟨1, by decide +kernel⟩) (.decimal ⟨0, by decide +kernel⟩)
  have complete : Wording .complete [['C', 'o', 'm', 'p', 'l', 'e', 't', 'e']] :=
    .complete (by unfold Names; decide +kernel)
  have read : Wording (.read .byte 24#32) [['r', '8'], ['0', '_', '2', '4']] :=
    .read (by unfold Names; decide +kernel) (.decimal ⟨1, by decide +kernel⟩)
  let page : Page :=
    { ended :=
        [(⟨none, _, .nothing (@Follows.comment [] [' ', 'f', 'i', 'l', 'l'] empty (by decide))⟩,
            .newline),
          (⟨_, _, .instruction fill (blanks ['\t'] (by decide))
            (.word (by decide) (blanks [' '] (by decide))
              (.word (by decide) (blanks [' ', ' '] (by decide))
                (@Follows.comment ['\u3000'] [' ', 'g', 'o'] (blanks _ (by decide))
                  (by decide))))⟩, .returnNewline),
          (⟨none, _, .nothing (.gap empty)⟩, .newline),
          (⟨_, _, .instruction complete empty (.gap empty)⟩, .newline)]
      last := some ⟨_, _, .instruction read empty
        (.word (by decide) (blanks [' '] (by decide)) (.gap empty))⟩ }
  exact ⟨offsets, ((parse_page instructions offsets).2 page rfl).1⟩

end GraphicsBlock.Script

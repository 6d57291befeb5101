import GraphicsBlock.Proofs.LineGrammar
import Mathlib.Data.List.TakeWhile

/-!
A line read in stages that rely on each other. The width of an access is read off the verb as it is
written, an operand is taken by its position once the operands have been counted, and a value is a
word until the access is made. A stage whose assumption fails would come to a `Lapse`. No line does:
the stages give the instruction or the fault that reading the line gives.
-/

namespace GraphicsBlock

namespace Text

theorem pieces_append_blank {gap : List Char} (blank : AllBlank gap) (s : List Char) :
    pieces (s ++ gap) = pieces s := by
  cases gap with
  | nil => rw [List.append_nil]
  | cons c gap =>
    obtain ⟨first, rest⟩ := List.forall_mem_cons.1 blank
    have nothing := pieces_blank_append rest []
    rw [List.append_nil, pieces_nil] at nothing
    rw [pieces_append_cons first, nothing, List.append_nil]

theorem pieces_trimLeft (s : List Char) : pieces (trimLeft s) = pieces s := by
  have blank : AllBlank (s.takeWhile isBlank) := fun c mem => List.mem_takeWhile_imp mem
  rw [trimLeft, ← pieces_blank_append blank, List.takeWhile_append_dropWhile]

theorem pieces_trimRight (s : List Char) : pieces (trimRight s) = pieces s := by
  have blank : AllBlank (s.reverse.takeWhile isBlank).reverse := fun c mem =>
    List.mem_takeWhile_imp (List.mem_reverse.1 mem)
  rw [trimRight, ← pieces_append_blank blank, ← List.reverse_append,
    List.takeWhile_append_dropWhile, List.reverse_reverse]

@[simp] theorem pieces_trim (s : List Char) : pieces (trim s) = pieces s :=
  (pieces_trimRight _).trans (pieces_trimLeft s)

end Text

namespace Script

/-- Where a stage cannot go on although no check has failed. -/
inductive Lapse
  | noSuffix (command : List Char)
  | unknownWidth (command : List Char)
  | noOperand (position : Nat)
  deriving DecidableEq

inductive Stop
  | fault (fault : Fault)
  | lapse (lapse : Lapse)
  deriving DecidableEq

inductive WideInstruction
  | read (width : Width) (address : Address)
  | write (width : Width) (address : Address) (value : Word)
  | complete
  deriving DecidableEq

namespace WideInstruction

def narrow : WideInstruction → Instruction
  | .read w address => .read w address
  | .write w address value => .write w address (value.setWidth w.bits)
  | .complete => .complete

def Fits : WideInstruction → Prop
  | .read .. | .complete => True
  | .write w _ value => (value.setWidth w.bits).toNat = value.toNat

end WideInstruction

namespace Stages

def maxValue : Width → Word
  | .byte => 0xFF#32
  | .half => 0xFFFF#32
  | .full => 0xFFFFFFFF#32

def suffix (command : List Char) : Except Stop (List Char) :=
  match command with
  | [] => .error (.lapse (.noSuffix []))
  | c :: rest => if c.utf8Size = 1 then .ok rest else .error (.lapse (.noSuffix command))

def widthOf (command : List Char) : Except Stop Width := do
  let digits ← suffix command
  if digits = ['8'] then return .byte
  else if digits = ['1', '6'] then return .half
  else if digits = ['3', '2'] then return .full
  else .error (.lapse (.unknownWidth command))

def operandAt (operands : List (List Char)) (position : Nat) : Except Stop (List Char) :=
  match operands[position]? with
  | none => .error (.lapse (.noOperand position))
  | some operand => .ok operand

def expect (command : List Char) (operands : List (List Char)) (count : Nat) : Except Stop Unit :=
  if operands.length = count then .ok ()
  else .error (.fault (.operandCount (String.ofList command) count operands.length))

def numberAt (operands : List (List Char)) (position : Nat) : Except Stop Word := do
  (readNumber (← operandAt operands position)).mapError .fault

def addressAt (operands : List (List Char)) (position : Nat) : Except Stop Address := do
  (readAddress (← operandAt operands position)).mapError .fault

def readStage (command : List Char) (operands : List (List Char)) :
    Except Stop WideInstruction := do
  expect command operands 1
  let w ← widthOf command
  return .read w (← addressAt operands 0)

def writeStage (command : List Char) (operands : List (List Char)) :
    Except Stop WideInstruction := do
  expect command operands 2
  let w ← widthOf command
  let value ← numberAt operands 1
  if maxValue w < value then .error (.fault (.tooWide value w))
  return .write w (← addressAt operands 0) value

def instruction (command : List Char) (operands : List (List Char)) :
    Except Stop WideInstruction :=
  let lowered := String.ofList (Text.lower command)
  if lowered = "complete" then do
    expect command operands 0
    return .complete
  else if lowered ∈ ["r8", "r16", "r32"] then readStage command operands
  else if lowered ∈ ["w8", "w16", "w32"] then writeStage command operands
  else .error (.fault (.unknownCommand lowered))

def line (raw : List Char) : Except Stop (Option WideInstruction) :=
  let text := Text.trim (Text.before '#' raw)
  if text = [] then .ok none
  else
    match Text.pieces text with
    | [] => .ok none
    | command :: operands => (instruction command operands).map some

/-- The stages come to the same as reading at once, before the value is narrowed. -/
inductive Agrees : Except Stop WideInstruction → Except Fault Instruction → Prop
  | fault {fault} : Agrees (.error (.fault fault)) (.error fault)
  | ok {i} : i.Fits → Agrees (.ok i) (.ok i.narrow)

theorem utf8Size_of_isPlain {c : Char} (plain : IsPlain c) : c.utf8Size = 1 := by
  rw [Char.utf8Size_eq_one_iff, UInt32.le_iff_toNat_le]
  exact Nat.le_trans (isPlain_iff.1 plain).2 (by decide)

theorem toLower_eq_of_isDigit {c : Char} (digit : c.toLower.isDigit = true) : c.toLower = c := by
  have letters : ∀ n < 91, 65 ≤ n → (Char.ofNat n).toLower.isDigit = false := by decide
  apply Text.toLower_of_not_upper
  rintro ⟨low, high⟩
  have letter := letters c.toNat high low
  rw [Char.ofNat_toNat, digit] at letter
  cases letter

theorem eq_of_lower_eq_digits {s digits : List Char} (lowered : Text.lower s = digits)
    (all : digits.all Char.isDigit = true) : s = digits := by
  rw [← lowered]
  refine ((List.map_congr_left fun c mem => ?_).trans (List.map_id' s)).symm
  apply toLower_eq_of_isDigit
  apply List.all_eq_true.1 all
  rw [← lowered]
  exact List.mem_map_of_mem mem

theorem suffix_of_lower (letter : Char) {command digits : List Char}
    (lowered : Text.lower command = letter :: digits) (plain : IsPlain letter)
    (all : digits.all Char.isDigit = true) : suffix command = .ok digits := by
  obtain ⟨c, rest, rfl, rfl, tail⟩ := List.map_eq_cons_iff.1 lowered
  rw [suffix, if_pos (utf8Size_of_isPlain plain.of_toLower), eq_of_lower_eq_digits tail all]

theorem widthOf_of_names_read {command : List Char} {w : Width} (named : Names command (.read w)) :
    widthOf command = .ok w := by
  cases w <;> rw [widthOf, suffix_of_lower 'r' named (by decide) (by decide)] <;> rfl

theorem widthOf_of_names_write {command : List Char} {w : Width}
    (named : Names command (.write w)) :
    widthOf command = .ok w := by
  cases w <;> rw [widthOf, suffix_of_lower 'w' named (by decide) (by decide)] <;> rfl

variable {command : List Char} {w : Width}

theorem maxValue_lt_iff {m : Word} : maxValue w < m ↔ ¬m.toNat < 2 ^ w.bits := by
  cases w <;> rw [BitVec.lt_def, Nat.not_lt] <;> exact Nat.lt_iff_add_one_le

theorem readStage_single (command address : List Char) :
    readStage command [address] = (widthOf command).bind fun w =>
      ((readAddress address).mapError .fault).map (.read w) := rfl

theorem writeStage_pair (command address value : List Char) :
    writeStage command [address, value] = (widthOf command).bind fun w =>
      ((readNumber value).mapError .fault).bind fun m =>
        if maxValue w < m then .error (.fault (.tooWide m w))
        else ((readAddress address).mapError .fault).map (.write w · m) := by
  simp only [writeStage]
  rfl

theorem agrees_of_ne {operands : List (List Char)} {count : Nat} (wrong : operands.length ≠ count)
    (stage : Except Stop WideInstruction) :
    Agrees (do expect command operands count; stage)
      (.error (.operandCount (String.ofList command) count operands.length)) := by
  rw [expect, if_neg wrong]
  exact .fault

theorem agrees_readStage (named : Names command (.read w)) (operands : List (List Char)) :
    Agrees (readStage command operands) (readOperands (.read w) command operands) := by
  match operands with
  | [address] =>
    rw [readStage_single, widthOf_of_names_read named, readOperands]
    cases readAddress address with
    | error fault => exact .fault
    | ok place => exact .ok trivial
  | [] | _ :: _ :: more => exact agrees_of_ne (by simp) _

theorem agrees_writeStage (named : Names command (.write w)) (operands : List (List Char)) :
    Agrees (writeStage command operands) (readOperands (.write w) command operands) := by
  match operands with
  | [address, value] =>
    rw [writeStage_pair, widthOf_of_names_write named, readOperands, readWrite]
    cases readNumber value with
    | error fault => exact .fault
    | ok m =>
      by_cases fits : m.toNat < 2 ^ w.bits
      · have narrow := value?_eq_some_iff.2 ⟨fits, rfl⟩
        have kept : (m.setWidth w.bits).toNat = m.toNat := by
          rw [BitVec.toNat_setWidth, Nat.mod_eq_of_lt fits]
        change Agrees (if maxValue w < m then _ else _) _
        rw [if_neg (not_not_intro fits ∘ maxValue_lt_iff.1)]
        simp only [narrow]
        cases readAddress address with
        | error fault => exact .fault
        | ok place => exact .ok kept
      · have wide : w.value? m.toNat = none :=
          Option.eq_none_iff_forall_ne_some.2 fun _ some => fits (value?_eq_some_iff.1 some).1
        change Agrees (if maxValue w < m then _ else _) _
        rw [if_pos (maxValue_lt_iff.2 fits)]
        simp only [wide]
        exact .fault
  | [] | [_] | _ :: _ :: _ :: more => exact agrees_of_ne (by simp) _

theorem lowered_of_names {v : Verb} (named : Names command v) :
    String.ofList (Text.lower command) = v.name := by
  rw [show Text.lower command = v.name.toList from named, String.ofList_toList]

theorem agrees_instruction {v : Verb} (named : Names command v) (operands : List (List Char)) :
    Agrees (instruction command operands) (readOperands v command operands) := by
  rw [instruction, lowered_of_names named]
  cases v with
  | complete =>
    have verb : Verb.complete.name = "complete" := rfl
    rw [if_pos verb]
    cases operands with
    | nil => exact .ok trivial
    | cons => exact agrees_of_ne (by simp) _
  | read w =>
    have verb : (Verb.read w).name ≠ "complete" ∧ (Verb.read w).name ∈ ["r8", "r16", "r32"] := by
      cases w <;> decide
    rw [if_neg verb.1, if_pos verb.2]
    exact agrees_readStage named operands
  | write w =>
    have verb : (Verb.write w).name ≠ "complete" ∧ (Verb.write w).name ∉ ["r8", "r16", "r32"] ∧
        (Verb.write w).name ∈ ["w8", "w16", "w32"] := by
      cases w <;> decide
    rw [if_neg verb.1, if_neg verb.2.1, if_pos verb.2.2]
    exact agrees_writeStage named operands

theorem instruction_of_unknown (unknown : Verb.ofName? (Text.lower command) = none)
    (operands : List (List Char)) :
    instruction command operands =
      .error (.fault (.unknownCommand (String.ofList (Text.lower command)))) := by
  have other : ∀ v : Verb, String.ofList (Text.lower command) ≠ v.name := by
    intro v same
    have named : Names command v := by
      rw [Names, ← same, String.toList_ofList]
    cases unknown.symm.trans named.ofName?
  have reads : String.ofList (Text.lower command) ∉ ["r8", "r16", "r32"] := by
    simpa using ⟨other (.read .byte), other (.read .half), other (.read .full)⟩
  have writes : String.ofList (Text.lower command) ∉ ["w8", "w16", "w32"] := by
    simpa using ⟨other (.write .byte), other (.write .half), other (.write .full)⟩
  have complete : String.ofList (Text.lower command) ≠ "complete" := other .complete
  rw [instruction, if_neg complete, if_neg reads, if_neg writes]

theorem line_agrees (raw : List Char) :
    ∃ result : Except Fault (Option WideInstruction), line raw = result.mapError .fault ∧
      parseLine raw = result.map (Option.map WideInstruction.narrow) ∧
      ∀ i, result = .ok (some i) → i.Fits := by
  rw [line, parseLine, linePieces, Text.pieces_trim]
  by_cases empty : Text.trim (Text.before '#' raw) = []
  · have nothing : Text.pieces (Text.before '#' raw) = [] := by
      rw [← Text.pieces_trim, empty, Text.pieces_nil]
    rw [if_pos empty, nothing]
    exact ⟨.ok none, rfl, rfl, by simp⟩
  · rw [if_neg empty]
    cases Text.pieces (Text.before '#' raw) with
    | nil => exact ⟨.ok none, rfl, rfl, by simp⟩
    | cons command operands =>
      simp only [readPieces]
      cases found : Verb.ofName? (Text.lower command) with
      | none =>
        rw [instruction_of_unknown found]
        exact ⟨.error _, rfl, rfl, by simp⟩
      | some v =>
        have agrees := agrees_instruction (Verb.ofName?_eq_some_iff.1 found) operands
        simp only
        generalize instruction command operands = staged at agrees ⊢
        generalize readOperands v command operands = read at agrees ⊢
        cases agrees with
        | fault => exact ⟨.error _, rfl, rfl, by simp⟩
        | @ok i fits =>
          refine ⟨.ok (some i), rfl, rfl, fun j same => ?_⟩
          cases same
          exact fits

end Stages

theorem Means.isOffset {words : List (List Char)} {i : Instruction} (h : Means words (some i)) :
    ∀ address ∈ i.address?, IsOffset address := by
  cases h with
  | complete => exact nofun
  | read => exact fun _ same => Option.some.inj same ▸ isOffset_placeOf _
  | write => exact fun _ same => Option.some.inj same ▸ isOffset_placeOf _

/-- A line is read as what its words mean and refused if they mean nothing that can be asked for. No
address that is read stands in the window on the processor's side. Whether the line is good or bad,
every stage of reading finds what it relies on, and no value loses a bit before the access. -/
theorem parseLine_grammar (line : List Char) :
    (∀ words, Holds line words ↔ linePieces line = words) ∧
    (∀ content, parseLine line = .ok content ↔ ∃ words, Holds line words ∧ Means words content) ∧
    ((∃ fault, parseLine line = .error fault) ↔
      ∀ words content, Holds line words → ¬Means words content) ∧
    (∀ i, parseLine line = .ok (some i) → ∀ address ∈ i.address?, IsOffset address) ∧
    ∃ result : Except Fault (Option WideInstruction), Stages.line line = result.mapError .fault ∧
      parseLine line = result.map (Option.map WideInstruction.narrow) ∧
      ∀ i, result = .ok (some i) → i.Fits := by
  refine ⟨fun _ => holds_iff, fun _ => parseLine_eq_ok_iff, ?_, ?_, Stages.line_agrees line⟩
  · constructor
    · rintro ⟨fault, refused⟩ words content holds means
      cases refused.symm.trans (parseLine_eq_ok_iff.2 ⟨words, holds, means⟩)
    · intro none
      cases read : parseLine line with
      | error fault => exact ⟨fault, rfl⟩
      | ok content =>
        obtain ⟨words, holds, means⟩ := parseLine_eq_ok_iff.1 read
        cases none words content holds means
  · intro i read
    obtain ⟨words, _, means⟩ := parseLine_eq_ok_iff.1 read
    exact means.isOffset

theorem parseLine_grammar_write :
    let line := " W16\t0X1ef0_001c 65_535 # x".toList
    let i := Instruction.write .half 0x1C#32 0xFFFF#16
    Holds line [['W', '1', '6'], "0X1ef0_001c".toList, "65_535".toList] ∧
    parseLine line = .ok (some i) ∧ (∀ address ∈ i.address?, IsOffset address) ∧
    Stages.line line = .ok (some (.write .half 0x1C#32 0xFFFF#32)) := by
  intro line i
  have pieces : linePieces line = [['W', '1', '6'], "0X1ef0_001c".toList, "65_535".toList] := by
    decide +kernel
  have read : parseLine line = .ok (some i) := by decide +kernel
  obtain ⟨words, _, _, offset, _⟩ := parseLine_grammar line
  exact ⟨(words _).2 pieces, read, offset i read, by decide +kernel⟩

end Script

end GraphicsBlock

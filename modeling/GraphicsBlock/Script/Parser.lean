import GraphicsBlock.Script.Instruction
import GraphicsBlock.Text.Blank
import GraphicsBlock.Text.Lines

namespace GraphicsBlock.Script

def readNumber (token : List Char) : Except Fault Word :=
  match Text.readNumeral token with
  | .ok value => .ok value
  | .error fault => .error (.badNumeral (String.ofList token) fault)

/-- A physical address that falls in the window is taken by its offset, any other number as it
stands. -/
def toOffset (address : Word) : Address := (windowOffset? address).getD address

def readAddress (token : List Char) : Except Fault Address := (readNumber token).map toOffset

/-- The value is read and checked before the address. -/
def readWrite (w : Width) (address value : List Char) : Except Fault Instruction :=
  match readNumber value with
  | .error fault => .error fault
  | .ok number =>
    match w.value? number.toNat with
    | none => .error (.tooWide number w)
    | some value => (readAddress address).map (Instruction.write w · value)

def readOperands (verb : Verb) (command : List Char) (operands : List (List Char)) :
    Except Fault Instruction :=
  match verb, operands with
  | .complete, [] => .ok .complete
  | .read w, [address] => (readAddress address).map (Instruction.read w)
  | .write w, [address, value] => readWrite w address value
  | verb, operands =>
    .error (.operandCount (String.ofList command) verb.operands operands.length)

def readPieces : List (List Char) → Except Fault (Option Instruction)
  | [] => .ok none
  | command :: operands =>
    let lowered := Text.lower command
    match Verb.ofName? lowered with
    | none => .error (.unknownCommand (String.ofList lowered))
    | some verb => (readOperands verb command operands).map some

def linePieces (line : List Char) : List (List Char) := Text.pieces (Text.before '#' line)

def parseLine (line : List Char) : Except Fault (Option Instruction) :=
  readPieces (linePieces line)

def parseLines (number : Nat) : List (List Char) → Except LineFault (List Line)
  | [] => .ok []
  | line :: rest =>
    match parseLine line with
    | .error cause => .error ⟨number, String.ofList (Text.trim line), cause⟩
    | .ok none => parseLines (number + 1) rest
    | .ok (some instruction) =>
      (parseLines (number + 1) rest).map (⟨number, instruction⟩ :: ·)

theorem parseLines_cons_of_error {line : List Char} {cause : Fault}
    (h : parseLine line = .error cause) (number : Nat) (rest : List (List Char)) :
    parseLines number (line :: rest) =
      .error ⟨number, String.ofList (Text.trim line), cause⟩ := by
  rw [parseLines, h]

theorem parseLines_cons_of_ok {line : List Char} {content : Option Instruction}
    (h : parseLine line = .ok content) (number : Nat) (rest : List (List Char)) :
    parseLines number (line :: rest) =
      (parseLines (number + 1) rest).map ((content.map (Line.mk number)).toList ++ ·) := by
  rw [parseLines, h]
  cases content with
  | none => cases parseLines (number + 1) rest <;> rfl
  | some => rfl

theorem exists_of_parseLines_cons {number : Nat} {line : List Char} {rest : List (List Char)}
    {lines : List Line} (h : parseLines number (line :: rest) = .ok lines) :
    ∃ content more, parseLine line = .ok content ∧ parseLines (number + 1) rest = .ok more ∧
      lines = (content.map (Line.mk number)).toList ++ more := by
  cases reads : parseLine line with
  | error cause => cases (parseLines_cons_of_error reads number rest).symm.trans h
  | ok content =>
    rw [parseLines_cons_of_ok reads] at h
    cases later : parseLines (number + 1) rest with
    | error =>
      rw [later] at h
      cases h
    | ok more =>
      rw [later] at h
      exact ⟨content, more, rfl, rfl, (Except.ok.inj h).symm⟩

def parse (text : String) : Except LineFault (List Line) := parseLines 1 (Text.lines text.toList)

end GraphicsBlock.Script

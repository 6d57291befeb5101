import GraphicsBlock.Settings

/-!
The command line: what may be asked, and how it is written. Options may stand before or after a
path, `--` ends them, and a value follows its option directly or after an equals sign.
-/

namespace GraphicsBlock.CommandLine

inductive Command
  | layout
  | replay (path : String) (settings : Settings) (deferring : Bool)
  deriving DecidableEq

inductive Request
  | version
  | perform (quiet : Bool) (command : Command)
  deriving DecidableEq

inductive UsageFault
  | missingCommand
  | missingPath
  | missingValue (option : String)
  | badValue (fault : UnknownValue)
  | repeated (option : String)
  | unexpected (argument : String)
  deriving DecidableEq

def UsageFault.message : UsageFault → String
  | .missingCommand => "a command is required: layout or replay"
  | .missingPath => "a trace file path is required"
  | .missingValue option => s!"a value is required for {option}"
  | .badValue fault => fault.message
  | .repeated option => s!"{option} cannot be used multiple times"
  | .unexpected argument => s!"unexpected argument {Text.quote argument}"

inductive Argument
  | escape
  | long (name : String) (value : Option String)
  | short (letters : List Char)
  | plain (text : String)
  deriving DecidableEq

def Argument.ofString (text : String) : Argument :=
  match text.toList with
  | ['-', '-'] => .escape
  | '-' :: '-' :: body =>
    let name := String.ofList (body.takeWhile (· != '='))
    match body.dropWhile (· != '=') with
    | [] => .long name none
    | _ :: value => .long name (some (String.ofList value))
  | '-' :: letter :: letters => .short (letter :: letters)
  | _ => .plain text

structure Draft where
  path : Option String := none
  quiet : Bool := false
  deferring : Bool := false
  fillMode : Option FillMode := none
  byteOrder : Option ByteOrder := none
  flipAxis : Option FlipAxis := none
  scaling : Option Scaling := none

def choose [Knob α] (option : String) (given : Option α) (text : String) :
    Except UsageFault (Option α) :=
  match given, Knob.parse α text with
  | some _, _ => .error (.repeated option)
  | none, .ok value => .ok (some value)
  | none, .error fault => .error (.badValue fault)

namespace Draft

def setPath (d : Draft) (path : String) : Except UsageFault Draft :=
  if d.path.isSome || path.isEmpty then .error (.unexpected path)
  else .ok { d with path := some path }

def setQuiet (d : Draft) : Except UsageFault Draft :=
  if d.quiet then .error (.repeated "--quiet") else .ok { d with quiet := true }

def setDeferring (d : Draft) : Except UsageFault Draft :=
  if d.deferring then .error (.repeated "--defer-completion") else .ok { d with deferring := true }

def knobOptions : List String := ["fill-mode", "fill24-order", "flip-axis", "scaling"]

def setKnob (d : Draft) (option text : String) : Except UsageFault Draft :=
  match option with
  | "fill-mode" => (choose option d.fillMode text).map fun fillMode => { d with fillMode }
  | "fill24-order" => (choose option d.byteOrder text).map fun byteOrder => { d with byteOrder }
  | "flip-axis" => (choose option d.flipAxis text).map fun flipAxis => { d with flipAxis }
  | "scaling" => (choose option d.scaling text).map fun scaling => { d with scaling }
  | _ => .error (.unexpected s!"--{option}")

def setFlag (d : Draft) (flag : String) : Except UsageFault Draft :=
  match flag with
  | "quiet" => d.setQuiet
  | "defer-completion" => d.setDeferring
  | _ => .error (.unexpected s!"--{flag}")

def setLetters (d : Draft) : List Char → Except UsageFault Draft
  | [] => .ok d
  | 'q' :: letters => d.setQuiet.bind (·.setLetters letters)
  | letter :: _ => .error (.unexpected s!"-{letter}")

def settings (d : Draft) : Settings :=
  ⟨d.fillMode.getD .strict, d.byteOrder.getD .rgb, d.flipAxis.getD .horizontal,
    d.scaling.getD .unscaled⟩

def request (d : Draft) (quiet : Bool) : Except UsageFault Request :=
  match d.path with
  | none => .error .missingPath
  | some path => .ok (.perform (quiet || d.quiet) (.replay path d.settings d.deferring))

end Draft

def isValue (text : String) : Bool :=
  match Argument.ofString text with
  | .plain _ => true
  | _ => false

def readPaths (d : Draft) : List String → Except UsageFault Draft
  | [] => .ok d
  | path :: rest => (d.setPath path).bind (readPaths · rest)

def readReplay (d : Draft) : List String → Except UsageFault Draft
  | [] => .ok d
  | argument :: rest =>
    match Argument.ofString argument with
    | .escape => readPaths d rest
    | .plain path => (d.setPath path).bind (readReplay · rest)
    | .short letters => (d.setLetters letters).bind (readReplay · rest)
    | .long option (some value) => (d.setKnob option value).bind (readReplay · rest)
    | .long option none =>
      if Draft.knobOptions.contains option then
        match rest with
        | [] => .error (.missingValue option)
        | value :: rest =>
          if isValue value then (d.setKnob option value).bind (readReplay · rest)
          else .error (.missingValue option)
      else (d.setFlag option).bind (readReplay · rest)

def readLayout (d : Draft) : List String → Except UsageFault Draft
  | [] => .ok d
  | argument :: rest =>
    match Argument.ofString argument with
    | .escape =>
      match rest with
      | [] => .ok d
      | argument :: _ => .error (.unexpected argument)
    | .short letters => (d.setLetters letters).bind (readLayout · rest)
    | .long "quiet" none => d.setQuiet.bind (readLayout · rest)
    | _ => .error (.unexpected argument)

def readLetters (quiet : Bool) : List Char → Except UsageFault (Option Bool)
  | [] => .ok (some quiet)
  | 'q' :: letters => if quiet then .error (.repeated "--quiet") else readLetters true letters
  | 'V' :: _ => .ok none
  | letter :: _ => .error (.unexpected s!"-{letter}")

def read (quiet : Bool) : List String → Except UsageFault Request
  | [] => .error .missingCommand
  | argument :: rest =>
    match Argument.ofString argument with
    | .long "version" none => .ok .version
    | .long "quiet" none => if quiet then .error (.repeated "--quiet") else read true rest
    | .short letters =>
      match readLetters quiet letters with
      | .error fault => .error fault
      | .ok none => .ok .version
      | .ok (some quiet) => read quiet rest
    | .plain "layout" => (readLayout {} rest).map fun d => .perform (quiet || d.quiet) .layout
    | .plain "replay" => (readReplay {} rest).bind (·.request quiet)
    | _ => .error (.unexpected argument)

def parse (arguments : List String) : Except UsageFault Request := read false arguments

end GraphicsBlock.CommandLine

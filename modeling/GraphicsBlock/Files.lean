/-!
Text files by path, as a program started in their directory sees them. A path is walked from left
to right, and the first step that fails decides the fault. A path that starts with a slash or steps
up leaves the directory; every other directory counts as empty.
-/

namespace GraphicsBlock

inductive ReadFault
  | nulInName
  | missing
  | nameTooLong
  | notDirectory
  | isDirectory
  | notText
  | other (message : String)
  deriving DecidableEq

def ReadFault.message : ReadFault → String
  | .nulInName => "file name contained an unexpected NUL byte"
  | .missing => "No such file or directory (os error 2)"
  | .nameTooLong => "File name too long (os error 36)"
  | .notDirectory => "Not a directory (os error 20)"
  | .isDirectory => "Is a directory (os error 21)"
  | .notText => "stream did not contain valid UTF-8"
  | .other message => message

abbrev Files := List (String × ByteArray)

namespace Files

def pathLimit : Nat := 4095

def nameLimit : Nat := 255

/-- Where a path has led so far: the directory of the files, another one, or a file. -/
inductive Place
  | here
  | elsewhere
  | file (content : ByteArray)

def checkPath (path : String) : Except ReadFault Unit :=
  if path.toList.contains '\x00' then .error .nulInName
  else if path.isEmpty then .error .missing
  else if pathLimit < path.utf8ByteSize then .error .nameTooLong
  else .ok ()

def start (path : String) : Place :=
  if path.toList.head? = some '/' then .elsewhere else .here

def lookup (files : Files) (name : List Char) : Except ReadFault Place :=
  match files.find? (·.1.toList == name) with
  | some (_, content) => .ok (.file content)
  | none => .error .missing

def step (files : Files) : Place → List Char → Except ReadFault Place
  | .file _, _ => .error .notDirectory
  | place, [] => .ok place
  | place, ['.'] => .ok place
  | _, ['.', '.'] => .ok .elsewhere
  | place, name =>
    if nameLimit < (String.ofList name).utf8ByteSize then .error .nameTooLong
    else
      match place with
      | .here => lookup files name
      | _ => .error .missing

def resolve (files : Files) (path : String) : Except ReadFault Place := do
  checkPath path
  (path.toList.splitOn '/').foldlM (step files) (start path)

def Place.text : Place → Except ReadFault String
  | .file content =>
    match String.fromUTF8? content with
    | some text => .ok text
    | none => .error .notText
  | _ => .error .isDirectory

def read (files : Files) (path : String) : Except ReadFault String := do
  (← resolve files path).text

example : resolve [("t", .empty)] "./t" = .ok (.file .empty) := rfl
example : resolve [("t", .empty)] "t/." = .error .notDirectory := rfl
example : resolve [("t", .empty)] "//t" = .error .missing := rfl
example : resolve [("t", .empty)] "x/../t" = .error .missing := rfl
example : resolve [("t", .empty)] "../." = .ok .elsewhere := rfl

end Files

end GraphicsBlock

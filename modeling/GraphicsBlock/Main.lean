import GraphicsBlock.CommandLine.Run

namespace GraphicsBlock.CommandLine

/-- The number of a system error, which may be stored negated. -/
def systemNumber (code : UInt32) : UInt32 := min code (-code)

def readFault : IO.Error → ReadFault
  | .noFileOrDirectory .. => .missing
  | .inappropriateType _ code _ => if systemNumber code = 20 then .notDirectory else .isDirectory
  | fault@(.invalidArgument _ code _) =>
    if systemNumber code = 36 then .nameTooLong else .other (toString fault)
  | fault => .other (toString fault)

def readTrace (path : String) : IO (Except ReadFault String) := do
  try
    match String.fromUTF8? (← IO.FS.readBinFile path) with
    | some text => return .ok text
    | none => return .error .notText
  catch fault =>
    return .error (readFault fault)

def contentFor : Request → IO (Except ReadFault String)
  | .perform _ (.replay path ..) => readTrace path
  | _ => return .error .missing

end GraphicsBlock.CommandLine

open GraphicsBlock CommandLine in
def main (arguments : List String) : IO UInt32 := do
  match parse arguments with
  | .error fault =>
    IO.eprintln s!"error: {fault.message}"
    return usageCode.toUInt32
  | .ok request =>
    let content ← contentFor request
    let response := respond .bare (fun _ => content) request
    IO.print response.output
    IO.eprint response.errorText
    return response.code.toUInt32

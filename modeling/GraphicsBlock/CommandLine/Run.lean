import GraphicsBlock.CommandLine.Arguments
import GraphicsBlock.Files
import GraphicsBlock.Map.Listing
import GraphicsBlock.Replay
import GraphicsBlock.Text.Lines

namespace GraphicsBlock.CommandLine

structure Response where
  code : Nat
  output : String := ""
  errors : List String := []
  deriving DecidableEq

def printed (messages : List String) : String := String.join (messages.map (· ++ "\n"))

def Response.errorText (response : Response) : String := printed response.errors

def Response.errorLines (response : Response) : List String :=
  (Text.lines response.errorText.toList).map String.ofList

inductive FileFault
  | unreadable (path : String) (fault : ReadFault)
  | failed (path : String) (fault : Replay.Fault)
  deriving DecidableEq

def FileFault.chain : FileFault → List String
  | .unreadable path fault => [s!"Failed to read trace: {path}", fault.message]
  | .failed path fault => s!"Failed to replay trace: {path}" :: fault.chain

structure FileRun where
  result : Except FileFault Replay.Report
  records : List Record

def replayFile (content : Except ReadFault String) (path : String) (settings : Settings)
    (deferring : Bool) (limit : Option Nat) : FileRun :=
  match content with
  | .error fault => ⟨.error (.unreadable path fault), []⟩
  | .ok script =>
    let run := replay settings deferring limit script
    match run.result with
    | .error fault => ⟨.error (.failed path fault), run.records⟩
    | .ok report => ⟨.ok report, run.records⟩

/-- Printing that is left to others: which records a log admits that begins at a level, how the
record at a position of the log is written, and how a chain of faults is reported. -/
structure Printer where
  admits : Level → Record → Bool
  line : Nat → Record → String
  report : List String → String

namespace Printer

def log (p : Printer) (limit : Level) (records : List Record) : List String :=
  (records.filter (p.admits limit)).mapIdx p.line

/-- Causes are indented, and numbered from zero when there are several. -/
def causeLines : List String → List String
  | [] => []
  | [cause] => ["", "Caused by:", "    " ++ cause]
  | causes =>
    ["", "Caused by:"] ++ causes.mapIdx fun i cause => Text.padLeft 5 (toString i) ++ ": " ++ cause

def reportLines : List String → List String
  | [] => []
  | fault :: causes => fault :: causeLines causes

/-- Prints the text of a record and no stamp before it. -/
def bare : Printer where
  admits limit r := r.isAdmitted limit
  line _ r := r.message
  report chain := "\n".intercalate (reportLines chain)

end Printer

def perform (p : Printer) (read : String → Except ReadFault String) (quiet : Bool) :
    Command → Response
  | .layout => { code := 0, output := printed Map.listing }
  | .replay path settings deferring =>
    let run := replayFile (read path) path settings deferring none
    let log := if quiet then [] else p.log .info run.records
    match run.result with
    | .error fault => { code := 1, errors := log ++ ["Error: " ++ p.report fault.chain] }
    | .ok report =>
      let closing := if quiet then [] else [s!"Replayed {path}: {report.summary.text}"]
      { code := 0, output := report.output, errors := log ++ closing }

def versionLine : String := "gpu-mmio-cli 0.1.0\n"

def respond (p : Printer) (read : String → Except ReadFault String) : Request → Response
  | .version => { code := 0, output := versionLine }
  | .perform quiet command => perform p read quiet command

def usageCode : Nat := 2

end GraphicsBlock.CommandLine

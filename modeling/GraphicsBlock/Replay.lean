import GraphicsBlock.Script.Parser
import GraphicsBlock.Session
import GraphicsBlock.Sink

namespace GraphicsBlock

structure Summary where
  reads : Nat := 0
  writes : Nat := 0
  rejected : Nat := 0
  launched : Nat := 0
  swaps : Nat := 0
  pending : Nat := 0
  deriving DecidableEq

def Summary.text (s : Summary) : String :=
  s!"{s.reads} reads, {s.writes} writes ({s.rejected} rejected), " ++
    s!"{s.launched} operations launched, {s.swaps} swaps, {s.pending} pending"

def Executor.launched : Executor → Nat
  | .tracing tracer => tracer.launched
  | _ => 0

def Executor.swaps : Executor → Nat
  | .tracing tracer => tracer.swaps
  | _ => 0

namespace Replay

structure Progress where
  session : Session Executor
  reads : Nat := 0
  writes : Nat := 0
  rejected : Nat := 0

def Progress.start (settings : Settings) (deferring : Bool) : Progress :=
  { session := .start settings (.tracing { deferring }) }

def Progress.summary (p : Progress) : Summary where
  reads := p.reads
  writes := p.writes
  rejected := p.rejected
  launched := p.session.executor.launched
  swaps := p.session.executor.swaps
  pending := p.session.pending

structure Effect where
  progress : Progress
  output : List String := []
  records : List Record := []

def readLine (number : Nat) (address : Address) (result : Except BusFault (BitVec w)) : String :=
  let target := Text.hexPadded 4 address.toNat
  match result with
  | .ok value => s!"{target} = {Text.hex value.toNat}"
  | .error fault => s!"line {number}: read {target} failed: {fault.message}"

def refusalLine (number : Nat) (address : Address) (value : BitVec w) (fault : BusFault) : String :=
  let target := Text.hexPadded 4 address.toNat
  s!"line {number}: write {Text.hex value.toNat} to {target} rejected: {fault.message}"

def Progress.perform (p : Progress) (line : Script.Line) : Effect :=
  match line.instruction with
  | .read w address =>
    let reply := p.session.read w address
    { progress := { p with reads := p.reads + 1 }
      output := [readLine line.number address reply.result]
      records := reply.records }
  | .write w address value =>
    let (session, reply) := p.session.write w address value
    let written := { p with session, writes := p.writes + 1 }
    match reply.result with
    | .ok () => { progress := written, records := reply.records }
    | .error fault =>
      { progress := { written with rejected := p.rejected + 1 }
        output := [refusalLine line.number address value fault]
        records := reply.records }
  | .complete =>
    let (session, outcomes) := p.session.completeAll
    { progress := { p with session }, records := outcomes.flatMap (·.records) }

section

variable {p : Progress} {line : Script.Line} {w : Width} {address : Address}
  {value : BitVec w.bits}

theorem Progress.perform_of_complete (h : line.instruction = .complete) :
    p.perform line =
      { progress := { p with session := p.session.completeAll.1 }
        records := p.session.completeAll.2.flatMap (·.records) } := by
  simp only [perform, h]

theorem Progress.perform_of_ok (h : line.instruction = .write w address value)
    (ok : (p.session.write w address value).2.result = .ok ()) :
    p.perform line =
      { progress :=
          { p with session := (p.session.write w address value).1, writes := p.writes + 1 }
        records := (p.session.write w address value).2.records } := by
  simp only [perform, h, ok]

theorem Progress.perform_of_error {fault : BusFault}
    (h : line.instruction = .write w address value)
    (refused : (p.session.write w address value).2.result = .error fault) :
    p.perform line =
      { progress :=
          { p with
            session := (p.session.write w address value).1
            writes := p.writes + 1
            rejected := p.rejected + 1 }
        output := [refusalLine line.number address value fault]
        records := (p.session.write w address value).2.records } := by
  simp only [perform, h, refused]

end

inductive Fault
  | script (fault : Script.LineFault)
  | outputFull
  deriving DecidableEq

def Fault.chain : Fault → List String
  | .script fault => fault.chain
  | .outputFull => [Sink.fullMessage]

structure Report where
  output : String
  summary : Summary
  deriving DecidableEq

/-- The effects are those of the lines performed: all of them, or those up to the line whose output
did not fit. -/
structure Run where
  result : Except Fault Report
  effects : List Effect

def Run.records (run : Run) : List Record := run.effects.flatMap (·.records)

def performLines (p : Progress) (sink : Sink) : List Script.Line → Run
  | [] => ⟨.ok ⟨sink.text, p.summary⟩, []⟩
  | line :: rest =>
    let effect := p.perform line
    match sink.putLines effect.output with
    | none => ⟨.error .outputFull, [effect]⟩
    | some sink =>
      let run := performLines effect.progress sink rest
      { run with effects := effect :: run.effects }

end Replay

def replay (settings : Settings) (deferring : Bool) (limit : Option Nat) (script : String) :
    Replay.Run :=
  match Script.parse script with
  | .error fault => ⟨.error (.script fault), []⟩
  | .ok lines => Replay.performLines (.start settings deferring) { limit } lines

end GraphicsBlock

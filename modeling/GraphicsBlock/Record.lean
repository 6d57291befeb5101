import GraphicsBlock.Bus.Fault
import GraphicsBlock.Bus.Lane
import GraphicsBlock.Job

namespace GraphicsBlock

inductive Level
  | error
  | warn
  | info
  | debug
  | trace
  deriving DecidableEq

namespace Level

def all : List Level := [.error, .warn, .info, .debug, .trace]

def rank : Level → Nat
  | .error => 0
  | .warn => 1
  | .info => 2
  | .debug => 3
  | .trace => 4

def name : Level → String
  | .error => "ERROR"
  | .warn => "WARN"
  | .info => "INFO"
  | .debug => "DEBUG"
  | .trace => "TRACE"

end Level

inductive Record
  | read (width : Width) (address : Address) (value : BitVec width.bits)
  | write (width : Width) (address : Address) (value : BitVec width.bits)
  | stillRunning (engine : Engine)
  | rejected (engine : Engine) (fault : BusFault)
  | issued (call : Call)
  | received (call : Call)
  | completed (engine : Engine)
  deriving DecidableEq

namespace Record

def span (first last : Address) : String :=
  s!"{Text.hexPadded 8 first.toNat}..{Text.hexPadded 8 last.toNat}"

def level : Record → Level
  | .read .. | .write .. => .trace
  | .stillRunning _ | .rejected .. => .warn
  | .issued (.swap ..) => .debug
  | .issued _ => .info
  | .received _ => .info
  | .completed _ => .debug

def issuedMessage : Call → String
  | .fill job =>
    let target := span job.startAddress job.endAddress
    s!"gpu: {(Engine.fill job.unit).name} launched {target} {job.pattern.outline.render}"
  | .transfer job =>
    let input := Text.hexPadded 8 job.inputAddress.toNat
    let output := Text.hexPadded 8 job.outputAddress.toNat
    s!"gpu: {Engine.transfer.name} launched {input} -> {output} {job.kind.outline.render}"
  | .commandList job =>
    let address := Text.hexPadded 8 job.address.toNat
    s!"gpu: {Engine.commandList.name} launched {address} ({job.sizeBytes.toNat} bytes)"
  | .swap unit scanout =>
    let left := Text.hexPadded 8 scanout.leftAddress.toNat
    s!"gpu: framebuffer {unit.toNat} now scanning set {scanout.set + 1} at {left}"

def receivedMessage : Call → String
  | .fill job =>
    let target := span job.startAddress job.endAddress
    s!"fill unit {job.unit.toNat}: {target} with {job.pattern.outline.render}"
  | .transfer job =>
    let input := Text.hexPadded 8 job.inputAddress.toNat
    let output := Text.hexPadded 8 job.outputAddress.toNat
    s!"transfer {input} -> {output}: {job.kind.outline.render}"
  | .commandList job =>
    s!"command list at {Text.hexPadded 8 job.address.toNat}, {job.sizeBytes.toNat} bytes"
  | .swap unit scanout =>
    let left := Text.hexPadded 8 scanout.leftAddress.toNat
    let right := Text.hexPadded 8 scanout.rightAddress.toNat
    s!"framebuffer {unit.toNat} scanning set {scanout.set + 1} (left {left}, right {right})"

def message : Record → String
  | .read width address value =>
    s!"gpu: read{width.bits} {Text.hexPadded 4 address.toNat} -> {Text.hex value.toNat}"
  | .write width address value =>
    s!"gpu: write{width.bits} {Text.hexPadded 4 address.toNat} <- {Text.hex value.toNat}"
  | .stillRunning engine => s!"gpu: rejected trigger, {engine.name} still running"
  | .rejected engine fault => s!"gpu: {engine.name} rejected: {fault.message}"
  | .issued call => issuedMessage call
  | .received call => receivedMessage call
  | .completed engine => s!"gpu: {engine.name} complete"

/-- A level admits the records of its own rank and of the more severe ones. -/
def isAdmitted (limit : Level) (r : Record) : Bool := r.level.rank ≤ limit.rank

def line (r : Record) : String := s!"{r.level.name} {r.message}"

end Record

end GraphicsBlock

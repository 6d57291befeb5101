import GraphicsBlock.Bank
import GraphicsBlock.Engine
import GraphicsBlock.Settings

namespace GraphicsBlock

inductive FillPattern
  | half (value : BitVec 16)
  | bytes (red green blue : BitVec 8)
  | full (value : Word)
  deriving DecidableEq

namespace FillPattern

def elementBytes : FillPattern → Nat
  | .half _ => 2
  | .bytes _ _ _ => 3
  | .full _ => 4

def outline : FillPattern → Text.Outline
  | .half value => .tuple "Bits16" [.nat value.toNat]
  | .bytes red green blue =>
    .tuple "Bits24" [.list [.nat red.toNat, .nat green.toNat, .nat blue.toNat]]
  | .full value => .tuple "Bits32" [.nat value.toNat]

end FillPattern

structure FillJob where
  unit : UnitId
  startAddress : Address
  endAddress : Address
  pattern : FillPattern
  deriving DecidableEq

structure FormatConversion where
  inputFormat : PixelFormat
  outputFormat : PixelFormat
  inputSize : Dimensions
  outputSize : Dimensions
  scaledSize : Dimensions
  deriving DecidableEq

structure LineCopy where
  totalBytes : Word
  input : LineLayout
  output : LineLayout
  deriving DecidableEq

inductive TransferKind
  | convert (conversion : FormatConversion)
  | copy (copy : LineCopy)
  deriving DecidableEq

def FormatConversion.outline (c : FormatConversion) : Text.Outline :=
  .record "FormatConversion"
    [("input_format", c.inputFormat.outline), ("output_format", c.outputFormat.outline),
      ("input_size", c.inputSize.outline), ("output_size", c.outputSize.outline),
      ("scaled_output_size", c.scaledSize.outline)]

def LineCopy.outline (c : LineCopy) : Text.Outline :=
  .record "TextureCopy"
    [("total_bytes", .nat c.totalBytes.toNat), ("input", c.input.outline),
      ("output", c.output.outline)]

def TransferKind.outline : TransferKind → Text.Outline
  | .convert c => .tuple "Convert" [c.outline]
  | .copy c => .tuple "TextureCopy" [c.outline]

structure TransferJob where
  inputAddress : Address
  outputAddress : Address
  flags : TransferFlags
  flipAxis : FlipAxis
  kind : TransferKind
  deriving DecidableEq

structure ListJob where
  address : Address
  sizeBytes : Word
  deriving DecidableEq

structure Scanout where
  set : Nat
  leftAddress : Address
  rightAddress : Address
  stride : Word
  size : Dimensions
  format : FramebufferFormat
  deriving DecidableEq

/-- One notice to the executor: a job for an engine, or a swap that has already happened. -/
inductive Call
  | fill (job : FillJob)
  | transfer (job : TransferJob)
  | commandList (job : ListJob)
  | swap (unit : UnitId) (scanout : Scanout)
  deriving DecidableEq

def Call.engine? : Call → Option Engine
  | .fill job => some (.fill job.unit)
  | .transfer _ => some .transfer
  | .commandList _ => some .commandList
  | .swap _ _ => none

inductive FillWidth
  | half
  | bytes
  | full
  deriving DecidableEq

def FillControl.width? (mode : FillMode) (c : FillControl) : Option FillWidth :=
  match c.get .fill24, c.get .fill32, mode with
  | true, false, _ => some .bytes
  | false, true, _ => some .full
  | false, false, .zeroSelects16 => some .half
  | _, _, _ => none

def FillValue.pattern (order : ByteOrder) (v : FillValue) : FillWidth → FillPattern
  | .half => .half v.half
  | .bytes =>
    match order with
    | .rgb => .bytes (v.component .red) (v.component .green) (v.component .blue)
    | .bgr => .bytes (v.component .blue) (v.component .green) (v.component .red)
  | .full => .full v.raw

def FillBank.job (order : ByteOrder) (unit : UnitId) (b : FillBank) (width : FillWidth) : FillJob :=
  ⟨unit, b.startAddress, b.endAddress, b.value.pattern order width⟩

namespace TransferBank

def lineCopy (b : TransferBank) : LineCopy :=
  ⟨b.totalBytes, b.inputLine.layout, b.outputLine.layout⟩

/-- Of two bad formats the input's is reported. -/
def conversion? (scaling : Scaling) (b : TransferBank) :
    Except RegisterFault FormatConversion := do
  let inputFormat ← b.flags.inputFormat
  let outputFormat ← b.flags.outputFormat
  let outputSize := b.outputSize.dimensions
  pure ⟨inputFormat, outputFormat, b.inputSize.dimensions, outputSize,
    scaling.apply outputSize (b.flags.code .scalingMode)⟩

def kind? (scaling : Scaling) (b : TransferBank) : Except RegisterFault TransferKind :=
  if b.flags.get .isRawCopy then .ok (.copy b.lineCopy)
  else (b.conversion? scaling).map .convert

def job? (settings : Settings) (b : TransferBank) : Except RegisterFault TransferJob :=
  (b.kind? settings.scaling).map fun kind =>
    ⟨b.inputAddress, b.outputAddress, b.flags, settings.flipAxis, kind⟩

end TransferBank

def CommandBank.job (b : CommandBank) : ListJob := ⟨b.address, b.sizeBytes⟩

def ScreenBank.scanout (b : ScreenBank) : Scanout :=
  ⟨b.select.activeSet, b.leftAddress, b.rightAddress, b.stride, b.size.dimensions, b.format⟩

end GraphicsBlock

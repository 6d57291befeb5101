import GraphicsBlock.Pixel

namespace GraphicsBlock

structure TransferFlags where
  raw : Word
  deriving DecidableEq

namespace TransferFlags

inductive Flag
  | flipData
  | convertToTiled
  | isRawCopy
  | disableUntiling
  | outputTiled
  deriving DecidableEq

def Flag.field : Flag → BitField
  | .flipData => .mk 0 1
  | .convertToTiled => .mk 1 1
  | .isRawCopy => .mk 3 1
  | .disableUntiling => .mk 5 1
  | .outputTiled => .mk 16 1

inductive Code
  | inputFormat
  | outputFormat
  | scalingMode
  deriving DecidableEq

def Code.field : Code → BitField
  | .inputFormat => .mk 8 3
  | .outputFormat => .mk 12 3
  | .scalingMode => .mk 24 2

def get (f : TransferFlags) (flag : Flag) : Bool := flag.field.isSet f.raw

def set (f : TransferFlags) (flag : Flag) (value : Bool) : TransferFlags :=
  ⟨flag.field.withFlag f.raw value⟩

def code (f : TransferFlags) (c : Code) : Word := c.field.extract f.raw

/-- A code too large for its field is refused. -/
def setCode (f : TransferFlags) (c : Code) (value : Word) : Except RegisterFault TransferFlags :=
  (c.field.insert f.raw value).map .mk

@[simp] theorem get_set_self (f : TransferFlags) (flag : Flag) (value : Bool) :
    (f.set flag value).get flag = value :=
  BitField.isSet_withFlag ..

theorem get_set_of_ne (f : TransferFlags) {flag other : Flag} (h : flag ≠ other) (value : Bool) :
    (f.set flag value).get other = f.get other := by
  apply BitField.isSet_withFlag_of_disjoint
  cases flag <;> cases other <;> first | contradiction | decide

theorem code_set (f : TransferFlags) (flag : Flag) (value : Bool) (c : Code) :
    (f.set flag value).code c = f.code c := by
  apply BitField.extract_deposit_of_disjoint
  cases flag <;> cases c <;> decide

theorem Flag.width_field (flag : Flag) : flag.field.width = 1 := by
  cases flag <;> rfl

theorem get_eq_getLsbD (f : TransferFlags) (flag : Flag) :
    f.get flag = f.raw.getLsbD flag.field.offset :=
  BitField.isSet_eq_getLsbD flag.width_field _

theorem toNat_code (f : TransferFlags) (c : Code) :
    (f.code c).toNat = (f.raw.extractLsb' c.field.offset c.field.width).toNat :=
  BitField.toNat_extract ..

def inputFormat (f : TransferFlags) : Except RegisterFault PixelFormat :=
  PixelFormat.ofCode? (f.code .inputFormat)

def outputFormat (f : TransferFlags) : Except RegisterFault PixelFormat :=
  PixelFormat.ofCode? (f.code .outputFormat)

def outline (f : TransferFlags) : Text.Outline :=
  .record "TransferFlags"
    [("flip_data", .bool (f.get .flipData)), ("convert_to_tiled", .bool (f.get .convertToTiled)),
      ("is_raw_copy", .bool (f.get .isRawCopy)),
      ("disable_untiling", .bool (f.get .disableUntiling)),
      ("input_format", .nat (f.code .inputFormat).toNat),
      ("output_format", .nat (f.code .outputFormat).toNat),
      ("output_tiled", .bool (f.get .outputTiled)),
      ("scaling_mode", .nat (f.code .scalingMode).toNat)]

end TransferFlags

end GraphicsBlock

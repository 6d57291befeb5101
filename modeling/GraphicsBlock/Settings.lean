import GraphicsBlock.Text.Blank
import GraphicsBlock.Text.Quoted
import GraphicsBlock.Words.Size

namespace GraphicsBlock

class Knob (α : Type) where
  title : String
  all : List α
  name : α → String
  label : α → String

structure UnknownValue where
  title : String
  text : String
  names : List String
  deriving DecidableEq

def UnknownValue.message (u : UnknownValue) : String :=
  let names := String.join (u.names.map (· ++ " "))
  s!"unknown {u.title} value {Text.quote u.text} (expected one of: {names})"

namespace Knob

def names (α : Type) [Knob α] : List String := (all (α := α)).map name

def normalize (text : String) : String := String.ofList (Text.lower (Text.trim text.toList))

def parse (α : Type) [Knob α] (text : String) : Except UnknownValue α :=
  match all.find? (name · == normalize text) with
  | some value => .ok value
  | none => .error ⟨title α, text, names α⟩

def outline [Knob α] (value : α) : Text.Outline := .plain (label value)

end Knob

/-- Whether a fill with neither width bit is refused or is 16 bits wide. -/
inductive FillMode
  | strict
  | zeroSelects16
  deriving DecidableEq

instance : Knob FillMode where
  title := "fill mode"
  all := [.strict, .zeroSelects16]
  name
    | .strict => "strict"
    | .zeroSelects16 => "zero-selects-16bit"
  label
    | .strict => "Strict"
    | .zeroSelects16 => "ZeroSelects16Bit"

inductive ByteOrder
  | rgb
  | bgr
  deriving DecidableEq

instance : Knob ByteOrder where
  title := "fill24 order"
  all := [.rgb, .bgr]
  name
    | .rgb => "rgb"
    | .bgr => "bgr"
  label
    | .rgb => "Rgb"
    | .bgr => "Bgr"

inductive FlipAxis
  | horizontal
  | vertical
  deriving DecidableEq

instance : Knob FlipAxis where
  title := "flip axis"
  all := [.horizontal, .vertical]
  name
    | .horizontal => "horizontal"
    | .vertical => "vertical"
  label
    | .horizontal => "Horizontal"
    | .vertical => "Vertical"

inductive Scaling
  | unscaled
  | halveOutput
  deriving DecidableEq

instance : Knob Scaling where
  title := "scaling"
  all := [.unscaled, .halveOutput]
  name
    | .unscaled => "unscaled"
    | .halveOutput => "halve-output"
  label
    | .unscaled => "Unscaled"
    | .halveOutput => "HalveOutput"

/-- Mode 1 halves the width, modes above it halve both sides. -/
def Scaling.apply (s : Scaling) (output : Dimensions) (mode : Word) : Dimensions :=
  match s with
  | .unscaled => output
  | .halveOutput =>
    if mode = 0 then output
    else if mode = 1 then ⟨output.width / 2, output.height⟩
    else ⟨output.width / 2, output.height / 2⟩

structure Settings where
  fillMode : FillMode := .strict
  byteOrder : ByteOrder := .rgb
  flipAxis : FlipAxis := .horizontal
  scaling : Scaling := .unscaled
  deriving DecidableEq

namespace Settings

/-- Knob texts, where a missing one stands for the first reading. The first bad one is reported. -/
def parse (fillMode byteOrder flipAxis scaling : Option String) :
    Except UnknownValue Settings := do
  let fillMode ← fillMode.mapM (Knob.parse FillMode)
  let byteOrder ← byteOrder.mapM (Knob.parse ByteOrder)
  let flipAxis ← flipAxis.mapM (Knob.parse FlipAxis)
  let scaling ← scaling.mapM (Knob.parse Scaling)
  pure ⟨fillMode.getD .strict, byteOrder.getD .rgb, flipAxis.getD .horizontal,
    scaling.getD .unscaled⟩

def outline (s : Settings) : Text.Outline :=
  .record "GpuConfig"
    [("fill_mode_policy", Knob.outline s.fillMode), ("fill24_order", Knob.outline s.byteOrder),
      ("flip_axis", Knob.outline s.flipAxis), ("scaling", Knob.outline s.scaling)]

end Settings

end GraphicsBlock

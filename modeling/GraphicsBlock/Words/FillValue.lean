import GraphicsBlock.BitField

namespace GraphicsBlock

structure FillValue where
  raw : Word
  deriving DecidableEq

namespace FillValue

def halfField : BitField := .mk 0 16

inductive Component
  | red
  | green
  | blue
  deriving DecidableEq

def Component.field : Component → BitField
  | .red => .mk 0 8
  | .green => .mk 8 8
  | .blue => .mk 16 8

def half (v : FillValue) : BitVec 16 := (halfField.extract v.raw).setWidth 16

def component (v : FillValue) (c : Component) : BitVec 8 := (c.field.extract v.raw).setWidth 8

theorem half_eq (v : FillValue) : v.half = v.raw.extractLsb' 0 16 :=
  BitField.setWidth_extract (f := halfField) (by decide) _

theorem component_eq (v : FillValue) (c : Component) :
    v.component c = v.raw.extractLsb' c.field.offset 8 :=
  BitField.setWidth_extract (f := c.field) (by cases c <;> decide) _

def setHalf (v : FillValue) (value : BitVec 16) : FillValue :=
  ⟨halfField.deposit v.raw (value.setWidth 32)⟩

def setComponent (v : FillValue) (c : Component) (value : BitVec 8) : FillValue :=
  ⟨c.field.deposit v.raw (value.setWidth 32)⟩

def setComponents (v : FillValue) (red green blue : BitVec 8) : FillValue :=
  ((v.setComponent .red red).setComponent .green green).setComponent .blue blue

def outline (v : FillValue) : Text.Outline :=
  .record "MemoryFillValue" [("value_32bit", .plain (Text.hexPadded 8 v.raw.toNat))]

end FillValue

end GraphicsBlock

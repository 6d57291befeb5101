import GraphicsBlock.BitField

namespace GraphicsBlock

structure Dimensions where
  width : Word
  height : Word
  deriving DecidableEq

def Dimensions.outline (d : Dimensions) : Text.Outline :=
  .record "Dimensions" [("width", .nat d.width.toNat), ("height", .nat d.height.toNat)]

def lowHalf : BitField := .mk 0 16

def highHalf : BitField := .mk 16 16

def ofHalves (low high : BitVec 16) : Word :=
  highHalf.deposit (lowHalf.deposit 0 (low.setWidth 32)) (high.setWidth 32)

structure Extent where
  raw : Word
  deriving DecidableEq

namespace Extent

def ofSizes (width height : BitVec 16) : Extent := ⟨ofHalves width height⟩

def width (e : Extent) : BitVec 16 := (lowHalf.extract e.raw).setWidth 16

def height (e : Extent) : BitVec 16 := (highHalf.extract e.raw).setWidth 16

def setWidth (e : Extent) (value : BitVec 16) : Extent :=
  ⟨lowHalf.deposit e.raw (value.setWidth 32)⟩

def setHeight (e : Extent) (value : BitVec 16) : Extent :=
  ⟨highHalf.deposit e.raw (value.setWidth 32)⟩

def dimensions (e : Extent) : Dimensions := ⟨e.width.setWidth 32, e.height.setWidth 32⟩

theorem dimensions_eq (e : Extent) :
    e.dimensions = ⟨(e.raw.extractLsb' 0 16).setWidth 32, (e.raw.extractLsb' 16 16).setWidth 32⟩ := by
  rw [dimensions, width, height, BitField.setWidth_extract (by decide),
    BitField.setWidth_extract (by decide)]
  rfl

theorem toNat_width_dimensions (e : Extent) :
    e.dimensions.width.toNat = (e.raw.extractLsb' 0 16).toNat := by
  rw [dimensions_eq, BitVec.toNat_setWidth_of_le (by decide)]

theorem toNat_height_dimensions (e : Extent) :
    e.dimensions.height.toNat = (e.raw.extractLsb' 16 16).toNat := by
  rw [dimensions_eq, BitVec.toNat_setWidth_of_le (by decide)]

def outline (e : Extent) : Text.Outline :=
  .record "SizeReg" [("width", .nat e.width.toNat), ("height", .nat e.height.toNat)]

end Extent

structure LineLayout where
  bytesPerLine : Word
  paddingBytesPerLine : Word
  deriving DecidableEq

namespace LineLayout

def totalBytesPerLine (l : LineLayout) : Word := l.bytesPerLine + l.paddingBytesPerLine

def outline (l : LineLayout) : Text.Outline :=
  .record "LineLayout"
    [("bytes_per_line", .nat l.bytesPerLine.toNat),
      ("padding_bytes_per_line", .nat l.paddingBytesPerLine.toNat)]

end LineLayout

/-- A line's length in the low half and its padding in the high half, in units of 16 bytes. -/
structure LineSize where
  raw : Word
  deriving DecidableEq

namespace LineSize

def ofSizes (size padding : BitVec 16) : LineSize := ⟨ofHalves size padding⟩

def size (l : LineSize) : Word := lowHalf.extract l.raw

def padding (l : LineSize) : Word := highHalf.extract l.raw

def bytesPerLine (l : LineSize) : Word := l.size * 16#32

def paddingBytesPerLine (l : LineSize) : Word := l.padding * 16#32

def totalBytesPerLine (l : LineSize) : Word := l.bytesPerLine + l.paddingBytesPerLine

def layout (l : LineSize) : LineLayout := ⟨l.bytesPerLine, l.paddingBytesPerLine⟩

theorem toNat_bytesPerLine (l : LineSize) :
    l.bytesPerLine.toNat = 16 * (l.raw.extractLsb' 0 16).toNat := by
  have size : l.size.toNat = (l.raw.extractLsb' 0 16).toNat := BitField.toNat_extract ..
  have bound := (l.raw.extractLsb' 0 16).isLt
  rw [bytesPerLine, BitVec.toNat_mul, size, BitVec.toNat_ofNat]
  omega

theorem toNat_paddingBytesPerLine (l : LineSize) :
    l.paddingBytesPerLine.toNat = 16 * (l.raw.extractLsb' 16 16).toNat := by
  have padding : l.padding.toNat = (l.raw.extractLsb' 16 16).toNat := BitField.toNat_extract ..
  have bound := (l.raw.extractLsb' 16 16).isLt
  rw [paddingBytesPerLine, BitVec.toNat_mul, padding, BitVec.toNat_ofNat]
  omega

theorem toNat_totalBytesPerLine (l : LineSize) :
    l.totalBytesPerLine.toNat =
      16 * ((l.raw.extractLsb' 0 16).toNat + (l.raw.extractLsb' 16 16).toNat) := by
  have bound := (l.raw.extractLsb' 0 16).isLt
  have bound' := (l.raw.extractLsb' 16 16).isLt
  rw [totalBytesPerLine, BitVec.toNat_add, toNat_bytesPerLine, toNat_paddingBytesPerLine]
  omega

def outline (l : LineSize) : Text.Outline :=
  .record "LineSizeReg"
    [("bytes_per_line", .nat l.bytesPerLine.toNat),
      ("padding_bytes_per_line", .nat l.paddingBytesPerLine.toNat)]

end LineSize

end GraphicsBlock

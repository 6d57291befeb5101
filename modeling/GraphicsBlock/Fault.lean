import GraphicsBlock.Word
import GraphicsBlock.Text.Hex

namespace GraphicsBlock

inductive RegisterFault
  | outOfRange (index : Nat)
  | fieldOverflow (value : Word) (width : Nat)
  | badGeometry (offset width : Word)
  | undefinedFormat (code : Word)
  deriving DecidableEq

def RegisterFault.message : RegisterFault → String
  | .outOfRange index =>
    s!"register index {Text.hex index} is outside the register file (0..{Text.hex wordCount})"
  | .fieldOverflow value width =>
    s!"value {Text.hex value.toNat} does not fit in a {width}-bit field"
  | .badGeometry offset width =>
    s!"field at bit {offset.toNat} with width {width.toNat} does not fit in a 32-bit word"
  | .undefinedFormat code => s!"pixel format code {code.toNat} is undefined"

/-- A field declared with bounds outside the word: a defect of the declaration, not of an access. -/
inductive DeclarationFault
  | outsideWord
  deriving DecidableEq

def DeclarationFault.message : DeclarationFault → String
  | .outsideWord => "field must fit in a u32"

end GraphicsBlock

import GraphicsBlock.Map

namespace GraphicsBlock.Map

def row (region word byte physical bytes : String) : String :=
  " ".intercalate [Text.padRight 26 region, Text.padLeft 7 word, Text.padLeft 7 byte,
    Text.padLeft 11 physical, Text.padLeft 6 bytes]

def regionRow (r : Region) : String :=
  row r.name (Text.hex r.offset) (Text.hex r.byteOffset)
    (Text.hex (physicalBase.toNat + r.byteOffset)) (Text.hex r.byteSize)

def title : String :=
  let base := Text.hexPadded 8 physicalBase.toNat
  s!"register file: {Text.hex wordCount} words ({windowBytes} bytes) at {base}"

def listing : List String :=
  [title, row "region" "word" "byte" "physical" "bytes"] ++ Region.all.map regionRow

end GraphicsBlock.Map

namespace GraphicsBlock.Text

def hexDigits (n : Nat) : String := String.ofList (Nat.toDigits 16 n)

def hex (n : Nat) : String := "0x" ++ hexDigits n

def hexPadded (digits n : Nat) : String :=
  "0x" ++ String.ofList ((Nat.toDigits 16 n).leftpad digits '0')

def padLeft (width : Nat) (s : String) : String := String.ofList (s.toList.leftpad width ' ')

def padRight (width : Nat) (s : String) : String := String.ofList (s.toList.rightpad width ' ')

example : hexPadded 8 0x1EF00000 = "0x1ef00000" := by decide +kernel
example : hexPadded 4 0x1c = "0x001c" := by decide +kernel
example : hexPadded 4 0x12345 = "0x12345" := by decide +kernel
example : padLeft 7 (hex 0x117) = "  0x117" := by decide +kernel

end GraphicsBlock.Text

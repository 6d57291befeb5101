import GraphicsBlock.Text.Characters
import GraphicsBlock.Text.Hex

namespace GraphicsBlock.Text

def escapeCode (c : Char) : List Char :=
  ['\\', 'u', '\x7b'] ++ Nat.toDigits 16 c.toNat ++ ['\x7d']

def escape (c : Char) : List Char :=
  match c with
  | '"' => ['\\', '"']
  | '\\' => ['\\', '\\']
  | '\n' => ['\\', 'n']
  | '\r' => ['\\', 'r']
  | '\t' => ['\\', 't']
  | '\x00' => ['\\', '0']
  | c => if !extendsGrapheme c && isPrintable c then [c] else escapeCode c

def quote (s : String) : String := String.ofList ('"' :: s.toList.flatMap escape ++ ['"'])

example : quote "a'b\"\n" = "\"a'b\\\"\\n\"" := by decide +kernel
example : quote "\uFEFFr\u05B0\u0378" = "\"\\u\x7bfeff\x7dr\\u\x7b5b0\x7d\\u\x7b378\x7d\"" := by
  decide +kernel

end GraphicsBlock.Text

import GraphicsBlock.Word

namespace GraphicsBlock.Text

inductive Radix
  | decimal
  | hexadecimal
  deriving DecidableEq

def Radix.base : Radix → Nat
  | .decimal => 10
  | .hexadecimal => 16

def digitValue? (r : Radix) (c : Char) : Option Nat :=
  if '0' ≤ c ∧ c ≤ '9' then some (c.toNat - '0'.toNat)
  else match r with
    | .decimal => none
    | .hexadecimal =>
      if 'a' ≤ c ∧ c ≤ 'f' then some (c.toNat - 'a'.toNat + 10)
      else if 'A' ≤ c ∧ c ≤ 'F' then some (c.toNat - 'A'.toNat + 10)
      else none

inductive NumeralFault
  | empty
  | badDigit
  | tooLarge
  deriving DecidableEq

def NumeralFault.message : NumeralFault → String
  | .empty => "cannot parse integer from empty string"
  | .badDigit => "invalid digit found in string"
  | .tooLarge => "number too large to fit in target type"

def readDigits (r : Radix) (value : Nat) : List Char → Except NumeralFault Nat
  | [] => .ok value
  | c :: s =>
    match digitValue? r c with
    | none => .error .badDigit
    | some d =>
      let next := value * r.base + d
      if next < 0x100000000 then readDigits r next s else .error .tooLarge

def dropSign : List Char → List Char
  | '+' :: c :: s => c :: s
  | s => s

def readUnsigned (r : Radix) (s : List Char) : Except NumeralFault Nat :=
  if s = [] then .error .empty else readDigits r 0 (dropSign s)

def splitRadix : List Char → Radix × List Char
  | '0' :: 'x' :: s => (.hexadecimal, s)
  | '0' :: 'X' :: s => (.hexadecimal, s)
  | s => (.decimal, s)

/-- Underscores may stand anywhere after the mark. -/
def readNumeral (s : List Char) : Except NumeralFault Word :=
  let (r, digits) := splitRadix s
  (readUnsigned r (digits.filter (· != '_'))).map (BitVec.ofNat 32)

example : readNumeral "0x_+5".toList = .ok 5#32 := by cbv
example : readNumeral "+0x5".toList = .error .badDigit := by cbv
example : readNumeral "0x".toList = .error .empty := by cbv
example : readNumeral "42949672961z".toList = .error .tooLarge := by cbv

end GraphicsBlock.Text

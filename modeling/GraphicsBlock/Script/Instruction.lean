import GraphicsBlock.Bus.Lane
import GraphicsBlock.Text.Numeral
import GraphicsBlock.Text.Quoted

namespace GraphicsBlock.Script

inductive Instruction
  | read (width : Width) (address : Address)
  | write (width : Width) (address : Address) (value : BitVec width.bits)
  | complete
  deriving DecidableEq

structure Line where
  number : Nat
  instruction : Instruction
  deriving DecidableEq

inductive Verb
  | complete
  | read (width : Width)
  | write (width : Width)
  deriving DecidableEq

namespace Verb

def all : List Verb := .complete :: Width.all.map .read ++ Width.all.map .write

def name : Verb → String
  | .complete => "complete"
  | .read .byte => "r8"
  | .read .half => "r16"
  | .read .full => "r32"
  | .write .byte => "w8"
  | .write .half => "w16"
  | .write .full => "w32"

def operands : Verb → Nat
  | .complete => 0
  | .read _ => 1
  | .write _ => 2

def ofName? (name : List Char) : Option Verb := all.find? (·.name.toList == name)

@[simp] theorem ofName?_name (v : Verb) : ofName? v.name.toList = some v := by
  rcases v with _ | w | w
  · decide +kernel
  · cases w <;> decide +kernel
  · cases w <;> decide +kernel

end Verb

inductive Fault
  | badNumeral (token : String) (fault : Text.NumeralFault)
  | tooWide (value : Word) (width : Width)
  | operandCount (command : String) (expected given : Nat)
  | unknownCommand (command : String)
  deriving DecidableEq

def Fault.chain : Fault → List String
  | .badNumeral token fault => [s!"invalid number {Text.quote token}", fault.message]
  | .tooWide value width =>
    [s!"value {Text.hex value.toNat} does not fit in {width.bits} bits"]
  | .operandCount command expected given =>
    [s!"{command} takes {expected} operand(s), got {given}"]
  | .unknownCommand command => [s!"unknown command {Text.quote command}"]

structure LineFault where
  number : Nat
  text : String
  cause : Fault
  deriving DecidableEq

def LineFault.chain (f : LineFault) : List String :=
  s!"line {f.number}: {f.text}" :: f.cause.chain

end GraphicsBlock.Script

namespace GraphicsBlock

structure Sink where
  limit : Option Nat
  text : String := ""
  deriving DecidableEq

namespace Sink

def fullMessage : String := "output full"

def admits (s : Sink) (size : Nat) : Bool := s.limit.all (size ≤ ·)

def put (s : Sink) (piece : String) : Option Sink :=
  let text := s.text ++ piece
  if s.admits text.utf8ByteSize then some { s with text } else none

def putLine (s : Sink) (line : String) : Option Sink := s.put (line ++ "\n")

def putLines (s : Sink) : List String → Option Sink
  | [] => some s
  | line :: lines => (s.putLine line).bind (·.putLines lines)

end Sink

end GraphicsBlock

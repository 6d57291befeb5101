import GraphicsBlock.Engine

namespace GraphicsBlock

inductive BusFault
  | register (fault : RegisterFault)
  | invalidFillMode (fill24 fill32 : Bool)
  | inProgress (engine : Engine)
  deriving DecidableEq

def BusFault.message : BusFault → String
  | .register fault => fault.message
  | .invalidFillMode fill24 fill32 =>
    s!"invalid fill mode: fill_24bit={fill24}, fill_32bit={fill32}"
  | .inProgress engine => s!"{engine.name} is already in progress"

end GraphicsBlock

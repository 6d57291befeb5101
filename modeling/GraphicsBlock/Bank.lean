import GraphicsBlock.RegisterFile
import GraphicsBlock.Words.Control
import GraphicsBlock.Words.FillValue
import GraphicsBlock.Words.Size
import GraphicsBlock.Words.TransferFlags

namespace GraphicsBlock

structure FillBank where
  startRaw : Word
  endRaw : Word
  value : FillValue
  control : FillControl
  deriving DecidableEq

namespace FillBank

def startAddress (b : FillBank) : Address := Word.byteAddress b.startRaw

def endAddress (b : FillBank) : Address := Word.byteAddress b.endRaw

end FillBank

structure ScreenBank where
  size : Extent
  left1 : Word
  left2 : Word
  right1 : Word
  right2 : Word
  format : FramebufferFormat
  select : FramebufferSelect
  stride : Word
  deriving DecidableEq

namespace ScreenBank

def activeLeft (b : ScreenBank) : Word := if b.select.second then b.left2 else b.left1

def activeRight (b : ScreenBank) : Word := if b.select.second then b.right2 else b.right1

def leftAddress (b : ScreenBank) : Address := Word.byteAddress b.activeLeft

def rightAddress (b : ScreenBank) : Address := Word.byteAddress b.activeRight

end ScreenBank

structure TransferBank where
  inputRaw : Word
  outputRaw : Word
  outputSize : Extent
  inputSize : Extent
  flags : TransferFlags
  trigger : Word
  totalBytes : Word
  inputLine : LineSize
  outputLine : LineSize
  deriving DecidableEq

namespace TransferBank

def inputAddress (b : TransferBank) : Address := Word.byteAddress b.inputRaw

def outputAddress (b : TransferBank) : Address := Word.byteAddress b.outputRaw

end TransferBank

structure CommandBank where
  size : Word
  addressRaw : Word
  trigger : CommandTrigger
  deriving DecidableEq

namespace CommandBank

/-- The size register counts units of eight bytes; the product wraps. -/
def sizeBytes (b : CommandBank) : Word := b.size * 8#32

def address (b : CommandBank) : Address := Word.byteAddress b.addressRaw

end CommandBank

namespace RegisterFile

def fillBank (file : RegisterFile) (unit : UnitId) : FillBank where
  startRaw := file.register (.fill unit .startAddress)
  endRaw := file.register (.fill unit .endAddress)
  value := ⟨file.register (.fill unit .value)⟩
  control := ⟨file.register (.fill unit .control)⟩

def screenBank (file : RegisterFile) (unit : UnitId) : ScreenBank where
  size := ⟨file.register (.screen unit .size)⟩
  left1 := file.register (.screen unit .left1)
  left2 := file.register (.screen unit .left2)
  right1 := file.register (.screen unit .right1)
  right2 := file.register (.screen unit .right2)
  format := ⟨file.register (.screen unit .format)⟩
  select := ⟨file.register (.screen unit .select)⟩
  stride := file.register (.screen unit .stride)

def transferBank (file : RegisterFile) : TransferBank where
  inputRaw := file.register (.transfer .inputAddress)
  outputRaw := file.register (.transfer .outputAddress)
  outputSize := ⟨file.register (.transfer .outputSize)⟩
  inputSize := ⟨file.register (.transfer .inputSize)⟩
  flags := ⟨file.register (.transfer .flags)⟩
  trigger := file.register (.transfer .trigger)
  totalBytes := file.register (.transfer .totalBytes)
  inputLine := ⟨file.register (.transfer .inputLine)⟩
  outputLine := ⟨file.register (.transfer .outputLine)⟩

def commandBank (file : RegisterFile) : CommandBank where
  size := file.register (.command .size)
  addressRaw := file.register (.command .address)
  trigger := ⟨file.register (.command .trigger)⟩

def fillBank? (file : RegisterFile) (unit : Nat) : Option FillBank :=
  (UnitId.ofNat? unit).map file.fillBank

def screenBank? (file : RegisterFile) (unit : Nat) : Option ScreenBank :=
  (UnitId.ofNat? unit).map file.screenBank

def setFill? (file : RegisterFile) (unit : Nat) (word : FillWord) (value : Word) :
    Option RegisterFile :=
  (UnitId.ofNat? unit).map fun u => file.setRegister (.fill u word) value

def setScreen? (file : RegisterFile) (unit : Nat) (word : ScreenWord) (value : Word) :
    Option RegisterFile :=
  (UnitId.ofNat? unit).map fun u => file.setRegister (.screen u word) value

end RegisterFile

end GraphicsBlock

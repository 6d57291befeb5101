import GraphicsBlock.Machine
import GraphicsBlock.Record

namespace GraphicsBlock

/-- A store of a word that is already merged, with the bits that the access covers. -/
structure Store where
  index : WordIndex
  merged : Word
  mask : Word

namespace Store

def touches (s : Store) (field : BitField) : Bool := s.mask &&& field.placedMask != 0

def written (s : Store) : Word := s.merged &&& s.mask

theorem touches_eq_getLsbD (s : Store) {field : BitField} (h : field.width = 1) :
    s.touches field = s.mask.getLsbD field.offset :=
  BitField.and_placedMask_ne_zero h _

end Store

/-- What a handler leaves behind, also where it fails: what it has stored by then stays stored, and
what it has logged stays logged. -/
structure Handled where
  machine : Machine
  result : Except BusFault (Option Call)
  records : List Record := []

namespace Machine

def fail (m : Machine) (fault : BusFault) : Handled := { machine := m, result := .error fault }

def writing (m : Machine) (index : Nat) (word : Word) (next : Machine → Handled) : Handled :=
  match m.file.write? index word with
  | .error fault => m.fail (.register fault)
  | .ok file => next { m with file }

def keep (m : Machine) (index : Nat) (word : Word) : Handled :=
  m.writing index word fun stored => { machine := stored, result := .ok none }

def ignore (m : Machine) : Handled := { machine := m, result := .ok none }

def missingUnit (m : Machine) (index : Nat) : Handled := m.fail (.register (.outOfRange index))

def refuseRunning (m : Machine) (e : Engine) : Handled :=
  { m.fail (.inProgress e) with records := [.stillRunning e] }

def reject (m : Machine) (e : Engine) (fault : BusFault) : Handled :=
  { m.fail fault with records := [.rejected e fault] }

def startEngine (m : Machine) (e : Engine) (index : Nat) (word : Word) (call : Call) : Handled :=
  m.writing index word fun stored =>
    { machine := { stored with activities := stored.activities.set e .busy }
      result := .ok (some call)
      records := [.issued call] }

/-- The merged control word. A processor may clear the finished bit and may not set it. -/
def mergedControl (old merged : Word) : FillControl :=
  (FillControl.mk merged).set .finished
    ((FillControl.mk old).get .finished && (FillControl.mk merged).get .finished)

def storeFillControl (settings : Settings) (m : Machine) (unit : UnitId) (s : Store) : Handled :=
  let control := mergedControl (m.file.get s.index) s.merged
  if m.isBusy (.fill unit) then
    if s.touches (FillControl.Flag.field .trigger) && control.get .trigger then
      m.refuseRunning (.fill unit)
    -- While a fill runs its trigger bit stays set.
    else m.keep s.index (control.set .trigger true).raw
  else if !control.get .trigger then m.keep s.index control.raw
  else
    match m.file.fillBank? unit.toNat with
    | none => m.missingUnit s.index
    | some bank =>
      match control.width? settings.fillMode with
      | none => m.reject (.fill unit) (.invalidFillMode (control.get .fill24) (control.get .fill32))
      | some width =>
        m.startEngine (.fill unit) s.index (control.set .finished false).raw
          (.fill (bank.job settings.byteOrder unit width))

def storeTransferTrigger (settings : Settings) (m : Machine) (s : Store) : Handled :=
  if m.isBusy .transfer then
    -- The engine alone clears the word of a running transfer.
    if s.written ≠ 0 then m.refuseRunning .transfer else m.ignore
  else if s.merged = 0 then m.keep s.index 0
  else
    match m.file.transferBank.job? settings with
    | .error fault => m.reject .transfer (.register fault)
    | .ok job => m.startEngine .transfer s.index s.merged (.transfer job)

def storeCommandTrigger (m : Machine) (s : Store) : Handled :=
  let fired := s.touches CommandTrigger.field && (CommandTrigger.mk s.merged).trigger
  if m.isBusy .commandList then
    if fired then m.refuseRunning .commandList else m.ignore
  else if !fired then m.keep s.index s.merged
  else m.startEngine .commandList s.index s.merged (.commandList m.file.commandBank.job)

def storeSelect (m : Machine) (unit : UnitId) (s : Store) : Handled :=
  m.writing s.index s.merged fun stored =>
    match stored.file.screenBank? unit.toNat with
    | none => stored.missingUnit s.index
    | some bank =>
      { machine := stored
        result := .ok (some (.swap unit bank.scanout))
        records := [.issued (.swap unit bank.scanout)] }

def dispatch (settings : Settings) (m : Machine) (s : Store) : Handled :=
  match Role.at s.index with
  | .trigger (.fill unit) => m.storeFillControl settings unit s
  | .trigger .transfer => m.storeTransferTrigger settings s
  | .trigger .commandList => m.storeCommandTrigger s
  | .select unit => m.storeSelect unit s
  | .plain => m.keep s.index s.merged

def writeLane (settings : Settings) (m : Machine) (w : Width) (address : Address)
    (value : BitVec w.bits) : Handled :=
  match wordIndex? address with
  | .error fault => m.fail (.register fault)
  | .ok i =>
    match m.file.read? i with
    | .error fault => m.fail (.register fault)
    | .ok old => m.dispatch settings ⟨i, mergeLane w address old value, laneMask w address⟩

def read (m : Machine) (w : Width) (address : Address) : Except BusFault (BitVec w.bits) :=
  match wordIndex? address with
  | .error fault => .error (.register fault)
  | .ok i => .ok (readLane w address (m.file.get i))

end Machine

end GraphicsBlock

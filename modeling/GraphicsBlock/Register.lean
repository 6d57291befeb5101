import GraphicsBlock.Map

namespace GraphicsBlock

inductive FillWord
  | startAddress
  | endAddress
  | value
  | control
  deriving DecidableEq

inductive ScreenWord
  | size
  | left1
  | left2
  | format
  | select
  | stride
  | right1
  | right2
  deriving DecidableEq

inductive TransferWord
  | inputAddress
  | outputAddress
  | outputSize
  | inputSize
  | flags
  | trigger
  | totalBytes
  | inputLine
  | outputLine
  deriving DecidableEq

inductive CommandWord
  | size
  | address
  | trigger
  deriving DecidableEq

def FillWord.position : FillWord → Nat
  | .startAddress => 0
  | .endAddress => 1
  | .value => 2
  | .control => 3

def ScreenWord.position : ScreenWord → Nat
  | .size => 0x0
  | .left1 => 0x3
  | .left2 => 0x4
  | .format => 0x5
  | .select => 0x7
  | .stride => 0xD
  | .right1 => 0xE
  | .right2 => 0xF

def TransferWord.position : TransferWord → Nat
  | .inputAddress => 0
  | .outputAddress => 1
  | .outputSize => 2
  | .inputSize => 3
  | .flags => 4
  | .trigger => 6
  | .totalBytes => 8
  | .inputLine => 9
  | .outputLine => 10

def CommandWord.position : CommandWord → Nat
  | .size => 0
  | .address => 2
  | .trigger => 4

def FillWord.all : List FillWord := [.startAddress, .endAddress, .value, .control]

def ScreenWord.all : List ScreenWord :=
  [.size, .left1, .left2, .format, .select, .stride, .right1, .right2]

def TransferWord.all : List TransferWord :=
  [.inputAddress, .outputAddress, .outputSize, .inputSize, .flags, .trigger, .totalBytes,
    .inputLine, .outputLine]

def CommandWord.all : List CommandWord := [.size, .address, .trigger]

inductive Register
  | fill (unit : UnitId) (word : FillWord)
  | screen (unit : UnitId) (word : ScreenWord)
  | transfer (word : TransferWord)
  | command (word : CommandWord)
  deriving DecidableEq

namespace Register

def region : Register → Region
  | .fill unit _ => .fill unit
  | .screen unit _ => .screen unit
  | .transfer _ => .transfer
  | .command _ => .command

def position : Register → Nat
  | .fill _ word => word.position
  | .screen _ word => word.position
  | .transfer word => word.position
  | .command word => word.position

theorem position_lt (r : Register) : r.position < r.region.words := by
  rcases r with ⟨_, w⟩ | ⟨_, w⟩ | w | w <;> cases w <;>
    simp [position, region, Region.words, FillWord.position, ScreenWord.position,
      TransferWord.position, CommandWord.position]

def index (r : Register) : WordIndex :=
  ⟨r.region.offset + r.position,
    Nat.lt_of_lt_of_le (Nat.add_lt_add_left r.position_lt _) r.region.stop_le⟩

theorem contains_index_iff {r : Register} {s : Region} :
    s.contains r.index = true ↔ r.region = s := by
  have within : r.region.contains r.index = true :=
    Region.contains_iff.2 ⟨Nat.le_add_right .., Nat.add_lt_add_left r.position_lt _⟩
  exact ⟨Region.eq_of_contains within, fun h => h ▸ within⟩

def inSlot? (slot : Slot) : Option Register :=
  match slot.region with
  | .fill unit => (FillWord.all.find? (·.position = slot.word)).map (.fill unit)
  | .screen unit => (ScreenWord.all.find? (·.position = slot.word)).map (.screen unit)
  | .transfer => (TransferWord.all.find? (·.position = slot.word)).map .transfer
  | .command => (CommandWord.all.find? (·.position = slot.word)).map .command

def at? (index : Nat) : Option Register := (locate index).bind inSlot?

@[simp] theorem at?_index (r : Register) : at? r.index = some r := by
  rcases r with ⟨u, w⟩ | ⟨u, w⟩ | w | w
  · cases u <;> cases w <;> decide +kernel
  · cases u <;> cases w <;> decide +kernel
  · cases w <;> decide +kernel
  · cases w <;> decide +kernel

theorem region_of_inSlot? {slot : Slot} {r : Register} (h : inSlot? slot = some r) :
    r.region = slot.region ∧ r.position = slot.word := by
  rcases slot with ⟨u | u | _ | _, word⟩ <;>
    obtain ⟨w, hw, rfl⟩ := Option.map_eq_some_iff.1 h <;>
    have position := List.find?_some hw <;>
    exact ⟨rfl, of_decide_eq_true position⟩

theorem at?_eq_some_iff {index : Nat} {r : Register} :
    at? index = some r ↔ r.index.val = index := by
  refine ⟨fun h => ?_, fun h => h ▸ at?_index r⟩
  obtain ⟨slot, located, inSlot⟩ := Option.bind_eq_some_iff.1 h
  obtain ⟨region, found, rfl⟩ := Option.map_eq_some_iff.1 located
  have contained := List.find?_some found
  have within := Region.contains_iff.1 contained
  obtain ⟨hregion, hposition⟩ := region_of_inSlot? inSlot
  simp only [Register.index, hregion, hposition]
  omega

theorem index_inj {r s : Register} : r.index = s.index ↔ r = s := by
  refine ⟨fun h => ?_, fun h => h ▸ rfl⟩
  have := at?_index r
  rw [h, at?_index] at this
  exact (Option.some.inj this).symm

end Register

end GraphicsBlock

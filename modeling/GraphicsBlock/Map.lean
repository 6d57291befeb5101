import GraphicsBlock.Address
import GraphicsBlock.Text.Outline

namespace GraphicsBlock

inductive UnitId
  | zero
  | one
  deriving DecidableEq

def UnitId.toNat : UnitId → Nat
  | .zero => 0
  | .one => 1

def UnitId.ofNat? : Nat → Option UnitId
  | 0 => some .zero
  | 1 => some .one
  | _ => none

@[simp] theorem UnitId.ofNat?_toNat (u : UnitId) : ofNat? u.toNat = some u := by
  cases u <;> rfl

theorem UnitId.ofNat?_eq_some_iff {n : Nat} {u : UnitId} : ofNat? n = some u ↔ u.toNat = n := by
  match n with
  | 0 => cases u <;> simp [ofNat?, toNat]
  | 1 => cases u <;> simp [ofNat?, toNat]
  | n + 2 => cases u <;> simp [ofNat?, toNat]

inductive Region
  | fill (unit : UnitId)
  | screen (unit : UnitId)
  | transfer
  | command
  deriving DecidableEq

namespace Region

def all : List Region :=
  [.fill .zero, .fill .one, .screen .zero, .screen .one, .transfer, .command]

theorem mem_all (r : Region) : r ∈ all := by
  rcases r with u | u | _ | _ <;> first | decide | cases u <;> decide

def words : Region → Nat
  | .fill _ => 4
  | .screen _ => 64
  | .transfer => 11
  | .command => 5

def name : Region → String
  | .fill unit => s!"memory_fill_config[{unit.toNat}]"
  | .screen unit => s!"framebuffer_config[{unit.toNat}]"
  | .transfer => "display_transfer_config"
  | .command => "command_processor_config"

def outline : Region → Text.Outline
  | .fill unit => .plain s!"MemoryFill{unit.toNat}"
  | .screen unit => .plain s!"Framebuffer{unit.toNat}"
  | .transfer => .plain "DisplayTransfer"
  | .command => .plain "CommandProcessor"

def fill? (unit : Nat) : Option Region := (UnitId.ofNat? unit).map .fill

def screen? (unit : Nat) : Option Region := (UnitId.ofNat? unit).map .screen

end Region

inductive Segment
  | padding (words : Nat)
  | named (region : Region)

def Segment.words : Segment → Nat
  | .padding words => words
  | .named region => region.words

def blockMap : List Segment :=
  [.padding 0x4, .named (.fill .zero), .named (.fill .one), .padding 0x10b,
    .named (.screen .zero), .named (.screen .one), .padding 0x169, .named .transfer,
    .padding 0x32d, .named .command, .padding 0x9c3]

theorem sum_words_blockMap :
    blockMap.foldr (fun segment words => segment.words + words) 0 = wordCount := by decide

def wordsBefore (r : Region) : List Segment → Nat
  | [] => 0
  | .padding words :: rest => words + wordsBefore r rest
  | .named s :: rest => if s = r then 0 else s.words + wordsBefore r rest

namespace Region

def offset (r : Region) : Nat := wordsBefore r blockMap

def stop (r : Region) : Nat := r.offset + r.words

def byteOffset (r : Region) : Nat := r.offset * 4

def byteSize (r : Region) : Nat := r.words * 4

def contains (r : Region) (index : Nat) : Bool := r.offset ≤ index && index < r.stop

@[simp] theorem offset_fill_zero : (fill .zero).offset = 0x4 := rfl
@[simp] theorem offset_fill_one : (fill .one).offset = 0x8 := rfl
@[simp] theorem offset_screen_zero : (screen .zero).offset = 0x117 := rfl
@[simp] theorem offset_screen_one : (screen .one).offset = 0x157 := rfl
@[simp] theorem offset_transfer : transfer.offset = 0x300 := rfl
@[simp] theorem offset_command : command.offset = 0x638 := rfl

theorem contains_iff {r : Region} {index : Nat} :
    r.contains index ↔ r.offset ≤ index ∧ index < r.offset + r.words := by
  rw [contains, Bool.and_eq_true, decide_eq_true_iff, decide_eq_true_iff, stop]

theorem stop_le (r : Region) : r.stop ≤ wordCount := by
  rcases r with u | u | _ | _ <;> first | decide | cases u <;> decide

theorem eq_of_contains {r s : Region} {index : Nat} (hr : r.contains index = true)
    (hs : s.contains index = true) : r = s := by
  rw [contains_iff] at hr hs
  rcases r with (_ | _) | (_ | _) | _ | _ <;> rcases s with (_ | _) | (_ | _) | _ | _ <;>
    first
    | rfl
    | simp only [offset_fill_zero, offset_fill_one, offset_screen_zero, offset_screen_one,
        offset_transfer, offset_command, words] at hr hs
      omega

end Region

structure Slot where
  region : Region
  word : Nat
  deriving DecidableEq

/-- Padding is in no region. -/
def locate (index : Nat) : Option Slot :=
  (Region.all.find? (·.contains index)).map fun region => ⟨region, index - region.offset⟩

end GraphicsBlock

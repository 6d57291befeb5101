import GraphicsBlock.BitField

namespace GraphicsBlock

/-- The control word of a fill unit. `trigger` starts the fill; `finished` reports its end. -/
structure FillControl where
  raw : Word
  deriving DecidableEq

namespace FillControl

inductive Flag
  | trigger
  | finished
  | fill24
  | fill32
  deriving DecidableEq

def Flag.field : Flag → BitField
  | .trigger => .mk 0 1
  | .finished => .mk 1 1
  | .fill24 => .mk 8 1
  | .fill32 => .mk 9 1

def get (c : FillControl) (flag : Flag) : Bool := flag.field.isSet c.raw

def set (c : FillControl) (flag : Flag) (value : Bool) : FillControl :=
  ⟨flag.field.withFlag c.raw value⟩

@[simp] theorem get_set_self (c : FillControl) (flag : Flag) (value : Bool) :
    (c.set flag value).get flag = value :=
  BitField.isSet_withFlag ..

theorem get_set_of_ne (c : FillControl) {flag other : Flag} (h : flag ≠ other) (value : Bool) :
    (c.set flag value).get other = c.get other := by
  apply BitField.isSet_withFlag_of_disjoint
  cases flag <;> cases other <;> first | contradiction | decide

theorem Flag.width_field (flag : Flag) : flag.field.width = 1 := by
  cases flag <;> rfl

theorem get_eq_getLsbD (c : FillControl) (flag : Flag) :
    c.get flag = c.raw.getLsbD flag.field.offset :=
  BitField.isSet_eq_getLsbD flag.width_field _

theorem getLsbD_set (c : FillControl) (flag : Flag) (value : Bool) (i : Nat) :
    (c.set flag value).raw.getLsbD i = if i = flag.field.offset then value else c.raw.getLsbD i :=
  BitField.getLsbD_withFlag flag.width_field ..

theorem getLsbD_set_of_ne (c : FillControl) {flag : Flag} {i : Nat} (h : i ≠ flag.field.offset)
    (value : Bool) : (c.set flag value).raw.getLsbD i = c.raw.getLsbD i := by
  rw [getLsbD_set, if_neg h]

def outline (c : FillControl) : Text.Outline :=
  .record "MemoryFillControl"
    [("trigger", .bool (c.get .trigger)), ("finished", .bool (c.get .finished)),
      ("fill_24bit", .bool (c.get .fill24)), ("fill_32bit", .bool (c.get .fill32))]

end FillControl

structure FramebufferSelect where
  raw : Word
  deriving DecidableEq

namespace FramebufferSelect

def secondField : BitField := .mk 0 1

def second (s : FramebufferSelect) : Bool := secondField.isSet s.raw

def setSecond (s : FramebufferSelect) (value : Bool) : FramebufferSelect :=
  ⟨secondField.withFlag s.raw value⟩

@[simp] theorem second_setSecond (s : FramebufferSelect) (value : Bool) :
    (s.setSecond value).second = value :=
  BitField.isSet_withFlag ..

theorem second_eq_getLsbD (s : FramebufferSelect) : s.second = s.raw.getLsbD 0 :=
  BitField.isSet_eq_getLsbD rfl _

def activeSet (s : FramebufferSelect) : Nat := if s.second then 1 else 0

theorem activeSet_eq_toNat (s : FramebufferSelect) : s.activeSet = (s.raw.getLsbD 0).toNat := by
  rw [activeSet, second_eq_getLsbD]
  cases s.raw.getLsbD 0 <;> rfl

def outline (s : FramebufferSelect) : Text.Outline :=
  .record "FramebufferSelect" [("second_fb_active", .bool s.second)]

end FramebufferSelect

structure CommandTrigger where
  raw : Word
  deriving DecidableEq

namespace CommandTrigger

def field : BitField := .mk 0 1

def trigger (t : CommandTrigger) : Bool := field.isSet t.raw

def setTrigger (t : CommandTrigger) (value : Bool) : CommandTrigger :=
  ⟨field.withFlag t.raw value⟩

theorem trigger_eq_getLsbD (t : CommandTrigger) : t.trigger = t.raw.getLsbD 0 :=
  BitField.isSet_eq_getLsbD rfl _

@[simp] theorem trigger_setTrigger (t : CommandTrigger) (value : Bool) :
    (t.setTrigger value).trigger = value :=
  BitField.isSet_withFlag ..

def outline (t : CommandTrigger) : Text.Outline :=
  .record "CommandTrigger" [("trigger", .bool t.trigger)]

end CommandTrigger

end GraphicsBlock

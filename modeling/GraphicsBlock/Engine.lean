import GraphicsBlock.Register
import GraphicsBlock.Text.Outline

namespace GraphicsBlock

inductive Engine
  | fill (unit : UnitId)
  | transfer
  | commandList
  deriving DecidableEq

/-- An operation by name. Fill units are numbered freely here, though only two exist. -/
inductive Operation
  | fill (unit : Nat)
  | transfer
  | commandList
  deriving DecidableEq

namespace Operation

def name : Operation → String
  | .fill unit => s!"memory fill {unit}"
  | .transfer => "display transfer"
  | .commandList => "command list"

def outline : Operation → Text.Outline
  | .fill unit => .record "MemoryFill" [("unit", .nat unit)]
  | .transfer => .plain "DisplayTransfer"
  | .commandList => .plain "CommandList"

def engine? : Operation → Option Engine
  | .fill unit => (UnitId.ofNat? unit).map .fill
  | .transfer => some .transfer
  | .commandList => some .commandList

def region? : Operation → Option Region
  | .fill unit => Region.fill? unit
  | .transfer => some .transfer
  | .commandList => some .command

def triggerPosition : Operation → Nat
  | .fill _ => FillWord.control.position
  | .transfer => TransferWord.trigger.position
  | .commandList => CommandWord.trigger.position

def triggerWord? (op : Operation) : Option Nat :=
  op.region?.map fun region => region.offset + op.triggerPosition

end Operation

namespace Engine

def all : List Engine := [.fill .zero, .fill .one, .transfer, .commandList]

theorem mem_all (e : Engine) : e ∈ all := by
  rcases e with u | _ | _ <;> first | decide | cases u <;> decide

def operation : Engine → Operation
  | .fill unit => .fill unit.toNat
  | .transfer => .transfer
  | .commandList => .commandList

@[simp] theorem engine?_operation (e : Engine) : e.operation.engine? = some e := by
  cases e <;> simp [operation, Operation.engine?]

def name (e : Engine) : String := e.operation.name

def outline (e : Engine) : Text.Outline := e.operation.outline

def trigger : Engine → Register
  | .fill unit => .fill unit .control
  | .transfer => .transfer .trigger
  | .commandList => .command .trigger

def region (e : Engine) : Region := e.trigger.region

theorem triggerWord?_operation (e : Engine) :
    e.operation.triggerWord? = some e.trigger.index.val := by
  rcases e with (_ | _) | _ | _ <;> rfl

theorem trigger_inj {e f : Engine} : e.trigger = f.trigger ↔ e = f := by
  cases e <;> cases f <;> simp [trigger]

theorem region_inj {e f : Engine} : e.region = f.region ↔ e = f := by
  cases e <;> cases f <;> simp [region, trigger, Register.region]

end Engine

/-- What a store to a word does beyond storing. -/
inductive Role
  | trigger (engine : Engine)
  | select (unit : UnitId)
  | plain
  deriving DecidableEq

def Role.ofRegister : Register → Role
  | .fill unit .control => .trigger (.fill unit)
  | .screen unit .select => .select unit
  | .transfer .trigger => .trigger .transfer
  | .command .trigger => .trigger .commandList
  | _ => .plain

def Role.at (index : Nat) : Role :=
  match Register.at? index with
  | some r => .ofRegister r
  | none => .plain

theorem Role.ofRegister_eq_trigger_iff {r : Register} {e : Engine} :
    ofRegister r = .trigger e ↔ r = e.trigger := by
  rcases r with ⟨u, w⟩ | ⟨u, w⟩ | w | w <;> cases w <;> cases e <;>
    simp [ofRegister, Engine.trigger]

theorem Role.ofRegister_eq_select_iff {r : Register} {u : UnitId} :
    ofRegister r = .select u ↔ r = .screen u .select := by
  rcases r with ⟨v, w⟩ | ⟨v, w⟩ | w | w <;> cases w <;> simp [ofRegister]

theorem Role.at_eq_select_iff {index : Nat} {u : UnitId} :
    Role.at index = .select u ↔ (Register.screen u .select).index.val = index := by
  rw [← Register.at?_eq_some_iff, Role.at]
  cases Register.at? index <;> simp [ofRegister_eq_select_iff]

theorem Role.at_eq_trigger_iff {index : Nat} {e : Engine} :
    Role.at index = .trigger e ↔ e.trigger.index.val = index := by
  rw [← Register.at?_eq_some_iff, Role.at]
  cases Register.at? index <;> simp [ofRegister_eq_trigger_iff]

theorem Role.trigger_index_of_at {i : WordIndex} {e : Engine} (role : Role.at i = .trigger e) :
    e.trigger.index = i :=
  Fin.ext (at_eq_trigger_iff.1 role)

theorem Role.trigger_index_of_contains {e : Engine} {i : WordIndex} (role : Role.at i ≠ .plain)
    (within : e.region.contains i = true) : e.trigger.index = i := by
  cases h : Role.at i with
  | plain => exact absurd h role
  | select u =>
    have here : (Register.screen u .select).index = i := Fin.ext (at_eq_select_iff.1 h)
    rw [← here, Register.contains_index_iff] at within
    cases e <;> cases within
  | trigger f =>
    have here := trigger_index_of_at h
    rw [← here, Register.contains_index_iff] at within
    rw [← Engine.region_inj.1 within, here]

@[simp] theorem Role.at_trigger (e : Engine) : Role.at e.trigger.index = .trigger e := by
  cases e <;> simp [Role.at, Engine.trigger, Role.ofRegister]

@[simp] theorem Role.at_select (u : UnitId) :
    Role.at (Register.screen u .select).index = .select u := by
  simp [Role.at, Role.ofRegister]

end GraphicsBlock

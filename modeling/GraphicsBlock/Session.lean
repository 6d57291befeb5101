import GraphicsBlock.Bus.Write
import GraphicsBlock.Record

/-!
A machine with its executor. Every job comes with a token, and spending the token is the only way
to end the job; a token that is dropped leaves its engine busy. What an executor does with its
tokens is its own affair: `Conduct` leaves it open, and `Executor` names three ways. `Session.step`
takes one event, `Session.run` a history of them.
-/

namespace GraphicsBlock

/-- The right to end one operation, once. -/
@[ext] structure Token where
  engine : Engine
  deriving DecidableEq

def Token.outline (t : Token) : Text.Outline :=
  .openRecord "Completion" [("operation", t.engine.outline)]

def Call.tokens (call : Call) : List Token := (call.engine?.map Token.mk).toList

inductive Deed
  | complete (position : Nat)
  | drop (position : Nat)
  deriving DecidableEq

/-- The conduct of executors of a type. One that receives a call is shown the tokens at hand, the
call's own the last of them, and answers with its next state and with what it does with the tokens
before it gives back control; `records` is what it logs first. -/
class Conduct (E : Type) where
  receive : E → Call → List Token → E × List Deed
  records : E → Call → List Record

structure Tracer where
  deferring : Bool
  launched : Nat := 0
  swaps : Nat := 0
  deriving DecidableEq

inductive Executor
  | holding
  | immediate
  | tracing (tracer : Tracer)
  deriving DecidableEq

namespace Executor

def finishesAtOnce : Executor → Bool
  | .holding => false
  | .immediate => true
  | .tracing tracer => !tracer.deferring

def note (executor : Executor) (call : Call) : Executor :=
  match executor, call with
  | .tracing tracer, .swap .. => .tracing { tracer with swaps := tracer.swaps + 1 }
  | .tracing tracer, _ => .tracing { tracer with launched := tracer.launched + 1 }
  | executor, _ => executor

def deeds (executor : Executor) (call : Call) (held : List Token) : List Deed :=
  if executor.finishesAtOnce && call.engine?.isSome then [.complete (held.length - 1)] else []

instance : Conduct Executor where
  receive executor call held := (executor.note call, executor.deeds call held)
  records
    | .tracing _, call => [.received call]
    | _, _ => []

end Executor

structure Session (E : Type := Executor) where
  settings : Settings
  machine : Machine
  executor : E
  held : List Token
  deriving DecidableEq

inductive Event
  | read (width : Width) (address : Address)
  | write (width : Width) (address : Address) (value : BitVec width.bits)
  | complete (position : Nat)
  | drop (position : Nat)
  deriving DecidableEq

inductive Answer
  | value (width : Width) (value : BitVec width.bits)
  | accepted
  | refused (fault : BusFault)
  | completed (engine : Engine)
  | dropped (engine : Engine)
  | absent
  deriving DecidableEq

structure Reply (α : Type) where
  result : Except BusFault α
  call : Option Call := none
  records : List Record := []

structure Outcome where
  answer : Answer
  call : Option Call := none
  records : List Record := []

def Reply.outcome (reply : Reply α) (answer : α → Answer) : Outcome where
  answer :=
    match reply.result with
    | .ok a => answer a
    | .error fault => .refused fault
  call := reply.call
  records := reply.records

namespace Session

variable {E : Type}

def start (settings : Settings) (executor : E) : Session E :=
  ⟨settings, .start, executor, []⟩

def pending (s : Session E) : Nat := s.held.length

def complete (s : Session E) (position : Nat) : Session E × Outcome :=
  match s.held[position]? with
  | none => (s, { answer := .absent })
  | some token =>
    ({ s with machine := s.machine.finish token.engine, held := s.held.eraseIdx position },
      { answer := .completed token.engine, records := [.completed token.engine] })

/-- Loses the token at a position: its engine stays busy. -/
def drop (s : Session E) (position : Nat) : Session E × Outcome :=
  match s.held[position]? with
  | none => (s, { answer := .absent })
  | some token =>
    ({ s with held := s.held.eraseIdx position }, { answer := .dropped token.engine })

def act (s : Session E) : Deed → Session E × Outcome
  | .complete position => s.complete position
  | .drop position => s.drop position

def actAll (s : Session E) : List Deed → Session E × List Record
  | [] => (s, [])
  | deed :: deeds =>
    let (next, outcome) := s.act deed
    let (last, records) := next.actAll deeds
    (last, outcome.records ++ records)

def read (s : Session E) (w : Width) (address : Address) : Reply (BitVec w.bits) :=
  match s.machine.read w address with
  | .error fault => { result := .error fault }
  | .ok value => { result := .ok value, records := [.read w address value] }

variable [Conduct E]

/-- Hands a call and its token to the executor, after the machine has settled. -/
def deliver (s : Session E) (call : Call) : Session E × List Record :=
  let held := s.held ++ call.tokens
  let (executor, deeds) := Conduct.receive s.executor call held
  let (last, records) := { s with executor, held }.actAll deeds
  (last, Conduct.records s.executor call ++ records)

def write (s : Session E) (w : Width) (address : Address) (value : BitVec w.bits) :
    Session E × Reply Unit :=
  let handled := s.machine.writeLane s.settings w address value
  let records := .write w address value :: handled.records
  let next := { s with machine := handled.machine }
  match handled.result with
  | .error fault => (next, { result := .error fault, records })
  | .ok none => (next, { result := .ok (), records })
  | .ok (some call) =>
    let (delivered, received) := next.deliver call
    (delivered, { result := .ok (), call := some call, records := records ++ received })

def step (s : Session E) : Event → Session E × Outcome
  | .read w address => (s, (s.read w address).outcome (.value w))
  | .write w address value =>
    let (next, reply) := s.write w address value
    (next, reply.outcome fun _ => .accepted)
  | .complete position => s.complete position
  | .drop position => s.drop position

def run (s : Session E) : List Event → Session E × List Outcome
  | [] => (s, [])
  | event :: events =>
    let (next, outcome) := s.step event
    let (last, outcomes) := next.run events
    (last, outcome :: outcomes)

def completeAll (s : Session E) : Session E × List Outcome :=
  s.run (s.held.map fun _ => .complete 0)

def executorOutline (s : Session Executor) : Text.Outline :=
  match s.executor with
  | .holding => .list (s.held.map Token.outline)
  | .immediate => .plain "ImmediateExecutor"
  | .tracing tracer =>
    .record "TraceExecutor"
      [("defer_completion", .bool tracer.deferring), ("pending", .list (s.held.map Token.outline)),
        ("launched", .nat tracer.launched), ("swaps", .nat tracer.swaps)]

def outline (s : Session Executor) : Text.Outline :=
  .openRecord "GpuContext" [("config", s.settings.outline), ("executor", s.executorOutline)]

@[simp] theorem run_nil (s : Session E) : s.run [] = (s, []) := rfl

theorem run_cons (s : Session E) (event : Event) (events : List Event) :
    s.run (event :: events) =
      (((s.step event).1.run events).1,
        (s.step event).2 :: ((s.step event).1.run events).2) := rfl

theorem run_append (s : Session E) (events more : List Event) :
    s.run (events ++ more) =
      (((s.run events).1.run more).1, (s.run events).2 ++ ((s.run events).1.run more).2) := by
  induction events generalizing s with
  | nil => rfl
  | cons event events ih => simp [run_cons, ih]

end Session

end GraphicsBlock

import GraphicsBlock.Proofs.SessionStep

namespace GraphicsBlock

inductive Reachable (settings : Settings) : Machine → List Token → Prop
  | start : Reachable settings .start []
  | write {m held w address value accepted} : Reachable settings m held →
      m.write settings w address value = .ok accepted →
      Reachable settings accepted.machine (held ++ accepted.tokens)
  | complete {m held position token} : Reachable settings m held →
      held[position]? = some token →
      Reachable settings (m.finish token.engine) (held.eraseIdx position)
  | drop {m held position token} : Reachable settings m held →
      held[position]? = some token → Reachable settings m (held.eraseIdx position)

namespace Session

variable {E : Type}

def IsReachable (s : Session E) : Prop := Reachable s.settings s.machine s.held

theorem isReachable_start (settings : Settings) (executor : E) :
    (start settings executor).IsReachable := .start

theorem Acts.isReachable {s next : Session E} (h : s.Acts next) (reached : s.IsReachable) :
    next.IsReachable := by
  cases h with
  | absent => exact reached
  | complete at_position => exact .complete reached at_position
  | drop at_position => exact .drop reached at_position

variable [Conduct E]

theorem isReachable_settle {s : Session E} {accepted : Accepted}
    (h : Reachable s.settings accepted.machine (s.held ++ accepted.tokens)) :
    (s.settle accepted).IsReachable :=
  settle_induction h fun _ _ acts reached => acts.isReachable reached

theorem isReachable_write {s : Session E} (h : s.IsReachable) (w : Width) (address : Address)
    (value : BitVec w.bits) : (s.write w address value).1.IsReachable := by
  cases written : s.machine.write s.settings w address value with
  | error => rwa [(write_of_error written).1]
  | ok accepted =>
    rw [(write_of_ok written).1]
    exact isReachable_settle (.write h written)

theorem isReachable_step {s : Session E} (h : s.IsReachable) (event : Event) :
    (s.step event).1.IsReachable := by
  cases event with
  | read => exact h
  | write w address value => exact isReachable_write h w address value
  | complete position => exact (s.acts_complete position).isReachable h
  | drop position => exact (s.acts_drop position).isReachable h

theorem isReachable_run {s : Session E} (h : s.IsReachable) (events : List Event) :
    (s.run events).1.IsReachable := by
  induction events generalizing s with
  | nil => exact h
  | cons event events ih => exact ih (isReachable_step h event)

end Session

end GraphicsBlock

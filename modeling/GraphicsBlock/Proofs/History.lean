import GraphicsBlock.Proofs.SessionStep
import Mathlib.Data.List.Induction

namespace GraphicsBlock

abbrev Past := List (Event × Outcome)

namespace Session

variable {E : Type} [Conduct E]

def history (s : Session E) (events : List Event) : Past := (events.zip (s.run events).2).reverse

theorem length_run (s : Session E) (events : List Event) :
    (s.run events).2.length = events.length := by
  induction events generalizing s with
  | nil => rfl
  | cons event events ih => simp [run_cons, ih]

theorem run_concat_fst (s : Session E) (events : List Event) (event : Event) :
    (s.run (events ++ [event])).1 = ((s.run events).1.step event).1 := by
  rw [run_append]
  rfl

theorem history_concat (s : Session E) (events : List Event) (event : Event) :
    s.history (events ++ [event]) =
      (event, ((s.run events).1.step event).2) :: s.history events := by
  rw [history, run_append, List.zip_append (s.length_run events).symm, List.reverse_append]
  rfl

theorem history_induction {P : Session E → Past → Prop} {s : Session E} (start : P s [])
    (step : ∀ t past event, P t past → P (t.step event).1 ((event, (t.step event).2) :: past))
    (events : List Event) : P (s.run events).1 (s.history events) := by
  induction events using List.reverseRecOn with
  | nil => exact start
  | append_singleton events event ih =>
    rw [run_concat_fst, history_concat]
    exact step _ _ event ih

end Session

end GraphicsBlock

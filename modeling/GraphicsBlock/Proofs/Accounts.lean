import GraphicsBlock.Proofs.History

/-!
What a past says of one engine: its launches, and which of their tokens have been spent or lost.
`Past.Accounts` ties these to what the engine is now, and a step that does not concern the engine
leaves its accounts alone.
-/

namespace GraphicsBlock

def Outcome.launched? (o : Outcome) : Option Engine := o.call.bind Call.engine?

namespace Past

def launches (past : Past) (e : Engine) : Nat :=
  past.countP fun entry => entry.2.launched? = some e

def completions (past : Past) (e : Engine) : Nat :=
  past.countP fun entry => entry.2.answer = .completed e

def losses (past : Past) (e : Engine) : Nat :=
  past.countP fun entry => entry.2.answer = .dropped e

/-- What has happened since an engine was completed, or from the start if it never was. -/
def sinceIdle (past : Past) (e : Engine) : Past :=
  past.takeWhile fun entry => entry.2.answer ≠ .completed e

/-- For each held token, in order, which of its engine's launches it came with. -/
def origins : Past → List Nat
  | [] => []
  | (.read .., _) :: past => origins past
  | (.write .., outcome) :: past =>
    origins past ++ (outcome.launched?.map fun e => launches past e + 1).toList
  | (.complete position, _) :: past => (origins past).eraseIdx position
  | (.drop position, _) :: past => (origins past).eraseIdx position

variable {past : Past} {entry : Event × Outcome} {e : Engine}

theorem launches_cons (entry : Event × Outcome) (past : Past) (e : Engine) :
    launches (entry :: past) e =
      launches past e + if entry.2.launched? = some e then 1 else 0 := by
  simp [launches, List.countP_cons]

theorem launches_cons_of_ne (h : entry.2.launched? ≠ some e) (past : Past) :
    launches (entry :: past) e = launches past e := by
  rw [launches_cons, if_neg h, Nat.add_zero]

theorem completions_cons (entry : Event × Outcome) (past : Past) (e : Engine) :
    completions (entry :: past) e =
      completions past e + if entry.2.answer = .completed e then 1 else 0 := by
  simp [completions, List.countP_cons]

theorem completions_cons_of_ne (h : entry.2.answer ≠ .completed e) (past : Past) :
    completions (entry :: past) e = completions past e := by
  rw [completions_cons, if_neg h, Nat.add_zero]

theorem losses_cons (entry : Event × Outcome) (past : Past) (e : Engine) :
    losses (entry :: past) e = losses past e + if entry.2.answer = .dropped e then 1 else 0 := by
  simp [losses, List.countP_cons]

theorem losses_cons_of_ne (h : entry.2.answer ≠ .dropped e) (past : Past) :
    losses (entry :: past) e = losses past e := by
  rw [losses_cons, if_neg h, Nat.add_zero]

theorem sinceIdle_cons_of_ne (h : entry.2.answer ≠ .completed e) (past : Past) :
    sinceIdle (entry :: past) e = entry :: sinceIdle past e := by
  simp [sinceIdle, h]

theorem sinceIdle_cons_self (h : entry.2.answer = .completed e) (past : Past) :
    sinceIdle (entry :: past) e = [] := by
  simp [sinceIdle, h]

/-- The books of an engine that is busy or not and has a number of live tokens. -/
structure Accounts (past : Past) (e : Engine) (busy : Bool) (live : Nat) : Prop where
  running : (past.sinceIdle e).launches e = busy.toNat
  unspent : (past.sinceIdle e).launches e = live + (past.sinceIdle e).losses e
  total : past.launches e = past.completions e + live + past.losses e

namespace Accounts

variable {busy : Bool} {live : Nat}

theorem nil (e : Engine) : Accounts [] e false 0 := ⟨rfl, rfl, rfl⟩

theorem frame (h : past.Accounts e busy live) (launched : entry.2.launched? ≠ some e)
    (completed : entry.2.answer ≠ .completed e) (dropped : entry.2.answer ≠ .dropped e) :
    Accounts (entry :: past) e busy live := by
  constructor
  · rw [sinceIdle_cons_of_ne completed, launches_cons_of_ne launched]
    exact h.running
  · rw [sinceIdle_cons_of_ne completed, launches_cons_of_ne launched, losses_cons_of_ne dropped]
    exact h.unspent
  · rw [launches_cons_of_ne launched, completions_cons_of_ne completed, losses_cons_of_ne dropped]
    exact h.total

theorem launch (h : past.Accounts e false live) (launched : entry.2.launched? = some e)
    (completed : entry.2.answer ≠ .completed e) (dropped : entry.2.answer ≠ .dropped e) :
    Accounts (entry :: past) e true (live + 1) := by
  constructor
  · rw [sinceIdle_cons_of_ne completed, launches_cons, if_pos launched, h.running]
    rfl
  · rw [sinceIdle_cons_of_ne completed, launches_cons, if_pos launched, losses_cons_of_ne dropped,
      h.unspent]
    exact Nat.add_right_comm ..
  · rw [launches_cons, if_pos launched, completions_cons_of_ne completed,
      losses_cons_of_ne dropped, h.total]
    omega

theorem complete (h : past.Accounts e busy 1) (launched : entry.2.launched? ≠ some e)
    (completed : entry.2.answer = .completed e) : Accounts (entry :: past) e false 0 := by
  have kept : entry.2.answer ≠ .dropped e := by simp [completed]
  constructor
  · rw [sinceIdle_cons_self completed]
    rfl
  · rw [sinceIdle_cons_self completed]
    rfl
  · rw [launches_cons_of_ne launched, completions_cons, if_pos completed, losses_cons_of_ne kept]
    exact h.total

theorem drop (h : past.Accounts e busy (live + 1)) (launched : entry.2.launched? ≠ some e)
    (dropped : entry.2.answer = .dropped e) : Accounts (entry :: past) e busy live := by
  have unspent : entry.2.answer ≠ .completed e := by simp [dropped]
  constructor
  · rw [sinceIdle_cons_of_ne unspent, launches_cons_of_ne launched]
    exact h.running
  · rw [sinceIdle_cons_of_ne unspent, launches_cons_of_ne launched, losses_cons, if_pos dropped,
      h.unspent]
    exact Nat.add_right_comm ..
  · rw [launches_cons_of_ne launched, completions_cons_of_ne unspent, losses_cons,
      if_pos dropped, h.total]
    omega

theorem busy_iff (h : past.Accounts e busy live) :
    busy = true ↔
      (past.sinceIdle e).launches e = 1 ∧ live + (past.sinceIdle e).losses e = 1 := by
  rw [← h.unspent, and_self, h.running]
  cases busy <;> simp

end Accounts

end Past

end GraphicsBlock

import GraphicsBlock.Proofs.Recoding
import GraphicsBlock.Proofs.Tokens
import Mathlib.Logic.Function.Iterate

/-!
Completion at once and completion afterwards. An executor may spend a token inside the call that
brings it, or hold it until it is told to complete all. If it is told so after every access, the two
cannot be told apart: `Machine.respond` is what each access then comes to, and no executor is
mentioned in it. Between accesses every engine is idle, so nothing is refused for being in progress.
-/

namespace GraphicsBlock

inductive Access
  | read (width : Width) (address : Address)
  | write (width : Width) (address : Address) (value : BitVec width.bits)
  deriving DecidableEq

def Access.event : Access → Event
  | .read w address => .read w address
  | .write w address value => .write w address value

namespace Accepted

def done (a : Accepted) : Machine :=
  match a.launched? with
  | none => a.machine
  | some e => a.machine.finish e

variable {a : Accepted}

theorem done_of_quiet (h : a.launched? = none) : a.done = a.machine := by
  rw [done, h]

theorem done_of_launched {e : Engine} (h : a.launched? = some e) :
    a.done = a.machine.finish e := by
  rw [done, h]

theorem foldl_finish_tokens (a : Accepted) :
    a.tokens.foldl (fun m token => m.finish token.engine) a.machine = a.done := by
  unfold tokens done
  cases a.launched? <;> rfl

end Accepted

namespace Machine

def AllIdle (m : Machine) : Prop := ∀ e, m.activity e = .idle

/-- What an access comes to if an operation ends with the access that launches it. -/
def respond (settings : Settings) (m : Machine) : Access → Stage
  | .read w address =>
    match m.read w address with
    | .error fault => ⟨.refused fault, none, m⟩
    | .ok value => ⟨.value w value, none, m⟩
  | .write w address value =>
    match m.write settings w address value with
    | .error fault => ⟨.refused fault, none, m⟩
    | .ok accepted => ⟨.accepted, accepted.call, accepted.done⟩

def respondAll (settings : Settings) (m : Machine) : List Access → List Stage
  | [] => []
  | access :: accesses =>
    m.respond settings access :: (m.respond settings access).machine.respondAll settings accesses

theorem allIdle_start : start.AllIdle := activity_start

variable {settings : Settings} {m : Machine} {s : Store} {accepted : Accepted}
  {w : Width} {address : Address} {value : BitVec w.bits}

theorem respond_write_of_error {fault : BusFault}
    (h : m.write settings w address value = .error fault) :
    m.respond settings (.write w address value) = ⟨.refused fault, none, m⟩ := by
  simp only [respond, h]

theorem respond_write_of_ok (h : m.write settings w address value = .ok accepted) :
    m.respond settings (.write w address value) =
      ⟨.accepted, accepted.call, accepted.done⟩ := by
  simp only [respond, h]

theorem Accepts.allIdle_done (h : Accepts settings m s accepted) (idle : m.AllIdle) :
    accepted.done.AllIdle := by
  intro f
  rcases h.quiet_or_launch with ⟨same, quiet⟩ | ⟨e, launched, _, _, activities⟩
  · rw [Accepted.done_of_quiet quiet, activity, same]
    exact idle f
  · rw [Accepted.done_of_launched launched, activity_finish, activity_of_set activities, idle f]
    split <;> rfl

theorem isBusy_of_write_error {e : Engine}
    (h : m.write settings w address value = .error (.inProgress e)) : m.isBusy e = true := by
  cases addressed : wordIndex? address with
  | error => cases (write_of_unaddressed addressed).symm.trans h
  | ok i => exact (refuses_of_store ((write_of_index addressed).symm.trans h)).isBusy

theorem isBusy_of_refused {access : Access} {e : Engine}
    (h : (m.respond settings access).answer = .refused (.inProgress e)) : m.isBusy e = true := by
  cases access with
  | read w address =>
    cases addressed : wordIndex? address <;> simp [respond, read, addressed] at h
  | write w address value =>
    cases written : m.write settings w address value with
    | error fault =>
      rw [respond_write_of_error written] at h
      cases h
      exact isBusy_of_write_error written
    | ok accepted =>
      rw [respond_write_of_ok written] at h
      cases h

theorem allIdle_respond (settings : Settings) (idle : m.AllIdle) (access : Access) :
    (m.respond settings access).machine.AllIdle := by
  cases access with
  | read w address => cases result : m.read w address <;> simpa [respond, result] using idle
  | write w address value =>
    cases written : m.write settings w address value with
    | error fault =>
      rw [respond_write_of_error written]
      exact idle
    | ok accepted =>
      obtain ⟨i, _, taken⟩ := accepts_of_write written
      rw [respond_write_of_ok written]
      exact taken.allIdle_done idle

theorem allIdle_respondAll (idle : m.AllIdle) (accesses : List Access) :
    ∀ stage ∈ m.respondAll settings accesses,
      stage.machine.AllIdle ∧ ∀ e, stage.answer ≠ .refused (.inProgress e) := by
  induction accesses generalizing m with
  | nil => simp [respondAll]
  | cons access accesses ih =>
    have still := allIdle_respond settings idle access
    refine List.forall_mem_cons.2 ⟨⟨still, fun e refused => ?_⟩, ih still⟩
    have busy := isBusy_of_refused refused
    rw [isBusy, idle e] at busy
    cases busy

end Machine

/-- The executor spends each token inside the call that brings it, and so do the executors that
calls turn it into. -/
def Spends {E : Type} [Conduct E] (executor : E) : Prop :=
  ∃ spending : E → Prop, spending executor ∧ ∀ x, spending x → ∀ call held,
    (Conduct.receive x call held).2 =
        (if call.engine?.isSome then [.complete (held.length - 1)] else []) ∧
      spending (Conduct.receive x call held).1

theorem Spends.receive {E : Type} [Conduct E] {executor : E} (h : Spends executor) (call : Call)
    (held : List Token) :
    (Conduct.receive executor call held).2 =
        (if call.engine?.isSome then [.complete (held.length - 1)] else []) ∧
      Spends (Conduct.receive executor call held).1 := by
  obtain ⟨spending, now, always⟩ := h
  obtain ⟨spent, next⟩ := always executor now call held
  exact ⟨spent, spending, next, always⟩

theorem Executor.spends {executor : Executor} (h : executor.finishesAtOnce = true) :
    Spends executor := by
  refine ⟨(·.finishesAtOnce = true), h, fun x atOnce call held => ⟨?_, ?_⟩⟩
  · change x.deeds call held = _
    rw [deeds, atOnce, Bool.true_and]
  · exact (x.finishesAtOnce_note call).trans atOnce

namespace Session

variable {E : Type} [Conduct E]

def completeTimes (s : Session E) (times : Nat) : Session E := (·.completeAll.1)^[times] s

def serve (s : Session E) : List (Access × Nat) → Session E × List Stage
  | [] => (s, [])
  | (access, times) :: plan =>
    let (next, outcome) := s.step access.event
    let completed := next.completeTimes times
    let (last, stages) := completed.serve plan
    (last, ⟨outcome.answer, outcome.call, completed.machine⟩ :: stages)

theorem serve_cons (s : Session E) (access : Access) (times : Nat) (plan : List (Access × Nat)) :
    s.serve ((access, times) :: plan) =
      ((((s.step access.event).1.completeTimes times).serve plan).1,
        ⟨(s.step access.event).2.answer, (s.step access.event).2.call,
          ((s.step access.event).1.completeTimes times).machine⟩ ::
          (((s.step access.event).1.completeTimes times).serve plan).2) := rfl

theorem step_access (s : Session E) (access : Access) :
    let stage := s.machine.respond s.settings access
    (s.step access.event).2.answer = stage.answer ∧ (s.step access.event).2.call = stage.call ∧
      ((s.step access.event).1 = s ∧ stage.machine = s.machine ∨
        ∃ accepted, (s.step access.event).1 = s.settle accepted ∧
          stage.machine = accepted.done) := by
  cases access with
  | read w address =>
    cases result : s.machine.read w address <;>
      simp [Access.event, step, read, result, Reply.outcome, Machine.respond]
  | write w address value =>
    cases written : s.machine.write s.settings w address value with
    | error fault =>
      obtain ⟨unchanged, called, answer⟩ := step_write_of_error written
      rw [Machine.respond_write_of_error written]
      exact ⟨answer, called, .inl ⟨unchanged, rfl⟩⟩
    | ok accepted =>
      obtain ⟨settled, called, answer⟩ := step_write_of_ok written
      rw [Machine.respond_write_of_ok written]
      exact ⟨answer, called, .inr ⟨accepted, settled, rfl⟩⟩

/-- Every token has been spent in the call that brought it. -/
structure Prompt (s : Session E) : Prop where
  spends : Spends s.executor
  held : s.held = []

variable {s : Session E}

theorem prompt_start (settings : Settings) {executor : E} (h : Spends executor) :
    (start settings executor).Prompt := ⟨h, rfl⟩

theorem Prompt.deliver (h : s.Prompt) (call : Call) :
    (s.deliver call).1.machine = (Accepted.mk s.machine (some call)).done ∧
      (s.deliver call).1.Prompt := by
  obtain ⟨spent, stays⟩ := h.spends.receive call (s.held ++ call.tokens)
  have held : (s.handed call).held = call.tokens := by rw [handed, h.held, List.nil_append]
  rw [deliver_fst, show (s.received call).2 = _ from spent]
  cases work : call.engine? with
  | none =>
    have tokens : call.tokens = [] := by rw [Call.tokens, work]; rfl
    rw [Accepted.done_of_quiet (a := ⟨s.machine, some call⟩) work]
    exact ⟨rfl, stays, held.trans tokens⟩
  | some e =>
    have tokens : call.tokens = [⟨e⟩] := by rw [Call.tokens, work]; rfl
    have first : (s.handed call).held[0]? = some ⟨e⟩ := by rw [held, tokens]; rfl
    rw [h.held, tokens]
    change ((s.handed call).complete 0).1.machine = _ ∧ ((s.handed call).complete 0).1.Prompt
    rw [complete_of_some first, Accepted.done_of_launched (a := ⟨s.machine, some call⟩) work]
    refine ⟨rfl, stays, ?_⟩
    rw [held, tokens]
    rfl

theorem Prompt.settle (h : s.Prompt) (accepted : Accepted) :
    (s.settle accepted).machine = accepted.done ∧ (s.settle accepted).Prompt := by
  obtain ⟨machine, _ | call⟩ := accepted
  · exact ⟨rfl, h.spends, h.held⟩
  · exact Prompt.deliver (s := { s with machine }) ⟨h.spends, h.held⟩ call

theorem Prompt.step (h : s.Prompt) (access : Access) :
    (s.step access.event).1.machine = (s.machine.respond s.settings access).machine ∧
      (s.step access.event).1.Prompt := by
  obtain ⟨_, _, ⟨same, machine⟩ | ⟨accepted, settled, machine⟩⟩ := s.step_access access
  · rw [same, machine]
    exact ⟨rfl, h⟩
  · rw [settled, machine]
    exact h.settle accepted

theorem Prompt.stages (h : s.Prompt) (accesses : List Access) :
    s.stages (accesses.map Access.event) = s.machine.respondAll s.settings accesses := by
  induction accesses generalizing s with
  | nil => rfl
  | cons access accesses ih =>
    obtain ⟨answer, call, _⟩ := s.step_access access
    obtain ⟨machine, next⟩ := h.step access
    rw [List.map_cons, stages_cons, ih next, settings_step, answer, call, machine]
    rfl

theorem completeAll_of_nil (held : s.held = []) : s.completeAll = (s, []) := by
  rw [completeAll, held]
  rfl

theorem completeTimes_of_nil (held : s.held = []) (times : Nat) : s.completeTimes times = s :=
  Function.iterate_fixed (congrArg Prod.fst (completeAll_of_nil held)) times

theorem Prompt.serve (h : s.Prompt) (plan : List (Access × Nat)) :
    s.serve plan = ((s.run (plan.map (·.1.event))).1, s.stages (plan.map (·.1.event))) := by
  induction plan generalizing s with
  | nil => rfl
  | cons entry plan ih =>
    obtain ⟨access, times⟩ := entry
    have next := (h.step access).2
    rw [serve_cons, completeTimes_of_nil next.held, ih next]
    rfl

theorem machine_completeAll_settle (keeps : Keeps s.executor) (held : s.held = [])
    (accepted : Accepted) : (s.settle accepted).completeAll.1.machine = accepted.done := by
  obtain ⟨machine, tokens⟩ := settle_of_keeps keeps accepted
  rw [completeAll_fst, machine, tokens, held, List.nil_append]
  exact accepted.foldl_finish_tokens

theorem machine_completeAll_step (keeps : Keeps s.executor) (held : s.held = [])
    (access : Access) :
    (s.step access.event).1.completeAll.1.machine =
      (s.machine.respond s.settings access).machine := by
  obtain ⟨_, _, ⟨same, machine⟩ | ⟨accepted, settled, machine⟩⟩ := s.step_access access
  · rw [same, machine, completeAll_of_nil held]
  · rw [settled, machine]
    exact machine_completeAll_settle keeps held accepted

theorem serve_of_keeps (keeps : Keeps s.executor) (held : s.held = []) (accesses : List Access) :
    (s.serve (accesses.map (·, 1))).2 = s.machine.respondAll s.settings accesses := by
  induction accesses generalizing s with
  | nil => rfl
  | cons access accesses ih =>
    obtain ⟨answer, call, _⟩ := s.step_access access
    have machine := machine_completeAll_step keeps held access
    have all := (s.step access.event).1.completeAll_fst
    have later := ih (s := (s.step access.event).1.completeAll.1)
      (by rw [all]; exact keeps_step keeps access.event) (by rw [all])
    have settings : (s.step access.event).1.completeAll.1.settings = s.settings := by
      rw [all]
      exact s.settings_step access.event
    rw [machine, settings] at later
    rw [List.map_cons, serve_cons, completeTimes, Function.iterate_one, later, answer, call,
      machine]
    rfl

/-- A tracing executor that defers, told to complete all after every access, cannot be told from one
that does not defer, nor from the immediate executor: each access gets the same answer, makes the
same call and leaves the same words, with every engine idle. No access is refused because an engine
is in progress. If completion is not deferred, completing all is without effect, at any time and any
number of times. -/
theorem deferred_completion_agrees (settings : Settings) :
    let immediate := start settings Executor.immediate
    let prompt := start settings (Executor.tracing { deferring := false })
    let deferred := start settings (Executor.tracing { deferring := true })
    (∀ accesses : List Access,
      let stages := immediate.stages (accesses.map Access.event)
      prompt.stages (accesses.map Access.event) = stages ∧
      (deferred.serve (accesses.map (·, 1))).2 = stages ∧
      ∀ stage ∈ stages, (∀ e, stage.machine.activity e = .idle) ∧
        ∀ e, stage.answer ≠ .refused (.inProgress e)) ∧
    ∀ s ∈ [immediate, prompt], ∀ (before : Nat) (plan : List (Access × Nat)),
      (s.completeTimes before).serve plan =
        ((s.run (plan.map (·.1.event))).1, s.stages (plan.map (·.1.event))) := by
  intro immediate prompt deferred
  have immediately : immediate.Prompt := prompt_start settings (Executor.spends rfl)
  have promptly : prompt.Prompt := prompt_start settings (Executor.spends rfl)
  refine ⟨fun accesses => ?_, fun s mem before plan => ?_⟩
  · intro stages
    have responses : stages = Machine.start.respondAll settings accesses :=
      immediately.stages accesses
    refine ⟨(promptly.stages accesses).trans responses.symm,
      (serve_of_keeps (s := deferred) (Executor.keeps rfl) rfl accesses).trans responses.symm, ?_⟩
    rw [responses]
    exact Machine.allIdle_respondAll Machine.allIdle_start accesses
  · have always : s.Prompt := by
      rcases List.mem_pair.1 mem with rfl | rfl
      · exact immediately
      · exact promptly
    rw [completeTimes_of_nil always.held]
    exact always.serve plan

end Session

end GraphicsBlock

import GraphicsBlock.Proofs.SessionStep

namespace GraphicsBlock

namespace Machine

def Starts (before after : Machine) (e : Engine) : Prop :=
  before.activity e = .idle ∧ after.activity e = .busy

theorem not_starts_of_activities_eq {m after : Machine} (h : after.activities = m.activities)
    (e : Engine) : ¬m.Starts after e := by
  rintro ⟨idle, busy⟩
  rw [activity, h, ← activity, idle] at busy
  cases busy

theorem activity_of_isBusy_eq_false {m : Machine} {e : Engine} (h : m.isBusy e = false) :
    m.activity e = .idle := by
  cases running : m.activity e with
  | idle => rfl
  | busy => simp [isBusy, running] at h

variable {settings : Settings} {m : Machine} {s : Store} {accepted : Accepted}

theorem Accepts.launched?_eq_some_iff (h : Accepts settings m s accepted) (e : Engine) :
    accepted.launched? = some e ↔ m.Starts accepted.machine e := by
  rcases h.quiet_or_launch with ⟨same, quiet⟩ | ⟨f, launched, _, idle, activities⟩
  · rw [quiet]
    exact ⟨nofun, fun starts => absurd starts (not_starts_of_activities_eq same e)⟩
  · rw [launched, Option.some.injEq, Starts, activity_of_set activities]
    by_cases same : f = e
    · subst same
      simp [activity_of_isBusy_eq_false idle]
    · rw [if_neg same]
      refine ⟨fun eq => absurd eq same, ?_⟩
      rintro ⟨wasIdle, busy⟩
      rw [wasIdle] at busy
      cases busy

theorem Accepts.exists_call_iff (h : Accepts settings m s accepted) (e : Engine) :
    (∃ call, accepted.call = some call ∧ call.engine? = some e) ↔ m.Starts accepted.machine e :=
  Option.bind_eq_some_iff.symm.trans (h.launched?_eq_some_iff e)

theorem Accepts.exists_work_iff (h : Accepts settings m s accepted) :
    (∃ call, accepted.call = some call ∧ call.engine? ≠ none) ↔
      ∃ e, m.Starts accepted.machine e ∧ ∀ f, m.Starts accepted.machine f → f = e := by
  constructor
  · rintro ⟨call, called, work⟩
    obtain ⟨e, launched⟩ := Option.ne_none_iff_exists'.1 work
    refine ⟨e, (h.exists_call_iff e).1 ⟨call, called, launched⟩, ?_⟩
    intro f started
    obtain ⟨again, calledAgain, launchedAgain⟩ := (h.exists_call_iff f).2 started
    cases called.symm.trans calledAgain
    exact Option.some.inj (launchedAgain.symm.trans launched)
  · rintro ⟨e, started, _⟩
    obtain ⟨call, called, launched⟩ := (h.exists_call_iff e).2 started
    exact ⟨call, called, by simp [launched]⟩

end Machine

namespace Session

variable {E : Type} [Conduct E]

/-- The handler of a refused write leaves the machine as it was, whatever it has done before it
fails: the session is unchanged, and no executor is called. An accepted write leaves the session with
the machine of its handler and then calls the executor at most once: with work for an engine exactly
if one engine has started in the new machine, and it is that engine. -/
theorem write_atomic (s : Session E) (w : Width) (address : Address) (value : BitVec w.bits) :
    let handled := s.machine.writeLane s.settings w address value
    let next := (s.write w address value).1
    let reply := (s.write w address value).2
    (∀ fault, reply.result = .error fault →
      handled.result = .error fault ∧ handled.machine = s.machine ∧ next = s ∧
        reply.call = none) ∧
    (reply.result = .ok () →
      handled.result = .ok reply.call ∧
      next.executor = s.told reply.call ∧
      ((∀ call, reply.call = some call → (s.received call).2 = []) →
        next.machine = handled.machine) ∧
      (∀ e, (∃ call, reply.call = some call ∧ call.engine? = some e) ↔
        s.machine.Starts handled.machine e) ∧
      ((∃ call, reply.call = some call ∧ call.engine? ≠ none) ↔
        ∃ e, s.machine.Starts handled.machine e ∧
          ∀ f, s.machine.Starts handled.machine f → f = e)) := by
  intro handled next reply
  cases written : s.machine.write s.settings w address value with
  | error fault =>
    obtain ⟨unchanged, refused, quiet⟩ := write_of_error written
    obtain ⟨records, failed⟩ := Machine.writeLane_of_error written
    refine ⟨fun other faulted => ?_, fun accepted => nomatch refused.symm.trans accepted⟩
    cases refused.symm.trans faulted
    rw [show handled = _ from failed]
    exact ⟨rfl, rfl, unchanged, quiet⟩
  | ok accepted =>
    obtain ⟨settled, ok, call_eq⟩ := write_of_ok written
    obtain ⟨i, _, taken⟩ := Machine.accepts_of_write written
    refine ⟨fun _ refused => (nomatch ok.symm.trans refused), fun _ => ?_⟩
    rw [show handled = accepted.handled from Machine.writeLane_of_ok written,
      show reply.call = accepted.call from call_eq, show next = s.settle accepted from settled]
    exact ⟨rfl, s.executor_settle accepted, fun idle => (settle_of_idle_conduct idle).1,
      taken.exists_call_iff, taken.exists_work_iff⟩

end Session

end GraphicsBlock

import GraphicsBlock.Proofs.Reachable

namespace GraphicsBlock

/-- What the trigger word of an engine shows of it. A running fill is not finished. -/
def Engine.Shows (e : Engine) (word : Word) (busy : Bool) : Prop :=
  match e with
  | .fill _ => word.getLsbD 0 = busy ∧ (busy = true → word.getLsbD 1 = false)
  | .transfer => busy = true ↔ word ≠ 0
  | .commandList => word.getLsbD 0 = busy

def RegisterFile.activities (file : RegisterFile) : Activities where
  fill0 := if (file.register (.fill .zero .control)).getLsbD 0 then .busy else .idle
  fill1 := if (file.register (.fill .one .control)).getLsbD 0 then .busy else .idle
  transfer := if file.register (.transfer .trigger) ≠ 0 then .busy else .idle
  commandList := if (file.register (.command .trigger)).getLsbD 0 then .busy else .idle

def Store.Extends (s : Store) (m : Machine) : Prop :=
  ∀ i, s.mask.getLsbD i = false → s.merged.getLsbD i = (m.file.get s.index).getLsbD i

namespace Machine

theorem extends_merge (m : Machine) (i : WordIndex) (w : Width) (address : Address)
    (value : BitVec w.bits) : (m.merge i w address value).Extends m :=
  fun _ h => getLsbD_mergeLane_of_not_mem h _ _

def Coherent (m : Machine) : Prop := ∀ e : Engine, e.Shows (m.file.register e.trigger) (m.isBusy e)

theorem coherent_start : start.Coherent := by
  intro e
  have idle : start.isBusy e = false := by simp [isBusy]
  have blank : start.file.register e.trigger = 0 := RegisterFile.get_blank _
  rw [idle, blank]
  cases e <;> simp [Engine.Shows]

theorem Coherent.activities_eq {m : Machine} (h : m.Coherent) :
    m.activities = m.file.activities := by
  have busy : ∀ e, m.activities.get e = if m.isBusy e then .busy else .idle := by
    intro e
    rw [isBusy, activity]
    cases m.activities.get e <;> rfl
  apply Activities.ext_get
  intro e
  rw [busy]
  have shows := h e
  rcases e with (_ | _) | _ | _
  · rw [← shows.1]; rfl
  · rw [← shows.1]; rfl
  · by_cases running : m.isBusy .transfer = true
    · rw [if_pos running]
      exact (if_pos (shows.1 running)).symm
    · rw [if_neg running]
      exact (if_neg (mt shows.2 running)).symm
  · rw [← (shows : _ = _)]; rfl

theorem Coherent.set {m : Machine} (h : m.Coherent) {i : WordIndex} {word : Word}
    (shows : ∀ e : Engine, e.trigger.index = i → e.Shows word (m.isBusy e)) :
    Coherent { m with file := m.file.set i word } := by
  intro e
  change e.Shows ((m.file.set i word).get e.trigger.index) (m.isBusy e)
  rw [RegisterFile.get_set]
  by_cases hi : e.trigger.index = i
  · rw [if_pos hi.symm]
    exact shows e hi
  · rw [if_neg (Ne.symm hi)]
    exact h e

theorem Coherent.update {m : Machine} (h : m.Coherent) {e : Engine} {word : Word} {a : Activity}
    (shows : e.Shows word (decide (a = .busy))) : Coherent (m.update e.trigger word e a) := by
  intro f
  rw [isBusy_update]
  change f.Shows ((m.file.setRegister e.trigger word).register f.trigger) _
  rw [RegisterFile.register_setRegister]
  by_cases hf : e = f
  · subst hf
    rw [if_pos rfl, if_pos rfl]
    exact shows
  · rw [if_neg (mt Engine.trigger_inj.1 hf), if_neg hf]
    exact h f

theorem Coherent.finish {m : Machine} (h : m.Coherent) (e : Engine) : (m.finish e).Coherent := by
  rw [finish_eq]
  apply h.update
  cases e with
  | fill unit =>
    constructor
    · rw [doneWord, FillControl.getLsbD_set, FillControl.getLsbD_set]
      rfl
    · intro running
      cases running
  | transfer | commandList => simp [Engine.Shows, doneWord]

theorem shows_at_trigger {m : Machine} {i : WordIndex} {e : Engine} {word : Word}
    (role : Role.at i = .trigger e) (shows : e.Shows word (m.isBusy e)) (f : Engine)
    (hf : f.trigger.index = i) : f.Shows word (m.isBusy f) := by
  have : Role.trigger f = .trigger e := by rw [← role, ← hf, Role.at_trigger]
  cases this
  exact shows

theorem shows_elsewhere {m : Machine} {i : WordIndex} {word : Word}
    (role : ∀ e, Role.at i ≠ .trigger e) (f : Engine) (hf : f.trigger.index = i) :
    f.Shows word (m.isBusy f) := by
  have := role f
  rw [← hf, Role.at_trigger] at this
  exact absurd rfl this

theorem getLsbD_merged_of_not_firesCommand {m : Machine} {s : Store} (extend : s.Extends m)
    (quiet : firesCommand s = false) (clear : (m.file.get s.index).getLsbD 0 = false) :
    s.merged.getLsbD 0 = false := by
  rw [firesCommand, s.touches_eq_getLsbD rfl, CommandTrigger.trigger_eq_getLsbD] at quiet
  -- A store that leaves bit 0 out keeps the old one, which is clear.
  cases covered : s.mask.getLsbD 0 with
  | true => simpa [CommandTrigger.field, covered] using quiet
  | false => rw [extend 0 covered, clear]

theorem Coherent.shows_get {m : Machine} (h : m.Coherent) {i : WordIndex} {e : Engine}
    (role : Role.at i = .trigger e) : e.Shows (m.file.get i) (m.isBusy e) := by
  rw [← Role.trigger_index_of_at role]
  exact h e

theorem Coherent.store {settings : Settings} {m : Machine} {s : Store} {accepted : Accepted}
    (h : m.Coherent) (extend : s.Extends m) (taken : Accepts settings m s accepted) :
    accepted.machine.Coherent := by
  cases taken with
  | plain role | select role =>
    exact h.set (shows_elsewhere (by simp [role]))
  | fillRunning role busy =>
    apply h.set (shows_at_trigger role _)
    -- The finished bit was clear, and a processor cannot set it.
    have finished := (h.shows_get role).2 busy
    rw [busy]
    constructor
    · rw [FillControl.getLsbD_set]
      rfl
    · intro _
      rw [FillControl.getLsbD_set, getLsbD_controlFor, finished]
      simp [FillControl.Flag.field]
  | fillIdle role idle quiet =>
    apply h.set (shows_at_trigger role _)
    rw [idle]
    constructor
    · rw [← quiet]
      exact (FillControl.get_eq_getLsbD _ .trigger).symm
    · intro running
      cases running
  | fillLaunch role idle fired =>
    apply h.update
    -- The launch clears the finished bit and leaves the trigger bit, which fired, alone.
    constructor
    · rw [FillControl.get_eq_getLsbD] at fired
      rw [FillControl.getLsbD_set]
      exact fired
    · intro _
      rw [FillControl.getLsbD_set]
      rfl
  | transferRunning | commandRunning => exact h
  | transferIdle role idle zero =>
    apply h.set (shows_at_trigger role _)
    rw [idle, zero]
    simp [Engine.Shows]
  | transferLaunch role idle nonzero =>
    apply h.update
    exact ⟨fun _ => nonzero, fun _ => rfl⟩
  | commandIdle role idle quiet =>
    apply h.set (shows_at_trigger role _)
    have clear : (m.file.get s.index).getLsbD 0 = m.isBusy .commandList := h.shows_get role
    rw [idle] at clear ⊢
    exact getLsbD_merged_of_not_firesCommand extend quiet clear
  | commandLaunch role idle fired =>
    apply h.update
    rw [firesCommand, Bool.and_eq_true, CommandTrigger.trigger_eq_getLsbD] at fired
    exact fired.2

end Machine

theorem Reachable.coherent {settings : Settings} {m : Machine} {held : List Token}
    (h : Reachable settings m held) : m.Coherent := by
  induction h with
  | start => exact Machine.coherent_start
  | @write m _ _ _ _ _ _ written ih =>
    obtain ⟨i, _, taken⟩ := Machine.accepts_of_write written
    exact ih.store (m.extends_merge i _ _ _) taken
  | complete _ _ ih => exact ih.finish _
  | drop _ _ ih => exact ih

theorem Session.coherent_run {E : Type} [Conduct E] (settings : Settings) (executor : E)
    (events : List Event) : ((start settings executor).run events).1.machine.Coherent :=
  (isReachable_run (isReachable_start settings executor) events).coherent

/-- After any history, under any settings and with any executor, the trigger words show which
engines run, so that the activities are a function of the words. -/
theorem Session.isBusy_iff_trigger {E : Type} [Conduct E] (settings : Settings) (executor : E)
    (events : List Event) :
    let m := ((Session.start settings executor).run events).1.machine
    (∀ unit, (m.isBusy (.fill unit) = true ↔
        (m.file.register (.fill unit .control)).getLsbD 0 = true) ∧
      (m.isBusy (.fill unit) = true →
        (m.file.register (.fill unit .control)).getLsbD 1 = false)) ∧
    (m.isBusy .transfer = true ↔ m.file.register (.transfer .trigger) ≠ 0) ∧
    (m.isBusy .commandList = true ↔
      (m.file.register (.command .trigger)).getLsbD 0 = true) ∧
    m.activities = m.file.activities := by
  intro m
  have coherent : m.Coherent :=
    (isReachable_run (isReachable_start settings executor) events).coherent
  refine ⟨fun unit => ?_, coherent .transfer, ?_, coherent.activities_eq⟩
  · obtain ⟨trigger, finished⟩ := coherent (.fill unit)
    exact ⟨by rw [← trigger]; rfl, finished⟩
  · have trigger : _ = m.isBusy .commandList := coherent .commandList
    rw [← trigger]
    rfl

end GraphicsBlock

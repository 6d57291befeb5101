import GraphicsBlock.Proofs.Chronicle
import GraphicsBlock.Proofs.Coherence

namespace GraphicsBlock

def Engine.Holds (e : Engine) (launched word : Word) : Prop :=
  match e with
  | .fill _ => word.getLsbD 0 = true ∧ word.getLsbD 1 = false
  | .transfer | .commandList => word = launched

def Engine.Ends (e : Engine) (before after : Word) : Prop :=
  match e with
  | .fill _ => after.getLsbD 0 = false ∧ after.getLsbD 1 = true ∧
      ∀ bit, 2 ≤ bit → after.getLsbD bit = before.getLsbD bit
  | .transfer | .commandList => after = 0

def Chronicle.launchedWord? (e : Engine) : Chronicle → Option Word
  | [] => none
  | .write _ _ _ accepted :: past =>
    if accepted.launched? = some e then some (accepted.machine.file.register e.trigger)
    else launchedWord? e past
  | .complete _ :: past | .drop _ :: past => launchedWord? e past

namespace Machine

structure Owned (m : Machine) (e : Engine) (launched : Word) : Prop where
  busy : m.isBusy e = true
  holds : e.Holds launched (m.file.register e.trigger)

variable {settings : Settings} {m : Machine} {s : Store} {accepted : Accepted} {e : Engine}
  {launched : Word}

theorem Coherent.owned (h : m.Coherent) (busy : m.isBusy e = true) :
    m.Owned e (m.file.register e.trigger) where
  busy := busy
  holds := by
    cases e with
    | fill unit =>
      obtain ⟨trigger, finished⟩ := h (.fill unit)
      exact ⟨trigger.trans busy, finished busy⟩
    | transfer | commandList => rfl

theorem Coherent.owned_fill {unit : UnitId} (h : m.Coherent) (busy : m.isBusy (.fill unit) = true)
    (launched : Word) : m.Owned (.fill unit) launched :=
  ⟨busy, (h.owned busy).holds⟩

theorem Accepts.isBusy_of_launched (h : Accepts settings m s accepted)
    (launches : accepted.launched? = some e) :
    m.isBusy e = false ∧ accepted.machine.isBusy e = true := by
  rcases h.quiet_or_launch with ⟨_, quiet⟩ | ⟨f, work, _, idle, activities⟩
  · rw [quiet] at launches
    cases launches
  · rw [work] at launches
    cases launches
    exact ⟨idle, by rw [isBusy_of_set activities, if_pos rfl]; rfl⟩

theorem Accepts.isBusy_of_not_launched (h : Accepts settings m s accepted)
    (other : accepted.launched? ≠ some e) : accepted.machine.isBusy e = m.isBusy e := by
  rcases h.quiet_or_launch with ⟨same, _⟩ | ⟨f, work, _, _, activities⟩
  · rw [isBusy, activity, same]
    rfl
  · rw [isBusy_of_set activities, if_neg]
    exact fun eq => other (eq ▸ work)

theorem Accepts.launched?_ne_of_isBusy (h : Accepts settings m s accepted)
    (busy : m.isBusy e = true) : accepted.launched? ≠ some e := by
  intro launches
  rw [(h.isBusy_of_launched launches).1] at busy
  cases busy

theorem Accepts.register_trigger_of_isBusy (h : Accepts settings m s accepted)
    (busy : m.isBusy e = true) (whole : ∀ unit, e ≠ .fill unit) :
    accepted.machine.file.register e.trigger = m.file.register e.trigger := by
  by_cases here : e.trigger.index = s.index
  · have role : Role.at s.index = .trigger e := by rw [← here, Role.at_trigger]
    cases h with
    | transferRunning | commandRunning => rfl
    | plain other | select other =>
      rw [role] at other
      cases other
    | fillRunning other | fillIdle other | fillLaunch other =>
      rw [role] at other
      cases other
      exact absurd rfl (whole _)
    | transferIdle other idle | transferLaunch other idle | commandIdle other idle
    | commandLaunch other idle =>
      rw [role] at other
      cases other
      rw [busy] at idle
      cases idle
  · obtain ⟨word, file⟩ := h.file_eq
    rw [file]
    exact m.file.get_set_of_ne (Ne.symm here) word

theorem Owned.store (h : m.Owned e launched) (coherent : m.Coherent) (extend : s.Extends m)
    (taken : Accepts settings m s accepted) : accepted.machine.Owned e launched := by
  have busy : accepted.machine.isBusy e = true :=
    (taken.isBusy_of_not_launched (taken.launched?_ne_of_isBusy h.busy)).trans h.busy
  -- A store may change the control word of a running fill, but not its flags.
  cases e with
  | fill unit => exact (coherent.store extend taken).owned_fill busy launched
  | transfer =>
    exact ⟨busy, (taken.register_trigger_of_isBusy h.busy (by simp)).trans h.holds⟩
  | commandList =>
    exact ⟨busy, (taken.register_trigger_of_isBusy h.busy (by simp)).trans h.holds⟩

theorem Owned.finish (h : m.Owned e launched) {f : Engine} (other : f ≠ e) :
    (m.finish f).Owned e launched where
  busy := by
    rw [isBusy_finish, if_neg other]
    exact h.busy
  holds := by
    rw [register_finish_of_ne m (mt Engine.trigger_inj.1 other)]
    exact h.holds

theorem ends_finish (m : Machine) (e : Engine) :
    (m.finish e).isBusy e = false ∧
      e.Ends (m.file.register e.trigger) ((m.finish e).file.register e.trigger) := by
  rw [isBusy_finish, if_pos rfl, register_finish, if_pos rfl]
  refine ⟨rfl, ?_⟩
  cases e with
  | fill unit =>
    refine ⟨?_, ?_, ?_⟩
    · rw [doneWord, FillControl.getLsbD_set, FillControl.getLsbD_set]
      rfl
    · rw [doneWord, FillControl.getLsbD_set]
      rfl
    · intro bit beyond
      rw [doneWord, FillControl.getLsbD_set_of_ne, FillControl.getLsbD_set_of_ne]
      · exact Nat.ne_of_gt (Nat.lt_of_lt_of_le Nat.zero_lt_two beyond)
      · exact Nat.ne_of_gt beyond
  | transfer | commandList => rfl

end Machine

namespace Leads

variable {settings : Settings} {m n : Machine} {held kept : List Token} {past : Chronicle}
  {e : Engine} {launched : Word}

/-- Whatever else happens, an engine is not let go before its own token is spent. -/
theorem owned (h : Leads settings m held past n kept) (reached : Reachable settings m held)
    (own : m.Owned e launched) (unspent : .complete e ∉ past) :
    n.Owned e launched ∧ ∀ move ∈ past, move.launched? ≠ some e := by
  induction h with
  | stay => exact ⟨own, by simp⟩
  | write before written ih =>
    obtain ⟨own, quiet⟩ := ih (List.not_mem_of_not_mem_cons unspent)
    obtain ⟨i, _, taken⟩ := Machine.accepts_of_write written
    refine ⟨own.store (before.reachable reached).coherent (Machine.extends_merge _ i _ _ _) taken,
      List.forall_mem_cons.2 ⟨taken.launched?_ne_of_isBusy own.busy, quiet⟩⟩
  | complete before at_position ih =>
    obtain ⟨own, quiet⟩ := ih (List.not_mem_of_not_mem_cons unspent)
    have other : _ ≠ e := fun same => unspent (same ▸ List.mem_cons_self)
    exact ⟨own.finish other, List.forall_mem_cons.2 ⟨nofun, quiet⟩⟩
  | drop before at_position ih =>
    obtain ⟨own, quiet⟩ := ih (List.not_mem_of_not_mem_cons unspent)
    exact ⟨own, List.forall_mem_cons.2 ⟨nofun, quiet⟩⟩

theorem owned_of_start (h : Leads settings .start [] past n kept) (busy : n.isBusy e = true) :
    ∃ launched, past.launchedWord? e = some launched ∧ n.Owned e launched := by
  induction h with
  | stay =>
    rw [Machine.isBusy, Machine.activity_start] at busy
    cases busy
  | @write past n kept w address value accepted before written ih =>
    have coherent : n.Coherent := (before.reachable .start).coherent
    obtain ⟨i, _, taken⟩ := Machine.accepts_of_write written
    have extend := n.extends_merge i w address value
    by_cases launches : accepted.launched? = some e
    · exact ⟨_, if_pos launches, (coherent.store extend taken).owned busy⟩
    · rw [taken.isBusy_of_not_launched launches] at busy
      obtain ⟨launched, latest, own⟩ := ih busy
      exact ⟨launched, (if_neg launches).trans latest, own.store coherent extend taken⟩
  | @complete past n kept position token before at_position ih =>
    rw [Machine.isBusy_finish] at busy
    split at busy
    · cases busy
    · next other =>
      obtain ⟨launched, latest, own⟩ := ih busy
      exact ⟨launched, latest, own.finish other⟩
  | drop before at_position ih => exact ih busy

end Leads

namespace Session

variable {E : Type} [Conduct E]

/-- A running engine stays as its launch has left it, and is launched no second time, until its own
token is spent. That ends the operation in one step, and leaves the rest of a control word alone. -/
theorem engine_ownership (settings : Settings) (executor : E) (events : List Event) (e : Engine)
    (busy : ((start settings executor).run events).1.machine.isBusy e = true) :
    let s := ((start settings executor).run events).1
    ∃ launched, ((start settings executor).chronicle events).launchedWord? e = some launched ∧
      (∀ more, .complete e ∉ s.chronicle more →
        let later := (s.run more).1.machine
        later.isBusy e = true ∧
        (∀ outcome ∈ (s.run more).2, outcome.call.bind Call.engine? ≠ some e) ∧
        e.Holds launched (later.file.register e.trigger)) ∧
      (∀ position, s.held[position]? = some ⟨e⟩ →
        let later := (s.complete position).1.machine
        later.isBusy e = false ∧
        e.Ends (s.machine.file.register e.trigger) (later.file.register e.trigger)) := by
  intro s
  obtain ⟨launched, latest, own⟩ := (leads_start settings executor events).owned_of_start busy
  refine ⟨launched, latest, ?_, ?_⟩
  · intro more unspent
    have reached : s.IsReachable := isReachable_run (isReachable_start settings executor) events
    obtain ⟨kept, quiet⟩ := (s.leads_run more).owned reached own unspent
    refine ⟨kept.busy, ?_, kept.holds⟩
    intro outcome mem launches
    obtain ⟨call, called, engine⟩ := Option.bind_eq_some_iff.1 launches
    obtain ⟨move, listed, same⟩ := s.exists_move_of_call mem called
    exact quiet move listed (Option.bind_eq_some_iff.2 ⟨call, same, engine⟩)
  · intro position at_position
    rw [complete_of_some at_position]
    exact s.machine.ends_finish e

theorem engine_ownership_transfer :
    let s := ((start {} Executor.holding).run [.write .full 0xC18#32 0x1234#32]).1
    s.machine.isBusy .transfer = true ∧
      ∀ more, .complete .transfer ∉ s.chronicle more →
        (s.run more).1.machine.file.register (.transfer .trigger) = 0x1234#32 := by
  have busy : ((start {} Executor.holding).run
      [.write .full 0xC18#32 0x1234#32]).1.machine.isBusy .transfer = true := by decide +kernel
  obtain ⟨launched, latest, stays, _⟩ := engine_ownership {} Executor.holding _ .transfer busy
  have word : Chronicle.launchedWord? .transfer
      ((start {} Executor.holding).chronicle [.write .full 0xC18#32 0x1234#32]) =
        some 0x1234#32 := by decide +kernel
  obtain rfl : launched = 0x1234#32 := Option.some.inj (latest.symm.trans word)
  exact ⟨busy, fun more unspent => (stays more unspent).2.2⟩

end Session

end GraphicsBlock

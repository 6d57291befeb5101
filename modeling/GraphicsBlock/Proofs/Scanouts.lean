import GraphicsBlock.Proofs.Contracts
import GraphicsBlock.Proofs.Footprint
import GraphicsBlock.Proofs.SessionStep

namespace GraphicsBlock

def Event.selects (u : UnitId) : Event → Bool
  | .write _ address _ => address.toNat / 4 = (Register.screen u .select).index
  | .read .. | .complete _ | .drop _ => false

example : (Register.screen .zero .select).index.val = 0x11E ∧
    (Register.screen .one .select).index.val = 0x15E := by decide

def Call.scanout? (u : UnitId) : Call → Option Scanout
  | .swap unit scanout => if unit = u then some scanout else none
  | .fill _ | .transfer _ | .commandList _ => none

def Outcome.scanout? (u : UnitId) (outcome : Outcome) : Option Scanout :=
  outcome.call.bind (Call.scanout? u)

def scanouts (u : UnitId) (outcomes : List Outcome) : List Scanout :=
  outcomes.filterMap (Outcome.scanout? u)

theorem scanouts_cons (u : UnitId) (outcome : Outcome) (outcomes : List Outcome) :
    scanouts u (outcome :: outcomes) = (outcome.scanout? u).toList ++ scanouts u outcomes := by
  rw [scanouts, List.filterMap_cons]
  cases outcome.scanout? u <;> rfl

namespace Machine

variable {settings : Settings} {m : Machine} {s : Store} {accepted : Accepted} {u : UnitId}
  {w : Width} {address : Address} {value : BitVec w.bits}

def selected (m : Machine) (u : UnitId) {w : Width} (address : Address) (value : BitVec w.bits) :
    Machine :=
  { m with
    file := m.file.setRegister (.screen u .select)
      (mergeLane w address (m.file.register (.screen u .select)) value) }

theorem write_of_selects (here : address.toNat / 4 = (Register.screen u .select).index) :
    m.write settings w address value = .ok ⟨m.selected u address value,
      some (.swap u ((m.selected u address value).file.screenBank u).scanout)⟩ :=
  write_of_accepts (wordIndex?_eq_ok_iff.2 here)
    (.select (s := m.merge _ w address value) (Role.at_select u))

theorem Accepts.scanout?_eq_none (h : Accepts settings m s accepted)
    (elsewhere : Role.at s.index ≠ .select u) : accepted.call.bind (Call.scanout? u) = none := by
  cases h with
  | plain | fillRunning | fillIdle | fillLaunch | transferRunning | transferIdle | transferLaunch
  | commandRunning | commandIdle | commandLaunch => rfl
  | @select unit role =>
    have other : unit ≠ u := fun same => elsewhere (same ▸ role)
    exact if_neg other

theorem screenBank_finish (m : Machine) (e : Engine) (u : UnitId) :
    (m.finish e).file.screenBank u = m.file.screenBank u := by
  apply RegisterFile.screenBank_congr
  intro word
  apply m.register_finish_of_ne
  cases e <;> simp [Engine.trigger]

end Machine

namespace Session

variable {E : Type} {s next : Session E} {u : UnitId}

theorem Acts.screenBank_eq (h : s.Acts next) (u : UnitId) :
    next.machine.file.screenBank u = s.machine.file.screenBank u := by
  cases h with
  | absent | drop => rfl
  | complete => exact s.machine.screenBank_finish _ u

theorem Acts.isBusy (h : s.Acts next) {e : Engine} (busy : next.machine.isBusy e = true) :
    s.machine.isBusy e = true := by
  cases h with
  | absent | drop => exact busy
  | complete =>
    rw [Machine.isBusy_finish] at busy
    split at busy
    · cases busy
    · exact busy

theorem Acts.sublist (h : s.Acts next) : next.held.Sublist s.held := by
  cases h with
  | absent => exact .refl _
  | complete | drop => exact List.eraseIdx_sublist ..

variable [Conduct E]

theorem screenBank_settle (s : Session E) (accepted : Accepted) (u : UnitId) :
    (s.settle accepted).machine.file.screenBank u = accepted.machine.file.screenBank u :=
  settle_induction
    (P := fun t => t.machine.file.screenBank u = accepted.machine.file.screenBank u) rfl
    fun _ _ acts same => (acts.screenBank_eq u).trans same

theorem isBusy_of_settle {accepted : Accepted} {e : Engine}
    (busy : (s.settle accepted).machine.isBusy e = true) :
    accepted.machine.isBusy e = true :=
  settle_induction
    (P := fun t => t.machine.isBusy e = true → accepted.machine.isBusy e = true) id
    (fun _ _ acts before busy => before (acts.isBusy busy)) busy

theorem sublist_settle (s : Session E) (accepted : Accepted) :
    (s.settle accepted).held.Sublist (s.held ++ accepted.tokens) :=
  settle_induction (P := fun t => t.held.Sublist (s.held ++ accepted.tokens)) (.refl _)
    fun _ _ acts kept => acts.sublist.trans kept

theorem step_of_selects (s : Session E) {w : Width} {address : Address} (value : BitVec w.bits)
    (here : address.toNat / 4 = (Register.screen u .select).index) :
    let selected := s.machine.selected u address value
    let next := (s.step (.write w address value)).1
    let outcome := (s.step (.write w address value)).2
    outcome.answer = .accepted ∧
      outcome.call = some (.swap u (selected.file.screenBank u).scanout) ∧
      next.machine.file.screenBank u = selected.file.screenBank u ∧
      (∀ e, next.machine.isBusy e = true → s.machine.isBusy e = true) ∧
      next.held.Sublist s.held := by
  intro selected next outcome
  have written : s.machine.write s.settings w address value =
      .ok ⟨selected, some (.swap u (selected.file.screenBank u).scanout)⟩ :=
    Machine.write_of_selects here
  obtain ⟨settled, called, answered⟩ := step_write_of_ok written
  have held := s.sublist_settle ⟨selected, some (.swap u (selected.file.screenBank u).scanout)⟩
  refine ⟨answered, called, ?_, ?_, ?_⟩
  · rw [show next = _ from settled, screenBank_settle]
  · intro e busy
    rw [show next = _ from settled] at busy
    exact isBusy_of_settle busy
  · rw [show next = _ from settled]
    exact (List.append_nil s.held) ▸ held

theorem step_of_not_selects (s : Session E) {event : Event} (quiet : event.selects u = false) :
    (s.step event).2.scanout? u = none ∧
      ((s.step event).1.machine.file.screenBank u).select =
        (s.machine.file.screenBank u).select := by
  cases event with
  | read w address => exact ⟨by rw [Outcome.scanout?, (s.step_read w address).2.1]; rfl, rfl⟩
  | complete position =>
    refine ⟨by rw [Outcome.scanout?, step, call_complete]; rfl, ?_⟩
    exact congrArg ScreenBank.select ((s.acts_complete position).screenBank_eq u)
  | drop position =>
    refine ⟨by rw [Outcome.scanout?, step, call_drop]; rfl, ?_⟩
    exact congrArg ScreenBank.select ((s.acts_drop position).screenBank_eq u)
  | write w address value =>
    cases written : s.machine.write s.settings w address value with
    | error =>
      obtain ⟨unchanged, called, _⟩ := step_write_of_error written
      exact ⟨by rw [Outcome.scanout?, called]; rfl, by rw [unchanged]⟩
    | ok accepted =>
      obtain ⟨settled, called, _⟩ := step_write_of_ok written
      obtain ⟨i, addressed, taken⟩ := Machine.accepts_of_write written
      have index : address.toNat / 4 = i := wordIndex?_eq_ok_iff.1 addressed
      have elsewhere : (Register.screen u .select).index.val ≠ i := by
        rw [← index]
        exact Ne.symm (of_decide_eq_false quiet)
      refine ⟨?_, ?_⟩
      · rw [Outcome.scanout?, called]
        exact taken.scanout?_eq_none (mt Role.at_eq_select_iff.1 elsewhere)
      · obtain ⟨word, file⟩ := taken.file_eq
        rw [settled, screenBank_settle, file]
        exact congrArg FramebufferSelect.mk
          (s.machine.file.get_set_of_ne (fun same => elsewhere (congrArg Fin.val same.symm)) word)

theorem scanout?_step (s : Session E) (event : Event) (u : UnitId) :
    (s.step event).2.scanout? u =
      if event.selects u then some ((s.step event).1.machine.file.screenBank u).scanout
      else none := by
  cases selects : event.selects u with
  | false => exact (s.step_of_not_selects selects).1
  | true =>
    cases event with
    | read | complete | drop => cases selects
    | write w address value =>
      obtain ⟨_, called, bank, _⟩ :=
        s.step_of_selects value (of_decide_eq_true selects)
      rw [Outcome.scanout?, called, bank]
      exact if_pos rfl

theorem activeSet_step (s : Session E) (event : Event) (u : UnitId) :
    ((s.step event).1.machine.file.screenBank u).select.activeSet =
      (((s.step event).2.scanout? u).map (·.set)).getD
        (s.machine.file.screenBank u).select.activeSet := by
  rw [scanout?_step]
  cases selects : event.selects u with
  | false => rw [(s.step_of_not_selects selects).2]; rfl
  | true => rfl

theorem isSome_scanout?_run (s : Session E) (events : List Event) (u : UnitId) :
    (s.run events).2.map (fun outcome => (outcome.scanout? u).isSome) =
      events.map (Event.selects u) := by
  induction events generalizing s with
  | nil => rfl
  | cons event events ih =>
    rw [run_cons, List.map_cons, List.map_cons, ih, scanout?_step]
    cases event.selects u <;> rfl

theorem activeSet_run (s : Session E) (events : List Event) (u : UnitId) :
    ((s.run events).1.machine.file.screenBank u).select.activeSet =
      ((scanouts u (s.run events).2).getLast?.map (·.set)).getD
        (s.machine.file.screenBank u).select.activeSet := by
  induction events generalizing s with
  | nil => rfl
  | cons event events ih =>
    refine (ih (s.step event).1).trans ?_
    rw [activeSet_step, run_cons, scanouts_cons, List.getLast?_append]
    cases (scanouts u ((s.step event).1.run events).2).getLast? with
    | some => rfl
    | none => cases (s.step event).2.scanout? u <;> rfl

/-- In every run the screen is announced by the writes to its select word, each of them once, and by
no other event; and the latest notice tells which set is live, the first one if there was none. Such
a write is accepted wherever its lane is and whatever it carries. It changes that word alone, starts
no engine and brings no token, and its notice tells of the screen as it then stands. -/
theorem swaps_follow_select (settings : Settings) (executor : E) (events : List Event)
    (u : UnitId) :
    let s := ((start settings executor).run events).1
    let outcomes := ((start settings executor).run events).2
    outcomes.map (fun outcome => (outcome.scanout? u).isSome) = events.map (Event.selects u) ∧
    (s.machine.file.screenBank u).select.activeSet =
      ((scanouts u outcomes).getLast?.map (·.set)).getD 0 ∧
    ∀ (w : Width) (address : Address) (value : BitVec w.bits),
      address.toNat / 4 = (Register.screen u .select).index →
      let selected := s.machine.selected u address value
      let next := (s.step (.write w address value)).1
      let outcome := (s.step (.write w address value)).2
      ∃ scanout : Scanout,
        s.machine.write settings w address value = .ok ⟨selected, some (.swap u scanout)⟩ ∧
        outcome.answer = .accepted ∧ outcome.call = some (.swap u scanout) ∧
        scanout.Tells selected.file u ∧ (next.machine.file.screenBank u).scanout = scanout ∧
        (∀ e, next.machine.isBusy e = true → s.machine.isBusy e = true) ∧
        next.held.Sublist s.held := by
  intro s outcomes
  refine ⟨isSome_scanout?_run _ events u, ?_, ?_⟩
  · have blank : (Machine.start.file.screenBank u).select.activeSet = 0 := by
      rw [FramebufferSelect.activeSet_eq_toNat]
      have zero : Machine.start.file.register (.screen u .select) = 0 := RegisterFile.get_blank _
      exact congrArg (fun word : Word => (word.getLsbD 0).toNat) zero
    exact (activeSet_run _ events u).trans (congrArg (Option.getD _) blank)
  · intro w address value here selected next outcome
    obtain ⟨answered, called, bank, busy, held⟩ := s.step_of_selects value here
    exact ⟨(selected.file.screenBank u).scanout, Machine.write_of_selects here, answered, called,
      Scanout.tells_iff.2 rfl, congrArg ScreenBank.scanout bank, busy, held⟩

theorem swaps_follow_select_byte :
    let s := ((start {} Executor.holding).run
      [.write .full 0x56C#32 0x10#32, .write .byte 0x578#32 1#8]).1
    let outcome := (s.step (.write .byte 0x57B#32 0xFF#8)).2
    (0x57B#32).toNat / 4 = (Register.screen .one .select).index ∧
      ∃ scanout : Scanout, outcome.answer = .accepted ∧ outcome.call = some (.swap .one scanout) ∧
        scanout.set = 1 ∧ scanout.leftAddress = 0x80#32 := by
  have here : (0x57B#32).toNat / 4 = (Register.screen .one .select).index := by decide
  obtain ⟨scanout, _, answered, called, _⟩ := (swaps_follow_select {} Executor.holding
    [.write .full 0x56C#32 0x10#32, .write .byte 0x578#32 1#8] .one).2.2 .byte 0x57B#32 0xFF#8 here
  have told : some (Call.swap .one ⟨1, 0x80#32, 0#32, 0#32, ⟨0#32, 0#32⟩, ⟨0#32⟩⟩) =
      some (.swap .one scanout) := Eq.trans (by decide +kernel) called
  cases told
  exact ⟨here, _, answered, called, rfl, rfl⟩

end Session

end GraphicsBlock

import GraphicsBlock.Proofs.SessionStep

/-!
Runs under two settings that take the same course. Settings decide how an engine's registers are
read, so two of them may accept the same writes and hand out different jobs. `Recodes` says when the
calls under the second settings are those under the first, recoded; `Recodes.stages` carries this
along a run. The faults for which the first settings refuse a write may have to be restricted.
-/

namespace GraphicsBlock

structure Stage where
  answer : Answer
  call : Option Call
  machine : Machine
  deriving DecidableEq

def Stage.recode (f : Call → Call) (stage : Stage) : Stage :=
  { stage with call := stage.call.map f }

theorem Stage.recode_id : Stage.recode id = id := by
  funext stage
  simp [Stage.recode]

def Accepted.recode (f : Call → Call) (a : Accepted) : Accepted := { a with call := a.call.map f }

/-- The second settings read each register as the first ones do, up to a recoding of the jobs. They
may read a fill mode that the first ones refuse, if it is refused for a fault that is not admitted.
-/
structure Recodes (a b : Settings) (f : Call → Call) (admitted : BusFault → Prop) : Prop where
  width : ∀ c : FillControl,
    (c.width? a.fillMode = none → admitted (.invalidFillMode (c.get .fill24) (c.get .fill32))) →
    c.width? b.fillMode = c.width? a.fillMode
  fill : ∀ (bank : FillBank) (unit : UnitId) (width : FillWidth),
    Call.fill (bank.job b.byteOrder unit width) = f (.fill (bank.job a.byteOrder unit width))
  transfer : ∀ bank : TransferBank,
    (bank.job? b).map .transfer = (bank.job? a).map fun job => f (.transfer job)
  commandList : ∀ job, f (.commandList job) = .commandList job
  swap : ∀ unit scanout, f (.swap unit scanout) = .swap unit scanout
  engine? : ∀ call, (f call).engine? = call.engine?

namespace Recodes

variable {a b : Settings} {f : Call → Call} {admitted : BusFault → Prop} {m : Machine} {s : Store}

theorem transfer_of_ok (r : Recodes a b f admitted) {bank : TransferBank} {job : TransferJob}
    (read : bank.job? a = .ok job) :
    ∃ other, bank.job? b = .ok other ∧ Call.transfer other = f (.transfer job) := by
  have same := r.transfer bank
  rw [read] at same
  cases second : bank.job? b with
  | error =>
    rw [second] at same
    cases same
  | ok other =>
    rw [second] at same
    exact ⟨other, rfl, Except.ok.inj same⟩

theorem transfer_of_error (r : Recodes a b f admitted) {bank : TransferBank}
    {fault : RegisterFault} (read : bank.job? a = .error fault) : bank.job? b = .error fault := by
  have same := r.transfer bank
  rw [read] at same
  cases second : bank.job? b with
  | error =>
    rw [second] at same
    exact congrArg Except.error (Except.error.inj same)
  | ok =>
    rw [second] at same
    cases same

theorem accepts (r : Recodes a b f admitted) {accepted : Accepted}
    (taken : Machine.Accepts a m s accepted) : Machine.Accepts b m s (accepted.recode f) := by
  cases taken with
  | plain role => exact .plain role
  | select role =>
    rw [Accepted.recode, Machine.select, Option.map_some, r.swap]
    exact .select role
  | fillRunning role busy quiet => exact .fillRunning role busy quiet
  | fillIdle role idle quiet => exact .fillIdle role idle quiet
  | @fillLaunch unit width role idle fired read =>
    have same := r.width (m.controlFor s) fun none => nomatch read.symm.trans none
    rw [Accepted.recode, Machine.launch, Option.map_some, ← r.fill]
    exact .fillLaunch role idle fired (same.trans read)
  | transferRunning role busy zero => exact .transferRunning role busy zero
  | transferIdle role idle zero => exact .transferIdle role idle zero
  | transferLaunch role idle nonzero job =>
    obtain ⟨other, read, same⟩ := r.transfer_of_ok job
    rw [Accepted.recode, Machine.launch, Option.map_some, ← same]
    exact .transferLaunch role idle nonzero read
  | commandRunning role busy quiet => exact .commandRunning role busy quiet
  | commandIdle role idle quiet => exact .commandIdle role idle quiet
  | commandLaunch role idle fired =>
    rw [Accepted.recode, Machine.launch, Option.map_some, r.commandList]
    exact .commandLaunch role idle fired

theorem refuses (r : Recodes a b f admitted) {fault : BusFault} (legitimate : admitted fault)
    (refused : Machine.Refuses a m s fault) : Machine.Refuses b m s fault := by
  cases refused with
  | fillRunning role busy fired => exact .fillRunning role busy fired
  | fillMode role idle fired none =>
    exact .fillMode role idle fired ((r.width _ fun _ => legitimate).trans none)
  | transferRunning role busy nonzero => exact .transferRunning role busy nonzero
  | transferJob role idle nonzero unread =>
    exact .transferJob role idle nonzero (r.transfer_of_error unread)
  | commandRunning role busy fired => exact .commandRunning role busy fired

theorem store (r : Recodes a b f admitted)
    (refusals : ∀ fault, m.store a s = .error fault → admitted fault) :
    m.store b s = (m.store a s).map (·.recode f) := by
  rcases Machine.accepts_or_refuses a m s with ⟨accepted, taken⟩ | ⟨fault, refused⟩
  · rw [Machine.store_of_accepts taken, Machine.store_of_accepts (r.accepts taken), Except.map]
  · have unread := Machine.store_of_refuses refused
    rw [unread, Machine.store_of_refuses (r.refuses (refusals _ unread) refused), Except.map]

variable {w : Width} {address : Address} {value : BitVec w.bits}

theorem write (r : Recodes a b f admitted)
    (refusals : ∀ fault, m.write a w address value = .error fault → admitted fault) :
    m.write b w address value = (m.write a w address value).map (·.recode f) := by
  cases addressed : wordIndex? address with
  | error => rw [Machine.write_of_unaddressed addressed, Machine.write_of_unaddressed addressed,
      Except.map]
  | ok i =>
    rw [Machine.write_of_index addressed] at refusals ⊢
    rw [Machine.write_of_index addressed]
    exact r.store refusals

end Recodes

/-- The executors that are alike treat a call and its recoding the same, and stay alike. -/
def TakesAlike {E : Type} [Conduct E] (f : Call → Call) (alike : E → E → Prop) : Prop :=
  ∀ x y, alike x y → ∀ call held,
    (Conduct.receive y (f call) held).2 = (Conduct.receive x call held).2 ∧
      alike (Conduct.receive x call held).1 (Conduct.receive y (f call) held).1

theorem takesAlike_id {E : Type} [Conduct E] : TakesAlike id (Eq : E → E → Prop) := by
  rintro x _ rfl call held
  exact ⟨rfl, rfl⟩

namespace Executor

theorem note_congr (executor : Executor) {call other : Call} (h : other.engine? = call.engine?) :
    executor.note other = executor.note call := by
  cases executor with
  | holding | immediate => rfl
  | tracing tracer => cases call <;> cases other <;> first | rfl | cases h

theorem takesAlike {f : Call → Call} (h : ∀ call, (f call).engine? = call.engine?) :
    TakesAlike f (Eq : Executor → Executor → Prop) := by
  rintro x _ rfl call held
  refine ⟨?_, (x.note_congr (h call)).symm⟩
  change x.deeds (f call) held = x.deeds call held
  rw [deeds, deeds, h]

end Executor

namespace Session

variable {E : Type}

def refit (s : Session E) (settings : Settings) (executor : E) : Session E :=
  { s with settings, executor }

variable (s : Session E) (b : Settings) (y : E)

theorem complete_refit (position : Nat) :
    (s.refit b y).complete position =
      ((s.complete position).1.refit b y, (s.complete position).2) := by
  cases token : s.held[position]? with
  | none => rw [complete_of_none token, complete_of_none (s := s.refit b y) token]
  | some =>
    rw [complete_of_some token, complete_of_some (s := s.refit b y) token]
    rfl

theorem drop_refit (position : Nat) :
    (s.refit b y).drop position = ((s.drop position).1.refit b y, (s.drop position).2) := by
  cases token : s.held[position]? with
  | none => rw [drop_of_none token, drop_of_none (s := s.refit b y) token]
  | some =>
    rw [drop_of_some token, drop_of_some (s := s.refit b y) token]
    rfl

theorem actAll_refit (deeds : List Deed) :
    ((s.refit b y).actAll deeds).1 = (s.actAll deeds).1.refit b y := by
  induction deeds generalizing s with
  | nil => rfl
  | cons deed deeds ih =>
    cases deed with
    | complete position =>
      change (((s.refit b y).complete position).1.actAll deeds).1 = _
      rw [complete_refit, ih]
      rfl
    | drop position =>
      change (((s.refit b y).drop position).1.actAll deeds).1 = _
      rw [drop_refit, ih]
      rfl

variable [Conduct E]

def stages (s : Session E) : List Event → List Stage
  | [] => []
  | event :: events =>
    let (next, outcome) := s.step event
    ⟨outcome.answer, outcome.call, next.machine⟩ :: next.stages events

theorem stages_cons (s : Session E) (event : Event) (events : List Event) :
    s.stages (event :: events) =
      ⟨(s.step event).2.answer, (s.step event).2.call, (s.step event).1.machine⟩ ::
        (s.step event).1.stages events := rfl

end Session

namespace Recodes

variable {E : Type} [Conduct E] {a b : Settings} {f : Call → Call} {admitted : BusFault → Prop}
  {alike : E → E → Prop} {s : Session E} {y : E}

theorem settle (r : Recodes a b f admitted) (conduct : TakesAlike f alike)
    (start : alike s.executor y) (accepted : Accepted) :
    ∃ z, alike (s.settle accepted).executor z ∧
      (s.refit b y).settle (accepted.recode f) = (s.settle accepted).refit b z := by
  obtain ⟨machine, _ | call⟩ := accepted
  · exact ⟨y, start, rfl⟩
  · have tokens : (f call).tokens = call.tokens := by rw [Call.tokens, r.engine?, Call.tokens]
    obtain ⟨deeds, stay⟩ := conduct s.executor y start call (s.held ++ call.tokens)
    refine ⟨(Conduct.receive y (f call) (s.held ++ call.tokens)).1, ?_, ?_⟩
    · rw [Session.executor_settle]
      exact stay
    · have handed : Session.handed { s.refit b y with machine } (f call) =
          (Session.handed { s with machine } call).refit b
            (Conduct.receive y (f call) (s.held ++ call.tokens)).1 := by
        simp only [Session.handed, Session.received, Session.refit, tokens]
      have same : (Session.received { s.refit b y with machine } (f call)).2 =
          (Session.received { s with machine } call).2 := by
        simp only [Session.received, Session.refit, tokens, deeds]
      change (Session.deliver { s.refit b y with machine } (f call)).1 =
        (Session.deliver { s with machine } call).1.refit b _
      rw [Session.deliver_fst, Session.deliver_fst, handed, same, Session.actAll_refit]

theorem write_session (r : Recodes a b f admitted) (conduct : TakesAlike f alike)
    (settings : s.settings = a) (start : alike s.executor y) (w : Width) (address : Address)
    (value : BitVec w.bits)
    (refusals : ∀ fault, s.machine.write a w address value = .error fault → admitted fault) :
    ∃ z, alike (s.write w address value).1.executor z ∧
      ((s.refit b y).write w address value).1 = (s.write w address value).1.refit b z ∧
      ((s.refit b y).write w address value).2.result = (s.write w address value).2.result ∧
      ((s.refit b y).write w address value).2.call = (s.write w address value).2.call.map f := by
  have recoded := r.write refusals
  subst settings
  cases written : s.machine.write s.settings w address value with
  | error fault =>
    rw [written] at recoded
    obtain ⟨unchanged, refused, called⟩ := Session.write_of_error written
    obtain ⟨unchanged', refused', called'⟩ :=
      Session.write_of_error (s := s.refit b y) recoded
    rw [unchanged, unchanged', refused, refused', called, called']
    exact ⟨y, start, rfl, rfl, rfl⟩
  | ok accepted =>
    rw [written] at recoded
    obtain ⟨settled, ok, called⟩ := Session.write_of_ok written
    obtain ⟨settled', ok', called'⟩ := Session.write_of_ok (s := s.refit b y) recoded
    obtain ⟨z, stay, same⟩ := r.settle (b := b) conduct start accepted
    rw [settled, settled', ok, ok', called, called']
    exact ⟨z, stay, same, rfl, rfl⟩

theorem step (r : Recodes a b f admitted) (conduct : TakesAlike f alike)
    (settings : s.settings = a) (start : alike s.executor y) (event : Event)
    (refusals : ∀ fault, (s.step event).2.answer = .refused fault → admitted fault) :
    ∃ z, alike (s.step event).1.executor z ∧
      ((s.refit b y).step event).1 = (s.step event).1.refit b z ∧
      ((s.refit b y).step event).2.answer = (s.step event).2.answer ∧
      ((s.refit b y).step event).2.call = (s.step event).2.call.map f := by
  cases event with
  | read w address =>
    have called := (s.step_read w address).2.1
    refine ⟨y, start, rfl, rfl, ?_⟩
    rw [called]
    exact ((s.refit b y).step_read w address).2.1
  | write w address value =>
    obtain ⟨z, stay, same, result, call⟩ :=
      r.write_session conduct settings start w address value fun fault refused =>
        refusals fault (Session.step_write_of_error (settings ▸ refused)).2.2
    refine ⟨z, stay, same, ?_, call⟩
    simp only [Session.step, Reply.outcome, result]
  | complete position =>
    have same := s.complete_refit b y position
    refine ⟨y, (s.acts_complete position).executor_eq ▸ start, congrArg Prod.fst same,
      congrArg (·.2.answer) same, ?_⟩
    change ((s.refit b y).complete position).2.call = (s.complete position).2.call.map f
    rw [Session.call_complete, Session.call_complete, Option.map_none]
  | drop position =>
    have same := s.drop_refit b y position
    refine ⟨y, (s.acts_drop position).executor_eq ▸ start, congrArg Prod.fst same,
      congrArg (·.2.answer) same, ?_⟩
    change ((s.refit b y).drop position).2.call = (s.drop position).2.call.map f
    rw [Session.call_drop, Session.call_drop, Option.map_none]

theorem stages (r : Recodes a b f admitted) (conduct : TakesAlike f alike)
    (settings : s.settings = a) (start : alike s.executor y) (events : List Event)
    (refusals : ∀ stage ∈ s.stages events, ∀ fault,
      stage.answer = .refused fault → admitted fault) :
    (s.refit b y).stages events = (s.stages events).map (Stage.recode f) := by
  induction events generalizing s y with
  | nil => rfl
  | cons event events ih =>
    rw [Session.stages_cons] at refusals
    obtain ⟨now, later⟩ := List.forall_mem_cons.1 refusals
    obtain ⟨z, stay, same, answer, call⟩ := r.step conduct settings start event now
    rw [Session.stages_cons, Session.stages_cons, List.map_cons, same, answer, call,
      ih ((s.settings_step event).trans settings) stay later]
    rfl

theorem stages_start (r : Recodes a b f admitted) (conduct : TakesAlike f alike) {x y : E}
    (first : alike x y) (events : List Event)
    (refusals : ∀ stage ∈ (Session.start a x).stages events, ∀ fault,
      stage.answer = .refused fault → admitted fault) :
    (Session.start b y).stages events =
      ((Session.start a x).stages events).map (Stage.recode f) :=
  r.stages (s := .start a x) conduct rfl first events refusals

end Recodes

end GraphicsBlock

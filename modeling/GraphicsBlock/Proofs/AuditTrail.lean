import GraphicsBlock.Proofs.CompletionOrder
import GraphicsBlock.Proofs.Faults
import GraphicsBlock.Proofs.Frame
import GraphicsBlock.Proofs.Tokens

namespace GraphicsBlock

inductive RecordKind
  | access
  | refusal
  | launch
  | scan
  | completion
  | receipt
  deriving DecidableEq

theorem isPrefix_or_of_append_eq {start other rest more : String}
    (h : start ++ rest = other ++ more) :
    start.toList <+: other.toList ∨ other.toList <+: start.toList := by
  have lists := congrArg String.toList h
  rw [String.toList_append, String.toList_append] at lists
  have same : start.toList <+: other.toList ++ more.toList := lists ▸ List.prefix_append ..
  exact List.prefix_or_prefix_of_prefix same (List.prefix_append ..)

namespace Record

def kind : Record → RecordKind
  | .read .. | .write .. => .access
  | .stillRunning _ | .rejected .. => .refusal
  | .issued (.swap ..) => .scan
  | .issued _ => .launch
  | .completed _ => .completion
  | .received _ => .receipt

/-- The kind of a record can be told from its level and its text. -/
structure Tells (r : Record) : Prop where
  access : r.kind = .access ↔ r.level = .trace
  refusal : r.kind = .refusal ↔ r.level = .warn
  launch : r.kind = .launch ↔ r.level = .info ∧
    ∃ (e : Engine) (rest : String), r.message = "gpu: " ++ e.name ++ " launched " ++ rest
  scan : r.kind = .scan ↔ r.level = .debug ∧
    ∃ unit rest : String, r.message = "gpu: framebuffer " ++ unit ++ " now scanning " ++ rest
  completion : r.kind = .completion ↔
    r.level = .debug ∧ ∃ e : Engine, r.message = "gpu: " ++ e.name ++ " complete"

theorem exists_launched_message {call : Call} {e : Engine} (h : call.engine? = some e) :
    ∃ rest, issuedMessage call = "gpu: " ++ e.name ++ " launched " ++ rest := by
  cases call with
  | fill | transfer | commandList =>
    cases h
    unfold issuedMessage
    simp only [String.append_assoc]
    exact ⟨_, rfl⟩
  | swap => cases h

theorem exists_scanning_message (unit : UnitId) (scanout : Scanout) :
    ∃ u rest, issuedMessage (.swap unit scanout) =
      "gpu: framebuffer " ++ u ++ " now scanning " ++ rest := by
  unfold issuedMessage
  -- The words after the number are one literal with it.
  refine ⟨toString unit.toNat, "set " ++ toString (scanout.set + 1) ++ " at " ++
    Text.hexPadded 8 scanout.leftAddress.toNat, ?_⟩
  have words : " now scanning set " = " now scanning " ++ "set " := rfl
  simp only [words, String.append_assoc]
  rfl

def opening : Call → String
  | .fill _ => "fill unit "
  | .transfer _ => "transfer "
  | .commandList _ => "command list at "
  | .swap .. => "framebuffer "

theorem exists_received_message (call : Call) :
    ∃ rest, receivedMessage call = opening call ++ rest := by
  cases call with
  | fill | transfer | commandList | swap =>
    unfold receivedMessage
    simp only [String.append_assoc]
    exact ⟨_, rfl⟩

theorem receivedMessage_ne (call : Call) (rest : String) :
    receivedMessage call ≠ "gpu: " ++ rest := by
  intro same
  obtain ⟨more, opens⟩ := exists_received_message call
  have compared := isPrefix_or_of_append_eq (opens.symm.trans same)
  cases call with
  | fill | transfer | commandList | swap =>
    simp only [opening] at compared
    revert compared
    decide

theorem completed_message_ne (e : Engine) (rest : String) :
    "gpu: " ++ e.name ++ " complete" ≠ "gpu: framebuffer " ++ rest := by
  intro same
  have compared := isPrefix_or_of_append_eq same
  rcases e with (_ | _) | _ | _ <;> revert compared <;> decide +kernel

theorem message_completed (e : Engine) :
    (completed e).message = "gpu: " ++ e.name ++ " complete" := rfl

theorem message_issued (call : Call) : (issued call).message = issuedMessage call := rfl

theorem kind_issued_of_engine {call : Call} {e : Engine} (h : call.engine? = some e) :
    (issued call).kind = .launch ∧ (issued call).level = .info := by
  cases call with
  | fill | transfer | commandList => exact ⟨rfl, rfl⟩
  | swap => cases h

theorem kind_issued_of_none {call : Call} (h : call.engine? = none) :
    (issued call).kind = .scan := by
  cases call with
  | fill | transfer | commandList => cases h
  | swap => rfl

theorem tells_issued_of_engine {call : Call} {e : Engine} (h : call.engine? = some e) :
    (issued call).Tells := by
  obtain ⟨kind, level⟩ := kind_issued_of_engine h
  obtain ⟨rest, launched⟩ := exists_launched_message h
  have reads := (message_issued call).trans launched
  constructor
  case launch => exact ⟨fun _ => ⟨level, e, rest, reads⟩, fun _ => kind⟩
  all_goals simp [kind, level]

theorem tells_swap (unit : UnitId) (scanout : Scanout) : (issued (.swap unit scanout)).Tells := by
  have kind : (issued (.swap unit scanout)).kind = .scan := rfl
  have level : (issued (.swap unit scanout)).level = .debug := rfl
  obtain ⟨number, rest, scanning⟩ := exists_scanning_message unit scanout
  have reads := (message_issued _).trans scanning
  constructor
  case scan => exact ⟨fun _ => ⟨level, number, rest, reads⟩, fun _ => kind⟩
  case completion =>
    rw [kind]
    refine ⟨by simp, ?_⟩
    rintro ⟨_, e, same⟩
    rw [reads, String.append_assoc, String.append_assoc] at same
    exact absurd same.symm (completed_message_ne e _)
  all_goals simp [kind, level]

theorem tells_received (call : Call) : (received call).Tells := by
  have kind : (received call).kind = .receipt := rfl
  have level : (received call).level = .info := rfl
  constructor
  case launch =>
    rw [kind]
    refine ⟨by simp, ?_⟩
    rintro ⟨_, e, rest, same⟩
    rw [String.append_assoc, String.append_assoc] at same
    exact absurd same (receivedMessage_ne call _)
  all_goals simp [kind, level]

theorem tells_completed (e : Engine) : (completed e).Tells := by
  have kind : (completed e).kind = .completion := rfl
  have level : (completed e).level = .debug := rfl
  constructor
  case completion => exact ⟨fun _ => ⟨level, e, message_completed e⟩, fun _ => kind⟩
  case scan =>
    rw [kind]
    refine ⟨by simp, ?_⟩
    rintro ⟨_, number, rest, same⟩
    rw [String.append_assoc, String.append_assoc] at same
    exact absurd same (completed_message_ne e _)
  all_goals simp [kind, level]

theorem tells (r : Record) : r.Tells := by
  cases r with
  | read | write | stillRunning | rejected => constructor <;> simp [kind, level]
  | issued call =>
    cases engine : call.engine? with
    | some e => exact tells_issued_of_engine engine
    | none =>
      cases call with
      | fill | transfer | commandList => cases engine
      | swap unit scanout => exact tells_swap unit scanout
  | received call => exact tells_received call
  | completed e => exact tells_completed e

theorem filter_kind {records : List Record} {k : RecordKind} (h : ∀ r ∈ records, r.kind = k)
    (l : RecordKind) : records.filter (·.kind = l) = if k = l then records else [] := by
  split
  · next same =>
    rw [List.filter_eq_self]
    intro r mem
    rw [h r mem]
    exact decide_eq_true same
  · next other =>
    rw [List.filter_eq_nil_iff]
    intro r mem
    rw [h r mem]
    exact fun same => other (of_decide_eq_true same)

theorem isAdmitted_trace (r : Record) : r.isAdmitted .trace = true := by
  unfold isAdmitted
  cases r.level <;> rfl

end Record

/-- The record of the access itself: of every write, and of a read that gives a value. -/
def Event.traced : Event → Answer → List Record
  | .write w address value, _ => [.write w address value]
  | .read _ address, .value w value => [.read w address value]
  | _, _ => []

inductive BusFault.OfEngine : BusFault → Prop
  | inProgress (e : Engine) : OfEngine (.inProgress e)
  | fillMode (fill24 fill32 : Bool) : OfEngine (.invalidFillMode fill24 fill32)
  | format (code : Word) : OfEngine (.register (.undefinedFormat code))

def Event.RefusedByEngine (event : Event) (answer : Answer) : Prop :=
  (∃ w address value, event = .write w address value) ∧
    ∃ fault : BusFault, fault.OfEngine ∧ answer = .refused fault

/-- The warning of a refused write names the engine whose trigger is addressed. -/
inductive Event.Warns : Event → Answer → Record → Prop
  | stillRunning {w : Width} {address : Address} {value : BitVec w.bits} {e : Engine} :
      address.toNat / 4 = e.trigger.index →
      Warns (.write w address value) (.refused (.inProgress e)) (.stillRunning e)
  | fillMode {w : Width} {address : Address} {value : BitVec w.bits} {unit : UnitId}
      {fill24 fill32 : Bool} : address.toNat / 4 = (Engine.fill unit).trigger.index →
      Warns (.write w address value) (.refused (.invalidFillMode fill24 fill32))
        (.rejected (.fill unit) (.invalidFillMode fill24 fill32))
  | format {w : Width} {address : Address} {value : BitVec w.bits} {code : Word} :
      address.toNat / 4 = Engine.transfer.trigger.index →
      Warns (.write w address value) (.refused (.register (.undefinedFormat code)))
        (.rejected .transfer (.register (.undefinedFormat code)))

inductive Event.Warnings (event : Event) (answer : Answer) : List Record → Prop
  | one {r : Record} : event.RefusedByEngine answer → event.Warns answer r →
      Warnings event answer [r]
  | none : ¬event.RefusedByEngine answer → Warnings event answer []

namespace Event

variable {event : Event} {answer : Answer} {warnings : List Record} {r : Record}

theorem kind_of_mem_traced (mem : r ∈ event.traced answer) : r.kind = .access := by
  unfold traced at mem
  split at mem
  · rw [List.mem_singleton.1 mem]
    rfl
  · rw [List.mem_singleton.1 mem]
    rfl
  · cases mem

theorem Warnings.kind_of_mem (h : event.Warnings answer warnings) (mem : r ∈ warnings) :
    r.kind = .refusal := by
  cases h with
  | one _ warns =>
    rw [List.mem_singleton.1 mem]
    cases warns <;> rfl
  | none => cases mem

theorem Warnings.exists_of_refused (h : event.Warnings answer warnings)
    (refused : event.RefusedByEngine answer) : ∃ r, warnings = [r] ∧ event.Warns answer r := by
  cases h with
  | one _ warns => exact ⟨_, rfl, warns⟩
  | none other => exact absurd refused other

theorem Warnings.eq_nil (h : event.Warnings answer warnings)
    (other : ¬event.RefusedByEngine answer) : warnings = [] := by
  cases h with
  | one refused => exact absurd refused other
  | none => rfl

theorem not_refusedByEngine_of_ne_refused (h : ∀ fault : BusFault, answer ≠ .refused fault) :
    ¬event.RefusedByEngine answer := by
  rintro ⟨_, fault, _, refused⟩
  exact h fault refused

theorem not_refusedByEngine_of_ne_write
    (h : ∀ (w : Width) (address : Address) (value : BitVec w.bits),
      event ≠ .write w address value) (answer : Answer) : ¬event.RefusedByEngine answer := by
  rintro ⟨⟨w, address, value, written⟩, _⟩
  exact h w address value written

end Event

namespace Machine

variable {settings : Settings} {m : Machine} {w : Width} {address : Address}
  {value : BitVec w.bits} {fault : BusFault}

theorem Refuses.warns {i : WordIndex} (h : Refuses settings m (m.merge i w address value) fault)
    (here : address.toNat / 4 = i) : fault.OfEngine ∧ ∃ e, Role.at i = .trigger e ∧
      Event.Warns (.write w address value) (.refused fault) (.warning e fault) := by
  cases h with
  | fillRunning role | transferRunning role | commandRunning role =>
    obtain rfl := Role.trigger_index_of_at role
    exact ⟨.inProgress _, _, role, .stillRunning here⟩
  | fillMode role =>
    obtain rfl := Role.trigger_index_of_at role
    exact ⟨.fillMode _ _, _, role, .fillMode here⟩
  | transferJob role _ _ unread =>
    obtain rfl := Role.trigger_index_of_at role
    obtain ⟨_, code, _, rfl⟩ := (TransferBank.job?_eq_error_iff settings _).1 unread
    exact ⟨.format code, _, role, .format here⟩

theorem warnings_of_error (h : m.write settings w address value = .error fault) :
    Event.Warnings (.write w address value) (.refused fault)
      (m.writeLane settings w address value).records := by
  cases addressed : wordIndex? address with
  | error =>
    cases (write_of_unaddressed addressed).symm.trans h
    obtain ⟨_, rfl⟩ := wordIndex?_eq_error_iff.1 addressed
    rw [writeLane_of_unaddressed addressed]
    refine .none ?_
    rintro ⟨_, fault, engine, same⟩
    cases same
    cases engine
  | ok i =>
    rw [write_of_index addressed] at h
    have refused := refuses_of_store h
    obtain ⟨engine, e, role, warns⟩ := refused.warns (wordIndex?_eq_ok_iff.1 addressed)
    obtain ⟨f, same, handled⟩ := dispatch_of_refuses refused
    cases role.symm.trans same
    rw [writeLane_of_index addressed, handled]
    exact .one ⟨⟨w, address, value, rfl⟩, fault, engine, rfl⟩ warns

end Machine

namespace Session

variable {E : Type}

theorem records_act (s : Session E) (deed : Deed) :
    (s.act deed).2.records = (Chronicle.spent (s.deedMoves deed)).reverse.map .completed := by
  cases deed with
  | complete position =>
    cases token : s.held[position]? with
    | none =>
      rw [act, complete_of_none token, deedMoves, token]
      rfl
    | some =>
      rw [act, complete_of_some token, deedMoves, token]
      rfl
  | drop position =>
    cases token : s.held[position]? with
    | none =>
      rw [act, drop_of_none token, deedMoves, token]
      rfl
    | some =>
      rw [act, drop_of_some token, deedMoves, token]
      rfl

theorem records_actAll (s : Session E) (deeds : List Deed) :
    (s.actAll deeds).2 = (Chronicle.spent (s.deedsMoves deeds)).reverse.map .completed := by
  induction deeds generalizing s with
  | nil => rfl
  | cons deed deeds ih =>
    rw [deedsMoves, Chronicle.spent_append, List.reverse_append, List.map_append, ← ih,
      ← records_act]
    rfl

variable [Conduct E]

theorem deliver_snd (s : Session E) (call : Call) :
    (s.deliver call).2 = Conduct.records s.executor call ++
      ((s.handed call).actAll (s.received call).2).2 := rfl

theorem records_read (s : Session E) (w : Width) (address : Address) :
    (s.step (.read w address)).2.records =
      Event.traced (.read w address) (s.step (.read w address)).2.answer := by
  cases result : s.machine.read w address <;>
    simp [step, read, result, Reply.outcome, Event.traced]

theorem records_write_of_error {w : Width} {address : Address} {value : BitVec w.bits}
    {fault : BusFault} (s : Session E)
    (h : s.machine.write s.settings w address value = .error fault) :
    (s.step (.write w address value)).2.records =
      .write w address value :: (s.machine.writeLane s.settings w address value).records := by
  obtain ⟨records, handled⟩ := Machine.writeLane_of_error h
  simp [step, write, handled, Machine.fail, Reply.outcome]

theorem records_write_of_ok {w : Width} {address : Address} {value : BitVec w.bits}
    {accepted : Accepted} (s : Session E)
    (h : s.machine.write s.settings w address value = .ok accepted) :
    (s.step (.write w address value)).2.records =
      .write w address value :: accepted.call.toList.map .issued ++
        accepted.call.elim [] (Conduct.records s.executor) ++
        (s.conductMoves accepted).spent.reverse.map .completed := by
  have handled := Machine.writeLane_of_ok h
  obtain ⟨machine, _ | call⟩ := accepted
  · simp [step, write, handled, Accepted.handled, Reply.outcome, conductMoves, Chronicle.spent]
  · have logged : (s.step (.write w address value)).2.records = .write w address value ::
        .issued call :: (deliver { s with machine } call).2 := by
      simp [step, write, handled, Accepted.handled, Reply.outcome]
    rw [logged, deliver_snd, records_actAll]
    rfl

/-- What an event logs: the access, a warning, the call, what the executor logs when it is called,
and the completions, in this order. -/
theorem records_step (s : Session E) (event : Event) :
    let outcome := (s.step event).2
    ∃ warnings, event.Warnings outcome.answer warnings ∧
      outcome.records = event.traced outcome.answer ++ warnings ++
        outcome.call.toList.map .issued ++
        outcome.call.elim [] (Conduct.records s.executor) ++
        (s.moves event).spent.reverse.map .completed := by
  intro outcome
  cases event with
  | read w address =>
    refine ⟨[], .none (Event.not_refusedByEngine_of_ne_write (by simp) _), ?_⟩
    rw [show outcome.records = _ from s.records_read w address,
      show outcome.call = none from (s.step_read w address).2.1]
    simp [moves, Chronicle.spent, outcome]
  | complete position =>
    refine ⟨[], .none (Event.not_refusedByEngine_of_ne_write (by simp) _), ?_⟩
    rw [show outcome.call = none from s.call_complete position]
    exact s.records_act (.complete position)
  | drop position =>
    refine ⟨[], .none (Event.not_refusedByEngine_of_ne_write (by simp) _), ?_⟩
    rw [show outcome.call = none from s.call_drop position]
    exact s.records_act (.drop position)
  | write w address value =>
    cases written : s.machine.write s.settings w address value with
    | error fault =>
      obtain ⟨_, uncalled, answer⟩ := step_write_of_error written
      refine ⟨_, answer ▸ Machine.warnings_of_error written, ?_⟩
      rw [show outcome.records = _ from s.records_write_of_error written,
        show outcome.call = none from uncalled, moves, written]
      simp [Event.traced, Chronicle.spent]
    | ok accepted =>
      obtain ⟨_, called, answer⟩ := step_write_of_ok written
      refine ⟨[], .none (Event.not_refusedByEngine_of_ne_refused ?_), ?_⟩
      · intro fault refused
        cases answer.symm.trans refused
      · rw [show outcome.records = _ from s.records_write_of_ok written,
          show outcome.call = _ from called, spent_moves_of_ok written]
        rfl

end Session

def Call.isSwap : Call → Bool
  | .swap .. => true
  | .fill _ | .transfer _ | .commandList _ => false

def Outcome.swaps (o : Outcome) : Bool := o.call.any Call.isSwap

/-- Executors of a type log no more than what they receive. -/
def Conduct.Reports (E : Type) [Conduct E] : Prop :=
  ∀ (executor : E) (call : Call), ∀ r ∈ Conduct.records executor call, r.kind = .receipt

theorem Executor.reports : Conduct.Reports Executor := by
  intro executor call r mem
  cases executor with
  | holding | immediate => cases mem
  | tracing =>
    rw [List.mem_singleton.1 mem]
    rfl

namespace Session

variable {E : Type} [Conduct E]

theorem filter_kind_step (reports : Conduct.Reports E) (s : Session E) (event : Event) :
    let outcome := (s.step event).2
    ∃ warnings, event.Warnings outcome.answer warnings ∧ ∀ k : RecordKind,
      outcome.records.filter (·.kind = k) =
        (if .access = k then event.traced outcome.answer else []) ++
        (if .refusal = k then warnings else []) ++
        (outcome.call.toList.map .issued).filter (·.kind = k) ++
        (if .receipt = k then outcome.call.elim [] (Conduct.records s.executor) else []) ++
        (if .completion = k then (s.moves event).spent.reverse.map .completed else []) := by
  intro outcome
  obtain ⟨warnings, warned, logged⟩ := s.records_step event
  refine ⟨warnings, warned, fun k => ?_⟩
  have own : ∀ r ∈ outcome.call.elim [] (Conduct.records s.executor), r.kind = .receipt := by
    cases outcome.call with
    | none => simp
    | some call => exact reports s.executor call
  have ended :
      ∀ r ∈ (s.moves event).spent.reverse.map Record.completed, r.kind = .completion := by
    intro r mem
    obtain ⟨e, _, rfl⟩ := List.mem_map.1 mem
    rfl
  rw [show outcome.records = _ from logged]
  simp only [List.filter_append]
  rw [Record.filter_kind fun _ => Event.kind_of_mem_traced,
    Record.filter_kind fun _ => warned.kind_of_mem, Record.filter_kind own,
    Record.filter_kind ended]

theorem filter_issued_of_ne (call? : Option Call) {k : RecordKind} (launch : k ≠ .launch)
    (scan : k ≠ .scan) : (call?.toList.map Record.issued).filter (·.kind = k) = [] := by
  rw [List.filter_eq_nil_iff]
  intro r mem
  obtain ⟨call, _, rfl⟩ := List.mem_map.1 mem
  cases engine : call.engine? with
  | some e =>
    rw [(Record.kind_issued_of_engine engine).1]
    exact fun same => launch (of_decide_eq_true same).symm
  | none =>
    rw [Record.kind_issued_of_none engine]
    exact fun same => scan (of_decide_eq_true same).symm

theorem filter_access_step (reports : Conduct.Reports E) (s : Session E) (event : Event) :
    (s.step event).2.records.filter (·.kind = .access) =
      event.traced (s.step event).2.answer := by
  obtain ⟨_, _, filtered⟩ := s.filter_kind_step reports event
  rw [filtered, filter_issued_of_ne _ (by decide) (by decide)]
  simp

theorem warnings_step (reports : Conduct.Reports E) (s : Session E) (event : Event) :
    event.Warnings (s.step event).2.answer
      ((s.step event).2.records.filter (·.kind = .refusal)) := by
  obtain ⟨_, warned, filtered⟩ := s.filter_kind_step reports event
  rw [filtered, filter_issued_of_ne _ (by decide) (by decide)]
  simpa using warned

theorem filter_completion_step (reports : Conduct.Reports E) (s : Session E) (event : Event) :
    (s.step event).2.records.filter (·.kind = .completion) =
      (s.moves event).spent.reverse.map .completed := by
  obtain ⟨_, _, filtered⟩ := s.filter_kind_step reports event
  rw [filtered, filter_issued_of_ne _ (by decide) (by decide)]
  simp

theorem countP_launch_step (reports : Conduct.Reports E) (s : Session E) (event : Event) :
    (s.step event).2.records.countP (·.kind = .launch) =
      if (s.step event).2.launched?.isSome then 1 else 0 := by
  obtain ⟨_, _, filtered⟩ := s.filter_kind_step reports event
  rw [List.countP_eq_length_filter, filtered]
  cases called : (s.step event).2.call with
  | none => simp [Outcome.launched?, called]
  | some call => cases call <;> simp [Outcome.launched?, called, Record.kind, Call.engine?]

theorem countP_scan_step (reports : Conduct.Reports E) (s : Session E) (event : Event) :
    (s.step event).2.records.countP (·.kind = .scan) =
      if (s.step event).2.swaps then 1 else 0 := by
  obtain ⟨_, _, filtered⟩ := s.filter_kind_step reports event
  rw [List.countP_eq_length_filter, filtered]
  cases called : (s.step event).2.call with
  | none => simp [Outcome.swaps, called]
  | some call => cases call <;> simp [Outcome.swaps, called, Record.kind, Call.isSwap]

theorem countP_run {p : Record → Bool} {q : Outcome → Bool}
    (each : ∀ (s : Session E) (event : Event),
      (s.step event).2.records.countP p = if q (s.step event).2 then 1 else 0)
    (s : Session E) (events : List Event) :
    ((s.run events).2.flatMap (·.records)).countP p = (s.run events).2.countP q := by
  induction events generalizing s with
  | nil => rfl
  | cons event events ih =>
    rw [run_cons, List.flatMap_cons, List.countP_append, List.countP_cons, ih, each]
    exact Nat.add_comm ..

theorem filter_completion_run (reports : Conduct.Reports E) (s : Session E)
    (events : List Event) :
    ((s.run events).2.flatMap (·.records)).filter (·.kind = .completion) =
      (s.chronicle events).spent.reverse.map .completed := by
  induction events generalizing s with
  | nil => rfl
  | cons event events ih =>
    rw [run_cons, List.flatMap_cons, List.filter_append, ih, filter_completion_step reports,
      chronicle, Chronicle.spent_append, List.reverse_append, List.map_append]

theorem exists_step_of_mem_zip {s : Session E} {events : List Event} {entry : Event × Outcome}
    (mem : entry ∈ events.zip (s.run events).2) :
    ∃ t : Session E, entry.2 = (t.step entry.1).2 := by
  induction events generalizing s with
  | nil => cases mem
  | cons event events ih =>
    rw [run_cons, List.zip_cons_cons, List.mem_cons] at mem
    rcases mem with rfl | later
    · exact ⟨s, rfl⟩
    · exact ih later

end Session

namespace Machine

def turned (busy : Bool) (before after : Machine) : Nat :=
  Engine.all.countP fun e => before.isBusy e ≠ after.isBusy e ∧ after.isBusy e = busy

variable {before after : Machine} {busy : Bool}

theorem turned_of_forall_eq (same : ∀ e, after.isBusy e = before.isBusy e) :
    turned busy before after = 0 := by
  rw [turned, List.countP_eq_zero]
  intro e _
  simp [same e]

theorem turned_of_only (busy : Bool) {e : Engine} (turns : before.isBusy e ≠ after.isBusy e)
    (others : ∀ f, e ≠ f → after.isBusy f = before.isBusy f) :
    turned busy before after = if after.isBusy e = busy then 1 else 0 := by
  have only : ∀ f, (before.isBusy f ≠ after.isBusy f ∧ after.isBusy f = busy) ↔
      f = e ∧ after.isBusy e = busy := by
    intro f
    by_cases same : e = f
    · subst same
      simp [turns]
    · simp [others f same, Ne.symm same]
  have once : Engine.all.count e = 1 := by rcases e with (_ | _) | _ | _ <;> decide
  rw [turned]
  simp only [only]
  split
  · next way =>
    exact (List.countP_congr fun f _ => by simp [way]).trans once
  · next way => simp [way]

end Machine

namespace Chronicle

/-- How often an engine has turned busy, or idle, by the moves of a chronicle from the start. -/
def turns (busy : Bool) : Chronicle → Nat
  | [] => 0
  | move :: past =>
    turns busy past + Machine.turned busy (machine past) (machine (move :: past))

end Chronicle

namespace Leads

variable {settings : Settings} {n : Machine} {kept : List Token} {past : Chronicle}

theorem turns_eq (h : Leads settings .start [] past n kept) :
    past.turns true = (past.filterMap Move.launched?).length ∧
      past.turns false = past.spent.length := by
  induction h with
  | stay => exact ⟨rfl, rfl⟩
  | @write past n kept w address value accepted before written ih =>
    obtain ⟨launches, spent⟩ := ih
    obtain ⟨i, _, taken⟩ := Machine.accepts_of_write written
    have moved : (Move.write w address value accepted).launched? = accepted.launched? := rfl
    rw [Chronicle.turns, Chronicle.turns, before.machine_eq, launches, spent]
    rcases taken.quiet_or_launch with ⟨same, quiet⟩ | ⟨e, work, _, idle, activities⟩
    · have kept : ∀ f, accepted.machine.isBusy f = n.isBusy f := fun f => by
        rw [Machine.isBusy, Machine.activity, same]
        rfl
      rw [List.filterMap_cons_none (moved.trans quiet), Chronicle.machine,
        Machine.turned_of_forall_eq kept, Machine.turned_of_forall_eq kept]
      exact ⟨rfl, rfl⟩
    · have busy : accepted.machine.isBusy e = true := by
        rw [Machine.isBusy_of_set activities, if_pos rfl]
        rfl
      have turned (way : Bool) := Machine.turned_of_only way (by rw [idle, busy]; decide)
        fun f apart => (Machine.isBusy_of_set activities f).trans (if_neg apart)
      rw [List.filterMap_cons_some (moved.trans work), Chronicle.machine, turned, turned, busy]
      exact ⟨rfl, rfl⟩
  | @complete past n kept position token before at_position ih =>
    obtain ⟨launches, spent⟩ := ih
    have busy : n.isBusy token.engine = true :=
      (before.reachable .start).backs.busy token (List.mem_of_getElem? at_position)
    have idle : (n.finish token.engine).isBusy token.engine = false := by
      rw [Machine.isBusy_finish, if_pos rfl]
    have turned (way : Bool) := Machine.turned_of_only way (by rw [idle, busy]; decide)
      fun f apart => (Machine.isBusy_finish n token.engine f).trans (if_neg apart)
    rw [Chronicle.turns, Chronicle.turns, Chronicle.machine, before.machine_eq, launches, spent,
      turned, turned, idle]
    exact ⟨rfl, rfl⟩
  | @drop past n kept position token before at_position ih =>
    rw [Chronicle.turns, Chronicle.turns, Chronicle.machine,
      Machine.turned_of_forall_eq fun _ => rfl, Machine.turned_of_forall_eq fun _ => rfl]
    exact ih

end Leads

namespace Session

variable {E : Type} [Conduct E]

theorem length_launched_chronicle (s : Session E) (events : List Event) :
    ((s.chronicle events).filterMap Move.launched?).length =
      (s.run events).2.countP (·.launched?.isSome) := by
  have calls := congrArg (·.filterMap Call.engine?) (s.call?_chronicle events)
  simp only [List.filterMap_reverse, List.filterMap_filterMap] at calls
  calc
    ((s.chronicle events).filterMap Move.launched?).length
      = ((s.chronicle events).filterMap Move.launched?).reverse.length := List.length_reverse.symm
    _ = ((s.run events).2.filterMap Outcome.launched?).length := congrArg List.length calls
    _ = (s.run events).2.countP (·.launched?.isSome) := List.length_filterMap_eq_countP

/-- A log at the level of accesses tells what a run has done, if the executor logs no more than what
it receives. Each record tells its kind by its level and text. Every write logs its access, whatever
becomes of it, and so does every read that gives a value. A write that an engine refuses, since it
is in progress or cannot read its mode or a format, logs one warning, which names that engine; no
other event logs any. As many launches are logged as there are calls for engines and as engines turn
busy, as many completions as engines turn idle, and as many scans as there are calls for swaps. -/
theorem audit_trail (settings : Settings) {executor : E} (reports : Conduct.Reports E)
    (events : List Event) :
    let outcomes := ((start settings executor).run events).2
    let records := (outcomes.flatMap (·.records)).filter (Record.isAdmitted .trace)
    let past := (start settings executor).chronicle events
    (∀ r ∈ records, r.Tells) ∧
    (∀ entry ∈ events.zip outcomes,
      entry.2.records.filter (·.level = .trace) = entry.1.traced entry.2.answer ∧
      (entry.1.RefusedByEngine entry.2.answer → ∃ r,
        entry.2.records.filter (·.level = .warn) = [r] ∧ entry.1.Warns entry.2.answer r) ∧
      (¬entry.1.RefusedByEngine entry.2.answer →
        entry.2.records.filter (·.level = .warn) = [])) ∧
    records.countP (·.kind = .launch) = outcomes.countP (·.launched?.isSome) ∧
    records.countP (·.kind = .scan) = outcomes.countP (·.swaps) ∧
    past.machine = ((start settings executor).run events).1.machine ∧
    records.countP (·.kind = .launch) = past.turns true ∧
    records.countP (·.kind = .completion) = past.turns false := by
  intro outcomes records past
  have leads := leads_start settings executor events
  obtain ⟨busy, idle⟩ := leads.turns_eq
  have all : records = outcomes.flatMap (·.records) :=
    List.filter_eq_self.2 fun r _ => r.isAdmitted_trace
  have launches : records.countP (·.kind = .launch) = outcomes.countP (·.launched?.isSome) := by
    rw [all]
    exact countP_run (countP_launch_step reports) _ events
  refine ⟨fun r _ => r.tells, ?_, launches, ?_, leads.machine_eq, ?_, ?_⟩
  · intro entry mem
    obtain ⟨t, same⟩ := exists_step_of_mem_zip mem
    have warned := t.warnings_step reports entry.1
    simp only [← (Record.tells _).access, ← (Record.tells _).refusal, same]
    exact ⟨t.filter_access_step reports entry.1, warned.exists_of_refused, warned.eq_nil⟩
  · rw [all]
    exact countP_run (countP_scan_step reports) _ events
  · rw [launches, busy, length_launched_chronicle]
  · rw [idle, all, List.countP_eq_length_filter, filter_completion_run reports, List.length_map,
      List.length_reverse]

theorem audit_trail_refused :
    Conduct.Reports Executor ∧
      let events : List Event :=
        [.write .full 0x1C#32 0x201#32, .write .byte 0x1C#32 1#8, .complete 0]
      let past := (start {} (Executor.tracing ⟨true, 0, 0⟩)).chronicle events
      past.turns true = 1 ∧ past.turns false = 1 := by
  obtain ⟨_, _, called, _, _, busy, idle⟩ := audit_trail {} Executor.reports
    [.write .full 0x1C#32 0x201#32, .write .byte 0x1C#32 1#8, .complete 0]
  exact ⟨Executor.reports, busy.symm.trans (called.trans (by decide +kernel)),
    idle.symm.trans (by decide +kernel)⟩

end Session

end GraphicsBlock

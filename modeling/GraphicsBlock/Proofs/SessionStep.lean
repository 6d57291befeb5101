import GraphicsBlock.Proofs.Acceptance
import GraphicsBlock.Session

namespace GraphicsBlock

def Accepted.tokens (a : Accepted) : List Token := (a.launched?.map Token.mk).toList

theorem Machine.accepts_of_write {settings : Settings} {m : Machine} {w : Width}
    {address : Address} {value : BitVec w.bits} {accepted : Accepted}
    (h : m.write settings w address value = .ok accepted) :
    ∃ i, wordIndex? address = .ok i ∧
      Accepts settings m (m.merge i w address value) accepted := by
  cases addressed : wordIndex? address with
  | error => cases (write_of_unaddressed addressed).symm.trans h
  | ok i => exact ⟨i, rfl, accepts_of_store ((write_of_index addressed).symm.trans h)⟩

theorem Machine.write_of_accepts {settings : Settings} {m : Machine} {w : Width}
    {address : Address} {value : BitVec w.bits} {i : WordIndex} {accepted : Accepted}
    (addressed : wordIndex? address = .ok i)
    (taken : Accepts settings m (m.merge i w address value) accepted) :
    m.write settings w address value = .ok accepted :=
  (write_of_index addressed).trans (store_of_accepts taken)

namespace Session

variable {E : Type} {s : Session E} {position : Nat} {token : Token}

theorem complete_of_none (h : s.held[position]? = none) :
    s.complete position = (s, { answer := .absent }) := by
  simp [complete, h]

theorem complete_of_some (h : s.held[position]? = some token) :
    s.complete position =
      ({ s with machine := s.machine.finish token.engine, held := s.held.eraseIdx position },
        { answer := .completed token.engine, records := [.completed token.engine] }) := by
  simp [complete, h]

theorem drop_of_none (h : s.held[position]? = none) :
    s.drop position = (s, { answer := .absent }) := by
  simp [drop, h]

theorem drop_of_some (h : s.held[position]? = some token) :
    s.drop position =
      ({ s with held := s.held.eraseIdx position }, { answer := .dropped token.engine }) := by
  simp [drop, h]

theorem call_complete (s : Session E) (position : Nat) : (s.complete position).2.call = none := by
  cases token : s.held[position]? with
  | none => rw [complete_of_none token]
  | some => rw [complete_of_some token]

theorem call_drop (s : Session E) (position : Nat) : (s.drop position).2.call = none := by
  cases token : s.held[position]? with
  | none => rw [drop_of_none token]
  | some => rw [drop_of_some token]

def completeOf (s : Session E) (e : Engine) : Session E × Outcome :=
  s.complete (s.held.idxOf ⟨e⟩)

theorem completeOf_of_mem {e : Engine} (h : ⟨e⟩ ∈ s.held) :
    s.completeOf e =
      ({ s with machine := s.machine.finish e, held := s.held.erase ⟨e⟩ },
        { answer := .completed e, records := [.completed e] }) := by
  have lt : s.held.idxOf ⟨e⟩ < s.held.length := List.idxOf_lt_length_iff.2 h
  have token : s.held[s.held.idxOf ⟨e⟩]? = some ⟨e⟩ := by
    rw [List.getElem?_eq_getElem lt, List.getElem_idxOf]
  rw [completeOf, complete_of_some token, List.erase_eq_eraseIdx_of_idxOf rfl]

theorem completeOf_of_notMem {e : Engine} (h : ⟨e⟩ ∉ s.held) :
    s.completeOf e = (s, { answer := .absent }) := by
  apply complete_of_none
  rw [List.idxOf_eq_length h]
  exact List.getElem?_eq_none (Nat.le_refl _)

/-- What a deed can make of a session: nothing, if it names no token. -/
inductive Acts (s : Session E) : Session E → Prop
  | absent : Acts s s
  | complete {position : Nat} {token : Token} : s.held[position]? = some token → Acts s
      { s with machine := s.machine.finish token.engine, held := s.held.eraseIdx position }
  | drop {position : Nat} {token : Token} : s.held[position]? = some token → Acts s
      { s with held := s.held.eraseIdx position }

theorem acts_complete (s : Session E) (position : Nat) : s.Acts (s.complete position).1 := by
  cases token : s.held[position]? with
  | none =>
    rw [complete_of_none token]
    exact .absent
  | some =>
    rw [complete_of_some token]
    exact .complete token

theorem acts_drop (s : Session E) (position : Nat) : s.Acts (s.drop position).1 := by
  cases token : s.held[position]? with
  | none =>
    rw [drop_of_none token]
    exact .absent
  | some =>
    rw [drop_of_some token]
    exact .drop token

theorem acts_act (s : Session E) (deed : Deed) : s.Acts (s.act deed).1 := by
  cases deed with
  | complete position => exact s.acts_complete position
  | drop position => exact s.acts_drop position

theorem actAll_induction {P : Session E → Prop} (h : P s)
    (keep : ∀ t next : Session E, t.Acts next → P t → P next) (deeds : List Deed) :
    P (s.actAll deeds).1 := by
  induction deeds generalizing s with
  | nil => exact h
  | cons deed deeds ih => exact ih (keep s _ (s.acts_act deed) h)

theorem Acts.executor_eq {next : Session E} (h : s.Acts next) : next.executor = s.executor := by
  cases h <;> rfl

theorem Acts.settings_eq {next : Session E} (h : s.Acts next) : next.settings = s.settings := by
  cases h <;> rfl

variable [Conduct E]

theorem run_completes (s : Session E) (held : List Token) (h : s.held = held) :
    (s.run (held.map fun _ => .complete 0)).1 =
      { s with
        machine := held.foldl (fun m token => m.finish token.engine) s.machine
        held := [] } := by
  induction held generalizing s with
  | nil =>
    cases s
    cases h
    rfl
  | cons token held ih =>
    have first : s.held[0]? = some token := by rw [h]; rfl
    have rest : s.held.eraseIdx 0 = held := by rw [h]; rfl
    have spent := complete_of_some first
    rw [rest] at spent
    rw [List.map_cons, run_cons]
    change ((s.complete 0).1.run _).1 = _
    rw [spent, ih _ rfl]
    rfl

theorem completeAll_fst (s : Session E) :
    s.completeAll.1 =
      { s with
        machine := s.held.foldl (fun m token => m.finish token.engine) s.machine
        held := [] } :=
  s.run_completes s.held rfl

def received (s : Session E) (call : Call) : E × List Deed :=
  Conduct.receive s.executor call (s.held ++ call.tokens)

def handed (s : Session E) (call : Call) : Session E :=
  { s with executor := (s.received call).1, held := s.held ++ call.tokens }

/-- The session after an accepted write. The machine is replaced before the call is delivered. -/
def settle (s : Session E) (accepted : Accepted) : Session E :=
  match accepted.call with
  | none => { s with machine := accepted.machine }
  | some call => ({ s with machine := accepted.machine }.deliver call).1

theorem deliver_fst (s : Session E) (call : Call) :
    (s.deliver call).1 = ((s.handed call).actAll (s.received call).2).1 := rfl

theorem settle_of_idle_conduct {accepted : Accepted}
    (h : ∀ call, accepted.call = some call → (s.received call).2 = []) :
    (s.settle accepted).machine = accepted.machine ∧
      (s.settle accepted).held = s.held ++ accepted.tokens := by
  obtain ⟨machine, _ | call⟩ := accepted
  · exact ⟨rfl, (List.append_nil _).symm⟩
  · have nothing : (received { s with machine } call).2 = [] := h call rfl
    change (deliver { s with machine } call).1.machine = machine ∧
      (deliver { s with machine } call).1.held = s.held ++ call.tokens
    rw [deliver_fst, nothing]
    exact ⟨rfl, rfl⟩

/-- What the executor is after the call that a write makes, if it makes one. -/
def told (s : Session E) : Option Call → E
  | none => s.executor
  | some call => (s.received call).1

theorem settle_induction {P : Session E → Prop} {accepted : Accepted}
    (h : P { s with
      machine := accepted.machine
      executor := s.told accepted.call
      held := s.held ++ accepted.tokens })
    (keep : ∀ t next : Session E, t.Acts next → P t → P next) : P (s.settle accepted) := by
  obtain ⟨machine, _ | call⟩ := accepted
  · rw [show Accepted.tokens ⟨machine, none⟩ = [] from rfl, List.append_nil] at h
    exact h
  · exact actAll_induction (s := handed { s with machine } call) h keep _

theorem executor_settle (s : Session E) (accepted : Accepted) :
    (s.settle accepted).executor = s.told accepted.call :=
  settle_induction (P := fun t => t.executor = s.told accepted.call) rfl
    fun _ _ acts same => acts.executor_eq.trans same

theorem settings_settle (s : Session E) (accepted : Accepted) :
    (s.settle accepted).settings = s.settings :=
  settle_induction (P := fun t => t.settings = s.settings) rfl
    fun _ _ acts same => acts.settings_eq.trans same

variable {w : Width} {address : Address} {value : BitVec w.bits}

theorem write_of_error {fault : BusFault}
    (h : s.machine.write s.settings w address value = .error fault) :
    (s.write w address value).1 = s ∧ (s.write w address value).2.result = .error fault ∧
      (s.write w address value).2.call = none := by
  obtain ⟨records, handled⟩ := Machine.writeLane_of_error h
  simp [write, handled, Machine.fail]

theorem write_of_ok {accepted : Accepted}
    (h : s.machine.write s.settings w address value = .ok accepted) :
    (s.write w address value).1 = s.settle accepted ∧
      (s.write w address value).2.result = .ok () ∧
      (s.write w address value).2.call = accepted.call := by
  have handled := Machine.writeLane_of_ok h
  obtain ⟨machine, _ | call⟩ := accepted <;> simp [write, handled, Accepted.handled, settle]

theorem step_read (s : Session E) (w : Width) (address : Address) :
    (s.step (.read w address)).1 = s ∧ (s.step (.read w address)).2.call = none ∧
      ((∃ value, (s.step (.read w address)).2.answer = .value w value) ∨
        ∃ fault, (s.step (.read w address)).2.answer = .refused fault) := by
  cases result : s.machine.read w address <;> simp [step, read, result, Reply.outcome]

theorem step_write_of_error {fault : BusFault}
    (h : s.machine.write s.settings w address value = .error fault) :
    (s.step (.write w address value)).1 = s ∧ (s.step (.write w address value)).2.call = none ∧
      (s.step (.write w address value)).2.answer = .refused fault := by
  obtain ⟨unchanged, refused, called⟩ := write_of_error h
  exact ⟨unchanged, called, by simp [step, Reply.outcome, refused]⟩

theorem step_write_of_ok {accepted : Accepted}
    (h : s.machine.write s.settings w address value = .ok accepted) :
    (s.step (.write w address value)).1 = s.settle accepted ∧
      (s.step (.write w address value)).2.call = accepted.call ∧
      (s.step (.write w address value)).2.answer = .accepted := by
  obtain ⟨settled, ok, called⟩ := write_of_ok h
  exact ⟨settled, called, by simp [step, Reply.outcome, ok]⟩

theorem settings_step (s : Session E) (event : Event) :
    (s.step event).1.settings = s.settings := by
  cases event with
  | read => rfl
  | complete position => exact (s.acts_complete position).settings_eq
  | drop position => exact (s.acts_drop position).settings_eq
  | write w address value =>
    cases written : s.machine.write s.settings w address value with
    | error => rw [(step_write_of_error written).1]
    | ok accepted => rw [(step_write_of_ok written).1, settings_settle]

theorem settings_run (s : Session E) (events : List Event) :
    (s.run events).1.settings = s.settings := by
  induction events generalizing s with
  | nil => rfl
  | cons event events ih => exact (ih _).trans (s.settings_step event)

theorem call_step_eq_some_iff (s : Session E) {event : Event} {call : Call} :
    (s.step event).2.call = some call ↔ ∃ w address value machine,
      event = .write w address value ∧
      s.machine.write s.settings w address value = .ok ⟨machine, some call⟩ := by
  cases event with
  | read w address => simp [(s.step_read w address).2.1]
  | complete position => simp [step, call_complete]
  | drop position => simp [step, call_drop]
  | write w address value =>
    constructor
    · intro called
      cases written : s.machine.write s.settings w address value with
      | error => cases (step_write_of_error written).2.1.symm.trans called
      | ok accepted =>
        obtain ⟨machine, made⟩ := accepted
        cases (step_write_of_ok written).2.1.symm.trans called
        exact ⟨w, address, value, machine, rfl, written⟩
    · rintro ⟨_, _, _, machine, same, written⟩
      cases same
      exact (step_write_of_ok written).2.1

end Session

end GraphicsBlock

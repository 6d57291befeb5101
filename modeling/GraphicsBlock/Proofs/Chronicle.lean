import GraphicsBlock.Proofs.Reachable

/-!
What happens to the block in a run. An event may come to several moves, since an executor may spend
tokens before it gives back control, and to none, if it changes nothing. `Session.chronicle` lists
the moves of a run, the latest first; `Session.leads_run` says that they take the machine and its
tokens from one end of the run to the other, so that an induction on `Leads` is one over runs.
-/

namespace GraphicsBlock

inductive Move
  | write (width : Width) (address : Address) (value : BitVec width.bits) (accepted : Accepted)
  | complete (engine : Engine)
  | drop (engine : Engine)

abbrev Chronicle := List Move

namespace Move

def call? : Move → Option Call
  | .write _ _ _ accepted => accepted.call
  | .complete _ | .drop _ => none

def launched? (move : Move) : Option Engine := move.call?.bind Call.engine?

def completed? : Move → Option Engine
  | .complete e => some e
  | .write .. | .drop _ => none

@[simp] theorem completed?_eq_some_iff {move : Move} {e : Engine} :
    move.completed? = some e ↔ move = .complete e := by
  cases move <;> simp [completed?]

end Move

/-- The machine and its tokens before and after the moves of a chronicle. -/
inductive Leads (settings : Settings) (m : Machine) (held : List Token) :
    Chronicle → Machine → List Token → Prop
  | stay : Leads settings m held [] m held
  | write {past n kept w address value accepted} : Leads settings m held past n kept →
      n.write settings w address value = .ok accepted →
      Leads settings m held (.write w address value accepted :: past) accepted.machine
        (kept ++ accepted.tokens)
  | complete {past n kept position token} : Leads settings m held past n kept →
      kept[position]? = some token →
      Leads settings m held (.complete token.engine :: past) (n.finish token.engine)
        (kept.eraseIdx position)
  | drop {past n kept position token} : Leads settings m held past n kept →
      kept[position]? = some token →
      Leads settings m held (.drop token.engine :: past) n (kept.eraseIdx position)

namespace Leads

variable {settings : Settings} {m n k : Machine} {held kept left : List Token}
  {past more : Chronicle}

theorem trans (h : Leads settings m held past n kept) (h' : Leads settings n kept more k left) :
    Leads settings m held (more ++ past) k left := by
  induction h' with
  | stay => exact h
  | write _ written ih => exact .write ih written
  | complete _ at_position ih => exact .complete ih at_position
  | drop _ at_position ih => exact .drop ih at_position

theorem reachable (h : Leads settings m held past n kept) (reached : Reachable settings m held) :
    Reachable settings n kept := by
  induction h with
  | stay => exact reached
  | write _ written ih => exact .write ih written
  | complete _ at_position ih => exact .complete ih at_position
  | drop _ at_position ih => exact .drop ih at_position

end Leads

namespace Session

variable {E : Type}

def deedMoves (s : Session E) : Deed → Chronicle
  | .complete position => (s.held[position]?.map fun token => .complete token.engine).toList
  | .drop position => (s.held[position]?.map fun token => .drop token.engine).toList

def deedsMoves (s : Session E) : List Deed → Chronicle
  | [] => []
  | deed :: deeds => (s.act deed).1.deedsMoves deeds ++ s.deedMoves deed

inductive Makes (s : Session E) : Chronicle → Session E → Prop
  | nothing : Makes s [] s
  | complete {position : Nat} {token : Token} : s.held[position]? = some token →
      Makes s [.complete token.engine]
        { s with machine := s.machine.finish token.engine, held := s.held.eraseIdx position }
  | drop {position : Nat} {token : Token} : s.held[position]? = some token →
      Makes s [.drop token.engine] { s with held := s.held.eraseIdx position }

theorem makes_act (s : Session E) (deed : Deed) : s.Makes (s.deedMoves deed) (s.act deed).1 := by
  cases deed with
  | complete position =>
    cases token : s.held[position]? with
    | none =>
      rw [deedMoves, token, act, complete_of_none token]
      exact .nothing
    | some =>
      rw [deedMoves, token, act, complete_of_some token]
      exact .complete token
  | drop position =>
    cases token : s.held[position]? with
    | none =>
      rw [deedMoves, token, act, drop_of_none token]
      exact .nothing
    | some =>
      rw [deedMoves, token, act, drop_of_some token]
      exact .drop token

theorem Makes.leads {s next : Session E} {moves : Chronicle} (h : s.Makes moves next)
    (settings : Settings) : Leads settings s.machine s.held moves next.machine next.held := by
  cases h with
  | nothing => exact .stay
  | complete at_position => exact .complete .stay at_position
  | drop at_position => exact .drop .stay at_position

theorem Makes.call? {s next : Session E} {moves : Chronicle} (h : s.Makes moves next) :
    moves.filterMap Move.call? = [] := by
  cases h <;> rfl

theorem leads_actAll (settings : Settings) (s : Session E) (deeds : List Deed) :
    Leads settings s.machine s.held (s.deedsMoves deeds) (s.actAll deeds).1.machine
      (s.actAll deeds).1.held := by
  induction deeds generalizing s with
  | nil => exact .stay
  | cons deed deeds ih => exact ((s.makes_act deed).leads settings).trans (ih _)

theorem call?_deedsMoves (s : Session E) (deeds : List Deed) :
    (s.deedsMoves deeds).filterMap Move.call? = [] := by
  induction deeds generalizing s with
  | nil => rfl
  | cons deed deeds ih => rw [deedsMoves, List.filterMap_append, ih, (s.makes_act deed).call?]; rfl

variable [Conduct E]

def conductMoves (s : Session E) (accepted : Accepted) : Chronicle :=
  match accepted.call with
  | none => []
  | some call =>
    (handed { s with machine := accepted.machine } call).deedsMoves
      (received { s with machine := accepted.machine } call).2

/-- The moves that an event comes to, the latest first. -/
def moves (s : Session E) : Event → Chronicle
  | .read .. => []
  | .write w address value =>
    match s.machine.write s.settings w address value with
    | .error _ => []
    | .ok accepted => s.conductMoves accepted ++ [.write w address value accepted]
  | .complete position => s.deedMoves (.complete position)
  | .drop position => s.deedMoves (.drop position)

def chronicle (s : Session E) : List Event → Chronicle
  | [] => []
  | event :: events => (s.step event).1.chronicle events ++ s.moves event

theorem leads_settle (s : Session E) (accepted : Accepted) :
    Leads s.settings accepted.machine (s.held ++ accepted.tokens) (s.conductMoves accepted)
      (s.settle accepted).machine (s.settle accepted).held := by
  obtain ⟨machine, _ | call⟩ := accepted
  · change Leads s.settings machine (s.held ++ []) [] machine s.held
    rw [List.append_nil]
    exact .stay
  · exact leads_actAll s.settings (handed { s with machine } call) _

theorem leads_step (s : Session E) (event : Event) :
    Leads s.settings s.machine s.held (s.moves event) (s.step event).1.machine
      (s.step event).1.held := by
  cases event with
  | read => exact .stay
  | complete position => exact (s.makes_act (.complete position)).leads s.settings
  | drop position => exact (s.makes_act (.drop position)).leads s.settings
  | write w address value =>
    cases written : s.machine.write s.settings w address value with
    | error =>
      rw [moves, written, (step_write_of_error written).1]
      exact .stay
    | ok accepted =>
      rw [moves, written, (step_write_of_ok written).1]
      exact (Leads.write .stay written).trans (s.leads_settle accepted)

theorem leads_run (s : Session E) (events : List Event) :
    Leads s.settings s.machine s.held (s.chronicle events) (s.run events).1.machine
      (s.run events).1.held := by
  induction events generalizing s with
  | nil => exact .stay
  | cons event events ih =>
    have later := ih (s.step event).1
    rw [s.settings_step event] at later
    exact (s.leads_step event).trans later

theorem leads_start (settings : Settings) (executor : E) (events : List Event) :
    Leads settings .start [] ((start settings executor).chronicle events)
      ((start settings executor).run events).1.machine
      ((start settings executor).run events).1.held :=
  (start settings executor).leads_run events

theorem call?_conductMoves (s : Session E) (accepted : Accepted) :
    (s.conductMoves accepted).filterMap Move.call? = [] := by
  obtain ⟨machine, _ | call⟩ := accepted
  · rfl
  · exact call?_deedsMoves _ _

theorem call?_moves (s : Session E) (event : Event) :
    (s.moves event).filterMap Move.call? = (s.step event).2.call.toList := by
  cases event with
  | read w address =>
    rw [(s.step_read w address).2.1]
    rfl
  | complete position =>
    rw [moves, (s.makes_act _).call?, step, call_complete]
    rfl
  | drop position =>
    rw [moves, (s.makes_act _).call?, step, call_drop]
    rfl
  | write w address value =>
    cases written : s.machine.write s.settings w address value with
    | error => rw [moves, written, (step_write_of_error written).2.1]; rfl
    | ok accepted =>
      rw [moves, written, (step_write_of_ok written).2.1]
      change (s.conductMoves accepted ++ [_]).filterMap Move.call? = _
      rw [List.filterMap_append, call?_conductMoves, List.nil_append]
      cases call : accepted.call <;> simp [Move.call?, call]

theorem call?_chronicle (s : Session E) (events : List Event) :
    ((s.chronicle events).filterMap Move.call?).reverse = (s.run events).2.filterMap (·.call) := by
  induction events generalizing s with
  | nil => rfl
  | cons event events ih =>
    rw [chronicle, run_cons, List.filterMap_append, List.reverse_append, ih, call?_moves]
    cases call : (s.step event).2.call <;> simp [call]

theorem exists_move_of_call (s : Session E) {events : List Event} {outcome : Outcome} {call : Call}
    (mem : outcome ∈ (s.run events).2) (called : outcome.call = some call) :
    ∃ move ∈ s.chronicle events, move.call? = some call := by
  have listed : call ∈ (s.run events).2.filterMap (·.call) :=
    List.mem_filterMap.2 ⟨outcome, mem, called⟩
  rw [← call?_chronicle, List.mem_reverse] at listed
  exact List.mem_filterMap.1 listed

end Session

end GraphicsBlock

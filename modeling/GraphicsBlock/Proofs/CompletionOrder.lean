import GraphicsBlock.Proofs.Chronicle
import GraphicsBlock.Proofs.Footprint
import GraphicsBlock.Proofs.Tokens
import Mathlib.Data.List.Perm.Basic

namespace GraphicsBlock

def Chronicle.spent (past : Chronicle) : List Engine := past.filterMap Move.completed?

theorem Chronicle.spent_append (later past : Chronicle) :
    (later ++ past : Chronicle).spent = later.spent ++ past.spent :=
  List.filterMap_append ..

namespace Machine

/-- Ends the operations of a list of engines, the last of the list first. -/
def finishAll (m : Machine) (engines : List Engine) : Machine :=
  engines.foldr (fun e m => m.finish e) m

theorem finish_comm (m : Machine) (e f : Engine) :
    (m.finish e).finish f = (m.finish f).finish e := by
  by_cases same : e = f
  · rw [same]
  have apart : e.trigger ≠ f.trigger := mt Engine.trigger_inj.1 same
  apply ext_get
  · intro i
    rw [get_finish, get_finish, get_finish, get_finish, register_finish_of_ne m apart,
      register_finish_of_ne m apart.symm]
    by_cases he : e.trigger.index = i
    · have hf : f.trigger.index ≠ i := fun hf =>
        apart (Register.index_inj.1 (he.trans hf.symm))
      rw [if_neg hf, if_pos he, if_pos he]
    · rw [if_neg he, if_neg he]
  · intro g
    rw [activity_finish, activity_finish, activity_finish, activity_finish]
    by_cases he : e = g <;> by_cases hf : f = g <;> simp [he, hf]

instance : LeftCommutative fun (e : Engine) (m : Machine) => m.finish e :=
  ⟨fun e f m => m.finish_comm f e⟩

theorem finishAll_perm (m : Machine) {es fs : List Engine} (h : es.Perm fs) :
    m.finishAll es = m.finishAll fs :=
  h.foldr_eq m

theorem finishAll_append (m : Machine) (es fs : List Engine) :
    m.finishAll (es ++ fs) = (m.finishAll fs).finishAll es :=
  List.foldr_append ..

theorem finishAll_finish (m : Machine) (e : Engine) (es : List Engine) :
    (m.finish e).finishAll es = (m.finishAll es).finish e := by
  calc
    (m.finish e).finishAll es = m.finishAll (es ++ [e]) := (m.finishAll_append es [e]).symm
    _ = m.finishAll (e :: es) := m.finishAll_perm (List.perm_append_singleton e es)
    _ = (m.finishAll es).finish e := rfl

theorem alike_finish (m : Machine) {e : Engine} {i : WordIndex} (elsewhere : e.trigger.index ≠ i) :
    m.Alike (m.finish e) i where
  word := by rw [get_finish, if_neg elsewhere]
  busy f here := by
    rw [isBusy_finish, if_neg]
    exact fun same => elsewhere (same ▸ here)
  bank role r within := by
    rw [register_finish_of_ne]
    rintro rfl
    exact elsewhere (Role.trigger_index_of_contains role within)

theorem finish_put (m : Machine) {e : Engine} {i : WordIndex} (word : Word)
    {launched? : Option Engine} (elsewhere : e.trigger.index ≠ i)
    (here : ∀ f, launched? = some f → f.trigger.index = i) :
    (m.put i word launched?).finish e = (m.finish e).put i word launched? := by
  have other : launched? ≠ some e := fun launches => elsewhere (here e launches)
  have kept : (m.put i word launched?).file.register e.trigger = m.file.register e.trigger :=
    (get_put ..).trans (if_neg (Ne.symm elsewhere))
  apply ext_get
  · intro j
    rw [get_finish, get_put, get_put, get_finish, kept]
    by_cases hi : i = j
    · rw [if_neg (hi ▸ elsewhere), if_pos hi, if_pos hi]
    · rw [if_neg hi, if_neg hi]
  · intro f
    rw [activity_finish, activity_put, activity_put, activity_finish]
    by_cases hf : e = f
    · subst hf
      rw [if_pos rfl, if_neg other, if_pos rfl]
    · rw [if_neg hf, if_neg hf]

theorem write_finish (settings : Settings) (m : Machine) {e : Engine} (w : Width)
    {address : Address} (value : BitVec w.bits) (elsewhere : address.toNat / 4 ≠ e.trigger.index) :
    (m.finish e).write settings w address value =
      (m.write settings w address value).map fun a => ⟨a.machine.finish e, a.call⟩ := by
  cases addressed : wordIndex? address with
  | error fault =>
    rw [write_of_unaddressed addressed, write_of_unaddressed addressed]
    rfl
  | ok i =>
    have apart : e.trigger.index ≠ i := by
      intro same
      rw [wordIndex?_eq_ok_iff.1 addressed, same] at elsewhere
      exact elsewhere rfl
    obtain ⟨fault, refused, refused'⟩ | ⟨word, call, written, written', here⟩ :=
      write_congr settings value addressed (m.alike_finish apart)
    · rw [refused, refused']
      rfl
    · rw [written, written', ← finish_put m word apart here]
      rfl

end Machine

namespace Session

variable {E : Type}

theorem machine_complete {s : Session E} {position : Nat} {e : Engine}
    (at_position : s.held[position]? = some ⟨e⟩) :
    (s.complete position).1.machine = s.machine.finish e := by
  rw [complete_of_some at_position]

theorem machine_write_complete {s : Session E} {position : Nat} {e : Engine} {w : Width}
    {address : Address} (at_position : s.held[position]? = some ⟨e⟩)
    (value : BitVec w.bits) (elsewhere : address.toNat / 4 ≠ e.trigger.index) :
    (s.complete position).1.machine.write (s.complete position).1.settings w address value =
      (s.machine.write s.settings w address value).map
        fun a => ⟨a.machine.finish e, a.call⟩ := by
  rw [machine_complete at_position, (s.acts_complete position).settings_eq]
  exact Machine.write_finish s.settings s.machine w value elsewhere

theorem Makes.machine {s next : Session E} {moves : Chronicle} (h : s.Makes moves next) :
    next.machine = s.machine.finishAll moves.spent := by
  cases h <;> rfl

theorem machine_actAll (s : Session E) (deeds : List Deed) :
    (s.actAll deeds).1.machine = s.machine.finishAll (s.deedsMoves deeds).spent := by
  induction deeds generalizing s with
  | nil => rfl
  | cons deed deeds ih =>
    rw [deedsMoves, Chronicle.spent, List.filterMap_append, Machine.finishAll_append]
    exact (ih _).trans (congrArg (Machine.finishAll · _) (s.makes_act deed).machine)

def completeEach (s : Session E) (engines : List Engine) : Session E :=
  engines.foldl (fun s e => (s.completeOf e).1) s

theorem completeOf_comm (s : Session E) (e f : Engine) :
    ((s.completeOf e).1.completeOf f).1 = ((s.completeOf f).1.completeOf e).1 := by
  by_cases same : e = f
  · rw [same]
  have apart : (⟨e⟩ : Token) ≠ ⟨f⟩ := fun h => same (congrArg Token.engine h)
  by_cases he : ⟨e⟩ ∈ s.held <;> by_cases hf : ⟨f⟩ ∈ s.held
  · rw [completeOf_of_mem he, completeOf_of_mem hf,
      completeOf_of_mem ((List.mem_erase_of_ne apart.symm).2 hf),
      completeOf_of_mem ((List.mem_erase_of_ne apart).2 he)]
    simp only [s.machine.finish_comm e f, List.erase_comm]
  · rw [completeOf_of_mem he, completeOf_of_notMem hf,
      completeOf_of_notMem (mt List.mem_of_mem_erase hf), completeOf_of_mem he]
  · rw [completeOf_of_notMem he, completeOf_of_mem hf,
      completeOf_of_notMem (mt List.mem_of_mem_erase he)]
  · rw [completeOf_of_notMem he, completeOf_of_notMem hf, completeOf_of_notMem he]

theorem completeEach_perm (s : Session E) {es fs : List Engine} (h : es.Perm fs) :
    s.completeEach es = s.completeEach fs :=
  h.foldl_eq' (fun e _ f _ s => s.completeOf_comm e f) s

variable [Conduct E]

theorem machine_settle (s : Session E) (accepted : Accepted) :
    (s.settle accepted).machine = accepted.machine.finishAll (s.conductMoves accepted).spent := by
  obtain ⟨machine, _ | call⟩ := accepted
  · rfl
  · exact machine_actAll (handed { s with machine } call) _

theorem spent_moves_of_ok {s : Session E} {w : Width} {address : Address} {value : BitVec w.bits}
    {accepted : Accepted} (h : s.machine.write s.settings w address value = .ok accepted) :
    (s.moves (.write w address value)).spent = (s.conductMoves accepted).spent := by
  rw [moves, h]
  exact (List.filterMap_append ..).trans (List.append_nil _)

theorem conductMoves_of_keeps {s : Session E} (keeps : Keeps s.executor) (accepted : Accepted) :
    s.conductMoves accepted = [] := by
  obtain ⟨machine, _ | call⟩ := accepted
  · rfl
  · have idle : (received { s with machine } call).2 = [] := (keeps.receive call _).1
    rw [conductMoves]
    simp only [idle, deedsMoves]

variable {s : Session E} {position : Nat} {e : Engine} {w : Width} {address : Address}

theorem write_of_keeps (keeps : Keeps s.executor) (address : Address) (value : BitVec w.bits) :
    (s.moves (.write w address value)).spent = [] ∧
      ∃ tokens, (s.write w address value).1.held = s.held ++ tokens := by
  cases written : s.machine.write s.settings w address value with
  | error fault =>
    rw [moves, written, (write_of_error written).1]
    exact ⟨rfl, [], (List.append_nil _).symm⟩
  | ok accepted =>
    rw [spent_moves_of_ok written, conductMoves_of_keeps keeps, (write_of_ok written).1]
    exact ⟨rfl, accepted.tokens, (settle_of_keeps keeps accepted).2⟩

theorem write_complete (at_position : s.held[position]? = some ⟨e⟩) (value : BitVec w.bits)
    (elsewhere : address.toNat / 4 ≠ e.trigger.index) :
    let freed := (s.complete position).1
    let early := freed.write w address value
    let late := s.write w address value
    early.2.result = late.2.result ∧ early.2.call = late.2.call ∧
      ((freed.moves (.write w address value)).spent.Perm
          (s.moves (.write w address value)).spent →
        early.1.machine = late.1.machine.finish e) := by
  intro freed early late
  have moved := machine_write_complete at_position value elsewhere
  cases written : s.machine.write s.settings w address value with
  | error fault =>
    rw [written] at moved
    obtain ⟨lateEnd, lateResult, lateCall⟩ := write_of_error written
    obtain ⟨earlyEnd, earlyResult, earlyCall⟩ := write_of_error moved
    refine ⟨earlyResult.trans lateResult.symm, earlyCall.trans lateCall.symm, fun _ => ?_⟩
    rw [show late.1 = s from lateEnd, show early.1 = freed from earlyEnd]
    exact machine_complete at_position
  | ok accepted =>
    rw [written] at moved
    obtain ⟨lateEnd, lateResult, lateCall⟩ := write_of_ok written
    obtain ⟨earlyEnd, earlyResult, earlyCall⟩ := write_of_ok moved
    refine ⟨earlyResult.trans lateResult.symm, earlyCall.trans lateCall.symm, fun same => ?_⟩
    rw [spent_moves_of_ok written, spent_moves_of_ok moved] at same
    rw [show late.1 = s.settle accepted from lateEnd, show early.1 = freed.settle _ from earlyEnd,
      machine_settle, machine_settle, Machine.finishAll_finish, Machine.finishAll_perm _ same]

/-- A held token may be spent before or after a write to any word but its engine's trigger word:
the write gives the same result, makes the same call and leaves the same words and activities. If
the executor spends tokens itself when it is called, it has to spend the same ones. Tokens may be
spent in any order. -/
theorem completion_timing (s : Session E) :
    (∀ position e, s.held[position]? = some ⟨e⟩ →
      ∀ (w : Width) (address : Address) (value : BitVec w.bits),
        address.toNat / 4 ≠ e.trigger.index →
        let freed := (s.complete position).1
        let early := freed.write w address value
        let late := s.write w address value
        early.2.result = late.2.result ∧ early.2.call = late.2.call ∧
        freed.machine.write s.settings w address value =
          (s.machine.write s.settings w address value).map
            (fun a => ⟨a.machine.finish e, a.call⟩) ∧
        (Keeps s.executor → late.1.held[position]? = some ⟨e⟩ ∧
          early.1.machine = (late.1.complete position).1.machine) ∧
        ((freed.moves (.write w address value)).spent.Perm
            (s.moves (.write w address value)).spent →
          ∀ last, late.1.held[last]? = some ⟨e⟩ →
            early.1.machine = (late.1.complete last).1.machine)) ∧
    ∀ es fs : List Engine, es.Perm fs →
      (s.completeEach es).machine = (s.completeEach fs).machine := by
  refine ⟨?_, fun es fs perm => congrArg machine (s.completeEach_perm perm)⟩
  intro position e at_position w address value elsewhere freed early late
  have settings : freed.settings = s.settings := (s.acts_complete position).settings_eq
  obtain ⟨result, call, machine⟩ := write_complete at_position value elsewhere
  refine ⟨result, call, settings ▸ machine_write_complete at_position value elsewhere, ?_, ?_⟩
  · intro keeps
    have keeps' : Keeps freed.executor := (s.acts_complete position).executor_eq ▸ keeps
    obtain ⟨spent, tokens, held⟩ := write_of_keeps keeps address value
    have still : late.1.held[position]? = some ⟨e⟩ := by
      obtain ⟨bound, _⟩ := List.getElem?_eq_some_iff.1 at_position
      rw [show late.1.held = s.held ++ tokens from held, List.getElem?_append_left bound]
      exact at_position
    refine ⟨still, (machine ?_).trans (machine_complete still).symm⟩
    rw [(write_of_keeps keeps' address value).1, spent]
  · intro same last at_last
    exact (machine same).trans (machine_complete at_last).symm

end Session

end GraphicsBlock

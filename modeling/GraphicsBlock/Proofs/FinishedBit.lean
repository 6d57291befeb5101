import GraphicsBlock.Proofs.Chronicle
import GraphicsBlock.Proofs.FlatMemory
import Mathlib.Data.List.TakeWhile

namespace GraphicsBlock

def UnitId.finishedBit (u : UnitId) : Nat := 32 * (Register.fill u .control).index + 1

example : UnitId.finishedBit .zero = 0xE1 ∧ UnitId.finishedBit .one = 0x161 := by decide

namespace Move

/-- The move is an accepted write that launches the unit, or that writes a zero to its finished
bit. -/
def Clears (u : UnitId) : Move → Prop
  | .write w address value accepted =>
    accepted.launched? = some (.fill u) ∨
      w.Covers address u.finishedBit ∧
        value.getLsbD (u.finishedBit - w.firstBit address) = false
  | .complete _ | .drop _ => False

end Move

namespace Chronicle

variable {past : Chronicle} {move : Move} {e : Engine}

def since (e : Engine) (past : Chronicle) : Chronicle :=
  past.takeWhile fun move => decide (move.completed? ≠ some e)

@[simp] theorem since_complete (e : Engine) (past : Chronicle) :
    since e (.complete e :: past) = [] :=
  List.takeWhile_cons_of_neg (by simp)

theorem since_cons_of_ne (other : move ≠ .complete e) (past : Chronicle) :
    since e (move :: past) = move :: since e past :=
  List.takeWhile_cons_of_pos (by simpa using other)

theorem since_eq_self (unspent : .complete e ∉ past) : since e past = past := by
  apply List.takeWhile_eq_self_iff.2
  intro move mem
  rw [decide_eq_true_iff, ne_eq, Move.completed?_eq_some_iff]
  exact fun same => unspent (same ▸ mem)

/-- What the moves make of the finished bit of a unit, which was `before` at first. -/
def Finished (past : Chronicle) (u : UnitId) (before : Bool) : Prop :=
  (.complete (.fill u) ∈ past ∨ before = true) ∧ ∀ move ∈ since (.fill u) past, ¬move.Clears u

theorem finished_complete (past : Chronicle) (u : UnitId) (before : Bool) :
    Finished (.complete (.fill u) :: past) u before :=
  ⟨.inl List.mem_cons_self, by simp⟩

theorem finished_cons_of_ne {u : UnitId} (other : move ≠ .complete (.fill u)) (before : Bool) :
    Finished (move :: past) u before ↔ Finished past u before ∧ ¬move.Clears u := by
  rw [Finished, Finished, since_cons_of_ne other, List.forall_mem_cons, List.mem_cons,
    or_iff_right other.symm, and_left_comm, and_comm]

end Chronicle

namespace Machine

def finished (m : Machine) (u : UnitId) : Bool := (m.file.fillBank u).control.get .finished

theorem finished_eq_getLsbD (m : Machine) (u : UnitId) :
    m.finished u = (m.file.register (.fill u .control)).getLsbD 1 :=
  FillControl.get_eq_getLsbD _ .finished

theorem finished_start (u : UnitId) : start.finished u = false := by
  have blank : start.file.register (.fill u .control) = 0 := RegisterFile.get_blank _
  rw [finished_eq_getLsbD, blank]
  exact BitVec.getLsbD_zero

theorem finished_finish_self (m : Machine) (u : UnitId) :
    (m.finish (.fill u)).finished u = true := by
  have done : (m.finish (.fill u)).file.register (.fill u .control) =
      doneWord (.fill u) (m.file.register (.fill u .control)) :=
    (m.register_finish (.fill u) _).trans (if_pos rfl)
  rw [finished_eq_getLsbD, done, doneWord, FillControl.getLsbD_set]
  rfl

theorem finished_finish_of_ne (m : Machine) {e : Engine} {u : UnitId} (other : e ≠ .fill u) :
    (m.finish e).finished u = m.finished u := by
  have apart : e.trigger ≠ .fill u .control := mt (Engine.trigger_inj (f := .fill u)).1 other
  rw [finished_eq_getLsbD, register_finish_of_ne m apart, finished_eq_getLsbD]

variable {settings : Settings} {m : Machine} {s : Store} {accepted : Accepted} {u : UnitId}

theorem Accepts.finished_at (h : Accepts settings m s accepted)
    (here : s.index = (Register.fill u .control).index) :
    accepted.machine.finished u =
      (decide (accepted.launched? ≠ some (.fill u)) && (m.finished u && s.merged.getLsbD 1)) := by
  have role : Role.at s.index = .trigger (.fill u) := here ▸ Role.at_trigger (.fill u)
  have merged : (m.controlFor s).raw.getLsbD 1 = (m.finished u && s.merged.getLsbD 1) := by
    rw [getLsbD_controlFor, Bool.and_comm, finished_eq_getLsbD, RegisterFile.register, here]
    rfl
  rw [← merged, finished_eq_getLsbD, RegisterFile.register, ← here]
  cases h with
  | plain other | select other | transferRunning other | transferIdle other | transferLaunch other
  | commandRunning other | commandIdle other | commandLaunch other =>
    rw [role] at other
    cases other
  | fillRunning =>
    rw [storePlain, RegisterFile.get_set_self, FillControl.getLsbD_set_of_ne _ (by decide)]
    rfl
  | fillIdle =>
    rw [storePlain, RegisterFile.get_set_self]
    rfl
  | fillLaunch other =>
    rw [role] at other
    cases other
    rw [launch_get_index m role, FillControl.getLsbD_set]
    exact (Bool.and_eq_false_iff.2 (.inl (decide_eq_false (not_not.2 rfl)))).symm

theorem Accepts.finished_elsewhere (h : Accepts settings m s accepted)
    (elsewhere : s.index ≠ (Register.fill u .control).index) :
    accepted.machine.finished u = m.finished u := by
  obtain ⟨word, file⟩ := h.file_eq
  rw [finished_eq_getLsbD, finished_eq_getLsbD, file, RegisterFile.register,
    RegisterFile.get_set_of_ne _ elsewhere, RegisterFile.register]

variable {w : Width} {address : Address} {value : BitVec w.bits}

theorem finished_of_write (h : m.write settings w address value = .ok accepted) (u : UnitId) :
    accepted.machine.finished u = true ↔
      m.finished u = true ∧ ¬(Move.write w address value accepted).Clears u := by
  obtain ⟨i, addressed, taken⟩ := accepts_of_write h
  by_cases here : i = (Register.fill u .control).index
  · have merged : (m.merge i w address value).merged.getLsbD 1 =
        if w.Covers address u.finishedBit then
          value.getLsbD (u.finishedBit - w.firstBit address)
        else m.finished u := by
      subst here
      rw [finished_eq_getLsbD]
      exact m.getLsbD_merge value addressed (by decide)
    rw [taken.finished_at here, merged, Move.Clears]
    -- Where the lane leaves the bit out, it is merged with itself.
    by_cases covered : w.Covers address u.finishedBit
    · simp [covered, and_left_comm]
    · simp [covered, and_comm]
  · -- The lane misses the bit, and no store elsewhere launches the unit.
    have uncovered : ¬w.Covers address u.finishedBit := by
      intro covered
      have index := ((w.covers_iff address (by decide)).1 covered).1
      exact here (Fin.ext ((wordIndex?_eq_ok_iff.1 addressed).symm.trans index))
    have idle : accepted.launched? ≠ some (.fill u) :=
      fun launches => here (taken.trigger_index_of_launched launches).symm
    rw [taken.finished_elsewhere here]
    exact (and_iff_left fun clears => clears.elim idle (uncovered ·.1)).symm

theorem finished_of_write_one (h : m.write settings w address value = .ok accepted)
    (quiet : accepted.launched? ≠ some (.fill u))
    (one : w.Covers address u.finishedBit →
      value.getLsbD (u.finishedBit - w.firstBit address) = true) :
    accepted.machine.finished u = m.finished u := by
  rw [Bool.eq_iff_iff, finished_of_write h]
  refine and_iff_left fun clears => ?_
  rcases clears with launches | ⟨covered, zero⟩
  · exact quiet launches
  · rw [one covered] at zero
    cases zero

theorem finished_of_launch (h : m.write settings w address value = .ok accepted)
    (launches : accepted.launched? = some (.fill u)) : accepted.machine.finished u = false := by
  rw [Bool.eq_false_iff, ne_eq, finished_of_write h]
  exact fun ⟨_, kept⟩ => kept (.inl launches)

end Machine

namespace Leads

variable {settings : Settings} {m n : Machine} {held kept : List Token} {past : Chronicle}

theorem finished_iff (h : Leads settings m held past n kept) (u : UnitId) :
    n.finished u = true ↔ past.Finished u (m.finished u) := by
  induction h with
  | stay => simp [Chronicle.Finished, Chronicle.since]
  | write _ written ih =>
    rw [Machine.finished_of_write written, Chronicle.finished_cons_of_ne (by simp), ih]
  | @complete past n kept position token _ _ ih =>
    by_cases same : token.engine = .fill u
    · rw [same]
      exact iff_of_true (n.finished_finish_self u) (Chronicle.finished_complete ..)
    · have other : Move.complete token.engine ≠ .complete (.fill u) := by simpa using same
      rw [n.finished_finish_of_ne same, Chronicle.finished_cons_of_ne other, ih]
      exact (and_iff_left not_false).symm
  | drop _ _ ih =>
    rw [Chronicle.finished_cons_of_ne (by simp), ih]
    exact (and_iff_left not_false).symm

theorem finished_iff_of_unspent (h : Leads settings m held past n kept) {u : UnitId}
    (unspent : .complete (.fill u) ∉ past) :
    n.finished u = true ↔ m.finished u = true ∧ ∀ move ∈ past, ¬move.Clears u := by
  rw [h.finished_iff, Chronicle.Finished, Chronicle.since_eq_self unspent, or_iff_right unspent]

end Leads

namespace Session

variable {E : Type} [Conduct E]

/-- The finished bit of a unit is set if the unit has completed and no move since its latest
completion clears the bit, and only then. So writes alone never set it; a write that carries a one
keeps it, and a launch clears it whatever it carries. -/
theorem finished_iff_history (settings : Settings) (executor : E) (events : List Event)
    (u : UnitId) :
    let s := ((start settings executor).run events).1
    let past := (start settings executor).chronicle events
    (s.machine.finished u = true ↔
      .complete (.fill u) ∈ past ∧ ∀ move ∈ past.since (.fill u), ¬move.Clears u) ∧
    (∀ more, .complete (.fill u) ∉ s.chronicle more → s.machine.finished u = false →
      (s.run more).1.machine.finished u = false) ∧
    ∀ (w : Width) (address : Address) (value : BitVec w.bits) (accepted : Accepted),
      s.machine.write settings w address value = .ok accepted →
      (accepted.launched? = some (.fill u) → accepted.machine.finished u = false) ∧
      (accepted.launched? ≠ some (.fill u) → w.Covers address u.finishedBit →
        value.getLsbD (u.finishedBit - w.firstBit address) = true →
        accepted.machine.finished u = s.machine.finished u) := by
  intro s past
  refine ⟨?_, ?_, ?_⟩
  · rw [(leads_start settings executor events).finished_iff, Machine.finished_start,
      Chronicle.Finished, or_iff_left Bool.false_ne_true]
  · intro more unspent clear
    rw [Bool.eq_false_iff, ne_eq, (s.leads_run more).finished_iff_of_unspent unspent, clear]
    exact fun ⟨set, _⟩ => Bool.false_ne_true set
  · intro w address value accepted written
    exact ⟨Machine.finished_of_launch written,
      fun quiet _ one => Machine.finished_of_write_one written quiet fun _ => one⟩

end Session

end GraphicsBlock

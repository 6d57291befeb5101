import GraphicsBlock.Proofs.Chronicle
import GraphicsBlock.Proofs.Coherence

namespace GraphicsBlock

def Engine.doneMask : Engine → Word
  | .fill _ => 3#32
  | .transfer | .commandList => BitVec.allOnes 32

theorem getLsbD_laneMask_one (w : Width) (address : Address) :
    (laneMask w address).getLsbD 1 = (laneMask w address).getLsbD 0 := by
  rw [getLsbD_laneMask, getLsbD_laneMask, ← Bool.decide_and, ← Bool.decide_and]
  apply decide_eq_decide.2
  cases w <;> simp only [lane, laneByte, Width.bytes, Width.bits] <;> omega

namespace Machine

/-- Only the word at an index differs, only in bits of the mask, and no engine but the one that this
word starts. -/
structure Frame (before after : Machine) (index : Nat) (mask : Word) : Prop where
  word : ∀ i : WordIndex, i.val ≠ index → after.file.get i = before.file.get i
  bit : ∀ (i : WordIndex) (bit : Nat), mask.getLsbD bit = false →
    (after.file.get i).getLsbD bit = (before.file.get i).getLsbD bit
  activity : ∀ e : Engine, e.trigger.index.val ≠ index → after.activity e = before.activity e

variable {settings : Settings} {m : Machine} {s : Store} {accepted : Accepted} {bit : Nat}

theorem getLsbD_controlFor_of_uncovered (extend : s.Extends m)
    (uncovered : s.mask.getLsbD bit = false) :
    (m.controlFor s).raw.getLsbD bit = (m.file.get s.index).getLsbD bit := by
  rw [getLsbD_controlFor, extend bit uncovered]
  by_cases here : bit = 1
  · subst here
    simp
  · simp [here]

theorem Accepts.getLsbD_of_uncovered (h : Accepts settings m s accepted) (coherent : m.Coherent)
    (extend : s.Extends m) (flags : s.mask.getLsbD 1 = s.mask.getLsbD 0)
    (uncovered : s.mask.getLsbD bit = false) :
    (accepted.machine.file.get s.index).getLsbD bit = (m.file.get s.index).getLsbD bit := by
  have merged := extend bit uncovered
  have control := getLsbD_controlFor_of_uncovered extend uncovered
  cases h with
  | plain | select | transferIdle | commandIdle =>
    exact (congrArg (BitVec.getLsbD · bit) (m.file.get_set_self s.index s.merged)).trans merged
  | transferRunning | commandRunning => rfl
  | transferLaunch role | commandLaunch role => rw [launch_get_index m role, merged]
  | fillRunning role busy =>
    rw [storePlain, RegisterFile.get_set_self, FillControl.getLsbD_set]
    -- The trigger bit that is forced to one stands at one, because the unit runs.
    split
    · next trigger =>
      rw [show bit = 0 from trigger]
      exact ((coherent.shows_get role).1.trans busy).symm
    · exact control
  | fillIdle role => rw [storePlain, RegisterFile.get_set_self, control]
  | fillLaunch role idle fired =>
    rw [launch_get_index m role, FillControl.getLsbD_set]
    -- The finished bit is cleared. If the lane left it out, it would leave out the trigger bit
    -- too, which is zero in an idle unit and could not have fired.
    split
    · next finished =>
      rw [show bit = 1 from finished, flags] at uncovered
      rw [FillControl.get_eq_getLsbD] at fired
      have trigger := getLsbD_controlFor_of_uncovered extend uncovered
      have clear := (coherent.shows_get role).1.trans idle
      cases (fired.symm.trans trigger).trans clear
    · exact control

theorem frame_write {w : Width} {address : Address} {value : BitVec w.bits} (coherent : m.Coherent)
    (h : m.write settings w address value = .ok accepted) :
    m.Frame accepted.machine (address.toNat / 4) (laneMask w address) := by
  obtain ⟨i, addressed, taken⟩ := accepts_of_write h
  have index : address.toNat / 4 = i := wordIndex?_eq_ok_iff.1 addressed
  have elsewhere : ∀ j : WordIndex, i ≠ j → accepted.machine.file.get j = m.file.get j := by
    obtain ⟨word, file⟩ := taken.file_eq
    intro j apart
    rw [file]
    exact m.file.get_set_of_ne apart word
  rw [index]
  constructor
  · intro j apart
    exact elsewhere j fun same => apart (congrArg Fin.val same).symm
  · intro j bit uncovered
    by_cases here : i = j
    · subst here
      exact taken.getLsbD_of_uncovered coherent (m.extends_merge i w address value)
        (getLsbD_laneMask_one w address) uncovered
    · rw [elsewhere j here]
  · intro e apart
    rcases taken.quiet_or_launch with ⟨same, _⟩ | ⟨f, _, here, _, activities⟩
    · rw [activity, same, activity]
    · rw [activity_of_set activities, if_neg]
      rintro rfl
      exact apart (congrArg Fin.val here)

theorem getLsbD_doneWord (e : Engine) (word : Word) (uncovered : e.doneMask.getLsbD bit = false)
    (inside : bit < 32) : (doneWord e word).getLsbD bit = word.getLsbD bit := by
  cases e with
  | fill unit =>
    have flags : bit ≠ 0 ∧ bit ≠ 1 := by
      constructor <;> rintro rfl <;> simp [Engine.doneMask] at uncovered
    rw [doneWord, FillControl.getLsbD_set_of_ne _ flags.2, FillControl.getLsbD_set_of_ne _ flags.1]
  | transfer | commandList =>
    rw [Engine.doneMask, BitVec.getLsbD_allOnes, decide_eq_true inside] at uncovered
    cases uncovered

theorem frame_finish (m : Machine) (e : Engine) :
    m.Frame (m.finish e) e.trigger.index e.doneMask where
  word := by
    intro i apart
    rw [get_finish, if_neg]
    exact fun same => apart (congrArg Fin.val same).symm
  bit := by
    intro i bit uncovered
    rw [get_finish]
    split
    · next here =>
      subst here
      by_cases inside : bit < 32
      · exact getLsbD_doneWord e _ uncovered inside
      · rw [BitVec.getLsbD_of_ge _ _ (Nat.le_of_not_lt inside),
          BitVec.getLsbD_of_ge _ _ (Nat.le_of_not_lt inside)]
    · rfl
  activity := by
    intro f apart
    rw [activity_finish, if_neg]
    rintro rfl
    exact apart rfl

end Machine

def Move.Frames (before after : Machine) : Move → Prop
  | .write w address _ _ => before.Frame after (address.toNat / 4) (laneMask w address)
  | .complete e => before.Frame after e.trigger.index e.doneMask
  | .drop _ => after = before

namespace Chronicle

def machine : Chronicle → Machine
  | [] => .start
  | .write _ _ _ accepted :: _ => accepted.machine
  | .complete e :: past => (machine past).finish e
  | .drop _ :: past => machine past

def Framed : Chronicle → Prop
  | [] => True
  | move :: past => move.Frames (machine past) (machine (move :: past)) ∧ Framed past

end Chronicle

namespace Leads

variable {settings : Settings} {n : Machine} {kept : List Token} {past : Chronicle}

theorem machine_eq (h : Leads settings .start [] past n kept) : past.machine = n := by
  induction h with
  | stay | write => rfl
  | complete _ _ ih => exact congrArg (Machine.finish · _) ih
  | drop _ _ ih => exact ih

theorem framed (h : Leads settings .start [] past n kept) : past.Framed := by
  induction h with
  | stay => trivial
  | @write past n kept w address value accepted before written ih =>
    refine ⟨?_, ih⟩
    rw [before.machine_eq]
    exact Machine.frame_write (before.reachable .start).coherent written
  | complete _ _ ih => exact ⟨Machine.frame_finish _ _, ih⟩
  | drop _ _ ih => exact ⟨rfl, ih⟩

end Leads

namespace Session

variable {E : Type} [Conduct E]

/-- In every run each move keeps its frame, with the completions in which an executor ends what it
has just been given as moves of their own; and so does every write that would be accepted next, and
the completion of every token at hand. A write changes no bit outside its lane and no engine but
the one of its word. A completion changes the trigger word and the activity of its engine, and of a
control word the two flags. -/
theorem steps_framed (settings : Settings) (executor : E) (events : List Event) :
    let s := ((start settings executor).run events).1
    let past := (start settings executor).chronicle events
    past.machine = s.machine ∧ past.Framed ∧
    (∀ (w : Width) (address : Address) (value : BitVec w.bits) (accepted : Accepted),
      s.machine.write settings w address value = .ok accepted →
      s.machine.Frame accepted.machine (address.toNat / 4) (laneMask w address)) ∧
    (∀ position e, s.held[position]? = some ⟨e⟩ →
      s.machine.Frame (s.complete position).1.machine e.trigger.index e.doneMask) := by
  intro s past
  have leads := leads_start settings executor events
  have coherent : s.machine.Coherent :=
    (isReachable_run (isReachable_start settings executor) events).coherent
  refine ⟨leads.machine_eq, leads.framed, fun w address value accepted written =>
    Machine.frame_write coherent written, fun position e at_position => ?_⟩
  rw [complete_of_some at_position]
  exact s.machine.frame_finish e

end Session

end GraphicsBlock

import GraphicsBlock.Proofs.History

/-!
The block as a memory of bits. An engine owns some bits of its trigger word: the flags of a fill,
and all of the word otherwise. Every other bit is the one that the latest accepted write over it has
put there, whatever has been triggered, refused or completed since.
-/

namespace GraphicsBlock

/-- The bits of its trigger word that an engine sets by itself. -/
def Engine.Owns (e : Engine) (bit : Nat) : Prop :=
  match e with
  | .fill _ => bit < 2
  | .transfer | .commandList => True

def EngineOwned (i : WordIndex) (bit : Nat) : Prop :=
  ∃ e : Engine, e.trigger.index = i ∧ e.Owns bit

example : Engine.all.map (·.trigger.index.val) = [0x7, 0xB, 0x306, 0x63C] := by decide

/-- The first bit of an access, where bit `b` of word `i` stands at `32 * i + b`. The address is
rounded down to a multiple of the access size. -/
def Width.firstBit (w : Width) (address : Address) : Nat := address.toNat / w.bytes * w.bits

def Width.Covers (w : Width) (address : Address) (position : Nat) : Prop :=
  w.firstBit address ≤ position ∧ position < w.firstBit address + w.bits

instance (w : Width) (address : Address) (position : Nat) :
    Decidable (w.Covers address position) :=
  inferInstanceAs (Decidable (_ ∧ _))

/-- The bit that the latest accepted write over a position has stored there, at first zero. -/
def Past.stored : Past → Nat → Bool
  | [], _ => false
  | (.write w address value, outcome) :: past, position =>
    if outcome.answer = .accepted ∧ w.Covers address position then
      value.getLsbD (position - w.firstBit address)
    else stored past position
  | (_, _) :: past, position => stored past position

theorem Width.firstBit_eq (w : Width) (address : Address) :
    w.firstBit address = 32 * (address.toNat / 4) + (lane w address).offset := by
  cases w <;> simp only [firstBit, lane, laneByte, Width.bytes, Width.bits] <;> omega

theorem Width.covers_iff (w : Width) (address : Address) {i bit : Nat} (h : bit < 32) :
    w.Covers address (32 * i + bit) ↔ address.toNat / 4 = i ∧
      (lane w address).offset ≤ bit ∧ bit < (lane w address).offset + w.bits := by
  have fits : (lane w address).offset + w.bits ≤ 32 := laneByte_fits w address
  rw [Covers, firstBit_eq]
  omega

theorem FillControl.getLsbD_set_of_le (c : FillControl) {flag : Flag} {bit : Nat} (value : Bool)
    (owned : flag.field.offset < 2) (h : 2 ≤ bit) :
    (c.set flag value).raw.getLsbD bit = c.raw.getLsbD bit := by
  apply getLsbD_set_of_ne
  omega

namespace Machine

def Spares (before after : Machine) : Prop :=
  ∀ i bit, ¬EngineOwned i bit → (after.file.get i).getLsbD bit = (before.file.get i).getLsbD bit

theorem Spares.refl (m : Machine) : m.Spares m := fun _ _ _ => rfl

theorem Spares.trans {m n k : Machine} (h : m.Spares n) (h' : n.Spares k) : m.Spares k :=
  fun i bit free => (h' i bit free).trans (h i bit free)

theorem fill_of_free {e : Engine} {bit : Nat} (free : ¬EngineOwned e.trigger.index bit) :
    2 ≤ bit ∧ ∃ unit, e = .fill unit := by
  cases e with
  | fill unit => exact ⟨Nat.le_of_not_lt fun low => free ⟨_, rfl, low⟩, unit, rfl⟩
  | transfer | commandList => exact absurd ⟨_, rfl, trivial⟩ free

theorem spares_finish (m : Machine) (e : Engine) : m.Spares (m.finish e) := by
  intro i bit free
  rw [get_finish]
  by_cases here : e.trigger.index = i
  · subst here
    obtain ⟨beyond, unit, rfl⟩ := fill_of_free free
    rw [if_pos rfl, doneWord, FillControl.getLsbD_set_of_le _ _ (by decide) beyond,
      FillControl.getLsbD_set_of_le _ _ (by decide) beyond]
    rfl
  · rw [if_neg here]

variable {settings : Settings} {m : Machine} {s : Store} {accepted : Accepted}

theorem getLsbD_controlFor_of_le (m : Machine) (s : Store) {bit : Nat} (h : 2 ≤ bit) :
    (m.controlFor s).raw.getLsbD bit = s.merged.getLsbD bit := by
  have ne : bit ≠ 1 := by omega
  rw [getLsbD_controlFor, decide_eq_true ne, Bool.true_or, Bool.and_true]

theorem Accepts.getLsbD_get (h : Accepts settings m s accepted) {i : WordIndex} {bit : Nat}
    (free : ¬EngineOwned i bit) :
    (accepted.machine.file.get i).getLsbD bit =
      if s.index = i then s.merged.getLsbD bit else (m.file.get i).getLsbD bit := by
  by_cases here : s.index = i
  · subst here
    rw [if_pos rfl]
    have beyond {e : Engine} (role : Role.at s.index = .trigger e) :
        2 ≤ bit ∧ ∃ unit, e = .fill unit :=
      fill_of_free (Role.trigger_index_of_at role ▸ free)
    cases h with
    | plain | select | transferIdle | commandIdle =>
      exact congrArg (BitVec.getLsbD · bit) (m.file.get_set_self s.index s.merged)
    | fillRunning role =>
      rw [storePlain, RegisterFile.get_set_self,
        FillControl.getLsbD_set_of_le _ _ (by decide) (beyond role).1,
        getLsbD_controlFor_of_le m s (beyond role).1]
    | fillIdle role =>
      rw [storePlain, RegisterFile.get_set_self, getLsbD_controlFor_of_le m s (beyond role).1]
    | fillLaunch role =>
      rw [launch_get_index m role,
        FillControl.getLsbD_set_of_le _ _ (by decide) (beyond role).1,
        getLsbD_controlFor_of_le m s (beyond role).1]
    | transferRunning role | transferLaunch role | commandRunning role | commandLaunch role =>
      -- No bit of these words is free.
      obtain ⟨_, unit, fill⟩ := beyond role
      cases fill
  · obtain ⟨word, file⟩ := h.file_eq
    rw [if_neg here, file, RegisterFile.get_set_of_ne _ here]

theorem getLsbD_merge (m : Machine) {w : Width} {address : Address} (value : BitVec w.bits)
    {i : WordIndex} (addressed : wordIndex? address = .ok i) {bit : Nat} (hbit : bit < 32) :
    (m.merge i w address value).merged.getLsbD bit =
      if w.Covers address (32 * i + bit) then
        value.getLsbD (32 * i + bit - w.firstBit address)
      else (m.file.get i).getLsbD bit := by
  have index : address.toNat / 4 = i := wordIndex?_eq_ok_iff.1 addressed
  rw [merge, getLsbD_mergeLane, if_congr (w.covers_iff address hbit) rfl rfl, w.firstBit_eq, index,
    Nat.add_sub_add_left, if_congr (and_iff_right rfl) rfl rfl]

theorem getLsbD_get_of_write {w : Width} {address : Address} {value : BitVec w.bits}
    (h : m.write settings w address value = .ok accepted) {i : WordIndex} {bit : Nat}
    (hbit : bit < 32) (free : ¬EngineOwned i bit) :
    (accepted.machine.file.get i).getLsbD bit =
      if w.Covers address (32 * i + bit) then
        value.getLsbD (32 * i + bit - w.firstBit address)
      else (m.file.get i).getLsbD bit := by
  obtain ⟨j, addressed, taken⟩ := accepts_of_write h
  by_cases here : j = i
  · subst here
    exact (taken.getLsbD_get free).trans
      ((if_pos rfl).trans (m.getLsbD_merge value addressed hbit))
  · have index : address.toNat / 4 = j := wordIndex?_eq_ok_iff.1 addressed
    have uncovered : ¬w.Covers address (32 * i + bit) := fun covered =>
      here (Fin.ext (index.symm.trans ((w.covers_iff address hbit).1 covered).1))
    rw [if_neg uncovered]
    exact (taken.getLsbD_get free).trans (if_neg here)

end Machine

namespace Session

variable {E : Type} {s : Session E} {past : Past}

theorem Acts.spares {next : Session E} (h : s.Acts next) : s.machine.Spares next.machine := by
  cases h with
  | absent | drop => exact .refl _
  | complete => exact s.machine.spares_finish _

/-- The free bits are those that the flat memory of the past holds. -/
def Refines (s : Session E) (past : Past) : Prop :=
  ∀ (i : WordIndex) (bit : Nat), bit < 32 → ¬EngineOwned i bit →
    (s.machine.file.get i).getLsbD bit = past.stored (32 * i + bit)

theorem refines_start (settings : Settings) (executor : E) :
    (start settings executor).Refines [] := by
  intro i bit _ _
  rw [start, Machine.start, RegisterFile.get_blank]
  exact BitVec.getLsbD_zero

theorem Refines.of_spares {next : Session E} {entry : Event × Outcome} (h : s.Refines past)
    (spares : s.machine.Spares next.machine)
    (same : Past.stored (entry :: past) = past.stored) : next.Refines (entry :: past) := by
  intro i bit hbit free
  rw [spares i bit free, same]
  exact h i bit hbit free

theorem Refines.read (h : s.Refines past) (w : Width) {address : Address}
    (inside : address.toNat < windowBytes)
    (unowned : ∀ e : Engine, e.trigger.index.val ≠ address.toNat / 4) :
    ∃ value, (s.read w address).result = .ok value ∧
      ∀ bit < w.bits, value.getLsbD bit = past.stored (w.firstBit address + bit) := by
  have bound : address.toNat / 4 < wordCount := by
    unfold windowBytes at inside
    omega
  have addressed : wordIndex? address = .ok ⟨address.toNat / 4, bound⟩ :=
    wordIndex?_eq_ok_iff.2 rfl
  refine ⟨readLane w address (s.machine.file.get ⟨address.toNat / 4, bound⟩), ?_, ?_⟩
  · simp [Session.read, Machine.read, addressed]
  · intro bit hbit
    have fits : (lane w address).offset + w.bits ≤ 32 := laneByte_fits w address
    have free : ¬EngineOwned ⟨address.toNat / 4, bound⟩ ((lane w address).offset + bit) := by
      rintro ⟨e, index, _⟩
      exact unowned e (congrArg Fin.val index)
    rw [getLsbD_readLane w address _ hbit, h _ _ (by omega) free, w.firstBit_eq, Nat.add_assoc]

variable [Conduct E]

theorem spares_settle (s : Session E) (accepted : Accepted) :
    accepted.machine.Spares (s.settle accepted).machine :=
  settle_induction (P := fun t => accepted.machine.Spares t.machine) (.refl _)
    fun _ _ acts spares => spares.trans acts.spares

theorem Refines.step (h : s.Refines past) (event : Event) :
    (s.step event).1.Refines ((event, (s.step event).2) :: past) := by
  cases event with
  | read => exact h.of_spares (.refl _) rfl
  | complete position => exact h.of_spares (s.acts_complete position).spares rfl
  | drop position => exact h.of_spares (s.acts_drop position).spares rfl
  | write w address value =>
    cases written : s.machine.write s.settings w address value with
    | error fault =>
      obtain ⟨unchanged, _, refused⟩ := step_write_of_error written
      rw [unchanged]
      apply h.of_spares (.refl _)
      funext position
      rw [Past.stored, refused, if_neg fun ⟨accepted, _⟩ => nomatch accepted]
    | ok accepted =>
      obtain ⟨settled, _, answered⟩ := step_write_of_ok written
      intro i bit hbit free
      -- What the executor does after the write spares the free bits.
      rw [settled, s.spares_settle accepted i bit free,
        Machine.getLsbD_get_of_write written hbit free, h i bit hbit free, Past.stored, answered]
      exact if_congr (and_iff_right rfl).symm rfl rfl

/-- After any history each bit that no engine owns is the one that the latest accepted write over
it has stored, or zero; and a read of a word that starts no engine gives those bits, in order. -/
theorem refines_flat_memory (settings : Settings) (executor : E) (events : List Event) :
    let s := ((start settings executor).run events).1
    let past := (start settings executor).history events
    (∀ (i : WordIndex) (bit : Nat), bit < 32 → ¬EngineOwned i bit →
      (s.machine.file.get i).getLsbD bit = past.stored (32 * i + bit)) ∧
    (∀ (w : Width) (address : Address), address.toNat < windowBytes →
      (∀ e : Engine, e.trigger.index.val ≠ address.toNat / 4) →
      ∃ value, (s.read w address).result = .ok value ∧
        ∀ bit < w.bits, value.getLsbD bit = past.stored (w.firstBit address + bit)) := by
  intro s past
  have refines : s.Refines past :=
    history_induction (refines_start settings executor) (fun _ _ event h => h.step event) events
  exact ⟨refines, fun w _ inside unowned => refines.read w inside unowned⟩

end Session

end GraphicsBlock

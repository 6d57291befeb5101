import GraphicsBlock.Proofs.Coherence
import GraphicsBlock.Proofs.Footprint

namespace GraphicsBlock

theorem RegisterFile.set_set (file : RegisterFile) (i : WordIndex) (x y : Word) :
    (file.set i x).set i y = file.set i y := by
  ext1 j
  rw [get_set, get_set, get_set]
  split <;> rfl

namespace Word

def blend (old mask value : Word) : Word := (old &&& ~~~mask) ||| (value &&& mask)

theorem getLsbD_blend (old mask value : Word) (j : Nat) :
    (blend old mask value).getLsbD j =
      if mask.getLsbD j then value.getLsbD j else old.getLsbD j := by
  rw [blend, BitVec.getLsbD_or, BitVec.getLsbD_and, BitVec.getLsbD_and, BitVec.getLsbD_not]
  by_cases inside : j < 32
  · cases mask.getLsbD j <;> simp [inside]
  · have beyond : 32 ≤ j := Nat.le_of_not_lt inside
    simp [inside, BitVec.getLsbD_of_ge _ _ beyond]

theorem getLsbD_blend_of_spared {mask : Word} {j : Nat} (spared : mask.getLsbD j = false)
    (old value : Word) : (blend old mask value).getLsbD j = old.getLsbD j :=
  (getLsbD_blend ..).trans (if_neg (ne_true_of_eq_false spared))

theorem blend_zero (old value : Word) : blend old 0 value = old :=
  BitVec.eq_of_getLsbD_eq fun _ _ => getLsbD_blend_of_spared BitVec.getLsbD_zero old value

theorem blend_blend (old a b value : Word) :
    blend (blend old a value) b value = blend old (a ||| b) value := by
  apply BitVec.eq_of_getLsbD_eq
  intro j _
  rw [getLsbD_blend, getLsbD_blend, getLsbD_blend, BitVec.getLsbD_or]
  cases a.getLsbD j <;> cases b.getLsbD j <;> rfl

end Word

theorem FillControl.set_of_get {c : FillControl} {flag : Flag} {value : Bool}
    (h : c.get flag = value) : c.set flag value = c := by
  have raw : (c.set flag value).raw = c.raw := by
    apply BitVec.eq_of_getLsbD_eq
    intro j _
    rw [getLsbD_set, ← h, get_eq_getLsbD]
    split
    · next here => rw [here]
    · rfl
  exact congrArg FillControl.mk raw

namespace Machine

def part (m : Machine) (i : WordIndex) (mask value : Word) : Store :=
  ⟨i, Word.blend (m.file.get i) mask value, mask⟩

/-- Engines keep their flags through a store under the mask. -/
def SparesFlags (i : WordIndex) (mask : Word) : Prop :=
  ∀ e, Role.at i = .trigger e → mask.getLsbD 0 = false ∧ mask.getLsbD 1 = false

/-- A store under one mask leaves a word and makes a call, and a store under any other then comes
to one store under both. -/
structure Parted (settings : Settings) (m : Machine) (i : WordIndex) (mask value word : Word)
    (call : Option Call) : Prop where
  first : m.store settings (m.part i mask value) = .ok ⟨m.put i word none, call⟩
  second (more : Word) :
    (m.put i word none).store settings ((m.put i word none).part i more value) =
      m.store settings (m.part i (mask ||| more) value)

variable {settings : Settings} {m : Machine} {i : WordIndex} {mask value word : Word}

theorem extends_part (m : Machine) (i : WordIndex) (mask value : Word) :
    (m.part i mask value).Extends m :=
  fun _ uncovered => Word.getLsbD_blend_of_spared uncovered _ value

@[simp] theorem put_get (m : Machine) (i : WordIndex) : m.put i (m.file.get i) none = m := by
  rw [put, RegisterFile.set_get]

theorem put_put (m : Machine) (i : WordIndex) (x y : Word) :
    (m.put i x none).put i y none = m.put i y none := by
  rw [put, put, put, RegisterFile.set_set]

theorem get_put_self (m : Machine) (i : WordIndex) (word : Word) (launched? : Option Engine) :
    (m.put i word launched?).file.get i = word :=
  RegisterFile.get_set_self ..

theorem storePlain_put (m : Machine) (s : Store) (word more : Word) :
    (m.put s.index word none).storePlain { s with mask := more } = m.storePlain s := by
  rw [storePlain, storePlain, put, RegisterFile.set_set]

theorem launch_put (m : Machine) {e : Engine} (role : Role.at i = .trigger e)
    (word stored : Word) (call : Call) :
    (m.put i word none).launch e stored call = m.launch e stored call := by
  rw [launch, launch, update, update, put, RegisterFile.setRegister, RegisterFile.setRegister,
    Role.trigger_index_of_at role, RegisterFile.set_set]

theorem part_put (m : Machine) (i : WordIndex) (mask more value : Word) :
    (m.put i (Word.blend (m.file.get i) mask value) none).part i more value =
      { m.part i (mask ||| more) value with mask := more } := by
  rw [part, get_put_self, Word.blend_blend]
  rfl

theorem mergedControl_congr {old other : Word} (same : old.getLsbD 1 = other.getLsbD 1)
    (merged : Word) : mergedControl old merged = mergedControl other merged := by
  have finished : (FillControl.mk old).get .finished = (FillControl.mk other).get .finished := by
    rw [FillControl.get_eq_getLsbD, FillControl.get_eq_getLsbD]
    exact same
  rw [mergedControl, mergedControl, finished]

theorem register_put (m : Machine) {e : Engine} (role : Role.at i = .trigger e) (word : Word)
    {r : Register} (other : e.trigger ≠ r) :
    (m.put i word none).file.register r = m.file.register r := by
  rw [← Role.trigger_index_of_at role]
  exact (get_put ..).trans (if_neg (mt Register.index_inj.1 other))

theorem fillJob_put (m : Machine) {u : UnitId} (role : Role.at i = .trigger (.fill u)) (word : Word)
    (order : ByteOrder) (width : FillWidth) :
    ((m.put i word none).file.fillBank u).job order u width =
      (m.file.fillBank u).job order u width := by
  have same {r : FillWord} (other : r ≠ .control) :
      (m.put i word none).file.register (.fill u r) = m.file.register (.fill u r) :=
    m.register_put role word (by simpa [Engine.trigger] using other.symm)
  simp only [FillBank.job, FillBank.startAddress, FillBank.endAddress, RegisterFile.fillBank,
    same (r := .startAddress) (by simp), same (r := .endAddress) (by simp),
    same (r := .value) (by simp)]

theorem listJob_put (m : Machine) (role : Role.at i = .trigger .commandList) (word : Word) :
    (m.put i word none).file.commandBank.job = m.file.commandBank.job := by
  have same {r : CommandWord} (other : r ≠ .trigger) :
      (m.put i word none).file.register (.command r) = m.file.register (.command r) :=
    m.register_put role word (by simpa [Engine.trigger] using other.symm)
  simp only [CommandBank.job, CommandBank.address, CommandBank.sizeBytes, RegisterFile.commandBank,
    same (r := .size) (by simp), same (r := .address) (by simp)]

theorem touches_congr {s : Store} {more : Word} (low : more.getLsbD 0 = s.mask.getLsbD 0)
    {f : BitField} (single : f.width = 1) (first : f.offset = 0) :
    Store.touches { s with mask := more } f = s.touches f := by
  rw [Store.touches_eq_getLsbD _ single, Store.touches_eq_getLsbD _ single, first]
  exact low

theorem firesCommand_congr {s : Store} {more : Word} (low : more.getLsbD 0 = s.mask.getLsbD 0) :
    firesCommand { s with mask := more } = firesCommand s := by
  rw [firesCommand, firesCommand, touches_congr low rfl rfl]

theorem controlFor_put {s : Store} (more : Word)
    (finished : word.getLsbD 1 = (m.file.get s.index).getLsbD 1) :
    (m.put s.index word none).controlFor { s with mask := more } = m.controlFor s := by
  rw [controlFor, controlFor, get_put_self, mergedControl_congr finished]

/-- A second store to a word can do what it does alone: what the first one leaves makes no
difference to it, and neither does the part of the mask that the first one has taken. -/
structure Passes (m : Machine) (s : Store) (word more : Word) : Prop where
  transfer : Role.at s.index ≠ .trigger .transfer
  finished : ∀ u, Role.at s.index = .trigger (.fill u) →
    word.getLsbD 1 = (m.file.get s.index).getLsbD 1
  idle : Role.at s.index = .trigger .commandList → m.isBusy .commandList = false
  low : ∀ e, Role.at s.index = .trigger e → more.getLsbD 0 = s.mask.getLsbD 0

section Passes

variable {s : Store} {more : Word} (h : m.Passes s word more)
include h

theorem Passes.accepts {accepted : Accepted} (taken : Accepts settings m s accepted) :
    Accepts settings (m.put s.index word none) { s with mask := more } accepted := by
  have plain (merged : Word) : (m.put s.index word none).storePlain ⟨s.index, merged, more⟩ =
      m.storePlain ⟨s.index, merged, s.mask⟩ := m.storePlain_put ⟨s.index, merged, s.mask⟩ word more
  cases taken with
  | plain role =>
    rw [← plain]
    exact .plain (s := { s with mask := more }) role
  | @select unit role =>
    have same : (m.put s.index word none).select unit { s with mask := more } = m.select unit s := by
      rw [select, select, storePlain_put]
    rw [← same]
    exact .select (s := { s with mask := more }) role
  | fillRunning role busy quiet =>
    have control := controlFor_put more (h.finished _ role)
    rw [← plain, ← control]
    refine .fillRunning (s := { s with mask := more }) role busy ?_
    rwa [touches_congr (h.low _ role) rfl rfl, control]
  | fillIdle role idle quiet =>
    have control := controlFor_put more (h.finished _ role)
    rw [← control] at quiet
    rw [← plain, ← control]
    exact .fillIdle (s := { s with mask := more }) role idle quiet
  | fillLaunch role idle fired width =>
    have control := controlFor_put more (h.finished _ role)
    rw [← control] at fired width ⊢
    rw [← m.launch_put role word, ← m.fillJob_put role word]
    exact .fillLaunch (s := { s with mask := more }) role idle fired width
  | transferRunning role | transferIdle role | transferLaunch role => exact absurd role h.transfer
  | commandRunning role busy => cases (h.idle role).symm.trans busy
  | commandIdle role idle quiet =>
    rw [← plain]
    refine .commandIdle (s := { s with mask := more }) role idle ?_
    rwa [firesCommand_congr (h.low _ role)]
  | commandLaunch role idle fired =>
    rw [← m.launch_put role word, ← m.listJob_put role word]
    refine .commandLaunch (s := { s with mask := more }) role idle ?_
    rwa [firesCommand_congr (h.low _ role)]

theorem Passes.refuses {fault : BusFault} (refused : Refuses settings m s fault) :
    Refuses settings (m.put s.index word none) { s with mask := more } fault := by
  cases refused with
  | fillRunning role busy fired =>
    refine .fillRunning (s := { s with mask := more }) role busy ?_
    rwa [touches_congr (h.low _ role) rfl rfl, controlFor_put more (h.finished _ role)]
  | fillMode role idle fired none =>
    rw [← controlFor_put more (h.finished _ role)] at fired none ⊢
    exact .fillMode (s := { s with mask := more }) role idle fired none
  | transferRunning role | transferJob role => exact absurd role h.transfer
  | commandRunning role busy => cases (h.idle role).symm.trans busy

theorem Passes.store_eq :
    (m.put s.index word none).store settings { s with mask := more } = m.store settings s := by
  rcases accepts_or_refuses settings m s with ⟨_, taken⟩ | ⟨_, refused⟩
  · rw [store_of_accepts taken, store_of_accepts (h.accepts taken)]
  · rw [store_of_refuses refused, store_of_refuses (h.refuses refused)]

end Passes

theorem store_of_running {s t : Store} (role : Role.at s.index = .trigger .commandList)
    (same : t.index = s.index) (running : m.isBusy .commandList = true)
    (fires : firesCommand t = firesCommand s) : m.store settings t = m.store settings s := by
  have elsewhere : Role.at t.index = .trigger .commandList := by rw [same, role]
  cases fired : firesCommand s with
  | false =>
    rw [store_of_accepts (.commandRunning role running fired),
      store_of_accepts (.commandRunning elsewhere running (fires.trans fired))]
  | true =>
    rw [store_of_refuses (.commandRunning role running fired),
      store_of_refuses (.commandRunning elsewhere running (fires.trans fired))]

theorem firesCommand_part (m : Machine) (i : WordIndex) (mask value : Word) :
    firesCommand (m.part i mask value) = (mask.getLsbD 0 && value.getLsbD 0) := by
  rw [firesCommand, Store.touches_eq_getLsbD _ rfl, CommandTrigger.trigger_eq_getLsbD]
  change (mask.getLsbD 0 && (Word.blend (m.file.get i) mask value).getLsbD 0) = _
  rw [Word.getLsbD_blend]
  cases mask.getLsbD 0 <;> rfl

theorem controlFor_raw {m : Machine} {s : Store}
    (kept : s.merged.getLsbD 1 = (m.file.get s.index).getLsbD 1) :
    (m.controlFor s).raw = s.merged := by
  apply BitVec.eq_of_getLsbD_eq
  intro j _
  rw [getLsbD_controlFor]
  by_cases finished : j = 1
  · rw [finished, kept]
    simp
  · simp [finished]

theorem store_part_fill {u : UnitId} (coherent : m.Coherent)
    (role : Role.at i = .trigger (.fill u)) (trigger : mask.getLsbD 0 = false)
    (finished : mask.getLsbD 1 = false) :
    m.store settings (m.part i mask value) =
      .ok ⟨m.put i (Word.blend (m.file.get i) mask value) none, none⟩ := by
  have control : (m.controlFor (m.part i mask value)).raw = Word.blend (m.file.get i) mask value :=
    controlFor_raw (Word.getLsbD_blend_of_spared finished _ value)
  have kept : (m.controlFor (m.part i mask value)).get .trigger = m.isBusy (.fill u) := by
    -- The trigger bit is the old one, which shows whether the fill runs.
    rw [FillControl.get_eq_getLsbD, control, ← (coherent.shows_get role).1]
    exact Word.getLsbD_blend_of_spared trigger _ value
  cases busy : m.isBusy (.fill u) with
  | true =>
    have untouched : (m.part i mask value).touches (FillControl.Flag.field .trigger) = false :=
      (Store.touches_eq_getLsbD _ rfl).trans trigger
    have taken : Accepts settings m (m.part i mask value) _ :=
      .fillRunning role busy (by rw [untouched, Bool.false_and])
    rw [FillControl.set_of_get (kept.trans busy), control] at taken
    exact store_of_accepts taken
  | false =>
    have taken : Accepts settings m (m.part i mask value) _ :=
      .fillIdle role busy (kept.trans busy)
    rw [control] at taken
    exact store_of_accepts taken

theorem store_select {u : UnitId} (role : Role.at i = .select u) (settings : Settings)
    (m : Machine) (mask value : Word) :
    ∃ call, m.store settings (m.part i mask value) =
      .ok ⟨m.put i (Word.blend (m.file.get i) mask value) none, call⟩ :=
  ⟨_, store_of_accepts (.select role)⟩

theorem store_part_of_spares (coherent : m.Coherent) (transfer : Role.at i ≠ .trigger .transfer)
    (idle : Role.at i = .trigger .commandList → m.isBusy .commandList = false)
    (spares : SparesFlags i mask) :
    ∃ call, m.store settings (m.part i mask value) =
        .ok ⟨m.put i (Word.blend (m.file.get i) mask value) none, call⟩ ∧
      ((∀ u, Role.at i ≠ .select u) → call = none) := by
  cases role : Role.at i with
  | plain => exact ⟨none, store_of_accepts (.plain (s := m.part i mask value) role), fun _ => rfl⟩
  | select u =>
    obtain ⟨call, stored⟩ := store_select role settings m mask value
    exact ⟨call, stored, fun unselected => absurd rfl (unselected u)⟩
  | trigger e =>
    refine ⟨none, ?_, fun _ => rfl⟩
    obtain ⟨trigger, finished⟩ := spares e role
    cases e with
    | fill u => exact store_part_fill coherent role trigger finished
    | transfer => exact absurd role transfer
    | commandList =>
      have quiet : firesCommand (m.part i mask value) = false := by
        rw [firesCommand_part, trigger, Bool.false_and]
      exact store_of_accepts (.commandIdle role (idle role) quiet)

theorem exists_parted (coherent : m.Coherent) (transfer : Role.at i ≠ .trigger .transfer)
    (spares : SparesFlags i mask) (settings : Settings) (value : Word) :
    ∃ word call, m.Parted settings i mask value word call ∧
      ((∀ u, Role.at i ≠ .select u) → call = none) := by
  by_cases running : Role.at i = .trigger .commandList ∧ m.isBusy .commandList = true
  · obtain ⟨role, busy⟩ := running
    have low := (spares _ role).1
    have quiet : firesCommand (m.part i mask value) = false := by
      rw [firesCommand_part, low, Bool.false_and]
    refine ⟨m.file.get i, none, ⟨?_, fun more => ?_⟩, fun _ => rfl⟩
    · rw [put_get]
      exact store_of_accepts (.commandRunning role busy quiet)
    · rw [put_get]
      apply store_of_running (s := m.part i (mask ||| more) value) (t := m.part i more value) role
        rfl busy
      rw [firesCommand_part, firesCommand_part, BitVec.getLsbD_or, low, Bool.false_or]
  · have idle (role : Role.at i = .trigger .commandList) : m.isBusy .commandList = false :=
      Bool.eq_false_iff.2 fun busy => running ⟨role, busy⟩
    obtain ⟨call, stored, quiet⟩ := store_part_of_spares coherent transfer idle spares
    refine ⟨_, call, ⟨stored, fun more => ?_⟩, quiet⟩
    rw [part_put]
    have passes : m.Passes (m.part i (mask ||| more) value) (Word.blend (m.file.get i) mask value)
        more := {
      transfer := transfer
      idle := idle
      finished := fun u role => Word.getLsbD_blend_of_spared (spares _ role).2 _ value
      low := fun e role =>
        (BitVec.getLsbD_or.trans (by rw [(spares e role).1, Bool.false_or])).symm }
    exact passes.store_eq

end Machine

end GraphicsBlock

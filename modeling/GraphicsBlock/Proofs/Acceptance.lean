import GraphicsBlock.Bus.Write

/-!
The ways in which a store is accepted or refused, each with its conditions and with what it leaves
behind. `dispatch_of_accepts` and `dispatch_of_refuses` say what the handlers make of each of them,
`accepts_or_refuses` that there are no others.
-/

namespace GraphicsBlock

structure Accepted where
  machine : Machine
  call : Option Call := none

def Accepted.launched? (a : Accepted) : Option Engine := a.call.bind Call.engine?

def Accepted.handled (a : Accepted) : Handled where
  machine := a.machine
  result := .ok a.call
  records := a.call.toList.map .issued

/-- The result of a handler with the machine, which a refusal leaves alone. -/
def Handled.verdict (h : Handled) : Except BusFault Accepted := h.result.map (⟨h.machine, ·⟩)

def Record.warning (e : Engine) : BusFault → Record
  | .inProgress _ => .stillRunning e
  | fault => .rejected e fault

namespace RegisterFile

@[simp] theorem fillBank?_toNat (file : RegisterFile) (unit : UnitId) :
    file.fillBank? unit.toNat = some (file.fillBank unit) := by
  rw [fillBank?, UnitId.ofNat?_toNat, Option.map_some]

@[simp] theorem screenBank?_toNat (file : RegisterFile) (unit : UnitId) :
    file.screenBank? unit.toNat = some (file.screenBank unit) := by
  rw [screenBank?, UnitId.ofNat?_toNat, Option.map_some]

end RegisterFile

namespace Machine

def storePlain (m : Machine) (s : Store) : Accepted :=
  { machine := { m with file := m.file.set s.index s.merged } }

def launch (m : Machine) (e : Engine) (word : Word) (call : Call) : Accepted :=
  { machine := m.update e.trigger word e .busy, call := some call }

def select (m : Machine) (unit : UnitId) (s : Store) : Accepted :=
  let stored := (m.storePlain s).machine
  { machine := stored, call := some (.swap unit (stored.file.screenBank unit).scanout) }

def store (settings : Settings) (m : Machine) (s : Store) : Except BusFault Accepted :=
  (m.dispatch settings s).verdict

def merge (m : Machine) (i : WordIndex) (w : Width) (address : Address) (value : BitVec w.bits) :
    Store :=
  ⟨i, mergeLane w address (m.file.get i) value, laneMask w address⟩

def write (settings : Settings) (m : Machine) (w : Width) (address : Address)
    (value : BitVec w.bits) : Except BusFault Accepted :=
  (m.writeLane settings w address value).verdict

def controlFor (m : Machine) (s : Store) : FillControl :=
  mergedControl (m.file.get s.index) s.merged

theorem getLsbD_controlFor (m : Machine) (s : Store) (i : Nat) :
    (m.controlFor s).raw.getLsbD i =
      (s.merged.getLsbD i && (decide (i ≠ 1) || (m.file.get s.index).getLsbD 1)) := by
  rw [controlFor, mergedControl, FillControl.getLsbD_set, FillControl.get_eq_getLsbD,
    FillControl.get_eq_getLsbD]
  by_cases h : i = 1
  · simp [h, FillControl.Flag.field, Bool.and_comm]
  · simp [h, FillControl.Flag.field]

theorem get_controlFor {flag : FillControl.Flag} (h : flag ≠ .finished) (m : Machine) (s : Store) :
    (m.controlFor s).get flag = (FillControl.mk s.merged).get flag :=
  FillControl.get_set_of_ne _ h.symm _

def firesCommand (s : Store) : Bool :=
  s.touches CommandTrigger.field && (CommandTrigger.mk s.merged).trigger

inductive Accepts (settings : Settings) (m : Machine) (s : Store) : Accepted → Prop
  | plain : Role.at s.index = .plain → Accepts settings m s (m.storePlain s)
  | select {unit} : Role.at s.index = .select unit → Accepts settings m s (m.select unit s)
  | fillRunning {unit} : Role.at s.index = .trigger (.fill unit) → m.isBusy (.fill unit) = true →
      (s.touches (FillControl.Flag.field .trigger) && (m.controlFor s).get .trigger) = false →
      Accepts settings m s
        (m.storePlain { s with merged := ((m.controlFor s).set .trigger true).raw })
  | fillIdle {unit} : Role.at s.index = .trigger (.fill unit) → m.isBusy (.fill unit) = false →
      (m.controlFor s).get .trigger = false →
      Accepts settings m s (m.storePlain { s with merged := (m.controlFor s).raw })
  | fillLaunch {unit width} : Role.at s.index = .trigger (.fill unit) →
      m.isBusy (.fill unit) = false → (m.controlFor s).get .trigger = true →
      (m.controlFor s).width? settings.fillMode = some width →
      Accepts settings m s
        (m.launch (.fill unit) ((m.controlFor s).set .finished false).raw
          (.fill ((m.file.fillBank unit).job settings.byteOrder unit width)))
  | transferRunning : Role.at s.index = .trigger .transfer → m.isBusy .transfer = true →
      s.written = 0 → Accepts settings m s { machine := m }
  | transferIdle : Role.at s.index = .trigger .transfer → m.isBusy .transfer = false →
      s.merged = 0 → Accepts settings m s (m.storePlain s)
  | transferLaunch {job} : Role.at s.index = .trigger .transfer → m.isBusy .transfer = false →
      s.merged ≠ 0 → m.file.transferBank.job? settings = .ok job →
      Accepts settings m s (m.launch .transfer s.merged (.transfer job))
  | commandRunning : Role.at s.index = .trigger .commandList → m.isBusy .commandList = true →
      firesCommand s = false → Accepts settings m s { machine := m }
  | commandIdle : Role.at s.index = .trigger .commandList → m.isBusy .commandList = false →
      firesCommand s = false → Accepts settings m s (m.storePlain s)
  | commandLaunch : Role.at s.index = .trigger .commandList → m.isBusy .commandList = false →
      firesCommand s = true →
      Accepts settings m s (m.launch .commandList s.merged (.commandList m.file.commandBank.job))

inductive Refuses (settings : Settings) (m : Machine) (s : Store) : BusFault → Prop
  | fillRunning {unit} : Role.at s.index = .trigger (.fill unit) → m.isBusy (.fill unit) = true →
      (s.touches (FillControl.Flag.field .trigger) && (m.controlFor s).get .trigger) = true →
      Refuses settings m s (.inProgress (.fill unit))
  | fillMode {unit} : Role.at s.index = .trigger (.fill unit) → m.isBusy (.fill unit) = false →
      (m.controlFor s).get .trigger = true → (m.controlFor s).width? settings.fillMode = none →
      Refuses settings m s
        (.invalidFillMode ((m.controlFor s).get .fill24) ((m.controlFor s).get .fill32))
  | transferRunning : Role.at s.index = .trigger .transfer → m.isBusy .transfer = true →
      s.written ≠ 0 → Refuses settings m s (.inProgress .transfer)
  | transferJob {fault} : Role.at s.index = .trigger .transfer → m.isBusy .transfer = false →
      s.merged ≠ 0 → m.file.transferBank.job? settings = .error fault →
      Refuses settings m s (.register fault)
  | commandRunning : Role.at s.index = .trigger .commandList → m.isBusy .commandList = true →
      firesCommand s = true → Refuses settings m s (.inProgress .commandList)

variable {settings : Settings} {m : Machine} {s : Store} {accepted : Accepted} {fault : BusFault}

theorem writing_index (m : Machine) (i : WordIndex) (word : Word) (next : Machine → Handled) :
    m.writing i word next = next { m with file := m.file.set i word } := by
  rw [writing, RegisterFile.write?_index]

theorem keep_index (m : Machine) (s : Store) (word : Word) :
    m.keep s.index word = (m.storePlain { s with merged := word }).handled :=
  m.writing_index ..

theorem startEngine_index (m : Machine) {e : Engine} (role : Role.at s.index = .trigger e)
    (word : Word) (call : Call) :
    m.startEngine e s.index word call = (m.launch e word call).handled := by
  rw [startEngine, writing_index, ← Role.trigger_index_of_at role]
  rfl

theorem storeSelect_eq (m : Machine) (unit : UnitId) (s : Store) :
    m.storeSelect unit s = (m.select unit s).handled := by
  rw [storeSelect, writing_index]
  simp only [RegisterFile.screenBank?_toNat]
  rfl

theorem dispatch_of_accepts (h : Accepts settings m s accepted) :
    m.dispatch settings s = accepted.handled := by
  cases h with
  | plain role =>
    simp only [dispatch, role]
    exact m.keep_index s s.merged
  | select role =>
    simp only [dispatch, role]
    exact m.storeSelect_eq ..
  | fillRunning role busy quiet =>
    simp only [dispatch, role, storeFillControl]
    rw [if_pos busy]
    exact (if_neg (ne_true_of_eq_false quiet)).trans (m.keep_index ..)
  | fillIdle role idle quiet =>
    simp only [dispatch, role, storeFillControl]
    rw [if_neg (ne_true_of_eq_false idle)]
    exact (if_pos (congrArg not quiet)).trans (m.keep_index ..)
  | fillLaunch role idle fired width =>
    simp only [dispatch, role, storeFillControl, RegisterFile.fillBank?_toNat]
    rw [if_neg (ne_true_of_eq_false idle), ← controlFor, fired, width]
    exact m.startEngine_index role ..
  | transferRunning role busy zero =>
    simp only [dispatch, role, storeTransferTrigger]
    rw [if_pos busy, if_neg (not_not_intro zero)]
    rfl
  | transferIdle role idle zero =>
    simp only [dispatch, role, storeTransferTrigger]
    rw [if_neg (ne_true_of_eq_false idle), if_pos zero, m.keep_index s, ← zero]
  | transferLaunch role idle nonzero job =>
    simp only [dispatch, role, storeTransferTrigger]
    rw [if_neg (ne_true_of_eq_false idle), if_neg nonzero, job]
    exact m.startEngine_index role ..
  | commandRunning role busy quiet =>
    simp only [dispatch, role, storeCommandTrigger]
    rw [if_pos busy]
    exact if_neg (ne_true_of_eq_false quiet)
  | commandIdle role idle quiet =>
    simp only [dispatch, role, storeCommandTrigger]
    rw [if_neg (ne_true_of_eq_false idle)]
    exact (if_pos (congrArg not quiet)).trans (m.keep_index s s.merged)
  | commandLaunch role idle fired =>
    simp only [dispatch, role, storeCommandTrigger]
    rw [if_neg (ne_true_of_eq_false idle), ← firesCommand, fired]
    exact m.startEngine_index role ..

/-- A refused store leaves the machine alone, and the engine of its word warns. -/
theorem dispatch_of_refuses (h : Refuses settings m s fault) :
    ∃ e, Role.at s.index = .trigger e ∧
      m.dispatch settings s = { m.fail fault with records := [.warning e fault] } := by
  cases h with
  | fillRunning role busy fired =>
    refine ⟨_, role, ?_⟩
    simp only [dispatch, role, storeFillControl]
    rw [if_pos busy]
    exact if_pos fired
  | fillMode role idle fired none =>
    refine ⟨_, role, ?_⟩
    simp only [dispatch, role, storeFillControl, RegisterFile.fillBank?_toNat]
    rw [if_neg (ne_true_of_eq_false idle), ← controlFor, fired, none]
    rfl
  | transferRunning role busy nonzero =>
    refine ⟨_, role, ?_⟩
    simp only [dispatch, role, storeTransferTrigger]
    rw [if_pos busy, if_pos nonzero]
    rfl
  | transferJob role idle nonzero unread =>
    refine ⟨_, role, ?_⟩
    simp only [dispatch, role, storeTransferTrigger]
    rw [if_neg (ne_true_of_eq_false idle), if_neg nonzero, unread]
    rfl
  | commandRunning role busy fired =>
    refine ⟨_, role, ?_⟩
    simp only [dispatch, role, storeCommandTrigger]
    rw [if_pos busy]
    exact if_pos fired

theorem accepts_or_refuses (settings : Settings) (m : Machine) (s : Store) :
    (∃ accepted, Accepts settings m s accepted) ∨ ∃ fault, Refuses settings m s fault := by
  cases role : Role.at s.index with
  | plain => exact .inl ⟨_, .plain role⟩
  | select => exact .inl ⟨_, .select role⟩
  | trigger e =>
    cases busy : m.isBusy e with
    | true =>
      cases e with
      | fill unit =>
        cases fired :
            s.touches (FillControl.Flag.field .trigger) && (m.controlFor s).get .trigger with
        | false => exact .inl ⟨_, .fillRunning role busy fired⟩
        | true => exact .inr ⟨_, .fillRunning role busy fired⟩
      | transfer =>
        by_cases zero : s.written = 0
        · exact .inl ⟨_, .transferRunning role busy zero⟩
        · exact .inr ⟨_, .transferRunning role busy zero⟩
      | commandList =>
        cases fired : firesCommand s with
        | false => exact .inl ⟨_, .commandRunning role busy fired⟩
        | true => exact .inr ⟨_, .commandRunning role busy fired⟩
    | false =>
      cases e with
      | fill unit =>
        cases fired : (m.controlFor s).get .trigger with
        | false => exact .inl ⟨_, .fillIdle role busy fired⟩
        | true =>
          cases width : (m.controlFor s).width? settings.fillMode with
          | none => exact .inr ⟨_, .fillMode role busy fired width⟩
          | some => exact .inl ⟨_, .fillLaunch role busy fired width⟩
      | transfer =>
        by_cases zero : s.merged = 0
        · exact .inl ⟨_, .transferIdle role busy zero⟩
        · cases job : m.file.transferBank.job? settings with
          | error => exact .inr ⟨_, .transferJob role busy zero job⟩
          | ok => exact .inl ⟨_, .transferLaunch role busy zero job⟩
      | commandList =>
        cases fired : firesCommand s with
        | false => exact .inl ⟨_, .commandIdle role busy fired⟩
        | true => exact .inl ⟨_, .commandLaunch role busy fired⟩

theorem store_of_accepts (h : Accepts settings m s accepted) :
    m.store settings s = .ok accepted :=
  congrArg Handled.verdict (dispatch_of_accepts h)

theorem store_of_refuses (h : Refuses settings m s fault) :
    m.store settings s = .error fault := by
  obtain ⟨_, _, handled⟩ := dispatch_of_refuses h
  exact congrArg Handled.verdict handled

theorem accepts_of_store (h : m.store settings s = .ok accepted) :
    Accepts settings m s accepted := by
  rcases accepts_or_refuses settings m s with ⟨_, taken⟩ | ⟨_, refused⟩
  · cases (store_of_accepts taken).symm.trans h
    exact taken
  · cases (store_of_refuses refused).symm.trans h

theorem refuses_of_store (h : m.store settings s = .error fault) : Refuses settings m s fault := by
  rcases accepts_or_refuses settings m s with ⟨_, taken⟩ | ⟨_, refused⟩
  · cases (store_of_accepts taken).symm.trans h
  · cases (store_of_refuses refused).symm.trans h
    exact refused

variable {w : Width} {address : Address} {value : BitVec w.bits} {i : WordIndex}

theorem writeLane_of_index (addressed : wordIndex? address = .ok i) :
    m.writeLane settings w address value = m.dispatch settings (m.merge i w address value) := by
  simp only [writeLane, addressed, RegisterFile.read?_index, merge]

theorem writeLane_of_unaddressed {outside : RegisterFault}
    (h : wordIndex? address = .error outside) :
    m.writeLane settings w address value = m.fail (.register outside) := by
  simp only [writeLane, h]

theorem write_of_index (addressed : wordIndex? address = .ok i) :
    m.write settings w address value = m.store settings (m.merge i w address value) :=
  congrArg Handled.verdict (writeLane_of_index addressed)

theorem write_of_unaddressed {outside : RegisterFault} (h : wordIndex? address = .error outside) :
    m.write settings w address value = .error (.register outside) :=
  congrArg Handled.verdict (writeLane_of_unaddressed h)

theorem writeLane_of_ok (h : m.write settings w address value = .ok accepted) :
    m.writeLane settings w address value = accepted.handled := by
  cases addressed : wordIndex? address with
  | error => cases (write_of_unaddressed addressed).symm.trans h
  | ok i =>
    rw [write_of_index addressed] at h
    rw [writeLane_of_index addressed, dispatch_of_accepts (accepts_of_store h)]

theorem writeLane_of_error (h : m.write settings w address value = .error fault) :
    ∃ records, m.writeLane settings w address value = { m.fail fault with records } := by
  cases addressed : wordIndex? address with
  | error =>
    cases (write_of_unaddressed addressed).symm.trans h
    exact ⟨[], writeLane_of_unaddressed addressed⟩
  | ok i =>
    rw [write_of_index addressed] at h
    obtain ⟨_, _, handled⟩ := dispatch_of_refuses (refuses_of_store h)
    exact ⟨_, (writeLane_of_index addressed).trans handled⟩

@[simp] theorem storePlain_get_index (m : Machine) (s : Store) :
    (m.storePlain s).machine.file.get s.index = s.merged :=
  RegisterFile.get_set_self ..

theorem launch_get_index (m : Machine) {e : Engine} (role : Role.at s.index = .trigger e)
    (word : Word) (call : Call) : (m.launch e word call).machine.file.get s.index = word := by
  rw [← Role.trigger_index_of_at role]
  exact RegisterFile.get_set_self ..

theorem Accepts.file_eq (h : Accepts settings m s accepted) :
    ∃ word, accepted.machine.file = m.file.set s.index word := by
  cases h with
  | plain | select | fillRunning | fillIdle | transferIdle | commandIdle => exact ⟨_, rfl⟩
  | transferRunning | commandRunning => exact ⟨_, (m.file.set_get s.index).symm⟩
  | fillLaunch role | transferLaunch role | commandLaunch role =>
    rw [← Role.trigger_index_of_at role]
    exact ⟨_, rfl⟩

theorem Accepts.quiet_or_launch (h : Accepts settings m s accepted) :
    (accepted.machine.activities = m.activities ∧ accepted.launched? = none) ∨
      ∃ e, accepted.launched? = some e ∧ e.trigger.index = s.index ∧ m.isBusy e = false ∧
        accepted.machine.activities = m.activities.set e .busy := by
  cases h with
  | plain | select | fillRunning | fillIdle | transferRunning | transferIdle | commandRunning
  | commandIdle => exact .inl ⟨rfl, rfl⟩
  | fillLaunch role idle | transferLaunch role idle | commandLaunch role idle =>
    exact .inr ⟨_, rfl, Role.trigger_index_of_at role, idle, rfl⟩

theorem Accepts.trigger_index_of_launched (h : Accepts settings m s accepted) {e : Engine}
    (launches : accepted.launched? = some e) : e.trigger.index = s.index := by
  rcases h.quiet_or_launch with ⟨_, quiet⟩ | ⟨f, work, here, _⟩
  · cases quiet.symm.trans launches
  · cases work.symm.trans launches
    exact here

theorem Refuses.isBusy {e : Engine} (h : Refuses settings m s (.inProgress e)) :
    m.isBusy e = true := by
  cases h with
  | fillRunning _ busy | transferRunning _ busy | commandRunning _ busy => exact busy

end GraphicsBlock.Machine

import GraphicsBlock.Proofs.Acceptance

/-!
The footprint of a store. What a store comes to, its fault or the word that it leaves and the call
that it makes, is read from little: the addressed word, whether its engine runs, and, if the word
has a role, the registers of its region. `Alike` machines agree on that much, and `effect_congr`
says that a store cannot tell them apart. What it then changes is that word and that engine, `put`.
-/

namespace GraphicsBlock

namespace RegisterFile

variable {file other : RegisterFile}

theorem fillBank_congr {u : UnitId}
    (h : ∀ word, file.register (.fill u word) = other.register (.fill u word)) :
    file.fillBank u = other.fillBank u := by
  simp only [fillBank, h]

theorem screenBank_congr {u : UnitId}
    (h : ∀ word, file.register (.screen u word) = other.register (.screen u word)) :
    file.screenBank u = other.screenBank u := by
  simp only [screenBank, h]

theorem transferBank_congr
    (h : ∀ word, file.register (.transfer word) = other.register (.transfer word)) :
    file.transferBank = other.transferBank := by
  simp only [transferBank, h]

theorem commandBank_congr
    (h : ∀ word, file.register (.command word) = other.register (.command word)) :
    file.commandBank = other.commandBank := by
  simp only [commandBank, h]

end RegisterFile

def Accepted.effect (a : Accepted) (i : WordIndex) : Word × Option Call :=
  (a.machine.file.get i, a.call)

namespace Machine

/-- Two machines that a store to a word cannot tell apart. -/
structure Alike (m n : Machine) (i : WordIndex) : Prop where
  word : m.file.get i = n.file.get i
  busy : ∀ e : Engine, e.trigger.index = i → m.isBusy e = n.isBusy e
  bank : Role.at i ≠ .plain → ∀ r : Register, r.region.contains i = true →
    m.file.register r = n.file.register r

def effect (settings : Settings) (m : Machine) (s : Store) :
    Except BusFault (Word × Option Call) :=
  (m.store settings s).map (·.effect s.index)

def put (m : Machine) (i : WordIndex) (word : Word) (launched? : Option Engine) : Machine where
  file := m.file.set i word
  activities :=
    match launched? with
    | none => m.activities
    | some e => m.activities.set e .busy

variable {settings : Settings} {m n : Machine} {s : Store} {accepted : Accepted}
variable {fault : BusFault} {i : WordIndex}

theorem Accepts.machine_eq_put (h : Accepts settings m s accepted) :
    accepted.machine =
      m.put s.index (accepted.machine.file.get s.index) accepted.launched? := by
  obtain ⟨word, file⟩ := h.file_eq
  have stored : accepted.machine.file.get s.index = word := by
    rw [file, RegisterFile.get_set_self]
  obtain ⟨⟨_, activities⟩, call⟩ := accepted
  rw [stored]
  cases file
  rcases h.quiet_or_launch with ⟨same, quiet⟩ | ⟨e, work, _, _, started⟩
  · rw [quiet]
    cases same
    rfl
  · rw [work]
    cases started
    rfl

theorem store_eq_put (settings : Settings) (m : Machine) (s : Store) :
    m.store settings s =
      (m.effect settings s).map fun (word, call) =>
        ⟨m.put s.index word (call.bind Call.engine?), call⟩ := by
  rw [effect]
  cases stored : m.store settings s with
  | error => rfl
  | ok accepted =>
    obtain ⟨machine, call⟩ := accepted
    exact congrArg (fun next => Except.ok (Accepted.mk next call))
      (accepts_of_store stored).machine_eq_put

theorem trigger_index_of_effect {word : Word} {call : Option Call}
    (h : m.effect settings s = .ok (word, call)) {e : Engine}
    (launches : call.bind Call.engine? = some e) : e.trigger.index = s.index := by
  rw [effect] at h
  cases stored : m.store settings s with
  | error =>
    rw [stored] at h
    cases h
  | ok accepted =>
    rw [stored] at h
    cases h
    exact (accepts_of_store stored).trigger_index_of_launched launches

theorem effect_storePlain (m : Machine) (s : Store) (word : Word) :
    (m.storePlain { s with merged := word }).effect s.index = (word, none) :=
  Prod.ext (m.storePlain_get_index { s with merged := word }) rfl

theorem effect_launch (m : Machine) {e : Engine} (role : Role.at s.index = .trigger e)
    (word : Word) (call : Call) : (m.launch e word call).effect s.index = (word, some call) :=
  Prod.ext (m.launch_get_index role word call) rfl

theorem effect_storePlain_congr (m n : Machine) (s : Store) (word : Word) :
    (m.storePlain { s with merged := word }).effect s.index =
      (n.storePlain { s with merged := word }).effect s.index :=
  (m.effect_storePlain s word).trans (n.effect_storePlain s word).symm

theorem effect_launch_congr (m n : Machine) {e : Engine} (role : Role.at s.index = .trigger e)
    (word : Word) (call : Call) :
    (m.launch e word call).effect s.index = (n.launch e word call).effect s.index :=
  (m.effect_launch role word call).trans (n.effect_launch role word call).symm

theorem effect_select_congr {u : UnitId} (role : Role.at s.index = .select u)
    (h : m.Alike n s.index) :
    (m.select u s).effect s.index = (n.select u s).effect s.index := by
  have bank : (m.storePlain s).machine.file.screenBank u =
      (n.storePlain s).machine.file.screenBank u := by
    apply RegisterFile.screenBank_congr
    intro word
    have within : (Register.screen u word).region.contains s.index = true := by
      rw [← Role.at_eq_select_iff.1 role]
      exact Register.contains_index_iff.2 rfl
    have same := h.bank (by simp [role]) _ within
    rw [RegisterFile.register] at same
    rw [storePlain, storePlain, RegisterFile.register, RegisterFile.register,
      RegisterFile.get_set, RegisterFile.get_set, same, RegisterFile.register]
  apply Prod.ext
  · exact (m.storePlain_get_index s).trans (n.storePlain_get_index s).symm
  · exact congrArg (fun b : ScreenBank => some (Call.swap u b.scanout)) bank

namespace Alike

theorem isBusy_eq (h : m.Alike n i) {e : Engine} (role : Role.at i = .trigger e) :
    m.isBusy e = n.isBusy e :=
  h.busy e (Role.trigger_index_of_at role)

theorem register_eq (h : m.Alike n i) {e : Engine} (role : Role.at i = .trigger e)
    {r : Register} (within : r.region = e.region) : m.file.register r = n.file.register r := by
  refine h.bank (by simp [role]) r ?_
  rw [← Role.trigger_index_of_at role]
  exact Register.contains_index_iff.2 within.symm

theorem controlFor_eq (h : m.Alike n s.index) : m.controlFor s = n.controlFor s := by
  rw [controlFor, controlFor, h.word]

theorem fillBank_eq (h : m.Alike n i) {u : UnitId} (role : Role.at i = .trigger (.fill u)) :
    m.file.fillBank u = n.file.fillBank u :=
  RegisterFile.fillBank_congr fun _ => h.register_eq role rfl

theorem transferBank_eq (h : m.Alike n i) (role : Role.at i = .trigger .transfer) :
    m.file.transferBank = n.file.transferBank :=
  RegisterFile.transferBank_congr fun _ => h.register_eq role rfl

theorem commandBank_eq (h : m.Alike n i) (role : Role.at i = .trigger .commandList) :
    m.file.commandBank = n.file.commandBank :=
  RegisterFile.commandBank_congr fun _ => h.register_eq role rfl

theorem accepts (h : m.Alike n s.index) (taken : Accepts settings m s accepted) :
    ∃ other, Accepts settings n s other ∧ other.effect s.index = accepted.effect s.index := by
  cases taken with
  | plain role => exact ⟨_, .plain role, effect_storePlain_congr ..⟩
  | select role => exact ⟨_, .select role, (effect_select_congr role h).symm⟩
  | fillRunning role busy quiet =>
    rw [h.isBusy_eq role] at busy
    rw [h.controlFor_eq] at quiet ⊢
    exact ⟨_, .fillRunning role busy quiet, effect_storePlain_congr ..⟩
  | fillIdle role idle quiet =>
    rw [h.isBusy_eq role] at idle
    rw [h.controlFor_eq] at quiet ⊢
    exact ⟨_, .fillIdle role idle quiet, effect_storePlain_congr ..⟩
  | fillLaunch role idle fired width =>
    rw [h.isBusy_eq role] at idle
    rw [h.controlFor_eq] at fired width ⊢
    rw [h.fillBank_eq role]
    exact ⟨_, .fillLaunch role idle fired width, effect_launch_congr _ _ role ..⟩
  | transferRunning role busy zero =>
    rw [h.isBusy_eq role] at busy
    exact ⟨_, .transferRunning role busy zero, Prod.ext h.word.symm rfl⟩
  | transferIdle role idle zero =>
    rw [h.isBusy_eq role] at idle
    exact ⟨_, .transferIdle role idle zero, effect_storePlain_congr ..⟩
  | transferLaunch role idle nonzero job =>
    rw [h.isBusy_eq role] at idle
    rw [h.transferBank_eq role] at job
    exact ⟨_, .transferLaunch role idle nonzero job, effect_launch_congr _ _ role ..⟩
  | commandRunning role busy quiet =>
    rw [h.isBusy_eq role] at busy
    exact ⟨_, .commandRunning role busy quiet, Prod.ext h.word.symm rfl⟩
  | commandIdle role idle quiet =>
    rw [h.isBusy_eq role] at idle
    exact ⟨_, .commandIdle role idle quiet, effect_storePlain_congr ..⟩
  | commandLaunch role idle fired =>
    rw [h.isBusy_eq role] at idle
    rw [h.commandBank_eq role]
    exact ⟨_, .commandLaunch role idle fired, effect_launch_congr _ _ role ..⟩

theorem refuses (h : m.Alike n s.index) (refused : Refuses settings m s fault) :
    Refuses settings n s fault := by
  cases refused with
  | fillRunning role busy fired =>
    rw [h.isBusy_eq role] at busy
    rw [h.controlFor_eq] at fired
    exact .fillRunning role busy fired
  | fillMode role idle fired none =>
    rw [h.isBusy_eq role] at idle
    rw [h.controlFor_eq] at fired none ⊢
    exact .fillMode role idle fired none
  | transferRunning role busy nonzero =>
    rw [h.isBusy_eq role] at busy
    exact .transferRunning role busy nonzero
  | transferJob role idle nonzero unread =>
    rw [h.isBusy_eq role] at idle
    rw [h.transferBank_eq role] at unread
    exact .transferJob role idle nonzero unread
  | commandRunning role busy fired =>
    rw [h.isBusy_eq role] at busy
    exact .commandRunning role busy fired

end Alike

theorem effect_of_accepts (h : Accepts settings m s accepted) :
    m.effect settings s = .ok (accepted.effect s.index) := by
  rw [effect, store_of_accepts h, Except.map]

theorem effect_of_refuses (h : Refuses settings m s fault) :
    m.effect settings s = .error fault := by
  rw [effect, store_of_refuses h, Except.map]

theorem effect_congr (h : m.Alike n s.index) : m.effect settings s = n.effect settings s := by
  rcases accepts_or_refuses settings m s with ⟨_, taken⟩ | ⟨_, refused⟩
  · obtain ⟨_, other, same⟩ := h.accepts taken
    rw [effect_of_accepts taken, effect_of_accepts other, same]
  · rw [effect_of_refuses refused, effect_of_refuses (h.refuses refused)]

theorem get_put (m : Machine) (i j : WordIndex) (word : Word) (launched? : Option Engine) :
    (m.put i word launched?).file.get j = if i = j then word else m.file.get j :=
  RegisterFile.get_set ..

theorem activity_put (m : Machine) (i : WordIndex) (word : Word) (launched? : Option Engine)
    (e : Engine) :
    (m.put i word launched?).activity e =
      if launched? = some e then .busy else m.activity e := by
  cases launched? with
  | none => rfl
  | some f =>
    rw [activity_of_set (m := m) (e := f) rfl]
    simp only [Option.some.injEq]

theorem write_congr (settings : Settings) {w : Width} {address : Address} (value : BitVec w.bits)
    (addressed : wordIndex? address = .ok i) (h : m.Alike n i) :
    (∃ fault, m.write settings w address value = .error fault ∧
      n.write settings w address value = .error fault) ∨
    ∃ word call, m.write settings w address value =
        .ok ⟨m.put i word (call.bind Call.engine?), call⟩ ∧
      n.write settings w address value = .ok ⟨n.put i word (call.bind Call.engine?), call⟩ ∧
      ∀ e, call.bind Call.engine? = some e → e.trigger.index = i := by
  have merged : n.merge i w address value = m.merge i w address value := by
    rw [merge, merge, h.word]
  have same : m.effect settings (m.merge i w address value) =
      n.effect settings (m.merge i w address value) := effect_congr h
  simp only [write_of_index addressed, merged, store_eq_put, same]
  cases effect : n.effect settings (m.merge i w address value) with
  | error fault => exact .inl ⟨fault, rfl, rfl⟩
  | ok effects =>
    obtain ⟨word, call⟩ := effects
    exact .inr ⟨word, call, rfl, rfl, fun e launches => trigger_index_of_effect effect launches⟩

end Machine

end GraphicsBlock

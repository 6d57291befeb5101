import GraphicsBlock.Bank

namespace GraphicsBlock

/-- A setter as it is called. Units are numbered freely here, though only two of a kind exist. -/
inductive Setter
  | fill (unit : Nat) (word : FillWord)
  | screen (unit : Nat) (word : ScreenWord)
  | transfer (word : TransferWord)
  | command (word : CommandWord)
  deriving DecidableEq

def Setter.register? : Setter → Option Register
  | .fill unit word => (UnitId.ofNat? unit).map (.fill · word)
  | .screen unit word => (UnitId.ofNat? unit).map (.screen · word)
  | .transfer word => some (.transfer word)
  | .command word => some (.command word)

def Register.setter : Register → Setter
  | .fill unit word => .fill unit.toNat word
  | .screen unit word => .screen unit.toNat word
  | .transfer word => .transfer word
  | .command word => .command word

theorem Setter.register?_eq_some_iff {setter : Setter} {r : Register} :
    setter.register? = some r ↔ r.setter = setter := by
  cases setter with
  | fill unit word | screen unit word =>
    simp only [register?, Option.map_eq_some_iff, UnitId.ofNat?_eq_some_iff]
    constructor
    · rintro ⟨u, rfl, rfl⟩
      rfl
    · intro called
      cases r <;> cases called
      exact ⟨_, rfl, rfl⟩
  | transfer word | command word => cases r <;> simp [register?, Register.setter, eq_comm]

theorem UnitId.ofNat?_of_two_le {unit : Nat} (h : 2 ≤ unit) : ofNat? unit = none := by
  match unit with
  | unit + 2 => rfl

namespace RegisterFile

def assign (file : RegisterFile) (setter : Setter) (value : Word) : RegisterFile :=
  match setter with
  | .fill unit word => (file.setFill? unit word value).getD file
  | .screen unit word => (file.setScreen? unit word value).getD file
  | .transfer word => file.setRegister (.transfer word) value
  | .command word => file.setRegister (.command word) value

theorem assign_eq (file : RegisterFile) (setter : Setter) (value : Word) :
    file.assign setter value =
      (setter.register?.map (file.setRegister · value)).getD file := by
  cases setter with
  | fill unit word | screen unit word =>
    simp only [assign, setFill?, setScreen?, Setter.register?, Option.map_map]
    rfl
  | transfer word | command word => rfl

end RegisterFile

def FillBank.raw (b : FillBank) : FillWord → Word
  | .startAddress => b.startRaw
  | .endAddress => b.endRaw
  | .value => b.value.raw
  | .control => b.control.raw

def ScreenBank.raw (b : ScreenBank) : ScreenWord → Word
  | .size => b.size.raw
  | .left1 => b.left1
  | .left2 => b.left2
  | .format => b.format.raw
  | .select => b.select.raw
  | .stride => b.stride
  | .right1 => b.right1
  | .right2 => b.right2

def TransferBank.raw (b : TransferBank) : TransferWord → Word
  | .inputAddress => b.inputRaw
  | .outputAddress => b.outputRaw
  | .outputSize => b.outputSize.raw
  | .inputSize => b.inputSize.raw
  | .flags => b.flags.raw
  | .trigger => b.trigger
  | .totalBytes => b.totalBytes
  | .inputLine => b.inputLine.raw
  | .outputLine => b.outputLine.raw

def CommandBank.raw (b : CommandBank) : CommandWord → Word
  | .size => b.size
  | .address => b.addressRaw
  | .trigger => b.trigger.raw

/-- The questions that the views answer. -/
inductive Getter
  | raw (r : Register)
  | startAddress (unit : UnitId)
  | endAddress (unit : UnitId)
  | activeLeft (unit : UnitId)
  | activeRight (unit : UnitId)
  | leftAddress (unit : UnitId)
  | rightAddress (unit : UnitId)
  | inputAddress
  | outputAddress
  | listBytes
  | listAddress
  deriving DecidableEq

namespace Getter

def get (file : RegisterFile) : Getter → Word
  | .raw (.fill unit word) => (file.fillBank unit).raw word
  | .raw (.screen unit word) => (file.screenBank unit).raw word
  | .raw (.transfer word) => file.transferBank.raw word
  | .raw (.command word) => file.commandBank.raw word
  | .startAddress unit => (file.fillBank unit).startAddress
  | .endAddress unit => (file.fillBank unit).endAddress
  | .activeLeft unit => (file.screenBank unit).activeLeft
  | .activeRight unit => (file.screenBank unit).activeRight
  | .leftAddress unit => (file.screenBank unit).leftAddress
  | .rightAddress unit => (file.screenBank unit).rightAddress
  | .inputAddress => file.transferBank.inputAddress
  | .outputAddress => file.transferBank.outputAddress
  | .listBytes => file.commandBank.sizeBytes
  | .listAddress => file.commandBank.address

def second (file : RegisterFile) (unit : UnitId) : Bool :=
  (file.register (.screen unit .select)).getLsbD 0

def shown (file : RegisterFile) : Getter → Register
  | .raw r => r
  | .startAddress unit => .fill unit .startAddress
  | .endAddress unit => .fill unit .endAddress
  | .activeLeft unit | .leftAddress unit =>
    .screen unit (if second file unit then .left2 else .left1)
  | .activeRight unit | .rightAddress unit =>
    .screen unit (if second file unit then .right2 else .right1)
  | .inputAddress => .transfer .inputAddress
  | .outputAddress => .transfer .outputAddress
  | .listBytes => .command .size
  | .listAddress => .command .address

def screen? : Getter → Option UnitId
  | .activeLeft unit | .activeRight unit | .leftAddress unit | .rightAddress unit => some unit
  | _ => none

/-- The registers that the answer hangs on. -/
def sources (file : RegisterFile) (g : Getter) : List Register :=
  g.shown file :: (g.screen?.map (.screen · .select)).toList

def decode : Getter → Word → Word
  | .raw _, word | .activeLeft _, word | .activeRight _, word => word
  | _, word => Word.byteAddress word

theorem get_eq (file : RegisterFile) (g : Getter) :
    g.get file = g.decode (file.register (g.shown file)) := by
  cases g with
  | raw r => rcases r with ⟨_, word⟩ | ⟨_, word⟩ | word | word <;> cases word <;> rfl
  | activeLeft unit | activeRight unit | leftAddress unit | rightAddress unit =>
    have live : (file.screenBank unit).select.second = second file unit :=
      FramebufferSelect.second_eq_getLsbD _
    simp only [get, ScreenBank.leftAddress, ScreenBank.rightAddress, ScreenBank.activeLeft,
      ScreenBank.activeRight, live, shown]
    cases second file unit <;> rfl
  | startAddress | endAddress | inputAddress | outputAddress | listBytes | listAddress => rfl

theorem shown_congr {file other : RegisterFile} {g : Getter}
    (h : ∀ unit, g.screen? = some unit →
      other.register (.screen unit .select) = file.register (.screen unit .select)) :
    g.shown other = g.shown file := by
  cases g with
  | activeLeft unit | activeRight unit | leftAddress unit | rightAddress unit =>
    have live : second other unit = second file unit := congrArg (BitVec.getLsbD · 0) (h unit rfl)
    simp only [shown, live]
  | raw | startAddress | endAddress | inputAddress | outputAddress | listBytes | listAddress => rfl

theorem get_congr {file other : RegisterFile} {g : Getter}
    (h : ∀ r ∈ g.sources file, other.register r = file.register r) :
    g.get other = g.get file := by
  have same : g.shown other = g.shown file := by
    apply shown_congr
    intro unit at_unit
    exact h _ (by simp [sources, at_unit])
  rw [get_eq, get_eq, same, h _ (by simp [sources])]

theorem decode_add_one_ne (g : Getter) (word : Word) : g.decode (word + 1) ≠ g.decode word := by
  have raw : word + 1 ≠ word := by bv_omega
  have scaled : Word.byteAddress (word + 1) ≠ Word.byteAddress word := by
    unfold Word.byteAddress
    bv_omega
  cases g with
  | raw | activeLeft | activeRight => exact raw
  | startAddress | endAddress | leftAddress | rightAddress | inputAddress | outputAddress
  | listBytes | listAddress => exact scaled

theorem exists_shown_of_screen? {g : Getter} {unit : UnitId} (h : g.screen? = some unit) :
    ∃ first other : ScreenWord, first ≠ other ∧ first ≠ .select ∧ other ≠ .select ∧
      ∀ file, g.shown file = .screen unit (if second file unit then other else first) := by
  cases g with
  | activeLeft | leftAddress =>
    cases h
    exact ⟨.left1, .left2, by simp, by simp, by simp, fun _ => rfl⟩
  | activeRight | rightAddress =>
    cases h
    exact ⟨.right1, .right2, by simp, by simp, by simp, fun _ => rfl⟩
  | raw | startAddress | endAddress | inputAddress | outputAddress | listBytes | listAddress =>
    cases h

theorem shown_ne_select {file : RegisterFile} {g : Getter} {unit : UnitId}
    (h : g.screen? = some unit) : g.shown file ≠ .screen unit .select := by
  obtain ⟨first, other, _, first_ne, other_ne, shows⟩ := exists_shown_of_screen? h
  rw [shows]
  cases second file unit
  · simpa using first_ne
  · simpa using other_ne

theorem shown_setRegister (file : RegisterFile) (g : Getter) (value : Word) :
    g.shown (file.setRegister (g.shown file) value) = g.shown file := by
  apply shown_congr
  intro unit at_unit
  rw [RegisterFile.register_setRegister, if_neg (shown_ne_select at_unit)]

theorem get_setRegister_of_notMem {file : RegisterFile} {g : Getter} {r : Register}
    (h : r ∉ g.sources file) (value : Word) : g.get (file.setRegister r value) = g.get file := by
  apply get_congr
  intro source mem
  rw [RegisterFile.register_setRegister, if_neg]
  rintro rfl
  exact h mem

theorem get_setRegister_shown_ne (file : RegisterFile) (g : Getter) :
    g.get (file.setRegister (g.shown file) (file.register (g.shown file) + 1)) ≠ g.get file := by
  rw [get_eq, get_eq, shown_setRegister, RegisterFile.register_setRegister, if_pos rfl]
  exact g.decode_add_one_ne _

theorem exists_get_setRegister_select_ne {g : Getter} {unit : UnitId} (h : g.screen? = some unit) :
    ∃ (file : RegisterFile) (value : Word),
      g.get (file.setRegister (.screen unit .select) value) ≠ g.get file := by
  obtain ⟨first, other, apart, first_ne, other_ne, shows⟩ := exists_shown_of_screen? h
  refine ⟨RegisterFile.blank.setRegister (.screen unit other) 1, 1, ?_⟩
  have before : second (RegisterFile.blank.setRegister (.screen unit other) 1) unit = false := by
    rw [second, RegisterFile.register_setRegister, if_neg (by simpa using other_ne)]
    simp [RegisterFile.register]
  have after : second ((RegisterFile.blank.setRegister (.screen unit other) 1).setRegister
      (.screen unit .select) 1) unit = true := by
    rw [second, RegisterFile.register_setRegister, if_pos rfl]
    rfl
  rw [get_eq, get_eq, shows, shows, before, after]
  simp only [RegisterFile.register_setRegister, if_true, Bool.false_eq_true, if_false]
  rw [if_neg (by simpa using other_ne.symm), if_neg (by simpa using apart.symm)]
  simpa [RegisterFile.register] using g.decode_add_one_ne 0

theorem exists_mem_sources_iff {g : Getter} {r : Register} :
    (∃ file, r ∈ g.sources file) ↔
      ∃ (f : RegisterFile) (value : Word), g.get (f.setRegister r value) ≠ g.get f := by
  constructor
  · rintro ⟨file, mem⟩
    rcases List.mem_cons.1 mem with rfl | chosen
    · exact ⟨file, _, get_setRegister_shown_ne file g⟩
    · obtain ⟨unit, at_unit, rfl⟩ := Option.map_eq_some_iff.1 (Option.mem_toList.1 chosen)
      exact exists_get_setRegister_select_ne at_unit
  · rintro ⟨file, value, changes⟩
    exact ⟨file, Classical.byContradiction fun spared =>
      changes (get_setRegister_of_notMem spared value)⟩

end Getter

/-- One register has been given a value, and that is all that can be seen. -/
structure RegisterFile.Sets (file later : RegisterFile) (r : Register) (value : Word) : Prop where
  index : r.index.val = r.region.offset + r.position
  get : ∀ i, later.get i = if i = r.index then value else file.get i
  read : later.read? r.index = .ok value
  raw : (Getter.raw r).get later = value
  others : ∀ g : Getter, r ∉ g.sources file → g.get later = g.get file

theorem RegisterFile.sets_setRegister (file : RegisterFile) (r : Register) (value : Word) :
    file.Sets (file.setRegister r value) r value where
  index := rfl
  get i := by
    rw [setRegister, get_set]
    simp only [eq_comm]
  read := by
    rw [read?, dif_pos r.index.isLt]
    exact congrArg Except.ok (file.get_set_self r.index value)
  raw := (Getter.get_eq _ _).trans (file.get_set_self r.index value)
  others _ spared := Getter.get_setRegister_of_notMem spared value

/-- A setter stores its value in one word, which no other setter stores in. The getter of that word
gives the value back, and no getter answers differently that does not depend on the word; the words
that its sources name are all that it depends on. Units past the second have no view. A region that
is written as a whole keeps to itself. -/
theorem views_independent (file : RegisterFile) :
    Region.all.map Region.offset = [0x4, 0x8, 0x117, 0x157, 0x300, 0x638] ∧
    (∀ (setter : Setter) (r : Register), setter.register? = some r →
      ∀ value, file.Sets (file.assign setter value) r value) ∧
    (∀ (setter other : Setter) (r s : Register), setter.register? = some r →
      other.register? = some s → r.index = s.index → setter = other) ∧
    (∀ (g : Getter) (r : Register), (∃ f, r ∈ g.sources f) ↔
      ∃ (f : RegisterFile) (value : Word), g.get (f.setRegister r value) ≠ g.get f) ∧
    (∀ unit : UnitId, file.fillBank? unit.toNat = some (file.fillBank unit) ∧
      file.screenBank? unit.toNat = some (file.screenBank unit)) ∧
    (∀ unit : Nat, 2 ≤ unit → file.fillBank? unit = none ∧ file.screenBank? unit = none ∧
      ∀ value, (∀ word, file.assign (.fill unit word) value = file) ∧
        (∀ word, file.assign (.screen unit word) value = file)) ∧
    (∀ (region : Region) (value : Nat → Word) (i : WordIndex),
      (file.setRegion region value).get i =
        if region.offset ≤ i ∧ i < region.offset + region.words then value (i - region.offset)
        else file.get i) := by
  refine ⟨rfl, ?_, ?_, fun _ _ => Getter.exists_mem_sources_iff, ?_, ?_, ?_⟩
  · intro setter r called value
    rw [file.assign_eq, called]
    exact file.sets_setRegister r value
  · intro setter other r s called called' same
    rw [Setter.register?_eq_some_iff] at called called'
    rw [← called, ← called', Register.index_inj.1 same]
  · intro unit
    simp [RegisterFile.fillBank?, RegisterFile.screenBank?]
  · intro unit absent
    have none := UnitId.ofNat?_of_two_le absent
    simp [RegisterFile.fillBank?, RegisterFile.screenBank?, RegisterFile.assign_eq,
      Setter.register?, none]
  · intro region value i
    rw [RegisterFile.get_setRegion]
    simp only [Region.contains_iff]

end GraphicsBlock

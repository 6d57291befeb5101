import GraphicsBlock.Proofs.Coherence

namespace GraphicsBlock

/-- What a write to the trigger word of an engine carries that would start it. -/
def Engine.Fires (e : Engine) {w : Width} (address : Address) (value : BitVec w.bits) : Prop :=
  match e with
  | .fill _ | .commandList => (laneMask w address).getLsbD 0 = true ∧ value.getLsbD 0 = true
  | .transfer => value ≠ 0

def FillMode.Rejects (mode : FillMode) (fill24 fill32 : Bool) : Prop :=
  fill24 = true ∧ fill32 = true ∨ fill24 = false ∧ fill32 = false ∧ mode = .strict

inductive TransferFlags.Undefined (flags : TransferFlags) (code : Word) : Prop
  | input : code.toNat = (flags.raw.extractLsb' 8 3).toNat → 5 ≤ code.toNat →
      Undefined flags code
  | output : (flags.raw.extractLsb' 8 3).toNat < 5 →
      code.toNat = (flags.raw.extractLsb' 12 3).toNat → 5 ≤ code.toNat → Undefined flags code

namespace TransferFlags

theorem Undefined.not_defined {flags : TransferFlags} {code : Word} (h : flags.Undefined code) :
    ¬((flags.raw.extractLsb' 8 3).toNat < 5 ∧ (flags.raw.extractLsb' 12 3).toNat < 5) := by
  rintro ⟨input, output⟩
  cases h with
  | input same bad => exact absurd (same ▸ bad) (Nat.not_le_of_lt input)
  | output _ same bad => exact absurd (same ▸ bad) (Nat.not_le_of_lt output)

theorem exists_undefined {flags : TransferFlags}
    (h : ¬((flags.raw.extractLsb' 8 3).toNat < 5 ∧ (flags.raw.extractLsb' 12 3).toNat < 5)) :
    ∃ code, flags.Undefined code := by
  have input : (flags.code .inputFormat).toNat = _ := flags.toNat_code .inputFormat
  have output : (flags.code .outputFormat).toNat = _ := flags.toNat_code .outputFormat
  by_cases good : (flags.raw.extractLsb' 8 3).toNat < 5
  · have bad := Nat.le_of_not_lt fun known => h ⟨good, known⟩
    exact ⟨_, .output good output (output ▸ bad)⟩
  · exact ⟨_, .input input (input ▸ Nat.le_of_not_lt good)⟩

end TransferFlags

/-- The faults for which a write is to be refused. The value replaces its lane of the addressed word
before the word is looked at. -/
inductive Machine.FaultDue (settings : Settings) (m : Machine) {w : Width} (address : Address)
    (value : BitVec w.bits) : BusFault → Prop
  | outside : 0x4000 ≤ address.toNat →
      FaultDue settings m address value (.register (.outOfRange (address.toNat / 4)))
  | running {e : Engine} : address.toNat / 4 = e.trigger.index → m.isBusy e = true →
      e.Fires address value → FaultDue settings m address value (.inProgress e)
  | mode {unit : UnitId} {control : Word} :
      address.toNat / 4 = (Register.fill unit .control).index → m.isBusy (.fill unit) = false →
      control = mergeLane w address (m.file.register (.fill unit .control)) value →
      control.getLsbD 0 = true →
      settings.fillMode.Rejects (control.getLsbD 8) (control.getLsbD 9) →
      FaultDue settings m address value (.invalidFillMode (control.getLsbD 8) (control.getLsbD 9))
  | format {code : Word} :
      address.toNat / 4 = (Register.transfer .trigger).index → m.isBusy .transfer = false →
      mergeLane w address (m.file.register (.transfer .trigger)) value ≠ 0 →
      (m.file.register (.transfer .flags)).getLsbD 3 = false →
      TransferFlags.Undefined ⟨m.file.register (.transfer .flags)⟩ code →
      FaultDue settings m address value (.register (.undefinedFormat code))

theorem getLsbD_mergeLane_zero {w : Width} {address : Address}
    (covered : (laneMask w address).getLsbD 0 = true) (word : Word) (value : BitVec w.bits) :
    (mergeLane w address word value).getLsbD 0 = value.getLsbD 0 := by
  rw [getLsbD_laneMask, ← Bool.decide_and, decide_eq_true_iff] at covered
  rw [getLsbD_mergeLane, if_pos covered, Nat.zero_sub]

theorem FillControl.width?_eq_none_iff (mode : FillMode) (c : FillControl) :
    c.width? mode = none ↔ mode.Rejects (c.get .fill24) (c.get .fill32) := by
  unfold width? FillMode.Rejects
  cases c.get .fill24 <;> cases c.get .fill32 <;> cases mode <;> simp

namespace TransferBank

theorem conversion?_eq_error_iff (scaling : Scaling) (b : TransferBank) {fault : RegisterFault} :
    b.conversion? scaling = .error fault ↔
      ∃ code, b.flags.Undefined code ∧ fault = .undefinedFormat code := by
  have input := b.flags.toNat_code .inputFormat
  have output := b.flags.toNat_code .outputFormat
  unfold conversion? TransferFlags.inputFormat TransferFlags.outputFormat
  cases first : PixelFormat.ofCode? (b.flags.code .inputFormat) with
  | error =>
    obtain ⟨bad, rfl⟩ := PixelFormat.ofCode?_eq_error_iff.1 first
    constructor
    · rintro ⟨⟩
      exact ⟨_, .input input bad, rfl⟩
    · rintro ⟨code, same | ⟨good, _⟩, rfl⟩
      · rw [BitVec.eq_of_toNat_eq (same.trans input.symm)]
        rfl
      · exact absurd (input ▸ bad) (Nat.not_le_of_lt good)
  | ok format =>
    have good : (b.flags.raw.extractLsb' 8 3).toNat < 5 :=
      input ▸ PixelFormat.ofCode?_eq_ok_iff.1 first ▸ format.code_lt
    cases second : PixelFormat.ofCode? (b.flags.code .outputFormat) with
    | error =>
      obtain ⟨bad, rfl⟩ := PixelFormat.ofCode?_eq_error_iff.1 second
      constructor
      · rintro ⟨⟩
        exact ⟨_, .output good output bad, rfl⟩
      · rintro ⟨code, ⟨same, bad⟩ | ⟨_, same⟩, rfl⟩
        · exact absurd (same ▸ bad) (Nat.not_le_of_lt good)
        · rw [BitVec.eq_of_toNat_eq (same.trans output.symm)]
          rfl
    | ok other =>
      have good' : (b.flags.raw.extractLsb' 12 3).toNat < 5 :=
        output ▸ PixelFormat.ofCode?_eq_ok_iff.1 second ▸ other.code_lt
      refine ⟨nofun, ?_⟩
      rintro ⟨code, ⟨same, bad⟩ | ⟨_, same, bad⟩, rfl⟩
      · exact absurd (same ▸ bad) (Nat.not_le_of_lt good)
      · exact absurd (same ▸ bad) (Nat.not_le_of_lt good')

theorem job?_eq_error_iff (settings : Settings) (b : TransferBank) {fault : RegisterFault} :
    b.job? settings = .error fault ↔ b.flags.raw.getLsbD 3 = false ∧
      ∃ code, b.flags.Undefined code ∧ fault = .undefinedFormat code := by
  have raw : b.flags.get .isRawCopy = b.flags.raw.getLsbD 3 := b.flags.get_eq_getLsbD .isRawCopy
  rw [← conversion?_eq_error_iff settings.scaling, ← raw, job?, kind?]
  cases b.flags.get .isRawCopy with
  | true => simp [Except.map]
  | false => cases b.conversion? settings.scaling <;> simp [Except.map]

theorem exists_job?_iff (settings : Settings) (b : TransferBank) :
    (∃ job, b.job? settings = .ok job) ↔ b.flags.raw.getLsbD 3 = true ∨
      (b.flags.raw.extractLsb' 8 3).toNat < 5 ∧ (b.flags.raw.extractLsb' 12 3).toNat < 5 := by
  cases read : b.job? settings with
  | error fault =>
    obtain ⟨formatted, code, undefined, _⟩ := (b.job?_eq_error_iff settings).1 read
    simp only [formatted, reduceCtorEq, exists_false, false_or, Bool.false_eq_true, false_iff]
    exact undefined.not_defined
  | ok job =>
    refine iff_of_true ⟨job, rfl⟩ (Decidable.byContradiction fun other => ?_)
    obtain ⟨copies, codes⟩ := not_or.1 other
    obtain ⟨code, undefined⟩ := TransferFlags.exists_undefined codes
    have unread := (b.job?_eq_error_iff settings).2
      ⟨Bool.eq_false_iff.2 copies, code, undefined, rfl⟩
    cases read.symm.trans unread

end TransferBank

namespace Machine

variable {settings : Settings} {m : Machine} {i : WordIndex} {w : Width} {address : Address}
  {value : BitVec w.bits} {fault : BusFault}

theorem firesFill_iff (m : Machine) (i : WordIndex) (unit : UnitId) :
    ((m.merge i w address value).touches (FillControl.Flag.field .trigger) &&
        (m.controlFor (m.merge i w address value)).get .trigger) = true ↔
      (Engine.fill unit).Fires address value := by
  rw [Store.touches_eq_getLsbD _ rfl, get_controlFor (by decide), FillControl.get_eq_getLsbD,
    Bool.and_eq_true]
  exact and_congr_right fun covered => by rw [← getLsbD_mergeLane_zero covered]; rfl

theorem firesCommand_iff (m : Machine) (i : WordIndex) :
    firesCommand (m.merge i w address value) = true ↔ Engine.commandList.Fires address value := by
  rw [firesCommand, Store.touches_eq_getLsbD _ rfl, CommandTrigger.trigger_eq_getLsbD,
    Bool.and_eq_true]
  exact and_congr_right fun covered => by rw [← getLsbD_mergeLane_zero covered]; rfl

theorem written_eq_zero_iff (m : Machine) (i : WordIndex) :
    (m.merge i w address value).written = 0 ↔ value = 0 := by
  constructor
  · intro zero
    apply BitVec.eq_of_getLsbD_eq
    intro j hj
    have bit := congrArg (BitVec.getLsbD · ((lane w address).offset + j)) zero
    simpa [Store.written, merge, getLsbD_mergeLane, getLsbD_laneMask, hj] using bit
  · rintro rfl
    apply BitVec.eq_of_getLsbD_eq
    intro j _
    rw [Store.written, merge, BitVec.getLsbD_and, getLsbD_mergeLane, getLsbD_laneMask,
      ← Bool.decide_and]
    split <;> simp [*]

theorem get_controlFor_eq_getLsbD {flag : FillControl.Flag} (h : flag ≠ .finished) (m : Machine)
    (s : Store) : (m.controlFor s).get flag = s.merged.getLsbD flag.field.offset :=
  (get_controlFor h m s).trans (FillControl.get_eq_getLsbD _ flag)

theorem width?_controlFor_eq_none_iff (mode : FillMode) (m : Machine) (s : Store) :
    (m.controlFor s).width? mode = none ↔
      mode.Rejects (s.merged.getLsbD 8) (s.merged.getLsbD 9) := by
  rw [FillControl.width?_eq_none_iff, get_controlFor_eq_getLsbD (by decide),
    get_controlFor_eq_getLsbD (by decide)]
  rfl

theorem faultDue_of_refuses (here : address.toNat / 4 = i)
    (h : Refuses settings m (m.merge i w address value) fault) :
    m.FaultDue settings address value fault := by
  cases h with
  | fillRunning role busy fired =>
    obtain rfl := Role.trigger_index_of_at role
    exact .running here busy ((firesFill_iff ..).1 fired)
  | transferRunning role busy nonzero =>
    obtain rfl := Role.trigger_index_of_at role
    exact .running here busy (mt (written_eq_zero_iff ..).2 nonzero)
  | commandRunning role busy fired =>
    obtain rfl := Role.trigger_index_of_at role
    exact .running here busy ((firesCommand_iff ..).1 fired)
  | @fillMode unit role idle fired none =>
    obtain rfl := Role.trigger_index_of_at role
    have here : address.toNat / 4 = (Register.fill unit .control).index := here
    rw [get_controlFor_eq_getLsbD (by decide)] at fired
    rw [get_controlFor_eq_getLsbD (by decide), get_controlFor_eq_getLsbD (by decide)]
    exact .mode here idle rfl fired ((width?_controlFor_eq_none_iff ..).1 none)
  | transferJob role idle nonzero unread =>
    obtain rfl := Role.trigger_index_of_at role
    obtain ⟨formatted, code, undefined, rfl⟩ :=
      (TransferBank.job?_eq_error_iff settings _).1 unread
    exact .format here idle nonzero formatted undefined

theorem write_of_faultDue (h : m.FaultDue settings address value fault) :
    m.write settings w address value = .error fault := by
  have stored {e : Engine} (here : address.toNat / 4 = e.trigger.index)
      (refused : Refuses settings m (m.merge e.trigger.index w address value) fault) :
      m.write settings w address value = .error fault := by
    rw [write_of_index (wordIndex?_eq_ok_iff.2 here)]
    exact store_of_refuses refused
  cases h with
  | outside far => exact write_of_unaddressed (wordIndex?_eq_error_iff.2 ⟨far, rfl⟩)
  | @running e here busy fires =>
    apply stored here
    cases e with
    | fill unit => exact .fillRunning (Role.at_trigger (.fill unit)) busy ((firesFill_iff ..).2 fires)
    | transfer =>
      exact .transferRunning (Role.at_trigger .transfer) busy (mt (written_eq_zero_iff ..).1 fires)
    | commandList =>
      exact .commandRunning (Role.at_trigger .commandList) busy ((firesCommand_iff ..).2 fires)
  | @mode unit control here idle merged fired rejects =>
    apply stored (e := .fill unit) here
    subst merged
    have flag {flag : FillControl.Flag} (h : flag ≠ .finished) :=
      get_controlFor_eq_getLsbD h m (m.merge (Engine.fill unit).trigger.index w address value)
    have refused : Refuses settings m (m.merge (Engine.fill unit).trigger.index w address value) _ :=
      .fillMode (Role.at_trigger (.fill unit)) idle ((flag (by decide)).trans fired)
        ((width?_controlFor_eq_none_iff ..).2 rejects)
    rwa [flag (by decide), flag (by decide)] at refused
  | @format code here idle nonzero formatted undefined =>
    apply stored (e := .transfer) here
    apply Refuses.transferJob (Role.at_trigger .transfer) idle nonzero
    exact (TransferBank.job?_eq_error_iff settings _).2 ⟨formatted, code, undefined, rfl⟩

theorem write_eq_error_iff :
    m.write settings w address value = .error fault ↔
      m.FaultDue settings address value fault := by
  refine ⟨fun refused => ?_, write_of_faultDue⟩
  cases addressed : wordIndex? address with
  | error =>
    cases (write_of_unaddressed addressed).symm.trans refused
    obtain ⟨far, rfl⟩ := wordIndex?_eq_error_iff.1 addressed
    exact .outside far
  | ok i =>
    rw [write_of_index addressed] at refused
    exact faultDue_of_refuses (wordIndex?_eq_ok_iff.1 addressed) (refuses_of_store refused)

end Machine

theorem RegisterFault.message_outOfRange (index : Nat) :
    (RegisterFault.outOfRange index).message =
      "register index " ++ Text.hex index ++ " is outside the register file (0..0x1000)" := by
  have length : Text.hex wordCount = "0x1000" := by decide +kernel
  change "register index " ++ Text.hex index ++ " is outside the register file (0.." ++
    Text.hex wordCount ++ ")" = _
  rw [length, String.append_assoc, String.append_assoc]
  rfl

/-- What the faults of accesses say: nothing of fields, and of an index only that it is outside. -/
structure BusFault.OfAccess (fault : BusFault) : Prop where
  overflow : ∀ number width, fault ≠ .register (.fieldOverflow number width)
  geometry : ∀ offset width, fault ≠ .register (.badGeometry offset width)
  outside : ∀ index, fault = .register (.outOfRange index) → 0x1000 ≤ index ∧ fault.message =
    "register index " ++ Text.hex index ++ " is outside the register file (0..0x1000)"

theorem BusFault.ofAccess_outOfRange {index : Nat} (outside : 0x1000 ≤ index) :
    OfAccess (.register (.outOfRange index)) where
  overflow := by simp
  geometry := by simp
  outside := by
    rintro _ ⟨⟩
    exact ⟨outside, RegisterFault.message_outOfRange index⟩

theorem Machine.FaultDue.ofAccess {settings : Settings} {m : Machine} {w : Width}
    {address : Address} {value : BitVec w.bits} {fault : BusFault}
    (h : m.FaultDue settings address value fault) : fault.OfAccess := by
  cases h with
  | outside far => exact BusFault.ofAccess_outOfRange (by omega)
  | running | mode | format => exact ⟨by simp, by simp, by simp⟩

theorem fires_of_clear {w : Width} {address : Address} {word : Word} {value : BitVec w.bits}
    (clear : word.getLsbD 0 = false) (set : (mergeLane w address word value).getLsbD 0 = true) :
    (laneMask w address).getLsbD 0 = true ∧ value.getLsbD 0 = true := by
  cases covered : (laneMask w address).getLsbD 0 with
  | true => exact ⟨rfl, getLsbD_mergeLane_zero covered word value ▸ set⟩
  | false =>
    rw [getLsbD_mergeLane_of_not_mem covered, clear] at set
    cases set

namespace Session

variable {E : Type}

theorem read_eq_error_iff (s : Session E) (w : Width) (address : Address) {fault : BusFault} :
    (s.read w address).result = .error fault ↔
      0x4000 ≤ address.toNat ∧ fault = .register (.outOfRange (address.toNat / 4)) := by
  unfold read Machine.read
  cases addressed : wordIndex? address with
  | error far =>
    obtain ⟨outside, rfl⟩ := wordIndex?_eq_error_iff.1 addressed
    have outside : 0x4000 ≤ address.toNat := outside
    simp [outside, eq_comm]
  | ok i =>
    have inside : ¬0x4000 ≤ address.toNat := by
      have := wordIndex?_eq_ok_iff.1 addressed
      have := i.isLt
      unfold wordCount at this
      omega
    simp [inside]

variable [Conduct E]

theorem result_write_eq_error_iff (s : Session E) {w : Width} {address : Address}
    {value : BitVec w.bits} {fault : BusFault} :
    (s.write w address value).2.result = .error fault ↔
      s.machine.FaultDue s.settings address value fault := by
  rw [← Machine.write_eq_error_iff]
  cases written : s.machine.write s.settings w address value with
  | error => rw [(write_of_error written).2.1, Except.error.injEq, Except.error.injEq]
  | ok => rw [(write_of_ok written).2.1]; exact ⟨nofun, nofun⟩

/-- After any history a write is refused for the fault that is due, and is accepted if none is; a
read is refused outside the block alone. No fault of a field comes out of either, and no index is
reported that is inside the block. An idle fill unit refuses only writes that carry a trigger. -/
theorem access_refused_iff (settings : Settings) (executor : E) (events : List Event) {w : Width}
    (address : Address) (value : BitVec w.bits) :
    let s := ((start settings executor).run events).1
    let written := (s.write w address value).2.result
    let read := (s.read w address).result
    (∀ fault, written = .error fault ↔ s.machine.FaultDue settings address value fault) ∧
    (written = .ok () ↔ ∀ fault, ¬s.machine.FaultDue settings address value fault) ∧
    (∀ fault, read = .error fault ↔
      0x4000 ≤ address.toNat ∧ fault = .register (.outOfRange (address.toNat / 4))) ∧
    (∀ fault, written = .error fault ∨ read = .error fault → fault.OfAccess) ∧
    (∀ fill24 fill32, written = .error (.invalidFillMode fill24 fill32) →
      ∃ unit : UnitId, address.toNat / 4 = (Register.fill unit .control).index ∧
        (Engine.fill unit).Fires address value) := by
  intro s written read
  have refused : ∀ fault,
      written = .error fault ↔ s.machine.FaultDue settings address value fault := by
    intro fault
    rw [s.result_write_eq_error_iff, (start settings executor).settings_run events]
    rfl
  refine ⟨refused, ?_, fun fault => s.read_eq_error_iff w address, ?_, ?_⟩
  · constructor
    · intro accepted fault due
      cases accepted.symm.trans ((refused fault).2 due)
    · intro none
      cases returned : written with
      | ok => rfl
      | error fault => exact absurd ((refused fault).1 returned) (none fault)
  · rintro fault (unwritten | unread)
    · exact ((refused fault).1 unwritten).ofAccess
    · obtain ⟨far, rfl⟩ := (s.read_eq_error_iff w address).1 unread
      exact BusFault.ofAccess_outOfRange (by omega)
  · intro fill24 fill32 invalid
    have coherent : s.machine.Coherent := coherent_run settings executor events
    cases (refused _).1 invalid with
    | @mode unit _ here idle merged fired =>
      subst merged
      exact ⟨unit, here, fires_of_clear ((coherent (.fill unit)).1.trans idle) fired⟩

theorem access_refused_iff_lanes :
    let s := ((start {} Executor.holding).run [.write .full 0x1C#32 0x101#32]).1
    s.machine.FaultDue (w := .byte) {} 0x1C#32 1#8 (.inProgress (.fill .zero)) ∧
      (s.write .byte 0x1C#32 1#8).2.result = .error (.inProgress (.fill .zero)) ∧
      (s.step (.write .byte 0x1D#32 1#8)).2.answer = .accepted := by
  obtain ⟨refused, _⟩ := access_refused_iff (w := .byte) {} Executor.holding
    [.write .full 0x1C#32 0x101#32] 0x1C#32 1#8
  refine ⟨?due, (refused _).2 ?due, by decide +kernel⟩
  exact .running (e := .fill .zero) (by decide) (by decide +kernel) ⟨by decide, by decide⟩

end Session

end GraphicsBlock

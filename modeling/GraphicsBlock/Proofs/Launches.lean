import GraphicsBlock.Proofs.Contracts
import GraphicsBlock.Proofs.Faults
import GraphicsBlock.Proofs.Refusal

namespace GraphicsBlock

/-- A merged trigger word that starts its engine. -/
def Engine.StartsOn (e : Engine) (merged : Word) : Prop :=
  match e with
  | .fill _ | .commandList => merged.getLsbD 0 = true
  | .transfer => merged ≠ 0

def Engine.launchWord (e : Engine) (merged : Word) : Word :=
  match e with
  | .fill _ => merged &&& ~~~2#32
  | .transfer | .commandList => merged

def Call.Tells (settings : Settings) (file : RegisterFile) (merged : Word) : Call → Prop
  | .fill job => job.Tells settings file merged
  | .transfer job => job.Tells settings file
  | .commandList job => job.Tells file
  | .swap _ _ => False

namespace Machine

def mergedTrigger (m : Machine) (e : Engine) {w : Width} (address : Address)
    (value : BitVec w.bits) : Word :=
  mergeLane w address (m.file.register e.trigger) value

/-- The write launches an engine with a call and leaves a machine behind. -/
structure Launches (settings : Settings) (m : Machine) {w : Width} (address : Address)
    (value : BitVec w.bits) (e : Engine) (call : Call) (next : Machine) : Prop where
  here : address.toNat / 4 = e.trigger.index
  idle : m.isBusy e = false
  starts : e.StartsOn (m.mergedTrigger e address value)
  engine : call.engine? = some e
  tells : call.Tells settings m.file (m.mergedTrigger e address value)
  next : next = m.update e.trigger (e.launchWord (m.mergedTrigger e address value)) e .busy

variable {settings : Settings} {m : Machine} {s : Store} {accepted : Accepted} {w : Width}
  {address : Address} {value : BitVec w.bits} {e : Engine} {call : Call} {next : Machine}

theorem width?_controlFor (mode : FillMode) (m : Machine) (s : Store) :
    (m.controlFor s).width? mode = (FillControl.mk s.merged).width? mode := by
  unfold FillControl.width?
  rw [get_controlFor (by decide), get_controlFor (by decide)]

theorem set_finished_controlFor (m : Machine) (s : Store) :
    ((m.controlFor s).set .finished false).raw = s.merged &&& ~~~2#32 := by
  apply BitVec.eq_of_getLsbD_eq
  intro i inside
  have flag : (2#32).getLsbD i = decide (i = 1) := by
    rw [show 2#32 = BitVec.twoPow 32 1 from rfl, BitVec.getLsbD_twoPow]
    simp [eq_comm]
  rw [FillControl.getLsbD_set, getLsbD_controlFor, BitVec.getLsbD_and, BitVec.getLsbD_not, flag,
    decide_eq_true inside, Bool.true_and]
  by_cases finished : i = 1
  · simp [finished, FillControl.Flag.field]
  · simp [finished, FillControl.Flag.field]

theorem launches_of_accepts (here : address.toNat / 4 = e.trigger.index)
    (h : Accepts settings m (m.merge e.trigger.index w address value) accepted)
    (launched : accepted.launched? = some e) :
    ∃ call, accepted.call = some call ∧ m.Launches settings address value e call accepted.machine := by
  cases h with
  | plain | select | fillRunning | fillIdle | transferRunning | transferIdle | commandRunning
  | commandIdle => cases launched
  | @fillLaunch unit width role idle fired selected =>
    cases launched
    refine ⟨_, rfl, here, idle, ?_, rfl, ?_, ?_⟩
    · rwa [get_controlFor_eq_getLsbD (by decide)] at fired
    · rw [width?_controlFor] at selected
      exact FillJob.tells_iff.2 ⟨width, selected, rfl⟩
    · exact congrArg (m.update _ · _ _) (set_finished_controlFor m _)
  | @transferLaunch job role idle nonzero told =>
    cases launched
    exact ⟨_, rfl, here, idle, nonzero, rfl, TransferJob.tells_iff.2 told, rfl⟩
  | commandLaunch role idle fired =>
    cases launched
    rw [firesCommand, Bool.and_eq_true, CommandTrigger.trigger_eq_getLsbD] at fired
    exact ⟨_, rfl, here, idle, fired.2, rfl, ListJob.tells_iff.2 rfl, rfl⟩

theorem accepts_of_launches (coherent : m.Coherent)
    (h : m.Launches settings address value e call next) :
    Accepts settings m (m.merge e.trigger.index w address value) ⟨next, some call⟩ := by
  obtain ⟨_, idle, starts, engine, tells, rfl⟩ := h
  cases call with
  | swap => cases engine
  | fill job =>
    cases engine
    obtain ⟨width, selected, told⟩ :=
      (FillJob.tells_iff (c := ⟨m.mergedTrigger (.fill job.unit) address value⟩)).1 tells
    have fired : (m.controlFor (m.merge (Engine.fill job.unit).trigger.index w address value)).get
        .trigger = true := by
      rw [get_controlFor_eq_getLsbD (by decide)]
      exact starts
    have launch : Accepts settings m
        (m.merge (Engine.fill job.unit).trigger.index w address value) _ :=
      .fillLaunch (Role.at_trigger (.fill job.unit)) idle fired
        ((width?_controlFor ..).trans selected)
    rw [set_finished_controlFor, told] at launch
    exact launch
  | transfer job =>
    cases engine
    exact .transferLaunch (Role.at_trigger .transfer) idle starts (TransferJob.tells_iff.1 tells)
  | commandList job =>
    cases engine
    rw [← ListJob.tells_iff.1 tells]
    -- The idle engine's word shows no trigger, so the write has brought it.
    have clear : (m.file.register (.command .trigger)).getLsbD 0 = m.isBusy .commandList :=
      coherent .commandList
    have fired := fires_of_clear (clear.trans idle) starts
    exact .commandLaunch (Role.at_trigger .commandList) idle ((firesCommand_iff ..).2 fired)

theorem write_launch_iff (coherent : m.Coherent) :
    m.write settings w address value = .ok ⟨next, some call⟩ ∧ call.engine? = some e ↔
      m.Launches settings address value e call next := by
  constructor
  · rintro ⟨written, engine⟩
    obtain ⟨i, addressed, taken⟩ := accepts_of_write written
    obtain rfl : e.trigger.index = i := taken.trigger_index_of_launched engine
    obtain ⟨_, called, launches⟩ :=
      launches_of_accepts (wordIndex?_eq_ok_iff.1 addressed) taken engine
    cases called
    exact launches
  · intro launches
    exact ⟨write_of_accepts (wordIndex?_eq_ok_iff.2 launches.here)
      (accepts_of_launches coherent launches), launches.engine⟩

end Machine

namespace Session

variable {E : Type} [Conduct E]

theorem call_step_iff_launches (s : Session E) (coherent : s.machine.Coherent) (event : Event)
    {call : Call} {e : Engine} (engine : call.engine? = some e) :
    (s.step event).2.call = some call ↔
      ∃ w address value next, event = .write w address value ∧
        s.machine.Launches s.settings address value e call next := by
  rw [call_step_eq_some_iff]
  constructor
  · rintro ⟨w, address, value, next, same, written⟩
    exact ⟨w, address, value, next, same, (Machine.write_launch_iff coherent).1 ⟨written, engine⟩⟩
  · rintro ⟨w, address, value, next, same, launches⟩
    exact ⟨w, address, value, next, same, ((Machine.write_launch_iff coherent).2 launches).1⟩

/-- After any history the executor is handed the fills and the command lists that `Launches` tells,
each by the write that launches it, and no others. Such a write is accepted and leaves the machine
that is told; and a write that starts any engine launches it, so that no engine starts without its
job. -/
theorem fills_and_lists_launched (settings : Settings) (executor : E) (events : List Event) :
    let s := ((start settings executor).run events).1
    (∀ event job, (s.step event).2.call = some (.fill job) ↔
      ∃ w address value next, event = .write w address value ∧
        s.machine.Launches settings address value (.fill job.unit) (.fill job) next) ∧
    (∀ event job, (s.step event).2.call = some (.commandList job) ↔
      ∃ w address value next, event = .write w address value ∧
        s.machine.Launches settings address value .commandList (.commandList job) next) ∧
    (∀ (w : Width) (address : Address) (value : BitVec w.bits) (e : Engine) (call : Call)
      (next : Machine), s.machine.Launches settings address value e call next →
      s.machine.write settings w address value = .ok ⟨next, some call⟩) ∧
    (∀ (w : Width) (address : Address) (value : BitVec w.bits) (e : Engine) (accepted : Accepted),
      s.machine.write settings w address value = .ok accepted →
      s.machine.Starts accepted.machine e →
      ∃ call, accepted.call = some call ∧
        s.machine.Launches settings address value e call accepted.machine) := by
  intro s
  have coherent : s.machine.Coherent := coherent_run settings executor events
  have same : s.settings = settings := (start settings executor).settings_run events
  refine ⟨?_, ?_, ?_, ?_⟩
  · intro event job
    rw [s.call_step_iff_launches coherent event rfl, same]
  · intro event job
    rw [s.call_step_iff_launches coherent event rfl, same]
  · intro w address value e call next launches
    exact ((Machine.write_launch_iff coherent).2 launches).1
  · intro w address value e accepted written starts
    obtain ⟨next, call?⟩ := accepted
    obtain ⟨i, _, taken⟩ := Machine.accepts_of_write written
    obtain ⟨call, rfl, engine⟩ := (taken.exists_call_iff e).2 starts
    exact ⟨call, rfl, (Machine.write_launch_iff coherent).1 ⟨written, engine⟩⟩

theorem fills_and_lists_launched_bytes :
    let s := ((start {} Executor.holding).run
      [.write .full 0x10#32 0x100#32, .write .byte 0x1D#32 2#8]).1
    let job : FillJob := ⟨.zero, 0x800#32, 0#32, .full 0#32⟩
    (s.step (.write .byte 0x1C#32 1#8)).2.call = some (.fill job) ∧
      ∃ next, s.machine.Launches (w := .byte) {} 0x1C#32 1#8 (.fill .zero) (.fill job) next ∧
        s.machine.write {} .byte 0x1C#32 1#8 = .ok ⟨next, some (.fill job)⟩ ∧
        next.file.register (.fill .zero .control) = 0x201#32 := by
  obtain ⟨handed, _, written, _⟩ := fills_and_lists_launched {} Executor.holding
    [.write .full 0x10#32 0x100#32, .write .byte 0x1D#32 2#8]
  refine ⟨?called, ?_⟩
  · decide +kernel
  · obtain ⟨_, _, _, next, same, launches⟩ := (handed _ _).1 ?called
    cases same
    refine ⟨next, launches, written _ _ _ _ _ _ launches, ?_⟩
    rw [launches.next]
    decide +kernel

/-- After any history the executor is handed the transfers that `Launches` tells, each by the write
that launches it, and no others. A write that merges a nonzero word into the trigger word of the idle
engine launches a raw copy whatever the format codes are, and else a conversion if both codes name a
format. What it carries does not matter: two writes that would launch a transfer in one state would
launch the same. The line totals of a copy are those of its registers. -/
theorem transfers_launched (settings : Settings) (executor : E) (events : List Event) :
    let s := ((start settings executor).run events).1
    let file := s.machine.file
    let flags := file.register (.transfer .flags)
    TransferWord.all.map (fun word => (Register.transfer word).index.val) =
      [0x300, 0x301, 0x302, 0x303, 0x304, 0x306, 0x308, 0x309, 0x30A] ∧
    (∀ event job, (s.step event).2.call = some (.transfer job) ↔
      ∃ w address value next, event = .write w address value ∧
        s.machine.Launches settings address value .transfer (.transfer job) next) ∧
    (∀ (w : Width) (address : Address) (value : BitVec w.bits),
      address.toNat / 4 = (Register.transfer .trigger).index → s.machine.isBusy .transfer = false →
      mergeLane w address (file.register (.transfer .trigger)) value ≠ 0 →
      ((∃ job, (s.step (.write w address value)).2.call = some (.transfer job)) ↔
        flags.getLsbD 3 = true ∨
          (flags.extractLsb' 8 3).toNat < 5 ∧ (flags.extractLsb' 12 3).toNat < 5)) ∧
    (∀ event other job job', (s.step event).2.call = some (.transfer job) →
      (s.step other).2.call = some (.transfer job') → job = job') ∧
    (∀ event job copy, (s.step event).2.call = some (.transfer job) → job.kind = .copy copy →
      copy.input.totalBytesPerLine =
        (LineSize.mk (file.register (.transfer .inputLine))).totalBytesPerLine ∧
      copy.output.totalBytesPerLine =
        (LineSize.mk (file.register (.transfer .outputLine))).totalBytesPerLine) := by
  intro s file flags
  have coherent : s.machine.Coherent := coherent_run settings executor events
  have same : s.settings = settings := (start settings executor).settings_run events
  have handed : ∀ event job, (s.step event).2.call = some (.transfer job) ↔
      ∃ w address value next, event = .write w address value ∧
        s.machine.Launches settings address value .transfer (.transfer job) next := by
    intro event job
    rw [s.call_step_iff_launches coherent event rfl, same]
  have told {event : Event} {job : TransferJob}
      (called : (s.step event).2.call = some (.transfer job)) : job.Tells settings file := by
    obtain ⟨_, _, _, _, _, launches⟩ := (handed event job).1 called
    exact launches.tells
  refine ⟨rfl, handed, ?_, ?_, ?_⟩
  · intro w address value here idle nonzero
    refine Iff.trans ?_ (file.transferBank.exists_job?_iff settings)
    constructor
    · rintro ⟨job, called⟩
      exact ⟨job, TransferJob.tells_iff.1 (told called)⟩
    · rintro ⟨job, read⟩
      exact ⟨job, (handed _ job).2 ⟨w, address, value, _, rfl, here, idle, nonzero, rfl,
        TransferJob.tells_iff.2 read, rfl⟩⟩
  · intro event other job job' called called'
    exact (told called).unique (told called')
  · intro event job copy called copies
    have kind := (told called).kind
    rw [copies] at kind
    cases kind with
    | copy _ _ input output => exact ⟨input.total_eq, output.total_eq⟩

theorem transfers_launched_copy :
    let s := ((start {} Executor.holding).run
      [.write .full 0xC10#32 0x708#32, .write .full 0xC24#32 0x10002#32]).1
    ∃ job, (s.step (.write .byte 0xC18#32 5#8)).2.call = some (.transfer job) ∧
      (s.step (.write .full 0xC18#32 0x1234#32)).2.call = some (.transfer job) := by
  obtain ⟨_, _, launched, same, _⟩ := transfers_launched {} Executor.holding
    [.write .full 0xC10#32 0x708#32, .write .full 0xC24#32 0x10002#32]
  have byByte := launched .byte 0xC18#32 5#8 (by decide) (by decide +kernel) (by decide +kernel)
  have byWord :=
    launched .full 0xC18#32 0x1234#32 (by decide) (by decide +kernel) (by decide +kernel)
  obtain ⟨job, called⟩ := byByte.2 (.inl (by decide +kernel))
  obtain ⟨other, called'⟩ := byWord.2 (.inl (by decide +kernel))
  cases same _ _ _ _ called called'
  exact ⟨job, called, called'⟩

end Session

end GraphicsBlock

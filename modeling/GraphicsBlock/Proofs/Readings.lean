import GraphicsBlock.Proofs.Recoding
import GraphicsBlock.Proofs.Tokens
import GraphicsBlock.Replay

namespace GraphicsBlock

def FillPattern.reversed : FillPattern → FillPattern
  | .half value => .half value
  | .bytes red green blue => .bytes blue green red
  | .full value => .full value

def FillJob.reread (a b : Settings) (job : FillJob) : FillJob :=
  if b.byteOrder = a.byteOrder then job else { job with pattern := job.pattern.reversed }

def TransferKind.rescaled (scaling : Scaling) (mode : Word) : TransferKind → TransferKind
  | .convert c => .convert { c with scaledSize := scaling.apply c.outputSize mode }
  | .copy c => .copy c

def TransferJob.reread (b : Settings) (job : TransferJob) : TransferJob :=
  { job with
    flipAxis := b.flipAxis
    kind := job.kind.rescaled b.scaling (job.flags.code .scalingMode) }

/-- A call under the first settings as the second ones make it. -/
def Call.reread (a b : Settings) : Call → Call
  | .fill job => .fill (job.reread a b)
  | .transfer job => .transfer (job.reread b)
  | .commandList job => .commandList job
  | .swap unit scanout => .swap unit scanout

theorem FillValue.pattern_ne {order other : ByteOrder} (h : other ≠ order) (v : FillValue)
    (width : FillWidth) : v.pattern other width = (v.pattern order width).reversed := by
  cases width <;> cases order <;> cases other <;> first | rfl | exact absurd rfl h

theorem FillBank.job_reread (a b : Settings) (bank : FillBank) (unit : UnitId)
    (width : FillWidth) :
    bank.job b.byteOrder unit width = (bank.job a.byteOrder unit width).reread a b := by
  unfold FillJob.reread
  split
  · next same => rw [same]
  · next other => rw [job, bank.value.pattern_ne other width, job]

namespace TransferBank

theorem conversion?_rescaled (bank : TransferBank) (s t : Scaling) :
    bank.conversion? t = (bank.conversion? s).map fun c =>
      { c with scaledSize := t.apply c.outputSize (bank.flags.code .scalingMode) } := by
  unfold conversion?
  cases bank.flags.inputFormat with
  | error => rfl
  | ok => cases bank.flags.outputFormat <;> rfl

theorem kind?_rescaled (bank : TransferBank) (s t : Scaling) :
    bank.kind? t = (bank.kind? s).map (·.rescaled t (bank.flags.code .scalingMode)) := by
  unfold kind?
  split
  · rfl
  · rw [bank.conversion?_rescaled s t]
    cases bank.conversion? s <;> rfl

theorem job?_reread (a b : Settings) (bank : TransferBank) :
    bank.job? b = (bank.job? a).map (·.reread b) := by
  unfold job?
  rw [bank.kind?_rescaled a.scaling b.scaling]
  cases bank.kind? a.scaling <;> rfl

end TransferBank

theorem recodes_reread {a b : Settings} (mode : b.fillMode = a.fillMode) :
    Recodes a b (Call.reread a b) fun _ => True where
  width c _ := congrArg c.width? mode
  fill bank unit width := congrArg Call.fill (bank.job_reread a b unit width)
  transfer bank := by
    rw [bank.job?_reread a b]
    cases bank.job? a <;> rfl
  commandList _ := rfl
  swap _ _ := rfl
  engine? call := by
    cases call with
    | fill job =>
      change some (Engine.fill (job.reread a b).unit) = some (.fill job.unit)
      unfold FillJob.reread
      split <;> rfl
    | transfer | commandList | swap => rfl

theorem Keeps.takesAlike {E : Type} [Conduct E] (f : Call → Call) :
    TakesAlike f fun x y : E => Keeps x ∧ Keeps y := by
  rintro x y ⟨keeps, keeps'⟩ call held
  obtain ⟨idle, stays⟩ := keeps.receive call held
  obtain ⟨idle', stays'⟩ := keeps'.receive (f call) held
  exact ⟨idle'.trans idle.symm, stays, stays'⟩

namespace Replay

variable {a b : Settings} {f : Call → Call}

def Progress.under (p : Progress) (settings : Settings) : Progress :=
  { p with session := p.session.refit settings p.session.executor }

theorem Progress.perform_under (r : Recodes a b f fun _ => True) {p : Progress}
    (settings : p.session.settings = a) (line : Script.Line) :
    ((p.under b).perform line).progress = (p.perform line).progress.under b ∧
      ((p.under b).perform line).output = (p.perform line).output ∧
      (p.perform line).progress.session.settings = a := by
  cases instruction : line.instruction with
  | read w address =>
    simp only [perform, instruction]
    exact ⟨rfl, rfl, settings⟩
  | complete =>
    rw [perform_of_complete instruction, perform_of_complete instruction]
    refine ⟨?_, rfl, by rw [Session.completeAll_fst, settings]⟩
    rw [Session.completeAll_fst, Session.completeAll_fst]
    rfl
  | write w address value =>
    obtain ⟨_, rfl, session, result, _⟩ := r.write_session (Executor.takesAlike r.engine?)
      settings rfl w address value fun _ _ => trivial
    have kept := (p.session.settings_step (.write w address value)).trans settings
    cases written : (p.session.write w address value).2.result with
    | ok =>
      rw [perform_of_ok instruction written,
        perform_of_ok (p := p.under b) instruction (result.trans written)]
      refine ⟨?_, rfl, kept⟩
      change Progress.mk ((p.session.refit b p.session.executor).write w address value).1 .. = _
      rw [session]
      rfl
    | error fault =>
      rw [perform_of_error instruction written,
        perform_of_error (p := p.under b) instruction (result.trans written)]
      refine ⟨?_, rfl, kept⟩
      change Progress.mk ((p.session.refit b p.session.executor).write w address value).1 .. = _
      rw [session]
      rfl

theorem performLines_under (r : Recodes a b f fun _ => True) {p : Progress}
    (settings : p.session.settings = a) (sink : Sink) (lines : List Script.Line) :
    (performLines (p.under b) sink lines).result = (performLines p sink lines).result := by
  induction lines generalizing p sink with
  | nil => rfl
  | cons line lines ih =>
    obtain ⟨progress, output, kept⟩ := p.perform_under r settings line
    unfold performLines
    simp only [progress, output]
    split
    · rfl
    · exact ih kept _

end Replay

theorem replay_congr {a b : Settings} (mode : b.fillMode = a.fillMode) (deferring : Bool)
    (limit : Option Nat) (script : String) :
    (replay b deferring limit script).result = (replay a deferring limit script).result := by
  unfold replay
  split
  · rfl
  · exact Replay.performLines_under (p := .start a deferring) (recodes_reread mode) rfl _ _

namespace Session

variable {E : Type} [Conduct E]

/-- Under settings that agree on the fill mode every run takes the same course: each step gives the
same answer and leaves the same words and activities, and makes the same call, reread. An executor
must not act on what calls say beyond their engine; one that keeps its tokens never does. Replays
print the same and count the same. -/
theorem readings_stay_in_calls {a b : Settings} (mode : b.fillMode = a.fillMode)
    {alike : E → E → Prop} (conduct : TakesAlike (Call.reread a b) alike) {x y : E}
    (first : alike x y) :
    (∀ events, (start b y).stages events =
      ((start a x).stages events).map (Stage.recode (Call.reread a b))) ∧
    ∀ deferring limit script,
      (replay b deferring limit script).result = (replay a deferring limit script).result :=
  ⟨fun events => (recodes_reread mode).stages_start conduct first events fun _ _ _ _ => trivial,
    replay_congr mode⟩

theorem readings_stay_in_calls_bytes :
    let a : Settings := {}
    let b : Settings := { byteOrder := .bgr, flipAxis := .vertical, scaling := .halveOutput }
    let events : List Event := [.write .full 0x18#32 0x332211#32, .write .full 0x1C#32 0x101#32]
    b.fillMode = a.fillMode ∧
      TakesAlike (Call.reread a b) (fun x y : Executor => Keeps x ∧ Keeps y) ∧
      (start b Executor.holding).stages events =
        ((start a Executor.holding).stages events).map (Stage.recode (Call.reread a b)) ∧
      ((start b Executor.holding).stages events).map (·.call) =
        [none, some (.fill ⟨.zero, 0, 0, .bytes 0x33#8 0x22#8 0x11#8⟩)] := by
  intro a b events
  have same := (readings_stay_in_calls (a := a) (b := b) rfl (Keeps.takesAlike _)
    ⟨Executor.keeps_holding, Executor.keeps_holding⟩).1 events
  exact ⟨rfl, Keeps.takesAlike _, same, by rw [same]; decide +kernel⟩

end Session

end GraphicsBlock

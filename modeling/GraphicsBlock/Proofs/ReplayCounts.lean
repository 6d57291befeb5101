import GraphicsBlock.Proofs.Messages
import GraphicsBlock.Proofs.OutputLimit
import GraphicsBlock.Proofs.PromptCompletion
import GraphicsBlock.Proofs.Refusal
import Mathlib.Data.List.Nodup

namespace GraphicsBlock

open CommandLine (printed)

namespace Script.Instruction

def isRead : Instruction → Bool
  | .read .. => true
  | _ => false

def isWrite : Instruction → Bool
  | .write .. => true
  | _ => false

end Script.Instruction

/-- A line of a script and the session that it finds. -/
structure Visit where
  session : Session
  line : Script.Line

namespace Session

def obey (s : Session) : Script.Instruction → Session
  | .read .. => s
  | .write w address value => (s.write w address value).1
  | .complete => s.completeAll.1

def obeyAll (s : Session) : List Script.Line → Session
  | [] => s
  | line :: rest => (s.obey line.instruction).obeyAll rest

def visits (s : Session) : List Script.Line → List Visit
  | [] => []
  | line :: rest => ⟨s, line⟩ :: (s.obey line.instruction).visits rest

theorem obeyAll_append (s : Session) (lines more : List Script.Line) :
    s.obeyAll (lines ++ more) = (s.obeyAll lines).obeyAll more := by
  induction lines generalizing s with
  | nil => rfl
  | cons line lines ih => exact ih _

end Session

namespace Visit

def refusal? (v : Visit) : Option BusFault :=
  match v.line.instruction with
  | .write w address value =>
    match (v.session.write w address value).2.result with
    | .ok () => none
    | .error fault => some fault
  | _ => none

def refused (v : Visit) : Bool := v.refusal?.isSome

def output? (v : Visit) : Option String :=
  match v.line.instruction with
  | .read w address =>
    some (Replay.readLine v.line.number address (v.session.read w address).result)
  | .write _ address value => v.refusal?.map (Replay.refusalLine v.line.number address value)
  | .complete => none

variable {v : Visit} {w : Width} {address : Address} {value : BitVec w.bits}

theorem refusal?_of_ok (h : v.line.instruction = .write w address value)
    (ok : (v.session.write w address value).2.result = .ok ()) : v.refusal? = none := by
  simp only [refusal?, h, ok]

theorem refusal?_of_error {fault : BusFault} (h : v.line.instruction = .write w address value)
    (refused : (v.session.write w address value).2.result = .error fault) :
    v.refusal? = some fault := by
  simp only [refusal?, h, refused]

theorem oneLine_of_output {text : String} (h : v.output? = some text) : OneLine text := by
  unfold output? at h
  split at h
  · cases h
    exact OneLine.readLine _ _ _
  · obtain ⟨fault, _, rfl⟩ := Option.map_eq_some_iff.1 h
    exact OneLine.refusalLine _ _ _ _
  · cases h

theorem isSome_output (v : Visit) :
    (if v.output?.isSome then 1 else 0) =
      (if v.line.instruction.isRead then 1 else 0) + if v.refused then 1 else 0 := by
  unfold output? refused
  cases instruction : v.line.instruction with
  | read | complete =>
    simp only [refusal?, instruction]
    rfl
  | write => cases v.refusal? <;> rfl

end Visit

namespace Replay

theorem Progress.perform_eq (p : Progress) (line : Script.Line) :
    (p.perform line).progress =
      { session := p.session.obey line.instruction
        reads := p.reads + if line.instruction.isRead then 1 else 0
        writes := p.writes + if line.instruction.isWrite then 1 else 0
        rejected := p.rejected + if Visit.refused ⟨p.session, line⟩ then 1 else 0 } ∧
    (p.perform line).output = (Visit.output? ⟨p.session, line⟩).toList := by
  unfold Visit.refused Visit.output?
  cases instruction : line.instruction with
  | read =>
    simp only [perform, Visit.refusal?, instruction]
    exact ⟨rfl, rfl⟩
  | complete =>
    simp only [perform_of_complete instruction, Visit.refusal?, instruction]
    exact ⟨rfl, rfl⟩
  | write w address value =>
    let v : Visit := ⟨p.session, line⟩
    cases result : (p.session.write w address value).2.result with
    | ok =>
      have quiet : v.refusal? = none := Visit.refusal?_of_ok instruction result
      rw [perform_of_ok instruction result, quiet]
      exact ⟨rfl, rfl⟩
    | error fault =>
      have refusal : v.refusal? = some fault := Visit.refusal?_of_error instruction result
      rw [perform_of_error instruction result, refusal]
      exact ⟨rfl, rfl⟩

theorem Progress.after_eq (p : Progress) (lines : List Script.Line) :
    p.after lines =
      { session := p.session.obeyAll lines
        reads := p.reads + lines.countP (·.instruction.isRead)
        writes := p.writes + lines.countP (·.instruction.isWrite)
        rejected := p.rejected + (p.session.visits lines).countP Visit.refused } := by
  induction lines generalizing p with
  | nil => rfl
  | cons line lines ih =>
    rw [after, ih, (p.perform_eq line).1]
    simp only [Session.obeyAll, Session.visits, List.countP_cons]
    congr 1 <;> omega

theorem Progress.output_eq (p : Progress) (lines : List Script.Line) :
    p.output lines = (p.session.visits lines).filterMap Visit.output? := by
  induction lines generalizing p with
  | nil => rfl
  | cons line lines ih =>
    obtain ⟨progress, output⟩ := p.perform_eq line
    rw [p.output_cons, ih, progress, output, Session.visits]
    cases given : Visit.output? ⟨p.session, line⟩ with
    | none => rw [List.filterMap_cons_none given]; rfl
    | some => rw [List.filterMap_cons_some given]; rfl

end Replay

theorem Session.length_output (s : Session) (lines : List Script.Line) :
    ((s.visits lines).filterMap Visit.output?).length =
      lines.countP (·.instruction.isRead) + (s.visits lines).countP Visit.refused := by
  rw [List.length_filterMap_eq_countP]
  induction lines generalizing s with
  | nil => rfl
  | cons line lines ih =>
    have first := Visit.isSome_output ⟨s, line⟩
    simp only [visits, List.countP_cons, ih, first]
    omega

namespace Executor

theorem note_tracing (tracer : Tracer) (call : Call) :
    ∃ next : Tracer, note (.tracing tracer) call = .tracing next ∧
      next.deferring = tracer.deferring ∧
      next.launched = tracer.launched + call.tokens.length ∧
      next.launched + next.swaps = tracer.launched + tracer.swaps + 1 := by
  cases call with
  | swap => exact ⟨_, rfl, rfl, rfl, rfl⟩
  | fill | transfer | commandList => exact ⟨_, rfl, rfl, rfl, Nat.add_right_comm ..⟩

end Executor

namespace Session

/-- The books of a replay agree with its tokens, and these with the engines. -/
structure Traces (s : Session) (tracer : Tracer) : Prop where
  executor : s.executor = .tracing tracer
  reached : s.IsReachable
  backed : ∀ e, s.machine.isBusy e = true → ⟨e⟩ ∈ s.held
  launched : s.held.length ≤ tracer.launched
  prompt : tracer.deferring = false → s.held = []

variable {s : Session} {tracer : Tracer}

theorem traces_start (settings : Settings) (tracer : Tracer) :
    (start settings (.tracing tracer)).Traces tracer where
  executor := rfl
  reached := isReachable_start ..
  backed e busy := by
    have idle : Machine.start.isBusy e = false := by simp [Machine.isBusy]
    exact Bool.noConfusion (idle.symm.trans busy)
  launched := Nat.zero_le _
  prompt _ := rfl

theorem Traces.pending_eq (h : s.Traces tracer) :
    s.pending = Engine.all.countP s.machine.isBusy := by
  have backs := h.reached.backs
  have perm : s.held.Perm ((Engine.all.filter s.machine.isBusy).map Token.mk) := by
    have all : Engine.all.Nodup := by decide
    have nodup : ((Engine.all.filter s.machine.isBusy).map Token.mk).Nodup :=
      List.Nodup.map (fun _ _ => congrArg Token.engine) (all.filter _)
    refine (List.perm_ext_iff_of_nodup backs.nodup nodup).2 fun token => ?_
    simp only [List.mem_map, List.mem_filter, Engine.mem_all, true_and]
    exact ⟨fun mem => ⟨token.engine, backs.busy token mem, rfl⟩,
      fun ⟨e, busy, same⟩ => same ▸ h.backed e busy⟩
  rw [pending, perm.length_eq, List.length_map, List.countP_eq_length_filter]

theorem told_eq (h : s.executor = .tracing tracer) (accepted : Accepted) :
    ∃ next : Tracer, s.told accepted.call = .tracing next ∧ next.deferring = tracer.deferring ∧
      next.launched = tracer.launched + accepted.tokens.length ∧
      next.launched + next.swaps ≤ tracer.launched + tracer.swaps + 1 := by
  obtain ⟨machine, _ | call⟩ := accepted
  · exact ⟨tracer, h, rfl, rfl, Nat.le_succ _⟩
  · obtain ⟨next, note, deferring, launched, calls⟩ := Executor.note_tracing tracer call
    refine ⟨next, ?_, deferring, launched, calls.le⟩
    change s.executor.note call = _
    rw [h, note]

theorem Traces.settle_eq (h : s.Traces tracer) (accepted : Accepted) :
    (tracer.deferring = true ∧ (s.settle accepted).machine = accepted.machine ∧
      (s.settle accepted).held = s.held ++ accepted.tokens) ∨
    (tracer.deferring = false ∧ s.held = [] ∧ (s.settle accepted).machine = accepted.done ∧
      (s.settle accepted).held = []) := by
  cases deferring : tracer.deferring with
  | true =>
    have keeps : Keeps s.executor := by
      rw [h.executor]
      exact Executor.keeps (by rw [Executor.finishesAtOnce, deferring]; rfl)
    exact .inl ⟨rfl, settle_of_keeps keeps accepted⟩
  | false =>
    have spends : Spends s.executor := by
      rw [h.executor]
      exact Executor.spends (by rw [Executor.finishesAtOnce, deferring]; rfl)
    have held := h.prompt deferring
    obtain ⟨machine, prompt⟩ := Prompt.settle ⟨spends, held⟩ accepted
    exact .inr ⟨rfl, held, machine, prompt.held⟩

theorem mem_tokens_of_accepts {settings : Settings} {m : Machine} {store : Store}
    {accepted : Accepted} (h : m.Accepts settings store accepted) {held : List Token}
    (backed : ∀ e, m.isBusy e = true → ⟨e⟩ ∈ held) {e : Engine}
    (busy : accepted.machine.isBusy e = true) : ⟨e⟩ ∈ held ++ accepted.tokens := by
  rw [List.mem_append]
  rcases h.quiet_or_launch with ⟨same, _⟩ | ⟨f, work, _, _, activities⟩
  · rw [Machine.isBusy, Machine.activity, same] at busy
    exact .inl (backed e busy)
  · rw [Machine.isBusy_of_set activities] at busy
    split at busy
    · next same =>
      rw [Accepted.tokens, work, same]
      exact .inr List.mem_cons_self
    · exact .inl (backed e busy)

theorem Traces.allIdle (h : s.Traces tracer) (empty : s.held = []) : s.machine.AllIdle := by
  intro e
  apply Machine.activity_of_isBusy_eq_false
  cases busy : s.machine.isBusy e with
  | false => rfl
  | true => exact absurd (empty ▸ h.backed e busy) List.not_mem_nil

theorem Traces.settle (h : s.Traces tracer) {w : Width} {address : Address}
    {value : BitVec w.bits} {accepted : Accepted}
    (written : s.machine.write s.settings w address value = .ok accepted) :
    ∃ next, (s.settle accepted).Traces next ∧ next.deferring = tracer.deferring ∧
      next.launched + next.swaps ≤ tracer.launched + tracer.swaps + 1 := by
  obtain ⟨next, told, deferring, launched, calls⟩ := told_eq h.executor accepted
  obtain ⟨i, _, taken⟩ := Machine.accepts_of_write written
  have executor := (s.executor_settle accepted).trans told
  have reached : (s.settle accepted).IsReachable := isReachable_settle (.write h.reached written)
  refine ⟨next, ?_, deferring, calls⟩
  rcases h.settle_eq accepted with ⟨defers, machine, held⟩ | ⟨_, empty, machine, held⟩
  · refine ⟨executor, reached, fun e busy => ?_, ?_, fun prompt => ?_⟩
    · rw [machine] at busy
      rw [held]
      exact mem_tokens_of_accepts taken h.backed busy
    · rw [held, List.length_append, launched]
      exact Nat.add_le_add_right h.launched _
    · exact Bool.noConfusion ((deferring.trans defers).symm.trans prompt)
  -- The write's own operation has ended within it, so that no engine needs a token.
  · refine ⟨executor, reached, fun e busy => ?_, ?_, fun _ => held⟩
    · rw [machine, Machine.isBusy, taken.allIdle_done (h.allIdle empty) e] at busy
      cases busy
    · rw [held]
      exact Nat.zero_le _

theorem busy_of_foldl_finish {m : Machine} {held : List Token} {e : Engine}
    (h : (held.foldl (fun m token => m.finish token.engine) m).isBusy e = true) :
    m.isBusy e = true ∧ ⟨e⟩ ∉ held := by
  induction held generalizing m with
  | nil => exact ⟨h, List.not_mem_nil⟩
  | cons token held ih =>
    obtain ⟨busy, rest⟩ := ih h
    rw [Machine.isBusy_finish] at busy
    split at busy
    · cases busy
    · next other =>
      refine ⟨busy, fun mem => ?_⟩
      rcases List.mem_cons.1 mem with rfl | mem
      · exact other rfl
      · exact rest mem

theorem Traces.completeAll (h : s.Traces tracer) : s.completeAll.1.Traces tracer := by
  have reached : s.completeAll.1.IsReachable := isReachable_run h.reached _
  rw [completeAll_fst] at reached ⊢
  refine ⟨h.executor, reached, fun e busy => ?_, Nat.zero_le _, fun _ => rfl⟩
  obtain ⟨before, spent⟩ := busy_of_foldl_finish busy
  exact absurd (h.backed e before) spent

theorem Traces.obey (h : s.Traces tracer) (line : Script.Line) :
    ∃ next, (s.obey line.instruction).Traces next ∧ next.deferring = tracer.deferring ∧
      next.launched + next.swaps + (if Visit.refused ⟨s, line⟩ then 1 else 0) ≤
        tracer.launched + tracer.swaps + if line.instruction.isWrite then 1 else 0 := by
  cases instruction : line.instruction with
  | read =>
    refine ⟨tracer, h, rfl, ?_⟩
    simp only [Visit.refused, Visit.refusal?, instruction]
    exact Nat.le_refl _
  | complete =>
    refine ⟨tracer, h.completeAll, rfl, ?_⟩
    simp only [Visit.refused, Visit.refusal?, instruction]
    exact Nat.le_refl _
  | write w address value =>
    let v : Visit := ⟨s, line⟩
    cases written : s.machine.write s.settings w address value with
    | error fault =>
      obtain ⟨unchanged, refused, _⟩ := write_of_error written
      have refusal : v.refusal? = some fault := Visit.refusal?_of_error instruction refused
      rw [Visit.refused, refusal, Session.obey, unchanged]
      exact ⟨tracer, h, rfl, Nat.le_refl _⟩
    | ok accepted =>
      obtain ⟨settled, ok, _⟩ := write_of_ok written
      have quiet : v.refusal? = none := Visit.refusal?_of_ok instruction ok
      rw [Visit.refused, quiet, Session.obey, settled]
      exact h.settle written

theorem Traces.obeyAll (h : s.Traces tracer) (lines : List Script.Line) :
    ∃ next, (s.obeyAll lines).Traces next ∧ next.deferring = tracer.deferring ∧
      next.launched + next.swaps + (s.visits lines).countP Visit.refused ≤
        tracer.launched + tracer.swaps + lines.countP (·.instruction.isWrite) := by
  induction lines generalizing s tracer with
  | nil => exact ⟨tracer, h, rfl, Nat.le_refl _⟩
  | cons line lines ih =>
    obtain ⟨middle, traces, deferring, first⟩ := h.obey line
    obtain ⟨last, ends, same, rest⟩ := ih traces
    refine ⟨last, ends, same.trans deferring, ?_⟩
    rw [visits, List.countP_cons, List.countP_cons]
    omega

theorem held_obeyAll (empty : s.held = []) {lines : List Script.Line}
    (quiet : ∀ line ∈ lines, line.instruction.isWrite = false) : (s.obeyAll lines).held = [] := by
  induction lines generalizing s with
  | nil => exact empty
  | cons line lines ih =>
    obtain ⟨first, rest⟩ := List.forall_mem_cons.1 quiet
    apply ih _ rest
    cases instruction : line.instruction with
    | read => exact empty
    | complete => rw [Session.obey, completeAll_fst]
    | write =>
      rw [instruction] at first
      cases first

end Session

open Replay in
/-- The counts of a replay, for every script that parses. Reads and writes are those of the script,
the refused writes are those that the sessions on the way refuse, and launches and swaps together
are no more than the others. A token is left for each engine that runs at the end, and none is left
if completion is not deferred or if nothing is written after the engines were told to complete. The
output has one line for each read and each refused write, in order. -/
theorem replay_accounts (settings : Settings) (deferring : Bool) {script : String}
    {lines : List Script.Line} (parses : Script.parse script = .ok lines) :
    let start := Session.start settings (Executor.tracing { deferring })
    let visits := start.visits lines
    let outputs := visits.filterMap Visit.output?
    ∃ summary, (replay settings deferring none script).result = .ok ⟨printed outputs, summary⟩ ∧
      summary.reads = lines.countP (·.instruction.isRead) ∧
      summary.writes = lines.countP (·.instruction.isWrite) ∧
      summary.rejected = visits.countP Visit.refused ∧ summary.rejected ≤ summary.writes ∧
      summary.launched + summary.swaps ≤ summary.writes - summary.rejected ∧
      summary.pending = Engine.all.countP (start.obeyAll lines).machine.isBusy ∧
      summary.pending ≤ 4 ∧ summary.pending ≤ summary.launched ∧
      (deferring = false → summary.pending = 0) ∧
      (∀ earlier number later, lines = earlier ++ ⟨number, .complete⟩ :: later →
        (∀ line ∈ later, line.instruction.isWrite = false) → summary.pending = 0) ∧
      outputs.length = summary.reads + summary.rejected ∧ ∀ output ∈ outputs, OneLine output := by
  intro start visits outputs
  obtain ⟨tracer, traces, same, calls⟩ :=
    (Session.traces_start settings { deferring }).obeyAll lines
  have balance : tracer.launched + tracer.swaps + visits.countP Visit.refused ≤
      lines.countP (·.instruction.isWrite) := by
    simpa using calls
  have engines : Engine.all.countP (start.obeyAll lines).machine.isBusy ≤ 4 := List.countP_le_length
  let summary : Summary :=
    { reads := lines.countP (·.instruction.isRead)
      writes := lines.countP (·.instruction.isWrite)
      rejected := visits.countP Visit.refused
      launched := tracer.launched
      swaps := tracer.swaps
      pending := (start.obeyAll lines).pending }
  refine ⟨summary, ?_, rfl, rfl, rfl, ?_, ?_, traces.pending_eq, ?_, traces.launched, ?_, ?_,
    start.length_output lines, ?_⟩
  · rw [replay_unlimited parses, Progress.output_eq, Progress.after_eq]
    simp only [Progress.summary, Progress.start, Nat.zero_add, traces.executor]
    rfl
  · exact Nat.le_trans (Nat.le_add_left _ _) balance
  · exact Nat.le_sub_of_add_le balance
  · exact traces.pending_eq.trans_le engines
  · intro prompt
    exact List.length_eq_zero_iff.2 (traces.prompt (same.trans prompt))
  · rintro earlier number later rfl quiet
    refine List.length_eq_zero_iff.2 ?_
    rw [Session.obeyAll_append]
    exact Session.held_obeyAll (congrArg Session.held (Session.completeAll_fst _)) quiet
  · intro output mem
    obtain ⟨visit, _, given⟩ := List.mem_filterMap.1 mem
    exact Visit.oneLine_of_output given

theorem replay_accounts_deferred :
    let script := "w32 0x1c 0x201\nw32 0x478 1\nw8 0x1c 1\nr32 0x1c\nr8 0x4000"
    let lines : List Script.Line :=
      [⟨1, .write .full 0x1C#32 0x201#32⟩, ⟨2, .write .full 0x478#32 1#32⟩,
        ⟨3, .write .byte 0x1C#32 1#8⟩, ⟨4, .read .full 0x1C#32⟩, ⟨5, .read .byte 0x4000#32⟩]
    Script.parse script = .ok lines ∧
      ∃ report, (replay {} true none script).result = .ok report ∧
        report.summary.reads = 2 ∧ report.summary.writes = 3 ∧ report.summary.rejected = 1 ∧
        report.summary.launched + report.summary.swaps ≤ 2 ∧ report.summary.pending = 1 := by
  intro script lines
  have parses : Script.parse script = .ok lines := by decide +kernel
  obtain ⟨summary, result, reads, writes, rejected, _, calls, pending, _⟩ :=
    replay_accounts {} true parses
  have two : summary.reads = 2 := reads.trans (by decide)
  have three : summary.writes = 3 := writes.trans (by decide)
  have one : summary.rejected = 1 := rejected.trans (by decide +kernel)
  refine ⟨parses, _, result, two, three, one, ?_, pending.trans (by decide +kernel)⟩
  rwa [three, one] at calls

end GraphicsBlock

import GraphicsBlock.Proofs.OutputLimit
import Mathlib.Data.List.Forall2

/-!
What quiet does. It takes the log and the summary off the error stream of a replay and touches
nothing else. `FileFault.Due` tells from the content of a trace file alone which fault is reported;
a file for which none is due is replayed to its end, whatever the block refuses on the way.
-/

namespace GraphicsBlock

def severeMessages (records : List Record) : List String :=
  (records.filter fun r => r.level ∈ [Level.error, .warn, .info]).map Record.message

theorem forall₂_mapIdx_map {R : β → γ → Prop} {f : Nat → α → β} {g : α → γ}
    (h : ∀ i a, R (f i a) (g a)) (l : List α) : List.Forall₂ R (l.mapIdx f) (l.map g) := by
  induction l generalizing f with
  | nil => exact .nil
  | cons a l ih =>
    rw [List.mapIdx_cons, List.map_cons]
    exact .cons (h 0 a) (ih fun i => h (i + 1))

namespace CommandLine.Printer

/-- What is known of printing: a level admits its own records and the more severe ones, unless the
environment gives directives of its own; a line of the log is the text of its record behind a stamp;
and the report of a fault shows the texts of the chain, except that it indents those of several
lines. -/
structure Documented (p : Printer) : Prop where
  admits_iff (limit : Level) (r : Record) : p.admits limit r = true ↔ r.level.rank ≤ limit.rank
  line_ends (position : Nat) (r : Record) : r.message.toList <:+ (p.line position r).toList
  report_shows {chain : List String} {text : String} : text ∈ chain → '\n' ∉ text.toList →
    text.toList <:+: (p.report chain).toList

theorem Documented.log_shows {p : Printer} (documented : p.Documented) (records : List Record) :
    List.Forall₂ (fun line message : String => message.toList <:+ line.toList)
      (p.log .info records) (severeMessages records) := by
  have admitted : ∀ r : Record,
      p.admits .info r = decide (r.level ∈ [Level.error, .warn, .info]) := by
    intro r
    rw [Bool.eq_iff_iff, documented.admits_iff]
    cases r.level <;> decide
  rw [log, severeMessages, List.filter_congr fun r _ => admitted r]
  exact forall₂_mapIdx_map documented.line_ends _

theorem infix_intercalate {text : String} {lines : List String} (mem : text ∈ lines)
    (between : List Char) :
    text.toList <:+: between.intercalate (lines.map String.toList) := by
  induction lines with
  | nil => cases mem
  | cons line lines ih =>
    cases lines with
    | nil =>
      rw [List.mem_singleton.1 mem]
      exact ⟨[], [], by simp⟩
    | cons next lines =>
      rw [List.map_cons, List.map_cons, List.intercalate_cons_cons, List.append_assoc]
      rcases List.mem_cons.1 mem with rfl | later
      · exact (List.prefix_append ..).isInfix
      · exact (ih later).trans ((List.suffix_append ..).trans (List.suffix_append ..)).isInfix

theorem exists_causeLine {text : String} {causes : List String} (mem : text ∈ causes) :
    ∃ line ∈ causeLines causes, text.toList <:+ line.toList := by
  match causes with
  | [] => cases mem
  | [cause] =>
    rw [List.mem_singleton.1 mem]
    refine ⟨"    " ++ cause, by simp [causeLines], ?_⟩
    rw [String.toList_append]
    exact List.suffix_append ..
  | first :: second :: rest =>
    obtain ⟨i, bound, rfl⟩ := List.mem_iff_getElem.1 mem
    refine ⟨_, List.mem_append_right _ (List.mem_mapIdx.2 ⟨i, bound, rfl⟩), ?_⟩
    rw [String.toList_append]
    exact List.suffix_append ..

theorem bare_documented : bare.Documented where
  admits_iff limit r := decide_eq_true_iff
  line_ends _ _ := List.suffix_refl _
  report_shows {chain text} mem _ := by
    rw [bare, String.toList_intercalate]
    cases chain with
    | nil => cases mem
    | cons fault causes =>
      rcases List.mem_cons.1 mem with rfl | later
      · exact infix_intercalate List.mem_cons_self _
      · obtain ⟨line, cause, ends⟩ := exists_causeLine later
        exact ends.isInfix.trans (infix_intercalate (List.mem_cons_of_mem _ cause) _)

end CommandLine.Printer

/-- The content of a trace file is text, and each of its lines can be read. -/
def Replayable (content : Except ReadFault String) : Prop :=
  ∃ script, content = .ok script ∧ ∀ text ∈ Text.lines script.toList, Script.Parses text

namespace CommandLine

/-- The fault that is to be reported for the content of a trace file: that it is no text, or its
first bad line. -/
inductive FileFault.Due (content : Except ReadFault String) (path : String) : FileFault → Prop
  | unreadable {fault} : content = .error fault → Due content path (.unreadable path fault)
  | failed {script good bad rest cause} : content = .ok script →
      Text.lines script.toList = good ++ bad :: rest → (∀ text ∈ good, Script.Parses text) →
      Script.parseLine bad = .error cause →
      Due content path
        (.failed path (.script ⟨good.length + 1, String.ofList (Text.trim bad), cause⟩))

variable {content : Except ReadFault String} {path : String} {settings : Settings}
  {deferring : Bool}

theorem FileFault.Due.not_replayable {fault : FileFault} (due : fault.Due content path) :
    ¬Replayable content := by
  rintro ⟨script, reads, all⟩
  cases due with
  | unreadable unread => cases unread.symm.trans reads
  | failed again split _ bad =>
    cases again.symm.trans reads
    obtain ⟨_, parses⟩ := all _ (split ▸ List.mem_append_right _ List.mem_cons_self)
    cases bad.symm.trans parses

theorem replayFile_cases (content : Except ReadFault String) (path : String) (settings : Settings)
    (deferring : Bool) :
    (∃ fault : FileFault, fault.Due content path ∧
      replayFile content path settings deferring none = ⟨.error fault, []⟩) ∨
    ∃ script report, content = .ok script ∧ Replayable content ∧
      (replay settings deferring none script).result = .ok report ∧
      replayFile content path settings deferring none =
        ⟨.ok report, (replay settings deferring none script).records⟩ := by
  cases content with
  | error fault => exact .inl ⟨_, .unreadable rfl, rfl⟩
  | ok script =>
    cases parsed : Script.parse script with
    | error fault =>
      obtain ⟨good, bad, rest, split, parse, fails, first⟩ := Script.exists_first_of_error parsed
      rw [Nat.add_comm] at first
      refine .inl ⟨_, .failed rfl split parse fails, ?_⟩
      rw [← first]
      simp only [replayFile, replay, parsed]
      rfl
    | ok lines =>
      have all := Script.parseLines_ok_iff.1 ⟨lines, parsed⟩
      refine .inr ⟨script, _, rfl, ⟨script, rfl, all⟩,
        congrArg Replay.Run.result (replay_unlimited parsed), ?_⟩
      simp only [replayFile, replay_unlimited parsed]

variable {p : Printer} {read : String → Except ReadFault String} {quiet : Bool}

theorem perform_of_due {fault : FileFault}
    (run : replayFile (read path) path settings deferring none = ⟨.error fault, []⟩) :
    perform p read quiet (.replay path settings deferring) =
      { code := 1, errors := ["Error: " ++ p.report fault.chain] } := by
  cases quiet <;> simp [perform, run, Printer.log]

theorem perform_of_replayed {report : Replay.Report} {records : List Record}
    (run : replayFile (read path) path settings deferring none = ⟨.ok report, records⟩) :
    perform p read quiet (.replay path settings deferring) =
      { code := 0
        output := report.output
        errors := if quiet then [] else
          p.log .info records ++ [s!"Replayed {path}: {report.summary.text}"] } := by
  cases quiet <;> simp [perform, run]

theorem shown_of_report (documented : p.Documented) {chain : List String} {text : String}
    (mem : text ∈ chain) (line : '\n' ∉ text.toList) :
    text.toList <:+: (printed ["Error: " ++ p.report chain]).toList := by
  have message : printed ["Error: " ++ p.report chain] = "Error: " ++ p.report chain ++ "\n" := by
    simp [printed, String.join]
  rw [message, String.toList_append, String.toList_append]
  exact (documented.report_shows mem line).trans (List.infix_append ..)

end CommandLine

theorem Files.read_eq_ok_iff (files : Files) {path script : String} :
    files.read path = .ok script ↔
      ∃ content, files.resolve path = .ok (.file content) ∧
        String.fromUTF8? content = some script := by
  have text (place : Place) : place.text = .ok script ↔
      ∃ content, place = .file content ∧ String.fromUTF8? content = some script := by
    cases place with
    | here | elsewhere => simp [Place.text]
    | file content => cases decoded : String.fromUTF8? content <;> simp [Place.text, decoded]
  change (files.resolve path).bind Place.text = .ok script ↔ _
  cases files.resolve path with
  | error fault => simp [Except.bind]
  | ok place => simp [Except.bind, text]

open CommandLine in
/-- Quiet changes neither the exit code nor the output of a command. A replay exits with zero if its
trace is text of which each line can be read, whatever the block refuses. Its error stream is then
empty when quiet, and otherwise the log from the informations upwards, line by line, with the summary
as the last line. In every other case it exits with one and reports the chain of the fault that is
due and nothing else, quiet or not: nothing has been performed that could have been logged before. -/
theorem quiet_silences {p : Printer} (documented : p.Documented)
    (read : String → Except ReadFault String) :
    let run := fun quiet command => respond p read (.perform quiet command)
    (∀ command, (run true command).code = (run false command).code ∧
      (run true command).output = (run false command).output) ∧
    (∀ path settings deferring,
      let quiet := run true (.replay path settings deferring)
      let loud := run false (.replay path settings deferring)
      (quiet.code = 0 ↔ Replayable (read path)) ∧
      (quiet.code = 0 → quiet.errorText = "" ∧ ∃ script report log, read path = .ok script ∧
        (replay settings deferring none script).result = .ok report ∧
        quiet.output = report.output ∧
        loud.errors = log ++ [s!"Replayed {path}: {report.summary.text}"] ∧
        List.Forall₂ (fun line message : String => message.toList <:+ line.toList) log
          (severeMessages (replay settings deferring none script).records)) ∧
      (quiet.code ≠ 0 → quiet.code = 1 ∧ ∃ fault : FileFault, fault.Due (read path) path ∧
        quiet.errors = ["Error: " ++ p.report fault.chain] ∧ loud.errors = quiet.errors ∧
        (∀ text ∈ fault.chain, '\n' ∉ text.toList →
          text.toList <:+: quiet.errorText.toList) ∧
        (replayFile (read path) path settings deferring none).records = [])) ∧
    ∀ (files : Files) (path script : String), files.read path = .ok script ↔
      ∃ content, files.resolve path = .ok (.file content) ∧
        String.fromUTF8? content = some script := by
  refine ⟨?_, ?_, fun files _ _ => files.read_eq_ok_iff⟩
  · rintro (_ | ⟨path, settings, deferring⟩)
    · exact ⟨rfl, rfl⟩
    · simp only [respond]
      rcases replayFile_cases (read path) path settings deferring with
        ⟨fault, _, run⟩ | ⟨script, report, _, _, _, run⟩
      · rw [perform_of_due run, perform_of_due run]
        exact ⟨rfl, rfl⟩
      · rw [perform_of_replayed run, perform_of_replayed run]
        exact ⟨rfl, rfl⟩
  · intro path settings deferring
    simp only [respond]
    rcases replayFile_cases (read path) path settings deferring with
      ⟨fault, due, run⟩ | ⟨script, report, reads, replayable, result, run⟩
    · rw [perform_of_due run, perform_of_due run, run]
      refine ⟨⟨by simp, fun replayable => absurd replayable due.not_replayable⟩, by simp, ?_⟩
      exact fun _ => ⟨rfl, fault, due, rfl, rfl, fun _ => shown_of_report documented, rfl⟩
    · rw [perform_of_replayed run, perform_of_replayed run]
      refine ⟨⟨fun _ => replayable, fun _ => rfl⟩, fun _ => ?_, fun failed => absurd rfl failed⟩
      exact ⟨rfl, script, report, _, reads, result, rfl, rfl, documented.log_shows _⟩

open CommandLine in
theorem quiet_silences_bare :
    Printer.bare.Documented ∧
      let read : String → Except ReadFault String := fun path =>
        if path = "fill" then .ok "w32 0x1c 0x201" else .error .missing
      let run := fun path => respond .bare read (.perform true (.replay path {} false))
      (run "fill").errorText = "" ∧ (run "none").code = 1 := by
  have silenced := quiet_silences Printer.bare_documented fun path =>
    if path = "fill" then .ok "w32 0x1c 0x201" else .error .missing
  obtain ⟨_, replays, _⟩ := silenced
  exact ⟨Printer.bare_documented, ((replays "fill" {} false).2.1 (by decide +kernel)).1,
    ((replays "none" {} false).2.2 (by decide +kernel)).1⟩

end GraphicsBlock

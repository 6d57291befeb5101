import GraphicsBlock.CommandLine.Run
import Mathlib.Data.List.Infix

namespace GraphicsBlock

open CommandLine (printed)

@[simp] theorem CommandLine.printed_nil : printed [] = "" := rfl

theorem CommandLine.printed_cons (line : String) (lines : List String) :
    printed (line :: lines) = line ++ "\n" ++ printed lines := by
  simp [printed, String.join_cons]

theorem CommandLine.printed_append (lines more : List String) :
    printed (lines ++ more) = printed lines ++ printed more := by
  simp [printed, String.join_append]

namespace Sink

@[simp] theorem admits_unlimited (text : String) (size : Nat) :
    admits ⟨none, text⟩ size = true := rfl

theorem admits_limited (limit : Nat) (text : String) (size : Nat) :
    admits ⟨some limit, text⟩ size = true ↔ size ≤ limit := by
  simp [admits]

theorem admits_of_append {s : Sink} {text more : String}
    (h : s.admits (text ++ more).utf8ByteSize = true) : s.admits text.utf8ByteSize = true := by
  rw [String.utf8ByteSize_append] at h
  rcases s with ⟨_ | limit, _⟩
  · rfl
  · rw [admits_limited] at h ⊢
    omega

theorem putLines_eq {s : Sink} (admitted : s.admits s.text.utf8ByteSize = true)
    (lines : List String) :
    s.putLines lines =
      if s.admits (s.text ++ printed lines).utf8ByteSize then
        some { s with text := s.text ++ printed lines }
      else none := by
  induction lines generalizing s with
  | nil => simp [putLines, admitted]
  | cons line lines ih =>
    rw [CommandLine.printed_cons, ← String.append_assoc, putLines, putLine, put]
    by_cases fits : s.admits (s.text ++ (line ++ "\n")).utf8ByteSize = true
    · rw [if_pos fits]
      exact ih fits
    · rw [if_neg fits, if_neg (fits ∘ admits_of_append)]
      rfl

end Sink

namespace Script

def Parses (text : List Char) : Prop := ∃ content, parseLine text = .ok content

theorem parseLines_ok_iff {number : Nat} {texts : List (List Char)} :
    (∃ lines, parseLines number texts = .ok lines) ↔ ∀ text ∈ texts, Parses text := by
  induction texts generalizing number with
  | nil => simp [parseLines]
  | cons text texts ih =>
    rw [List.forall_mem_cons, ← @ih (number + 1), Parses]
    cases reads : parseLine text with
    | error cause => simp [parseLines_cons_of_error reads]
    | ok content =>
      rw [parseLines_cons_of_ok reads]
      cases parseLines (number + 1) texts <;> simp [Except.map]

theorem exists_first_of_error {number : Nat} {texts : List (List Char)} {fault : LineFault}
    (h : parseLines number texts = .error fault) :
    ∃ good bad rest, texts = good ++ bad :: rest ∧ (∀ text ∈ good, Parses text) ∧
      parseLine bad = .error fault.cause ∧
      fault = ⟨number + good.length, String.ofList (Text.trim bad), fault.cause⟩ := by
  induction texts generalizing number with
  | nil => cases h
  | cons text texts ih =>
    cases reads : parseLine text with
    | error cause =>
      cases (parseLines_cons_of_error reads number texts).symm.trans h
      exact ⟨[], text, texts, rfl, List.forall_mem_nil _, reads, rfl⟩
    | ok content =>
      rw [parseLines_cons_of_ok reads] at h
      have later : parseLines (number + 1) texts = .error fault := by
        cases rest : parseLines (number + 1) texts <;> simp [rest, Except.map] at h
        rw [h]
      obtain ⟨good, bad, rest, rfl, parse, fails, first⟩ := ih later
      refine ⟨text :: good, bad, rest, rfl, List.forall_mem_cons.2 ⟨⟨content, reads⟩, parse⟩, fails,
        first.trans ?_⟩
      rw [List.length_cons, Nat.add_assoc, Nat.add_comm 1]

end Script

namespace Replay

namespace Progress

def effects (p : Progress) : List Script.Line → List Effect
  | [] => []
  | line :: rest => p.perform line :: (p.perform line).progress.effects rest

def after (p : Progress) : List Script.Line → Progress
  | [] => p
  | line :: rest => (p.perform line).progress.after rest

def output (p : Progress) (lines : List Script.Line) : List String :=
  (p.effects lines).flatMap (·.output)

@[simp] theorem output_nil (p : Progress) : p.output [] = [] := rfl

theorem output_cons (p : Progress) (line : Script.Line) (rest : List Script.Line) :
    p.output (line :: rest) = (p.perform line).output ++ (p.perform line).progress.output rest :=
  List.flatMap_cons

end Progress

variable {p : Progress} {sink : Sink}

theorem performLines_of_fits {lines : List Script.Line}
    (fits : sink.admits (sink.text ++ printed (p.output lines)).utf8ByteSize = true) :
    performLines p sink lines =
      ⟨.ok ⟨sink.text ++ printed (p.output lines), (p.after lines).summary⟩, p.effects lines⟩ := by
  induction lines generalizing p sink with
  | nil =>
    rw [p.output_nil, CommandLine.printed_nil, String.append_empty]
    rfl
  | cons line rest ih =>
    rw [p.output_cons, CommandLine.printed_append, ← String.append_assoc] at fits ⊢
    have first := Sink.admits_of_append fits
    have later := @ih _ { sink with text := sink.text ++ printed (p.perform line).output } fits
    rw [performLines, Sink.putLines_eq (Sink.admits_of_append first), if_pos first]
    simp only [later]
    rfl

theorem performLines_of_overflow {lines : List Script.Line}
    (admitted : sink.admits sink.text.utf8ByteSize = true)
    (overflow : ¬ sink.admits (sink.text ++ printed (p.output lines)).utf8ByteSize = true) :
    (performLines p sink lines).result = .error .outputFull ∧
      (performLines p sink lines).effects <+: p.effects lines := by
  induction lines generalizing p sink with
  | nil =>
    rw [p.output_nil, CommandLine.printed_nil, String.append_empty] at overflow
    exact absurd admitted overflow
  | cons line rest ih =>
    rw [p.output_cons, CommandLine.printed_append, ← String.append_assoc] at overflow
    rw [performLines, Sink.putLines_eq admitted]
    by_cases first : sink.admits (sink.text ++ printed (p.perform line).output).utf8ByteSize = true
    · rw [if_pos first]
      obtain ⟨result, effects⟩ :=
        @ih _ { sink with text := sink.text ++ printed (p.perform line).output } first overflow
      exact ⟨result, List.cons_prefix_cons.2 ⟨rfl, effects⟩⟩
    -- The line that does not fit has been performed all the same.
    · rw [if_neg first]
      exact ⟨rfl, List.cons_prefix_cons.2 ⟨rfl, List.nil_prefix⟩⟩

end Replay

section

open Replay

variable {settings : Settings} {deferring : Bool} {script : String} {lines : List Script.Line}

theorem replay_of_parse (parses : Script.parse script = .ok lines) (limit : Option Nat) :
    replay settings deferring limit script =
      performLines (.start settings deferring) { limit } lines := by
  rw [replay, parses]

theorem replay_unlimited (parses : Script.parse script = .ok lines) :
    replay settings deferring none script =
      ⟨.ok ⟨printed ((Progress.start settings deferring).output lines),
        ((Progress.start settings deferring).after lines).summary⟩,
        (Progress.start settings deferring).effects lines⟩ := by
  rw [replay_of_parse parses, performLines_of_fits (Sink.admits_unlimited _ _), String.empty_append]

end

open Replay in
/-- A bad line anywhere keeps a script from being begun. When there is none, only the limit can stop
the replay, and the line at which it does may have been performed already. -/
theorem replay_fails_cleanly (settings : Settings) (deferring : Bool) (script : String) :
    ((∃ text ∈ Text.lines script.toList, ∃ cause, Script.parseLine text = .error cause) →
      ∃ good bad rest cause, Text.lines script.toList = good ++ bad :: rest ∧
        (∀ text ∈ good, Script.Parses text) ∧ Script.parseLine bad = .error cause ∧
        ∀ limit, replay settings deferring limit script =
          ⟨.error (.script ⟨good.length + 1, String.ofList (Text.trim bad), cause⟩), []⟩) ∧
    ((∀ text ∈ Text.lines script.toList, Script.Parses text) →
      ∃ report, (replay settings deferring none script).result = .ok report ∧
        ∀ limit : Nat,
          (report.output.utf8ByteSize ≤ limit →
            replay settings deferring (some limit) script =
              replay settings deferring none script) ∧
          (limit < report.output.utf8ByteSize →
            (replay settings deferring (some limit) script).result = .error .outputFull ∧
            (replay settings deferring (some limit) script).records <+:
              (replay settings deferring none script).records)) := by
  cases parsed : Script.parse script with
  | error fault =>
    obtain ⟨good, bad, rest, split, parse, fails, first⟩ := Script.exists_first_of_error parsed
    rw [Nat.add_comm] at first
    constructor
    · intro _
      refine ⟨good, bad, rest, fault.cause, split, parse, fails, fun limit => ?_⟩
      rw [replay, parsed, ← first]
    · intro all
      obtain ⟨lines, ok⟩ := Script.parseLines_ok_iff.2 all
      exact nomatch parsed.symm.trans ok
  | ok lines =>
    have all := Script.parseLines_ok_iff.1 ⟨lines, parsed⟩
    constructor
    · rintro ⟨text, mem, cause, fails⟩
      obtain ⟨content, reads⟩ := all text mem
      exact nomatch fails.symm.trans reads
    · intro _
      rw [replay_unlimited parsed]
      refine ⟨_, rfl, fun limit => ?_⟩
      rw [replay_of_parse parsed]
      constructor
      · intro fits
        rw [performLines_of_fits, String.empty_append]
        rwa [String.empty_append, Sink.admits_limited]
      · intro exceeds
        have admitted : Sink.admits ⟨some limit, ""⟩ 0 = true :=
          (Sink.admits_limited ..).2 (Nat.zero_le _)
        have overflow : ¬ Sink.admits ⟨some limit, ""⟩
            ("" ++ printed ((Progress.start settings deferring).output lines)).utf8ByteSize := by
          rwa [String.empty_append, Sink.admits_limited, Nat.not_le]
        obtain ⟨result, effects⟩ := performLines_of_overflow admitted overflow
        exact ⟨result, effects.flatMap _⟩

-- The first line of output takes thirteen bytes.
example : (replay {} false (some 13) "r8 0\nr8 4").result = .error .outputFull := by decide +kernel

end GraphicsBlock

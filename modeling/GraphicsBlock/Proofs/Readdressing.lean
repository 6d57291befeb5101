import GraphicsBlock.Proofs.OutputLimit
import GraphicsBlock.Proofs.Rendering
import Mathlib.Data.List.Forall2

namespace GraphicsBlock

theorem toNat_physicalBase_add {offset : Address} (inside : offset.toNat < windowBytes) :
    (physicalBase + offset).toNat = physicalBase.toNat + offset.toNat := by
  rw [BitVec.toNat_add]
  apply Nat.mod_eq_of_lt
  have base : physicalBase.toNat = 0x1EF00000 := rfl
  have size : windowBytes = 0x4000 := rfl
  omega

theorem windowOffset?_physical {offset : Address} (inside : offset.toNat < windowBytes) :
    windowOffset? (physicalBase + offset) = some offset := by
  rw [windowOffset?, toNat_physicalBase_add inside, if_pos, BitVec.add_comm, BitVec.add_sub_cancel]
  exact ⟨Nat.le_add_right _ _, by rwa [Nat.add_sub_cancel_left]⟩

namespace Script

theorem toOffset_physical {offset : Address} (inside : offset.toNat < windowBytes) :
    toOffset (physicalBase + offset) = offset := by
  rw [toOffset, windowOffset?_physical inside]
  rfl

theorem toOffset_of_inside {offset : Address} (inside : offset.toNat < windowBytes) :
    toOffset offset = offset :=
  toOffset_of_isOffset (.inl (Nat.lt_trans inside (by decide)))

/-- The second word is a numeral of an offset in the first line, and in the other, if they differ,
one of the physical address that stands for the same place. -/
inductive Readdressed : List Char → List Char → Prop
  | same {line} : Readdressed line line
  | moved {lead command gap a b rest offset} : Text.AllBlank lead → IsWord command → gap ≠ [] →
      Text.AllBlank gap → Closes rest → offset.toNat < windowBytes →
      Text.readNumeral a = .ok offset → Text.readNumeral b = .ok (physicalBase + offset) →
      Readdressed (lead ++ (command ++ (gap ++ (a ++ rest))))
        (lead ++ (command ++ (gap ++ (b ++ rest))))

theorem linePieces_two_words {lead command gap word rest : List Char} (blank : Text.AllBlank lead)
    (first : IsWord command) (ne_nil : gap ≠ []) (between : Text.AllBlank gap)
    (second : IsWord word) (closes : Closes rest) :
    linePieces (lead ++ (command ++ (gap ++ (word ++ rest)))) =
      command :: word :: linePieces rest := by
  rw [linePieces_blank_append blank, linePieces_word_append first (closes_of_gap ne_nil between _),
    linePieces_blank_append between, linePieces_word_append second closes]

theorem exists_readdressed {line command a b : List Char} {operands : List (List Char)}
    {offset : Address} (pieces : linePieces line = command :: a :: operands)
    (inside : offset.toNat < windowBytes) (reads : Text.readNumeral a = .ok offset)
    (physical : Text.readNumeral b = .ok (physicalBase + offset)) :
    ∃ other, Readdressed line other ∧ linePieces other = command :: b :: operands := by
  obtain ⟨lead, tail, rfl, blank, first, follows, two⟩ := exists_of_linePieces_cons pieces
  obtain ⟨gap, rest, rfl, between, second, closes, one⟩ := exists_of_linePieces_cons two
  have ne_nil : gap ≠ [] := by
    rintro rfl
    obtain ⟨c, word, rfl⟩ := List.exists_cons_of_ne_nil second.ne_nil
    rcases follows c rfl with blank | rfl
    · exact Bool.noConfusion (blank.symm.trans (second.visible c List.mem_cons_self))
    · exact second.notMem_mark List.mem_cons_self
  refine ⟨_, .moved blank first ne_nil between closes inside reads physical, ?_⟩
  rw [linePieces_two_words blank first ne_nil between (Text.isWord_of_readNumeral physical) closes,
    one]

theorem readOperands_congr {a b : List Char} (h : readAddress a = readAddress b) (verb : Verb)
    (command : List Char) (operands : List (List Char)) :
    readOperands verb command (a :: operands) = readOperands verb command (b :: operands) := by
  rcases verb with _ | w | w
  · rfl
  · cases operands with
    | nil => rw [readOperands, h, readOperands]
    | cons => rfl
  · rcases operands with _ | ⟨value, _ | _⟩
    · rfl
    · rw [readOperands, readOperands, readWrite, readWrite, h]
    · rfl

theorem readPieces_congr {a b : List Char} (h : readAddress a = readAddress b)
    (command : List Char) (operands : List (List Char)) :
    readPieces (command :: a :: operands) = readPieces (command :: b :: operands) := by
  simp only [readPieces, readOperands_congr h]

theorem Readdressed.readPieces_eq {line other : List Char} (h : Readdressed line other) :
    readPieces (linePieces other) = readPieces (linePieces line) := by
  cases h with
  | same => rfl
  | @moved _ _ _ a b _ offset lead command ne_nil gap closes inside reads physical =>
    rw [linePieces_two_words lead command ne_nil gap (Text.isWord_of_readNumeral reads) closes,
      linePieces_two_words lead command ne_nil gap (Text.isWord_of_readNumeral physical) closes]
    apply readPieces_congr
    simp only [readAddress, readNumber, reads, physical, Except.map, toOffset_physical inside,
      toOffset_of_inside inside]

theorem Readdressed.eq_nil_iff {line other : List Char} (h : Readdressed line other) :
    other = [] ↔ line = [] := by
  cases h with
  | same => rfl
  | moved _ command => simp [command.ne_nil]

theorem linesOf_readdressed {xs ys : List (List Char)} (h : List.Forall₂ Readdressed xs ys) :
    List.Forall₂ (fun line other => parseLine other = parseLine line)
      (Text.linesOf xs) (Text.linesOf ys) := by
  induction h with
  | nil => exact .nil
  | @cons x y xs ys first rest ih =>
    cases rest with
    | nil =>
      rw [Text.linesOf, Text.linesOf, Text.openLine, Text.openLine]
      by_cases empty : x = []
      · rw [if_pos empty, if_pos (first.eq_nil_iff.2 empty)]
        exact .nil
      · rw [if_neg empty, if_neg (empty ∘ first.eq_nil_iff.1)]
        exact .cons first.readPieces_eq .nil
    | cons next more =>
      refine .cons ?_ ih
      rw [parseLine, parseLine, linePieces_stripReturn, linePieces_stripReturn,
        first.readPieces_eq]

theorem parseLines_of_forall₂ {number : Nat} {texts others : List (List Char)} {lines : List Line}
    (h : List.Forall₂ (fun line other => parseLine other = parseLine line) texts others)
    (parses : parseLines number texts = .ok lines) : parseLines number others = .ok lines := by
  induction h generalizing number lines with
  | nil => exact parses
  | @cons text other texts others first _ ih =>
    obtain ⟨content, more, reads, later, rfl⟩ := exists_of_parseLines_cons parses
    rw [parseLines_cons_of_ok (first.trans reads), ih later]
    rfl

theorem parse_readdressed {text other : String} {lines : List Line}
    (h : List.Forall₂ Readdressed (text.toList.splitOn '\n') (other.toList.splitOn '\n'))
    (parses : parse text = .ok lines) : parse other = .ok lines :=
  parseLines_of_forall₂ (linesOf_readdressed h) parses

end Script

/-- Neither an offset of the window nor a physical address inside it. -/
structure Strays (address : Address) : Prop where
  beyond : windowBytes ≤ address.toNat
  isOffset : Script.IsOffset address

def outOfRange (address : Address) : BusFault := .register (.outOfRange (address.toNat / 4))

theorem Strays.wordIndex? {address : Address} (h : Strays address) :
    GraphicsBlock.wordIndex? address = .error (.outOfRange (address.toNat / 4)) :=
  wordIndex?_eq_error_iff.2 ⟨h.beyond, rfl⟩

theorem Strays.readAddress {address : Address} (h : Strays address) {token : List Char}
    (reads : Text.readNumeral token = .ok address) : Script.readAddress token = .ok address := by
  rw [Script.readAddress, Script.readNumber, reads]
  exact congrArg Except.ok (Script.toOffset_of_isOffset h.isOffset)

namespace Replay

def Progress.refuse (p : Progress) (line : Script.Line) (fault : BusFault) : Effect :=
  match line.instruction with
  | .read w address =>
    { progress := { p with reads := p.reads + 1 }
      output := [readLine line.number address (.error fault : Except _ (BitVec w.bits))] }
  | .write w address value =>
    { progress := { p with writes := p.writes + 1, rejected := p.rejected + 1 }
      output := [refusalLine line.number address value fault]
      records := [.write w address value] }
  | .complete => { progress := p }

theorem Progress.perform_of_strays (p : Progress) {line : Script.Line} {address : Address}
    (addressed : line.instruction.address? = some address) (h : Strays address) :
    p.perform line = p.refuse line (outOfRange address) := by
  cases instruction : line.instruction with
  | complete =>
    rw [instruction] at addressed
    cases addressed
  | read w place =>
    rw [instruction] at addressed
    cases addressed
    simp only [perform, refuse, instruction, Session.read, Machine.read, h.wordIndex?]
    rfl
  | write w place value =>
    rw [instruction] at addressed
    cases addressed
    simp only [perform, refuse, instruction, Session.write, Machine.writeLane, h.wordIndex?]
    rfl

theorem Progress.effects_append (p : Progress) (lines more : List Script.Line) :
    p.effects (lines ++ more) = p.effects lines ++ (p.after lines).effects more := by
  induction lines generalizing p with
  | nil => rfl
  | cons line lines ih => exact congrArg (List.cons _) (ih _)

end Replay

open Replay in
/-- Exchanging addresses changes nothing about a replay, its log included. A line with an address
that strays is refused, and the lines after it are performed as if it were not there. -/
theorem replay_readdressed (settings : Settings) (deferring : Bool) {text : String}
    {lines : List Script.Line} (parses : Script.parse text = .ok lines) :
    (∀ other : String,
      List.Forall₂ Script.Readdressed (text.toList.splitOn '\n') (other.toList.splitOn '\n') →
      ∀ limit, replay settings deferring limit other = replay settings deferring limit text) ∧
    (∀ token address, Text.readNumeral token = .ok address → Strays address →
      Script.readAddress token = .ok address) ∧
    ∀ earlier line later address, lines = earlier ++ line :: later →
      line.instruction.address? = some address → Strays address →
      let start := Progress.start settings deferring
      let refused := (start.after earlier).refuse line (outOfRange address)
      ∃ report, replay settings deferring none text =
        ⟨.ok report, start.effects earlier ++ refused :: refused.progress.effects later⟩ := by
  refine ⟨fun other h limit => ?_, fun token address reads h => h.readAddress reads, ?_⟩
  · rw [replay_of_parse (Script.parse_readdressed h parses), replay_of_parse parses]
  · rintro earlier line later address rfl addressed strays start refused
    have performed := (start.after earlier).perform_of_strays addressed strays
    have effects : start.effects (earlier ++ line :: later) =
        start.effects earlier ++ refused :: refused.progress.effects later := by
      rw [Progress.effects_append, Progress.effects, performed]
    rw [replay_unlimited parses, effects]
    exact ⟨_, rfl⟩

open Replay in
theorem replay_readdressed_moved :
    let text := "w32 0x1c 0x201 # go\r\nr8\t28\nr16 0x4000"
    let other := "w32 0x1EF0001C 0x201 # go\r\nr8\t0X1ef0_001c\nr16 0x4000"
    let start := Progress.start {} true
    let earlier : List Script.Line := [⟨1, .write .full 0x1C#32 0x201#32⟩, ⟨2, .read .byte 28#32⟩]
    let beyond : Script.Line := ⟨3, .read .half 0x4000#32⟩
    let refused := (start.after earlier).refuse beyond (outOfRange 0x4000#32)
    Script.parse text = .ok (earlier ++ [beyond]) ∧
      (∀ limit, replay {} true limit other = replay {} true limit text) ∧
      ∃ report, replay {} true none text = ⟨.ok report, start.effects earlier ++ [refused]⟩ := by
  intro text other start earlier beyond refused
  have parses : Script.parse text = .ok (earlier ++ [beyond]) := by decide +kernel
  have stretches : text.toList.splitOn '\n' =
      [[] ++ (['w', '3', '2'] ++ ([' '] ++
          (['0', 'x', '1', 'c'] ++ ([' '] ++ "0x201 # go\r".toList)))),
        [] ++ (['r', '8'] ++ (['\t'] ++ (['2', '8'] ++ []))), "r16 0x4000".toList] := by
    decide +kernel
  have others : other.toList.splitOn '\n' =
      [[] ++ (['w', '3', '2'] ++ ([' '] ++
          ("0x1EF0001C".toList ++ ([' '] ++ "0x201 # go\r".toList)))),
        [] ++ (['r', '8'] ++ (['\t'] ++ ("0X1ef0_001c".toList ++ []))), "r16 0x4000".toList] := by
    decide +kernel
  have write : Script.IsWord ['w', '3', '2'] :=
    Script.isWord_of_plain nofun (Script.forall_isPlain (by decide))
  have read : Script.IsWord ['r', '8'] :=
    Script.isWord_of_plain nofun (Script.forall_isPlain (by decide))
  have space : Text.AllBlank [' '] := by decide
  have moved : List.Forall₂ Script.Readdressed (text.toList.splitOn '\n')
      (other.toList.splitOn '\n') := by
    rw [stretches, others]
    refine .cons ?_ (.cons ?_ (.cons .same .nil))
    · exact @Script.Readdressed.moved _ _ _ _ _ _ 0x1C#32 nofun write nofun space
        (@Script.closes_of_gap [' '] nofun space _) (by decide) (by decide +kernel) (by decide +kernel)
    · exact @Script.Readdressed.moved _ _ _ _ _ _ 28#32 nofun read nofun (by decide) nofun
        (by decide) (by decide +kernel) (by decide +kernel)
  obtain ⟨alike, _, strays⟩ := replay_readdressed {} true parses
  refine ⟨parses, alike other moved, ?_⟩
  exact strays earlier beyond [] 0x4000#32 rfl rfl ⟨by decide, .inl (by decide)⟩

end GraphicsBlock

import GraphicsBlock.Proofs.OutputLimit
import GraphicsBlock.Proofs.Trimming

namespace GraphicsBlock

namespace Text

theorem trim_stripReturn (s : List Char) : trim (stripReturn s) = trim s := by
  rcases stripReturn_eq s with same | ended
  · rw [same]
  · have blank : AllBlank ['\r'] := List.forall_mem_singleton.2 (by decide)
    exact ((congrArg trim ended).trans (trim_append_blank blank _)).symm

theorem length_splitOn_newline (s : List Char) : (s.splitOn '\n').length = 1 + s.count '\n' := by
  induction s with
  | nil => rfl
  | cons c s ih =>
    rw [List.splitOn_cons_eq_if_modifyHead, List.count_cons]
    split
    · rw [List.length_cons, ih, Nat.add_assoc]
    · rw [List.length_modifyHead, ih, Nat.add_zero]

end Text

namespace Script

def Line.after (k : Nat) (line : Line) : Line := { line with number := k + line.number }

def LineFault.after (k : Nat) (fault : LineFault) : LineFault :=
  { fault with number := k + fault.number }

/-- What a script of this many lines comes to with another after it. -/
def joined (k : Nat) : Except LineFault (List Line) → Except LineFault (List Line) →
    Except LineFault (List Line)
  | .error fault, _ => .error fault
  | .ok _, .error fault => .error (fault.after k)
  | .ok lines, .ok more => .ok (lines ++ more.map (.after k))

theorem map_joined (k : Nat) (pre : List Line) (first second : Except LineFault (List Line)) :
    (joined k first second).map (pre ++ ·) = joined k (first.map (pre ++ ·)) second := by
  cases first with
  | error => rfl
  | ok lines =>
    cases second with
    | error => rfl
    | ok more => exact congrArg Except.ok (List.append_assoc pre lines _).symm

theorem parseLines_add (k number : Nat) (texts : List (List Char)) :
    parseLines (k + number) texts = joined k (.ok []) (parseLines number texts) := by
  induction texts generalizing number with
  | nil => rfl
  | cons text texts ih =>
    cases reads : parseLine text with
    | error cause => rw [parseLines_cons_of_error reads, parseLines_cons_of_error reads]; rfl
    | ok content =>
      rw [parseLines_cons_of_ok reads, parseLines_cons_of_ok reads, Nat.add_assoc, ih]
      cases content <;> cases parseLines (number + 1) texts <;> rfl

theorem parseLines_append (number : Nat) (texts more : List (List Char)) :
    parseLines (number + 1) (texts ++ more) =
      joined (number + texts.length) (parseLines (number + 1) texts) (parseLines 1 more) := by
  induction texts generalizing number with
  | nil => exact parseLines_add number 1 more
  | cons text texts ih =>
    rw [List.cons_append]
    cases reads : parseLine text with
    | error cause => rw [parseLines_cons_of_error reads, parseLines_cons_of_error reads]; rfl
    | ok content =>
      rw [parseLines_cons_of_ok reads, parseLines_cons_of_ok reads, ih, map_joined,
        List.length_cons, Nat.add_right_comm, Nat.add_assoc]

theorem parseLines_stripReturn (number : Nat) (text : List Char) (rest : List (List Char)) :
    parseLines number (Text.stripReturn text :: rest) = parseLines number (text :: rest) := by
  rw [parseLines, parseLines, Text.trim_stripReturn, parseLine, linePieces_stripReturn]
  rfl

theorem parseLines_openLine (number : Nat) (text : List Char) :
    parseLines number (Text.openLine text) = parseLines number [text] := by
  unfold Text.openLine
  split
  · next empty => rw [empty]; rfl
  · rfl

theorem parseLines_cons_congr {text : List Char} {rest other : List (List Char)}
    (h : ∀ number, parseLines number rest = parseLines number other) (number : Nat) :
    parseLines number (text :: rest) = parseLines number (text :: other) := by
  rw [parseLines, parseLines, h]

theorem parseLines_linesOf (stretches : List (List Char)) (number : Nat) :
    parseLines number (Text.linesOf stretches) =
      parseLines number (stretches.map Text.stripReturn) := by
  induction stretches using Text.linesOf.induct generalizing number with
  | case1 => rfl
  | case2 rest =>
    rw [Text.linesOf, parseLines_openLine, List.map_singleton, parseLines_stripReturn]
  | case3 line next more ih =>
    rw [Text.linesOf, List.map_cons]
    exact parseLines_cons_congr ih number

theorem parse_eq (text : String) :
    parse text = parseLines 1 ((text.toList.splitOn '\n').map Text.stripReturn) :=
  parseLines_linesOf _ 1

theorem parse_join (first second : String) :
    parse (first ++ "\n" ++ second) =
      joined (1 + first.toList.count '\n') (parse first) (parse second) := by
  have text : (first ++ "\n" ++ second).toList = first.toList ++ '\n' :: second.toList := by
    rw [String.toList_append, String.toList_append, List.append_assoc]
    rfl
  rw [parse, text, Text.lines_append, parseLines_append 0, Nat.zero_add, List.length_map,
    Text.length_splitOn_newline, parse_eq first, parse]

theorem parse_eq_error_iff {text : String} {fault : LineFault} :
    parse text = .error fault ↔ ∃ good bad rest, Text.lines text.toList = good ++ bad :: rest ∧
      (∀ line ∈ good, Parses line) ∧ parseLine bad = .error fault.cause ∧
      fault.number = good.length + 1 ∧ fault.text = String.ofList (Text.trim bad) := by
  constructor
  · intro fails
    obtain ⟨good, bad, rest, lines, parse, cause, first⟩ := exists_first_of_error fails
    refine ⟨good, bad, rest, lines, parse, cause, ?_, ?_⟩
    · rw [first, Nat.add_comm]
    · rw [first]
  · rintro ⟨good, bad, rest, lines, parse, cause, number, said⟩
    obtain ⟨read, reads⟩ := (@parseLines_ok_iff 1 good).2 parse
    rw [Script.parse, lines, parseLines_append 0, reads, parseLines_cons_of_error cause,
      Nat.zero_add]
    change Except.error (LineFault.mk (good.length + 1) _ _) = _
    rw [← number, ← said]

theorem parse_eq_error_of_take {text other : String} {fault : LineFault}
    (fails : parse text = .error fault)
    (same : (Text.lines other.toList).take fault.number =
      (Text.lines text.toList).take fault.number) : parse other = .error fault := by
  obtain ⟨good, bad, rest, lines, parse, cause, number, said⟩ := parse_eq_error_iff.1 fails
  have taken : (Text.lines text.toList).take fault.number = good ++ [bad] := by
    rw [lines, number, List.take_length_add_append]
    rfl
  generalize lined : Text.lines other.toList = others at same
  have split : others = good ++ bad :: others.drop fault.number := by
    calc
      others = others.take fault.number ++ others.drop fault.number :=
        (List.take_append_drop _ _).symm
      _ = good ++ [bad] ++ others.drop fault.number := by rw [same, taken]
      _ = good ++ bad :: others.drop fault.number := List.append_assoc _ _ _
  exact parse_eq_error_iff.2 ⟨good, bad, _, lined.trans split, parse, cause, number, said⟩

theorem number_le_of_parseLines {number : Nat} {texts : List (List Char)} {lines : List Line}
    (h : parseLines number texts = .ok lines) : ∀ line ∈ lines, number ≤ line.number := by
  induction texts generalizing number lines with
  | nil =>
    cases h
    exact List.forall_mem_nil _
  | cons text texts ih =>
    obtain ⟨content, more, _, later, rfl⟩ := exists_of_parseLines_cons h
    have rest : ∀ line ∈ more, number ≤ line.number := fun line mem =>
      (Nat.le_succ number).trans (ih later line mem)
    cases content with
    | none => exact rest
    | some => exact List.forall_mem_cons.2 ⟨Nat.le_refl _, rest⟩

theorem pairwise_of_parseLines {number : Nat} {texts : List (List Char)} {lines : List Line}
    (h : parseLines number texts = .ok lines) : lines.Pairwise (·.number < ·.number) := by
  induction texts generalizing number lines with
  | nil =>
    cases h
    exact .nil
  | cons text texts ih =>
    obtain ⟨content, more, _, later, rfl⟩ := exists_of_parseLines_cons h
    cases content with
    | none => exact ih later
    | some => exact .cons (number_le_of_parseLines later) (ih later)

/-- A script and another after it, joined at a newline, read as the one and then the other, whose
lines and fault are counted on from the first. The number of a fault is that of the first bad line,
and no line after it has a part in the fault. -/
theorem parse_concatenated :
    (∀ first second : String, parse (first ++ "\n" ++ second) =
      joined (1 + first.toList.count '\n') (parse first) (parse second)) ∧
    (∀ (k : Nat) (fault : LineFault), (fault.after k).chain =
      s!"line {k + fault.number}: {fault.text}" :: fault.chain.tail) ∧
    (∀ text fault, parse text = .error fault ↔
      ∃ good bad rest, Text.lines text.toList = good ++ bad :: rest ∧
        (∀ line ∈ good, Parses line) ∧ parseLine bad = .error fault.cause ∧
        fault.number = good.length + 1 ∧ fault.text = String.ofList (Text.trim bad)) ∧
    (∀ text lines, parse text = .ok lines → lines.Pairwise (·.number < ·.number)) ∧
    (∀ text other fault, parse text = .error fault →
      (Text.lines other.toList).take fault.number = (Text.lines text.toList).take fault.number →
      parse other = .error fault) :=
  ⟨parse_join, fun _ _ => rfl, fun _ _ => parse_eq_error_iff,
    fun _ _ => pairwise_of_parseLines, fun _ _ _ => parse_eq_error_of_take⟩

theorem parse_concatenated_bad_line :
    let first := "\nr8 0\r"
    let second := "complete\nr9 1"
    let fault : LineFault := ⟨4, "r9 1", .unknownCommand "r9"⟩
    parse first = .ok [⟨2, .read .byte 0#32⟩] ∧
    parse second = .error ⟨2, "r9 1", .unknownCommand "r9"⟩ ∧
    parse (first ++ "\n" ++ second) = .error fault ∧
    parse (first ++ "\n" ++ second ++ "\nw8") = .error fault ∧
    [Line.mk 2 (.read .byte 0#32)].Pairwise (·.number < ·.number) := by
  intro first second fault
  obtain ⟨join, _, _, increasing, unaffected⟩ := parse_concatenated
  have alone : parse first = .ok [⟨2, .read .byte 0#32⟩] := by decide +kernel
  have later : parse second = .error ⟨2, "r9 1", .unknownCommand "r9"⟩ := by decide +kernel
  have both : parse (first ++ "\n" ++ second) = .error fault := by
    rw [join, alone, later]
    decide +kernel
  exact ⟨alone, later, both, unaffected _ _ _ both (by decide +kernel), increasing _ _ alone⟩

end Script

end GraphicsBlock

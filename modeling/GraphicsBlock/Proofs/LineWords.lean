import GraphicsBlock.Script.Parser

namespace GraphicsBlock

namespace Text

def AllBlank (s : List Char) : Prop := ∀ c ∈ s, isBlank c = true

instance (s : List Char) : Decidable (AllBlank s) :=
  decidable_of_iff (s.all isBlank = true) List.all_eq_true

theorem pieces_append_cons {c : Char} (blank : isBlank c = true) (s t : List Char) :
    pieces (s ++ c :: t) = pieces s ++ pieces t := by
  rw [pieces, List.splitOnP_append_cons _ _ blank, List.filter_append]
  rfl

theorem pieces_cons {c : Char} (blank : isBlank c = true) (s : List Char) :
    pieces (c :: s) = pieces s :=
  pieces_append_cons blank [] s

theorem pieces_blank_append {gap : List Char} (blank : AllBlank gap) (s : List Char) :
    pieces (gap ++ s) = pieces s := by
  induction gap with
  | nil => rfl
  | cons c gap ih =>
    obtain ⟨first, rest⟩ := List.forall_mem_cons.1 blank
    rw [List.cons_append, pieces_cons first, ih rest]

theorem pieces_of_visible {word : List Char} (ne_nil : word ≠ [])
    (visible : ∀ c ∈ word, isBlank c = false) : pieces word = [word] := by
  rw [pieces, List.splitOnP_eq_singleton visible]
  simp [ne_nil]

theorem before_append {mark : Char} {s : List Char} (absent : mark ∉ s) (t : List Char) :
    before mark (s ++ t) = s ++ before mark t := by
  apply List.takeWhile_append_of_pos
  intro c mem
  exact bne_iff_ne.2 fun same => absent (same ▸ mem)

@[simp] theorem before_cons_self (mark : Char) (s : List Char) : before mark (mark :: s) = [] := by
  simp [before]

theorem before_append_of_mem {mark : Char} {s : List Char} (present : mark ∈ s) (t : List Char) :
    before mark (s ++ t) = before mark s := by
  obtain ⟨first, rest, rfl, absent⟩ := List.eq_append_cons_of_mem present
  rw [List.append_assoc, List.cons_append, before_append absent, before_append absent,
    before_cons_self, before_cons_self]

theorem stripReturn_eq (s : List Char) :
    stripReturn s = s ∨ s = stripReturn s ++ ['\r'] := by
  unfold stripReturn
  split
  · next ends =>
    obtain ⟨kept, rfl⟩ := List.getLast?_eq_some_iff.1 ends
    exact .inr (by rw [List.dropLast_concat])
  · exact .inl rfl

end Text

namespace Script

/-- What a line can hold between two blanks. -/
structure IsWord (s : List Char) : Prop where
  ne_nil : s ≠ []
  visible : ∀ c ∈ s, Text.isBlank c = false
  notMem_mark : '#' ∉ s

def IsPlain (c : Char) : Prop := '$' ≤ c ∧ c ≤ '~'

instance (c : Char) : Decidable (IsPlain c) := inferInstanceAs (Decidable (_ ∧ _))

theorem isPlain_iff {c : Char} : IsPlain c ↔ 36 ≤ c.toNat ∧ c.toNat ≤ 126 :=
  and_congr UInt32.le_iff_toNat_le UInt32.le_iff_toNat_le

theorem forall_isPlain {s : List Char} (h : s.all (decide <| IsPlain ·) = true) :
    ∀ c ∈ s, IsPlain c :=
  fun c mem => of_decide_eq_true (List.all_eq_true.1 h c mem)

theorem isWord_of_plain {s : List Char} (ne_nil : s ≠ []) (plain : ∀ c ∈ s, IsPlain c) :
    IsWord s where
  ne_nil := ne_nil
  visible c mem := by
    obtain ⟨low, high⟩ := isPlain_iff.1 (plain c mem)
    simp [Text.isBlank, Text.blankRanges]
    omega
  notMem_mark mem := absurd (plain _ mem).1 (by decide)

def Closes (s : List Char) : Prop := ∀ c ∈ s.head?, Text.isBlank c = true ∨ c = '#'

theorem closes_of_gap {gap : List Char} (ne_nil : gap ≠ []) (blank : Text.AllBlank gap)
    (s : List Char) : Closes (gap ++ s) := by
  cases gap with
  | nil => exact absurd rfl ne_nil
  | cons c gap =>
    rintro _ ⟨⟩
    exact .inl (blank c List.mem_cons_self)

@[simp] theorem linePieces_comment (s : List Char) : linePieces ('#' :: s) = [] := by
  rw [linePieces, Text.before_cons_self, Text.pieces_nil]

theorem notMem_mark_of_allBlank {gap : List Char} (blank : Text.AllBlank gap) : '#' ∉ gap :=
  fun mem => absurd (blank _ mem) (by decide)

theorem linePieces_blank_append {gap : List Char} (blank : Text.AllBlank gap) (s : List Char) :
    linePieces (gap ++ s) = linePieces s := by
  rw [linePieces, Text.before_append (notMem_mark_of_allBlank blank),
    Text.pieces_blank_append blank, linePieces]

theorem linePieces_word_append {word s : List Char} (h : IsWord word) (closes : Closes s) :
    linePieces (word ++ s) = word :: linePieces s := by
  have alone := Text.pieces_of_visible h.ne_nil h.visible
  rw [linePieces, Text.before_append h.notMem_mark, linePieces]
  cases s with
  | nil => rw [Text.before, List.takeWhile_nil, List.append_nil, alone, Text.pieces_nil]
  | cons c s =>
    rcases closes c rfl with blank | rfl
    · have kept : Text.before '#' (c :: s) = c :: Text.before '#' s := by
        rw [← List.singleton_append, Text.before_append]
        · rfl
        · exact notMem_mark_of_allBlank (List.forall_mem_singleton.2 blank)
      rw [kept, Text.pieces_append_cons blank, Text.pieces_cons blank, alone]
      rfl
    · rw [Text.before_cons_self, List.append_nil, alone, Text.pieces_nil]

theorem exists_word_of_visible {c : Char} (visible : Text.isBlank c = false) (unmarked : c ≠ '#')
    (line : List Char) :
    ∃ word rest, c :: line = word ++ rest ∧ IsWord word ∧ Closes rest := by
  induction line generalizing c with
  | nil =>
    exact ⟨[c], [], rfl,
      ⟨nofun, List.forall_mem_singleton.2 visible, by simp [unmarked.symm]⟩, nofun⟩
  | cons d line ih =>
    by_cases ends : Text.isBlank d = true ∨ d = '#'
    · refine ⟨[c], d :: line, rfl,
        ⟨nofun, List.forall_mem_singleton.2 visible, by simp [unmarked.symm]⟩, ?_⟩
      rintro _ ⟨⟩
      exact ends
    · obtain ⟨seen, plain⟩ := not_or.1 ends
      obtain ⟨word, rest, split, isWord, closes⟩ := ih (Bool.eq_false_iff.2 seen) plain
      exact ⟨c :: word, rest, congrArg (List.cons c) split,
        ⟨nofun, List.forall_mem_cons.2 ⟨visible, isWord.visible⟩,
          by simp [unmarked.symm, isWord.notMem_mark]⟩, closes⟩

theorem exists_of_linePieces_cons {line word : List Char} {words : List (List Char)}
    (h : linePieces line = word :: words) :
    ∃ lead rest, line = lead ++ (word ++ rest) ∧ Text.AllBlank lead ∧ IsWord word ∧ Closes rest ∧
      linePieces rest = words := by
  induction line with
  | nil => cases h
  | cons c line ih =>
    by_cases blank : Text.isBlank c = true
    · have single : Text.AllBlank [c] := List.forall_mem_singleton.2 blank
      have pieces := linePieces_blank_append single line
      obtain ⟨lead, rest, rfl, blanks, found⟩ := ih (pieces.symm.trans h)
      exact ⟨c :: lead, rest, rfl, List.forall_mem_cons.2 ⟨blank, blanks⟩, found⟩
    · by_cases mark : c = '#'
      · rw [mark, linePieces_comment] at h
        cases h
      · obtain ⟨found, rest, split, isWord, closes⟩ :=
          exists_word_of_visible (Bool.eq_false_iff.2 blank) mark line
        rw [split, linePieces_word_append isWord closes] at h
        cases h
        exact ⟨[], rest, split, nofun, isWord, closes, rfl⟩

theorem linePieces_append_blank (s : List Char) {c : Char} (blank : Text.isBlank c = true) :
    linePieces (s ++ [c]) = linePieces s := by
  by_cases commented : '#' ∈ s
  · rw [linePieces, Text.before_append_of_mem commented, linePieces]
  · have whole : Text.before '#' s = s := by
      rw [← List.append_nil s, Text.before_append commented]
      rfl
    have single := notMem_mark_of_allBlank (List.forall_mem_singleton.2 blank)
    rw [linePieces, linePieces, whole, Text.before_append commented, ← List.append_nil [c],
      Text.before_append single]
    exact (Text.pieces_append_cons blank s []).trans (List.append_nil _)

theorem linePieces_stripReturn (s : List Char) :
    linePieces (Text.stripReturn s) = linePieces s := by
  rcases Text.stripReturn_eq s with same | ended
  · rw [same]
  · exact ((congrArg linePieces ended).trans (linePieces_append_blank _ (by decide))).symm

end Script

end GraphicsBlock

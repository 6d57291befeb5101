import GraphicsBlock.Proofs.LineWords
import Mathlib.Data.List.TakeWhile

namespace GraphicsBlock.Text

def whiteSpace : List Nat :=
  [0x9, 0xA, 0xB, 0xC, 0xD, 0x20, 0x85, 0xA0, 0x1680, 0x2000, 0x2001, 0x2002, 0x2003, 0x2004,
    0x2005, 0x2006, 0x2007, 0x2008, 0x2009, 0x200A, 0x2028, 0x2029, 0x202F, 0x205F, 0x3000]

theorem isBlank_iff {c : Char} : isBlank c = true ↔ c.toNat ∈ whiteSpace := by
  simp [isBlank, blankRanges, whiteSpace]
  omega

theorem trimRight_append_blank {gap : List Char} (blank : AllBlank gap) (s : List Char) :
    trimRight (s ++ gap) = trimRight s := by
  have ended : ∀ c ∈ gap.reverse, isBlank c = true := fun c mem => blank c (List.mem_reverse.1 mem)
  rw [trimRight, List.reverse_append, List.dropWhile_append_of_pos ended, trimRight]

theorem trim_append_blank {gap : List Char} (blank : AllBlank gap) (s : List Char) :
    trim (s ++ gap) = trim s := by
  rw [trim, trim, trimLeft, trimLeft, List.dropWhile_append]
  split
  · next empty =>
    have none : gap.dropWhile isBlank = [] := by
      rw [← List.append_nil gap, List.dropWhile_append_of_pos blank, List.dropWhile_nil]
    rw [none, List.isEmpty_iff.1 empty]
  · exact trimRight_append_blank blank _

theorem trim_blank_append {gap : List Char} (blank : AllBlank gap) (s : List Char) :
    trim (gap ++ s) = trim s := by
  rw [trim, trimLeft, List.dropWhile_append_of_pos blank, trim, trimLeft]

/-- The part of a text that is left without the blanks at its ends. -/
structure Trims (s core : List Char) : Prop where
  exists_gaps : ∃ lead tail, s = lead ++ (core ++ tail) ∧ AllBlank lead ∧ AllBlank tail
  head : ∀ c ∈ core.head?, isBlank c = false
  last : ∀ c ∈ core.getLast?, isBlank c = false

theorem dropWhile_eq_self {s : List Char} (visible : ∀ c ∈ s.head?, isBlank c = false) :
    s.dropWhile isBlank = s := by
  cases s with
  | nil => rfl
  | cons c s => rw [List.dropWhile_cons_of_neg (ne_true_of_eq_false (visible c rfl))]

theorem visible_of_mem_head? {s : List Char} {c : Char} (first : c ∈ (s.dropWhile isBlank).head?) :
    isBlank c = false := by
  have := List.head?_dropWhile_not isBlank s
  rwa [Option.mem_def.1 first] at this

theorem Trims.trim_eq {s core : List Char} (h : Trims s core) : trim s = core := by
  obtain ⟨lead, tail, rfl, before, after⟩ := h.exists_gaps
  have backwards : core.reverse.dropWhile isBlank = core.reverse :=
    dropWhile_eq_self fun c mem => h.last c (List.head?_reverse ▸ mem)
  rw [trim_blank_append before, trim_append_blank after, trim, trimLeft, dropWhile_eq_self h.head,
    trimRight, backwards, List.reverse_reverse]

theorem trims_trim (s : List Char) : Trims s (trim s) := by
  have front : s.takeWhile isBlank ++ trimLeft s = s := List.takeWhile_append_dropWhile
  have back : trim s ++ ((trimLeft s).reverse.takeWhile isBlank).reverse = trimLeft s := by
    rw [trim, trimRight, ← List.reverse_append, List.takeWhile_append_dropWhile,
      List.reverse_reverse]
  refine ⟨⟨s.takeWhile isBlank, _, (back ▸ front).symm, ?_, ?_⟩, ?_, ?_⟩
  · exact fun c mem => List.mem_takeWhile_imp mem
  · exact fun c mem => List.mem_takeWhile_imp (List.mem_reverse.1 mem)
  · intro c first
    apply visible_of_mem_head? (s := s)
    change c ∈ (trimLeft s).head?
    rw [← back, List.head?_append, Option.mem_def.1 first]
    rfl
  · intro c final
    apply visible_of_mem_head? (s := (trimLeft s).reverse)
    rwa [trim, trimRight, List.getLast?_reverse] at final

theorem trims_iff {s core : List Char} : Trims s core ↔ trim s = core :=
  ⟨Trims.trim_eq, fun h => h ▸ trims_trim s⟩

end GraphicsBlock.Text

namespace GraphicsBlock.Text

/-- One carriage return at the end is dropped. -/
def stripReturn (s : List Char) : List Char :=
  if s.getLast? = some '\r' then s.dropLast else s

def openLine (s : List Char) : List (List Char) := if s = [] then [] else [s]

/-- The stretches between newlines: all but the last are ended lines. -/
def linesOf : List (List Char) → List (List Char)
  | [] => []
  | [rest] => openLine rest
  | line :: next :: more => stripReturn line :: linesOf (next :: more)

def lines (s : List Char) : List (List Char) := linesOf (s.splitOn '\n')

@[simp] theorem lines_nil : lines [] = [] := rfl

theorem linesOf_append (xs ys : List (List Char)) (h : ys ≠ []) :
    linesOf (xs ++ ys) = xs.map stripReturn ++ linesOf ys := by
  induction xs with
  | nil => rfl
  | cons x xs ih =>
    obtain ⟨z, zs, hz⟩ := List.exists_cons_of_ne_nil (l := xs ++ ys) (by simp [h])
    rw [List.cons_append, hz, linesOf, ← hz, ih]
    rfl

theorem lines_append (s t : List Char) :
    lines (s ++ '\n' :: t) = (s.splitOn '\n').map stripReturn ++ lines t := by
  rw [lines, List.splitOn_append_cons_self, linesOf_append _ _ (List.splitOn_ne_nil _ _), lines]

example : lines "a\r\nb\r".toList = ["a", "b\r"].map String.toList := by decide +kernel
example : lines "a\n\nb\n".toList = ["a", "", "b"].map String.toList := by decide +kernel

end GraphicsBlock.Text

namespace GraphicsBlock.Text

/-- The ranges of the property White_Space, both ends included. -/
def blankRanges : List (Nat × Nat) :=
  [(0x09, 0x0D), (0x20, 0x20), (0x85, 0x85), (0xA0, 0xA0), (0x1680, 0x1680), (0x2000, 0x200A),
    (0x2028, 0x2029), (0x202F, 0x202F), (0x205F, 0x205F), (0x3000, 0x3000)]

def isBlank (c : Char) : Bool :=
  blankRanges.any fun (low, high) => low ≤ c.toNat && c.toNat ≤ high

theorem isBlank_of_isWhitespace {c : Char} (h : c.isWhitespace) : isBlank c := by
  simp only [Char.isWhitespace, Bool.or_eq_true, decide_eq_true_eq] at h
  rcases h with ((rfl | rfl) | rfl) | rfl <;> decide

def trimLeft (s : List Char) : List Char := s.dropWhile isBlank

def trimRight (s : List Char) : List Char := (s.reverse.dropWhile isBlank).reverse

def trim (s : List Char) : List Char := trimRight (trimLeft s)

def pieces (s : List Char) : List (List Char) :=
  (s.splitOnP isBlank).filter (!·.isEmpty)

@[simp] theorem pieces_nil : pieces [] = [] := rfl

def before (mark : Char) (s : List Char) : List Char := s.takeWhile (· != mark)

def lower (s : List Char) : List Char := s.map Char.toLower

example : pieces "  w32\t0x10 \u3000 1".toList = ["w32", "0x10", "1"].map String.toList := by
  decide +kernel
example : trim "\u00A0 a b \u2028".toList = "a b".toList := by decide +kernel
example : isBlank '\u200B' = false := by decide

end GraphicsBlock.Text

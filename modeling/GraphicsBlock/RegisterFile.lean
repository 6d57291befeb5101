import GraphicsBlock.Register
import GraphicsBlock.Text.Outline

namespace GraphicsBlock

structure RegisterFile where
  words : Vector Word wordCount
  deriving DecidableEq

namespace RegisterFile

def blank : RegisterFile := ⟨Vector.replicate wordCount 0⟩

def get (file : RegisterFile) (i : WordIndex) : Word := file.words[i]

def set (file : RegisterFile) (i : WordIndex) (value : Word) : RegisterFile :=
  ⟨file.words.set i value⟩

@[simp] theorem get_blank (i : WordIndex) : blank.get i = 0 := by
  simp [blank, get]

theorem get_set (file : RegisterFile) (i j : WordIndex) (value : Word) :
    (file.set i value).get j = if i = j then value else file.get j := by
  simp [get, set, Vector.getElem_set, Fin.ext_iff]

@[simp] theorem get_set_self (file : RegisterFile) (i : WordIndex) (value : Word) :
    (file.set i value).get i = value := by
  simp [get_set]

theorem get_set_of_ne (file : RegisterFile) {i j : WordIndex} (h : i ≠ j) (value : Word) :
    (file.set i value).get j = file.get j := by
  simp [get_set, h]

@[ext] theorem ext {file other : RegisterFile} (h : ∀ i, file.get i = other.get i) :
    file = other := by
  cases file
  cases other
  congr
  exact Vector.ext fun i hi => h ⟨i, hi⟩

@[simp] theorem set_get (file : RegisterFile) (i : WordIndex) : file.set i (file.get i) = file := by
  ext1 j
  rw [get_set]
  split
  · next h => rw [h]
  · rfl

def read? (file : RegisterFile) (index : Nat) : Except RegisterFault Word :=
  if h : index < wordCount then .ok (file.get ⟨index, h⟩) else .error (.outOfRange index)

def write? (file : RegisterFile) (index : Nat) (value : Word) : Except RegisterFault RegisterFile :=
  if h : index < wordCount then .ok (file.set ⟨index, h⟩ value) else .error (.outOfRange index)

@[simp] theorem read?_index (file : RegisterFile) (i : WordIndex) :
    file.read? i = .ok (file.get i) :=
  dif_pos i.isLt

@[simp] theorem write?_index (file : RegisterFile) (i : WordIndex) (value : Word) :
    file.write? i value = .ok (file.set i value) :=
  dif_pos i.isLt

def register (file : RegisterFile) (r : Register) : Word := file.get r.index

def setRegister (file : RegisterFile) (r : Register) (value : Word) : RegisterFile :=
  file.set r.index value

theorem register_setRegister (file : RegisterFile) (r s : Register) (value : Word) :
    (file.setRegister r value).register s = if r = s then value else file.register s := by
  simp [register, setRegister, get_set, Register.index_inj]

def region (file : RegisterFile) (r : Region) : List Word :=
  (file.words.extract r.offset r.stop).toList

def setRegion (file : RegisterFile) (r : Region) (value : Nat → Word) : RegisterFile :=
  ⟨Vector.ofFn fun i : WordIndex => if r.contains i then value (i - r.offset) else file.get i⟩

theorem get_setRegion (file : RegisterFile) (r : Region) (value : Nat → Word) (i : WordIndex) :
    (file.setRegion r value).get i = if r.contains i then value (i - r.offset) else file.get i := by
  simp [setRegion, get]

/-- The words in which a later file differs, with their new values. -/
def changes (file later : RegisterFile) : List (WordIndex × Word) :=
  (List.finRange wordCount).filterMap fun i =>
    if file.get i = later.get i then none else some (i, later.get i)

def nonzeroWords (file : RegisterFile) : Nat := file.words.countP (· != 0)

def outline (file : RegisterFile) : Text.Outline :=
  .record "RegisterFile" [("len", .nat wordCount), ("nonzero_words", .nat file.nonzeroWords)]

end RegisterFile

end GraphicsBlock

import GraphicsBlock.Proofs.Numeral
import GraphicsBlock.Proofs.Trimming
import GraphicsBlock.Settings
import Mathlib.Data.List.Forall2
import Mathlib.Data.List.Nodup

namespace GraphicsBlock

namespace Text

def lowerLetter (c : Char) : Char :=
  if 65 ≤ c.toNat ∧ c.toNat ≤ 90 then Char.ofNat (c.toNat + 32) else c

theorem toLower_eq_lowerLetter (c : Char) : c.toLower = lowerLetter c := by
  have capitals : ∀ n < 91, 65 ≤ n → (Char.ofNat n).toLower = Char.ofNat (n + 32) := by decide
  by_cases capital : 65 ≤ c.toNat ∧ c.toNat ≤ 90
  · have lowered := capitals c.toNat (Nat.lt_succ_of_le capital.2) capital.1
    rw [Char.ofNat_toNat] at lowered
    rw [lowered, lowerLetter, if_pos capital]
  · rw [lowerLetter, if_neg capital, toLower_of_not_upper]
    exact fun ⟨low, high⟩ => capital ⟨low, Nat.le_of_lt_succ high⟩

theorem lower_eq (s : List Char) : lower s = s.map lowerLetter :=
  List.map_congr_left fun c _ => toLower_eq_lowerLetter c

example : [' ', 'K', '\u212A', '\u00C9'].map lowerLetter =
    [' ', 'k', '\u212A', '\u00C9'] := by decide

end Text

namespace Knob

/-- The text names the value: it is the name, but for white space around it and capital letters. -/
def Names [Knob α] (text : String) (value : α) : Prop :=
  ∃ core, Text.Trims text.toList core ∧ core.map Text.lowerLetter = (name value).toList

def Spelled (core name : List Char) : Prop :=
  List.Forall₂ (fun form c => form ∈ [c, c.toUpper]) core name

def isPlain (c : Char) : Bool :=
  [c, c.toUpper].all fun form => !Text.isBlank form && Text.lowerLetter form == c

theorem read_of_isPlain {c form : Char} (plain : isPlain c = true) (mem : form ∈ [c, c.toUpper]) :
    Text.isBlank form = false ∧ Text.lowerLetter form = c := by
  have read := List.all_eq_true.1 plain form mem
  simpa only [Bool.and_eq_true, Bool.not_eq_true', beq_iff_eq] using read

theorem Spelled.read {core name : List Char} (h : Spelled core name)
    (plain : name.all isPlain = true) :
    core.map Text.lowerLetter = name ∧ ∀ c ∈ core, Text.isBlank c = false := by
  induction h with
  | nil => exact ⟨rfl, nofun⟩
  | cons form _ ih =>
    obtain ⟨first, rest⟩ := Bool.and_eq_true_iff.1 plain
    obtain ⟨lowered, visible⟩ := ih rest
    obtain ⟨seen, letter⟩ := read_of_isPlain first form
    exact ⟨congrArg₂ List.cons letter lowered, List.forall_mem_cons.2 ⟨seen, visible⟩⟩

class Lawful (α : Type) [Knob α] : Prop where
  mem_all : ∀ value : α, value ∈ all
  nodup : (names α).Nodup
  plain : ∀ text ∈ names α, text.toList.all isPlain = true

section

variable {α : Type} [Knob α] {text : String} {value other : α}

theorem names_iff : Names text value ↔ name value = normalize text := by
  rw [← String.toList_inj, normalize, String.toList_ofList, Text.lower_eq]
  constructor
  · rintro ⟨core, trims, same⟩
    rw [Text.trims_iff.1 trims, same]
  · intro same
    exact ⟨_, Text.trims_iff.2 rfl, same.symm⟩

theorem names_of_find? (found : all.find? (name · == normalize text) = some value) :
    Names text value := by
  have same := List.find?_some found
  exact names_iff.2 (beq_iff_eq.1 same)

theorem parse_of_unnamed (unnamed : ¬∃ value : α, Names text value) :
    parse α text = .error ⟨title α, text, names α⟩ := by
  unfold parse
  split
  · next value found => exact absurd ⟨value, names_of_find? found⟩ unnamed
  · rfl

variable [Lawful α]

theorem name_inj (same : name value = name other) : value = other :=
  List.inj_on_of_nodup_map Lawful.nodup (Lawful.mem_all value) (Lawful.mem_all other) same

theorem all_isPlain_name (value : α) : (name value).toList.all isPlain = true :=
  Lawful.plain _ (List.mem_map_of_mem (Lawful.mem_all value))

theorem Names.unique (h : Names text value) (h' : Names text other) : value = other :=
  name_inj ((names_iff.1 h).trans (names_iff.1 h').symm)

theorem parse_eq_ok_iff : parse α text = .ok value ↔ Names text value := by
  unfold parse
  split
  · next first found =>
    have named := names_of_find? found
    exact ⟨fun h => Except.ok.inj h ▸ named, fun h => congrArg _ (named.unique h)⟩
  · next absent =>
    have refused := List.find?_eq_none.1 absent value (Lawful.mem_all value)
    exact ⟨nofun, fun h => absurd (beq_iff_eq.2 (names_iff.1 h)) refused⟩

theorem parse_eq_error_iff {fault : UnknownValue} :
    parse α text = .error fault ↔
      (¬∃ value : α, Names text value) ∧ fault = ⟨title α, text, names α⟩ := by
  by_cases named : ∃ value : α, Names text value
  · obtain ⟨value, here⟩ := named
    rw [parse_eq_ok_iff.2 here]
    exact ⟨nofun, fun ⟨unnamed, _⟩ => absurd ⟨value, here⟩ unnamed⟩
  · rw [parse_of_unnamed named]
    simp [named, eq_comm]

theorem Spelled.names {lead core tail : List Char} (h : Spelled core (name value).toList)
    (before : Text.AllBlank lead) (after : Text.AllBlank tail) :
    Names (String.ofList (lead ++ (core ++ tail))) value := by
  obtain ⟨lowered, visible⟩ := h.read (all_isPlain_name value)
  refine ⟨core, ⟨⟨lead, tail, String.toList_ofList, before, after⟩, ?_, ?_⟩, lowered⟩
  · exact fun c mem => visible c (List.mem_of_mem_head? mem)
  · exact fun c mem => visible c (List.mem_of_mem_getLast? mem)

end

/-- What the reader of a knob makes of a text. -/
structure Reads (α : Type) [Knob α] : Prop where
  ok : ∀ (text : String) (value : α), parse α text = .ok value ↔ Names text value
  error : ∀ (text : String) (fault : UnknownValue), parse α text = .error fault ↔
    (¬∃ value : α, Names text value) ∧ fault = ⟨title α, text, names α⟩
  unique : ∀ (text : String) (value other : α), Names text value → Names text other → value = other
  spelled : ∀ (value : α) (lead core tail : List Char), Text.AllBlank lead → Text.AllBlank tail →
    Spelled core (name value).toList → parse α (String.ofList (lead ++ (core ++ tail))) = .ok value

theorem Lawful.reads (α : Type) [Knob α] [Lawful α] : Reads α where
  ok _ _ := parse_eq_ok_iff
  error _ _ := parse_eq_error_iff
  unique _ _ _ := Names.unique
  spelled _ _ _ _ before after spelling := parse_eq_ok_iff.2 (spelling.names before after)

end Knob

instance : Knob.Lawful FillMode where
  mem_all value := by cases value <;> decide
  nodup := by decide
  plain := by decide

instance : Knob.Lawful ByteOrder where
  mem_all value := by cases value <;> decide
  nodup := by decide
  plain := by decide

instance : Knob.Lawful FlipAxis where
  mem_all value := by cases value <;> decide
  nodup := by decide
  plain := by decide

instance : Knob.Lawful Scaling where
  mem_all value := by cases value <;> decide
  nodup := by decide
  plain := by decide

/-- The reader of each knob takes exactly the texts that name a value of it, and reports every other
text as it is. -/
theorem knobs_read_their_names :
    (∀ c : Char, Text.isBlank c = true ↔ c.toNat ∈ Text.whiteSpace) ∧
    Knob.Reads FillMode ∧ Knob.Reads ByteOrder ∧ Knob.Reads FlipAxis ∧ Knob.Reads Scaling :=
  ⟨fun _ => Text.isBlank_iff, Knob.Lawful.reads _, Knob.Lawful.reads _, Knob.Lawful.reads _,
    Knob.Lawful.reads _⟩

example : Knob.parse ByteOrder "\u00A0\tBgR\u2028" = .ok .bgr := by decide +kernel
example : Knob.parse ByteOrder "\u200Bbgr" =
    .error ⟨"fill24 order", "\u200Bbgr", ["rgb", "bgr"]⟩ := by decide +kernel

end GraphicsBlock

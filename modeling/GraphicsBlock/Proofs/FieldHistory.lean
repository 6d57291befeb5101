import GraphicsBlock.Proofs.Fields
import GraphicsBlock.Words.Control
import GraphicsBlock.Words.FillValue
import GraphicsBlock.Words.Size
import GraphicsBlock.Words.TransferFlags
import Mathlib.Logic.Function.Basic

namespace GraphicsBlock

inductive PartKind
  | flag
  | half
  | code

namespace PartKind

@[reducible] def Value : PartKind → Type
  | .flag => Bool
  | .half => BitVec 16
  | .code => Word

def encode : (k : PartKind) → k.Value → Word
  | .flag, set => if set then 1 else 0
  | .half, value => value.setWidth 32
  | .code, value => value

def decode : (k : PartKind) → Word → k.Value
  | .flag, word => word != 0
  | .half, word => word.setWidth 16
  | .code, word => word

theorem decode_encode (k : PartKind) (value : k.Value) : k.decode (k.encode value) = value := by
  cases k with
  | flag => cases value <;> rfl
  | half =>
    change (BitVec.setWidth 32 value).setWidth 16 = value
    rw [BitVec.setWidth_setWidth_of_le _ (by decide), BitVec.setWidth_eq]
  | code => rfl

end PartKind

/-- A type of words with named parts. A part with a ceiling refuses what is larger; the others take
every value of their type. -/
class Composite (T : Type) where
  Part : Type
  decEq : DecidableEq Part := by infer_instance
  kind : Part → PartKind
  field : Part → BitField
  ceiling : Part → Option Nat
  raw : T → Word
  ofRaw : Word → T
  get : T → (p : Part) → (kind p).Value
  set : T → (p : Part) → (kind p).Value → Except RegisterFault T

namespace Composite

instance (T : Type) [Composite T] : DecidableEq (Part T) := decEq

section

variable {T : Type} [Composite T]

def bits (p : Part T) (value : (kind p).Value) : Word := (kind p).encode value

def accepts (p : Part T) (value : (kind p).Value) : Bool :=
  (ceiling p).all ((bits p value).toNat ≤ ·)

structure SetCall (T : Type) [Composite T] where
  part : Part T
  value : (kind part).Value

/-- The word after the call of a setter. One that is refused assigns nothing. -/
def attempt (t : T) (call : SetCall T) : T :=
  match set t call.part call.value with
  | .ok next => next
  | .error _ => t

def attemptAll (t : T) (calls : List (SetCall T)) : T := calls.foldl attempt t

def given? (p : Part T) (call : SetCall T) : Option (kind p).Value :=
  if h : call.part = p then
    if accepts call.part call.value then some (h ▸ call.value) else none
  else none

def lastAccepted (p : Part T) (calls : List (SetCall T)) : Option (kind p).Value :=
  (calls.filterMap (given? p)).getLast?

end

/-- Parts lie side by side, are read where they lie, and are set there by values that fit. -/
class Lawful (T : Type) [Composite T] : Prop where
  raw_ofRaw : ∀ word : Word, raw (ofRaw word : T) = word
  disjoint : ∀ p q : Part T, p ≠ q → (field p).Disjoint (field q)
  get_eq : ∀ (t : T) (p : Part T), get t p = (kind p).decode ((field p).extract (raw t))
  set_eq : ∀ (t : T) (p : Part T) (value : (kind p).Value),
    set t p value =
      if accepts p value then .ok (ofRaw ((field p).deposit (raw t) (bits p value)))
      else .error (.fieldOverflow (bits p value) (field p).width)
  le_mask : ∀ (p : Part T) (value : (kind p).Value), accepts p value = true →
    bits p value ≤ (field p).mask

namespace Lawful

variable {T : Type} [Composite T] [Lawful T] {t next : T} {p q : Part T} {value : (kind p).Value}

theorem set_of_accepts (t : T) (h : accepts p value = true) :
    set t p value = .ok (ofRaw ((field p).deposit (raw t) (bits p value))) := by
  rw [set_eq, if_pos h]

theorem set_of_refuses (t : T) (h : accepts p value = false) :
    set t p value = .error (.fieldOverflow (bits p value) (field p).width) := by
  rw [set_eq, if_neg (ne_true_of_eq_false h)]

theorem raw_of_set (h : set t p value = .ok next) :
    accepts p value = true ∧ raw next = (field p).deposit (raw t) (bits p value) := by
  cases fits : accepts p value with
  | false => cases (set_of_refuses t fits).symm.trans h
  | true =>
    cases (set_of_accepts t fits).symm.trans h
    exact ⟨rfl, raw_ofRaw _⟩

theorem set_eq_error_iff {fault : RegisterFault} :
    set t p value = .error fault ↔ ∃ top, ceiling p = some top ∧ top < (bits p value).toNat ∧
      fault = .fieldOverflow (bits p value) (field p).width := by
  have refused : accepts p value = false ↔
      ∃ top, ceiling p = some top ∧ top < (bits p value).toNat := by
    cases h : ceiling p <;> simp [accepts, h]
  cases fits : accepts p value with
  | false =>
    obtain ⟨top, limit, exceeds⟩ := refused.1 fits
    simp [set_of_refuses t fits, limit, exceeds, eq_comm]
  | true =>
    constructor
    · intro h
      cases (set_of_accepts t fits).symm.trans h
    · rintro ⟨top, limit, exceeds, _⟩
      cases fits.symm.trans (refused.2 ⟨top, limit, exceeds⟩)

theorem get_of_set (h : set t p value = .ok next) : get next p = value := by
  obtain ⟨fits, stored⟩ := raw_of_set h
  rw [get_eq, stored, BitField.extract_deposit, BitField.and_mask_of_le (le_mask p value fits)]
  exact (kind p).decode_encode value

theorem get_of_set_of_ne (h : set t p value = .ok next) (ne : p ≠ q) : get next q = get t q := by
  rw [get_eq, (raw_of_set h).2, BitField.extract_deposit_of_disjoint (disjoint p q ne), get_eq]

theorem getLsbD_of_set (h : set t p value = .ok next) {i : Nat}
    (spared : ¬((field p).offset ≤ i ∧ i < (field p).offset + (field p).width)) :
    (raw next).getLsbD i = (raw t).getLsbD i := by
  rw [(raw_of_set h).2, BitField.getLsbD_deposit, if_neg spared]

theorem attempt_of_refuses (t : T) (h : accepts p value = false) : attempt t ⟨p, value⟩ = t := by
  simp only [attempt, set_of_refuses t h]

theorem get_attempt (t : T) (call : SetCall T) (q : Part T) :
    get (attempt t call) q = (given? q call).getD (get t q) := by
  obtain ⟨p, value⟩ := call
  cases fits : accepts p value with
  | false => simp [attempt_of_refuses t fits, given?, fits]
  | true =>
    obtain ⟨next, stored⟩ : ∃ next, set t p value = .ok next := ⟨_, set_of_accepts t fits⟩
    simp only [attempt, stored]
    by_cases same : p = q
    · subst same
      simp [given?, fits, get_of_set stored]
    · simp [given?, same, get_of_set_of_ne stored same]

theorem get_attemptAll (t : T) (calls : List (SetCall T)) (q : Part T) :
    get (attemptAll t calls) q = (lastAccepted q calls).getD (get t q) := by
  induction calls generalizing t with
  | nil => rfl
  | cons call calls ih =>
    have later := ih (attempt t call)
    rw [get_attempt, lastAccepted] at later
    rw [lastAccepted, List.filterMap_cons]
    cases given : given? q call with
    | none =>
      rw [given] at later
      exact later
    | some value =>
      rw [given] at later
      rw [List.getLast?_cons]
      exact later

theorem getLsbD_attempt (t : T) (call : SetCall T) {i : Nat}
    (spared : ∀ p : Part T, ¬((field p).offset ≤ i ∧ i < (field p).offset + (field p).width)) :
    (raw (attempt t call)).getLsbD i = (raw t).getLsbD i := by
  cases stored : set t call.part call.value with
  | error => simp only [attempt, stored]
  | ok next =>
    simp only [attempt, stored]
    exact getLsbD_of_set stored (spared call.part)

theorem getLsbD_attemptAll (t : T) (calls : List (SetCall T)) {i : Nat}
    (spared : ∀ p : Part T, ¬((field p).offset ≤ i ∧ i < (field p).offset + (field p).width)) :
    (raw (attemptAll t calls)).getLsbD i = (raw t).getLsbD i := by
  induction calls generalizing t with
  | nil => rfl
  | cons call calls ih => exact (ih (attempt t call)).trans (getLsbD_attempt t call spared)

end Lawful

/-- After any calls of its setters a word holds in each part what the part was last given, and
between its parts what it held before. What exceeds the ceiling of its part is refused. -/
structure Remembers (T : Type) [Composite T] : Prop where
  get_eq : ∀ (t : T) (calls : List (SetCall T)) (p : Part T),
    get (attemptAll t calls) p = (lastAccepted p calls).getD (get t p)
  spared : ∀ (t : T) (calls : List (SetCall T)) (i : Nat),
    (∀ p : Part T, ¬((field p).offset ≤ i ∧ i < (field p).offset + (field p).width)) →
      (raw (attemptAll t calls)).getLsbD i = (raw t).getLsbD i
  refused : ∀ (t : T) (p : Part T) (value : (kind p).Value) (fault : RegisterFault),
    set t p value = .error fault ↔ ∃ top, ceiling p = some top ∧ top < (bits p value).toNat ∧
      fault = .fieldOverflow (bits p value) (field p).width
  unchanged : ∀ (t : T) (call : SetCall T) (fault : RegisterFault),
    set t call.part call.value = .error fault → attempt t call = t

theorem Lawful.remembers (T : Type) [Composite T] [Lawful T] : Remembers T where
  get_eq := get_attemptAll
  spared t calls _ between := getLsbD_attemptAll t calls between
  refused _ _ _ _ := set_eq_error_iff
  unchanged t call fault refused := by simp only [attempt, refused]

end Composite

open Composite

instance : Composite FillControl where
  Part := FillControl.Flag
  kind _ := .flag
  field := FillControl.Flag.field
  ceiling _ := none
  raw := FillControl.raw
  ofRaw := FillControl.mk
  get c flag := c.get flag
  set c flag value := .ok (c.set flag value)

inductive TransferPart
  | flag (flag : TransferFlags.Flag)
  | code (code : TransferFlags.Code)
  deriving DecidableEq

def TransferFlags.Code.ceiling : TransferFlags.Code → Nat
  | .inputFormat | .outputFormat => 7
  | .scalingMode => 3

def TransferPart.kind : TransferPart → PartKind
  | .flag _ => .flag
  | .code _ => .code

instance : Composite TransferFlags where
  Part := TransferPart
  kind := TransferPart.kind
  field
    | .flag flag => flag.field
    | .code code => code.field
  ceiling
    | .flag _ => none
    | .code code => some code.ceiling
  raw := TransferFlags.raw
  ofRaw := TransferFlags.mk
  get
    | t, .flag flag => t.get flag
    | t, .code code => t.code code
  set
    | t, .flag flag, value => .ok (t.set flag value)
    | t, .code code, value => t.setCode code value

inductive Side
  | width
  | height
  deriving DecidableEq

instance : Composite Extent where
  Part := Side
  kind _ := .half
  field
    | .width => lowHalf
    | .height => highHalf
  ceiling _ := none
  raw := Extent.raw
  ofRaw := Extent.mk
  get
    | e, .width => e.width
    | e, .height => e.height
  set
    | e, .width, value => .ok (e.setWidth value)
    | e, .height, value => .ok (e.setHeight value)

instance : Composite FramebufferSelect where
  Part := Unit
  kind _ := .flag
  field _ := FramebufferSelect.secondField
  ceiling _ := none
  raw := FramebufferSelect.raw
  ofRaw := FramebufferSelect.mk
  get s _ := s.second
  set s _ value := .ok (s.setSecond value)

instance : Composite CommandTrigger where
  Part := Unit
  kind _ := .flag
  field _ := CommandTrigger.field
  ceiling _ := none
  raw := CommandTrigger.raw
  ofRaw := CommandTrigger.mk
  get t _ := t.trigger
  set t _ value := .ok (t.setTrigger value)

instance : Lawful FillControl where
  raw_ofRaw _ := rfl
  disjoint p q ne := by cases p <;> cases q <;> first | contradiction | decide
  get_eq _ _ := rfl
  set_eq _ _ _ := rfl
  le_mask p value _ := by cases p <;> cases value <;> decide

theorem TransferFlags.Code.le_mask_iff (c : TransferFlags.Code) (value : Word) :
    value ≤ c.field.mask ↔ value.toNat ≤ c.ceiling := by
  cases c <;> exact Iff.rfl

theorem TransferFlags.setCode_eq (t : TransferFlags) (c : TransferFlags.Code) (value : Word) :
    t.setCode c value =
      if value.toNat ≤ c.ceiling then .ok ⟨c.field.deposit t.raw value⟩
      else .error (.fieldOverflow value c.field.width) := by
  unfold setCode BitField.insert
  by_cases fits : value.toNat ≤ c.ceiling
  · rw [if_pos ((c.le_mask_iff value).2 fits), if_pos fits]
    rfl
  · rw [if_neg (mt (c.le_mask_iff value).1 fits), if_neg fits]
    rfl

instance : Lawful TransferFlags where
  raw_ofRaw _ := rfl
  disjoint p q ne := by
    rcases p with p | p <;> rcases q with q | q <;> cases p <;> cases q <;>
      first | contradiction | decide
  get_eq t p := by cases p <;> rfl
  set_eq t p value := by
    cases p with
    | flag => rfl
    | code c =>
      refine (t.setCode_eq c value).trans ?_
      change _ = if decide (value.toNat ≤ c.ceiling) = true then _ else _
      by_cases fits : value.toNat ≤ c.ceiling
      · rw [if_pos fits, if_pos (decide_eq_true fits)]
        rfl
      · rw [if_neg fits, if_neg (by simpa using fits)]
        rfl
  le_mask p value fits := by
    cases p with
    | flag flag => cases flag <;> cases value <;> decide
    | code c => exact (c.le_mask_iff value).2 (of_decide_eq_true fits)

theorem setWidth_le_mask {f : BitField} (h : 16 ≤ f.width) (value : BitVec 16) :
    value.setWidth 32 ≤ f.mask := by
  rw [BitField.le_mask_iff, BitVec.toNat_setWidth_of_le (by decide)]
  exact Nat.lt_of_lt_of_le value.isLt (Nat.pow_le_pow_right (by decide) h)

instance : Lawful Extent where
  raw_ofRaw _ := rfl
  disjoint p q ne := by cases p <;> cases q <;> first | contradiction | decide
  get_eq t p := by cases p <;> rfl
  set_eq t p value := by cases p <;> rfl
  le_mask p value _ := by
    cases p with
    | width => exact setWidth_le_mask (Nat.le_refl 16) value
    | height => exact setWidth_le_mask (Nat.le_refl 16) value

instance : Lawful FramebufferSelect where
  raw_ofRaw _ := rfl
  disjoint _ _ ne := absurd rfl ne
  get_eq _ _ := rfl
  set_eq _ _ _ := rfl
  le_mask _ value _ := by
    change PartKind.flag.encode value ≤ FramebufferSelect.secondField.mask
    cases value <;> decide

instance : Lawful CommandTrigger where
  raw_ofRaw _ := rfl
  disjoint _ _ ne := absurd rfl ne
  get_eq _ _ := rfl
  set_eq _ _ _ := rfl
  le_mask _ value _ := by
    change PartKind.flag.encode value ≤ CommandTrigger.field.mask
    cases value <;> decide

namespace FillValue

inductive SetCall
  | half (value : BitVec 16)
  | components (red green blue : BitVec 8)

def attempt (v : FillValue) : SetCall → FillValue
  | .half value => v.setHalf value
  | .components red green blue => v.setComponents red green blue

def bytes (v : FillValue) (place : Fin 4) : BitVec 8 := v.raw.extractLsb' (8 * place) 8

/-- The bytes that a call covers, with what it puts there. -/
def SetCall.overwrites : SetCall → List (Fin 4 × BitVec 8)
  | .half value => [(0, value.extractLsb' 0 8), (1, value.extractLsb' 8 8)]
  | .components red green blue => [(0, red), (1, green), (2, blue)]

def overwrite (bytes : Fin 4 → BitVec 8) (entries : List (Fin 4 × BitVec 8)) : Fin 4 → BitVec 8 :=
  entries.foldl (fun bytes entry => Function.update bytes entry.1 entry.2) bytes

def Component.place : Component → Fin 4
  | .red => 0
  | .green => 1
  | .blue => 2

theorem Component.offset_field (c : Component) : c.field.offset = 8 * c.place := by
  cases c <;> rfl

theorem Component.width_field (c : Component) : c.field.width = 8 := by
  cases c <;> rfl

theorem bytes_place (v : FillValue) (c : Component) : v.bytes c.place = v.component c := by
  rw [component_eq, c.offset_field, bytes]

theorem bytes_setComponent (v : FillValue) (c : Component) (value : BitVec 8) :
    (v.setComponent c value).bytes = Function.update v.bytes c.place value := by
  funext place
  apply BitVec.eq_of_getLsbD_eq
  intro i inside
  rw [bytes, setComponent, BitVec.getLsbD_extractLsb', BitField.getLsbD_deposit, c.offset_field,
    c.width_field, decide_eq_true inside, Bool.true_and]
  by_cases same : place = c.place
  · subst same
    have within : i < 32 := by omega
    rw [if_pos (by omega), Function.update_self, Nat.add_sub_cancel_left, BitVec.getLsbD_setWidth,
      decide_eq_true within, Bool.true_and]
  · have apart : place.val ≠ c.place.val := fun h => same (Fin.ext h)
    rw [if_neg (by omega), Function.update_of_ne same, bytes, BitVec.getLsbD_extractLsb',
      decide_eq_true inside, Bool.true_and]

theorem setHalf_eq (v : FillValue) (value : BitVec 16) :
    v.setHalf value = (v.setComponent .red (value.extractLsb' 0 8)).setComponent .green
      (value.extractLsb' 8 8) := by
  apply congrArg FillValue.mk
  apply BitVec.eq_of_getLsbD_eq
  intro i inside
  change _ = (Component.green.field.deposit (Component.red.field.deposit _ _) _).getLsbD i
  simp only [BitField.getLsbD_deposit, halfField, Component.field, BitVec.getLsbD_setWidth,
    BitVec.getLsbD_extractLsb']
  by_cases low : i < 8
  · have half : i < 16 := by omega
    have first : ¬8 ≤ i := by omega
    simp [low, half, first, inside]
  · by_cases half : i < 16
    · have second : 8 ≤ i ∧ i < 8 + 8 := by omega
      have shift : i - 8 < 8 ∧ 8 + (i - 8) = i := by omega
      simp [half, second, shift, inside]
      omega
    · simp [low, half]

theorem bytes_attempt (v : FillValue) (call : SetCall) :
    (v.attempt call).bytes = overwrite v.bytes call.overwrites := by
  cases call with
  | half value =>
    rw [attempt, setHalf_eq, bytes_setComponent, bytes_setComponent]
    rfl
  | components red green blue =>
    rw [attempt, setComponents, bytes_setComponent, bytes_setComponent, bytes_setComponent]
    rfl

theorem bytes_foldl_attempt (v : FillValue) (calls : List SetCall) :
    (calls.foldl attempt v).bytes = overwrite v.bytes (calls.flatMap SetCall.overwrites) := by
  induction calls generalizing v with
  | nil => rfl
  | cons call calls ih =>
    rw [List.foldl_cons, ih, bytes_attempt, List.flatMap_cons, overwrite, overwrite, overwrite,
      List.foldl_append]

theorem raw_eq (v : FillValue) : v.raw = v.bytes 3 ++ v.bytes 2 ++ v.bytes 1 ++ v.bytes 0 := by
  apply BitVec.eq_of_getLsbD_eq
  intro i inside
  simp only [BitVec.getLsbD_append, bytes, BitVec.getLsbD_extractLsb']
  grind

theorem half_eq_append (v : FillValue) : v.half = v.component .green ++ v.component .red := by
  rw [half_eq, component_eq, component_eq]
  change v.raw.extractLsb' 0 (8 + 8) = v.raw.extractLsb' (0 + 8) 8 ++ v.raw.extractLsb' 0 8
  exact (BitVec.extractLsb'_append_extractLsb'_eq_extractLsb' (h := rfl)).symm

theorem getLsbD_setComponent (v : FillValue) (c : Component) (value : BitVec 8) {i : Nat}
    (high : 24 ≤ i) : (v.setComponent c value).raw.getLsbD i = v.raw.getLsbD i := by
  rw [setComponent, BitField.getLsbD_deposit, if_neg]
  cases c <;> simp only [Component.field] <;> omega

theorem getLsbD_attempt (v : FillValue) (call : SetCall) {i : Nat} (high : 24 ≤ i) :
    (v.attempt call).raw.getLsbD i = v.raw.getLsbD i := by
  cases call with
  | half value => rw [attempt, setHalf_eq, getLsbD_setComponent _ _ _ high,
      getLsbD_setComponent _ _ _ high]
  | components red green blue => rw [attempt, setComponents, getLsbD_setComponent _ _ _ high,
      getLsbD_setComponent _ _ _ high, getLsbD_setComponent _ _ _ high]

theorem getLsbD_foldl_attempt (v : FillValue) (calls : List SetCall) {i : Nat} (high : 24 ≤ i) :
    (calls.foldl attempt v).raw.getLsbD i = v.raw.getLsbD i := by
  induction calls generalizing v with
  | nil => rfl
  | cons call calls ih => exact (ih (v.attempt call)).trans (v.getLsbD_attempt call high)

end FillValue

/-- The words whose parts lie side by side remember what they were given. The codes of the transfer
flags have the ceilings 7, 7 and 3, and what is decoded from a part follows it. A fill value is its
bytes, and calls of its setters overwrite them in order, the highest never. -/
theorem sets_remembered :
    Remembers FillControl ∧ Remembers TransferFlags ∧ Remembers Extent ∧
    Remembers FramebufferSelect ∧ Remembers CommandTrigger ∧
    (∀ (t : TransferFlags) (c : TransferFlags.Code) (value : Word) (fault : RegisterFault),
      t.setCode c value = .error fault ↔
        c.ceiling < value.toNat ∧ fault = .fieldOverflow value c.field.width) ∧
    (∀ (t : TransferFlags) (calls : List (SetCall TransferFlags)),
      (attemptAll t calls).inputFormat = PixelFormat.ofCode?
        ((lastAccepted (TransferPart.code .inputFormat) calls).getD (t.code .inputFormat)) ∧
      (attemptAll t calls).outputFormat = PixelFormat.ofCode?
        ((lastAccepted (TransferPart.code .outputFormat) calls).getD (t.code .outputFormat))) ∧
    (∀ (s : FramebufferSelect) (calls : List (SetCall FramebufferSelect)),
      (attemptAll s calls).activeSet = if (lastAccepted () calls).getD s.second then 1 else 0) ∧
    (∀ (v : FillValue) (calls : List FillValue.SetCall),
      let later := calls.foldl FillValue.attempt v
      later.raw = later.bytes 3 ++ later.bytes 2 ++ later.bytes 1 ++ later.bytes 0 ∧
      later.bytes = FillValue.overwrite v.bytes (calls.flatMap FillValue.SetCall.overwrites) ∧
      (∀ c : FillValue.Component, later.component c = later.bytes c.place) ∧
      later.half = later.component .green ++ later.component .red ∧
      ∀ i, 24 ≤ i → later.raw.getLsbD i = v.raw.getLsbD i) := by
  refine ⟨Lawful.remembers _, Lawful.remembers _, Lawful.remembers _, Lawful.remembers _,
    Lawful.remembers _, ?_, ?_, ?_, ?_⟩
  · intro t c value fault
    rw [t.setCode_eq]
    by_cases fits : value.toNat ≤ c.ceiling
    · simp [fits, Nat.not_lt_of_le fits]
    · simp [fits, Nat.lt_of_not_le fits, eq_comm]
  · intro t calls
    exact ⟨congrArg PixelFormat.ofCode? (Lawful.get_attemptAll t calls (.code .inputFormat)),
      congrArg PixelFormat.ofCode? (Lawful.get_attemptAll t calls (.code .outputFormat))⟩
  · intro s calls
    exact congrArg (fun second : Bool => if second then 1 else 0)
      (Lawful.get_attemptAll s calls ())
  · intro v calls later
    exact ⟨later.raw_eq, v.bytes_foldl_attempt calls, fun c => (later.bytes_place c).symm,
      later.half_eq_append, fun _ high => v.getLsbD_foldl_attempt calls high⟩

end GraphicsBlock

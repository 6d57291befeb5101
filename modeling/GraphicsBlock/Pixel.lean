import GraphicsBlock.BitField

namespace GraphicsBlock

inductive PixelFormat
  | rgba8
  | rgb8
  | rgb565
  | rgba5551
  | rgba4
  deriving DecidableEq

namespace PixelFormat

def all : List PixelFormat := [.rgba8, .rgb8, .rgb565, .rgba5551, .rgba4]

def code : PixelFormat → Nat
  | .rgba8 => 0
  | .rgb8 => 1
  | .rgb565 => 2
  | .rgba5551 => 3
  | .rgba4 => 4

def ofCode? (code : Word) : Except RegisterFault PixelFormat :=
  match all[code.toNat]? with
  | some format => .ok format
  | none => .error (.undefinedFormat code)

def bytesPerPixel : PixelFormat → Nat
  | .rgba8 => 4
  | .rgb8 => 3
  | .rgb565 | .rgba5551 | .rgba4 => 2

def name : PixelFormat → String
  | .rgba8 => "RGBA8"
  | .rgb8 => "RGB8"
  | .rgb565 => "RGB565"
  | .rgba5551 => "RGBA5551"
  | .rgba4 => "RGBA4"

def outline : PixelFormat → Text.Outline
  | .rgba8 => .plain "Rgba8"
  | .rgb8 => .plain "Rgb8"
  | .rgb565 => .plain "Rgb565"
  | .rgba5551 => .plain "Rgba5551"
  | .rgba4 => .plain "Rgba4"

@[simp] theorem ofCode?_code (f : PixelFormat) : ofCode? (BitVec.ofNat 32 f.code) = .ok f := by
  cases f <;> rfl

theorem code_lt (f : PixelFormat) : f.code < 5 := by
  cases f <;> decide

theorem getElem?_all {n : Nat} {f : PixelFormat} (h : all[n]? = some f) : f.code = n := by
  match n with
  | 0 | 1 | 2 | 3 | 4 => cases h; rfl
  | n + 5 => cases h

theorem ofCode?_eq_ok_iff {code : Word} {f : PixelFormat} :
    ofCode? code = .ok f ↔ f.code = code.toNat := by
  constructor
  · intro h
    unfold ofCode? at h
    split at h
    · next format at_code =>
      cases h
      exact getElem?_all at_code
    · cases h
  · intro h
    rw [show code = BitVec.ofNat 32 f.code by rw [h, BitVec.ofNat_toNat, BitVec.setWidth_eq]]
    exact ofCode?_code f

theorem ofCode?_eq_error_iff {code : Word} {fault : RegisterFault} :
    ofCode? code = .error fault ↔ 5 ≤ code.toNat ∧ fault = .undefinedFormat code := by
  unfold ofCode?
  cases at_code : all[code.toNat]? with
  | some format =>
    have known : code.toNat < 5 := getElem?_all at_code ▸ format.code_lt
    simp [Nat.not_le_of_lt known]
  | none =>
    have unknown : 5 ≤ code.toNat := List.getElem?_eq_none_iff.1 at_code
    simp [unknown, eq_comm]

end PixelFormat

structure FramebufferFormat where
  raw : Word
  deriving DecidableEq

namespace FramebufferFormat

def selector : BitField := .mk 0 3

def code (f : FramebufferFormat) : Word := selector.extract f.raw

def pixelFormat (f : FramebufferFormat) : Except RegisterFault PixelFormat :=
  PixelFormat.ofCode? f.code

def outline (f : FramebufferFormat) : Text.Outline := .tuple "FramebufferFormat" [.nat f.raw.toNat]

end FramebufferFormat

end GraphicsBlock

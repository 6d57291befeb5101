import GraphicsBlock.Proofs.Faults
import GraphicsBlock.Proofs.Fields
import Mathlib.Algebra.BigOperators.Intervals

namespace GraphicsBlock

/-- The first bit of a lane as it is computed on words: the address in its word, with the bits below
the access size cleared. -/
def laneStart (w : Width) (address : Address) : Word :=
  (address % 4#32 &&& ~~~(BitVec.ofNat 32 w.bytes - 1#32)) * 8#32

def byteAddress (w : Width) (address : Address) (k : Nat) : Address :=
  BitVec.ofNat 32 (address.toNat / w.bytes * w.bytes + k)

example : (List.range 4).map (byteAddress .full 0x3FFF#32) =
    [0x3FFC#32, 0x3FFD#32, 0x3FFE#32, 0x3FFF#32] := by decide

theorem Width.bytes_pos (w : Width) : 0 < w.bytes := by
  cases w <;> decide

theorem toNat_laneStart (w : Width) (address : Address) :
    (laneStart w address).toNat = (lane w address).offset := by
  have cases : ∀ r < 4, ((BitVec.ofNat 32 r &&& ~~~(BitVec.ofNat 32 w.bytes - 1#32)) * 8#32).toNat =
      r / w.bytes * w.bytes * 8 := by cases w <;> decide
  have small : address.toNat % 4 < 2 ^ 32 := by omega
  have rest : address % 4#32 = BitVec.ofNat 32 (address.toNat % 4) :=
    BitVec.eq_of_toNat_eq (Nat.mod_eq_of_lt small).symm
  rw [laneStart, rest, cases _ (Nat.mod_lt _ (by decide))]
  rfl

theorem declare_laneStart (w : Width) (address : Address) :
    BitField.declare (laneStart w address) (BitVec.ofNat 32 w.bits) = .ok (lane w address) := by
  rw [BitField.declare_eq_ok_iff, BitField.ofBounds?_eq_ok_iff, toNat_laneStart]
  cases w <;> exact ⟨rfl, rfl⟩

theorem lane_congr (w : Width) {a b : Address} (h : a.toNat % 4 = b.toNat % 4) :
    lane w a = lane w b := by
  simp only [lane, laneByte, h]

theorem lane_eq_or_disjoint (w : Width) (a b : Address) :
    lane w a = lane w b ∨ (lane w a).Disjoint (lane w b) := by
  by_cases same : laneByte w a = laneByte w b
  · exact .inl (by simp only [lane, same])
  · right
    change laneByte w a * 8 + w.bits ≤ laneByte w b * 8 ∨
      laneByte w b * 8 + w.bits ≤ laneByte w a * 8
    cases w <;> simp only [laneByte, Width.bytes, Width.bits] at same ⊢ <;> omega

theorem exists_lane_offset (w : Width) (address : Address) :
    ∃ byte, (lane w address).offset = 8 * byte ∧ (lane w address).width = 8 * w.bytes ∧
      w.bytes ∣ byte ∧ byte ≤ address.toNat % 4 ∧ address.toNat % 4 < byte + w.bytes := by
  refine ⟨laneByte w address, Nat.mul_comm _ 8, ?_, Nat.dvd_mul_left _ _,
    Nat.div_mul_le_self _ _, Nat.lt_div_mul_add w.bytes_pos⟩
  cases w <;> rfl

theorem getLsbD_laneMask_of_lt (w : Width) {i : Nat} (h : i < 32) :
    (laneMask w (BitVec.ofNat 32 (i / 8))).getLsbD i = true := by
  have place : (BitVec.ofNat 32 (i / 8)).toNat = i / 8 := by
    rw [BitVec.toNat_ofNat, Nat.mod_eq_of_lt (by omega)]
  have start : (lane w (BitVec.ofNat 32 (i / 8))).offset = i / 8 % 4 / w.bytes * w.bytes * 8 :=
    congrArg (· % 4 / w.bytes * w.bytes * 8) place
  rw [getLsbD_laneMask, start, ← Bool.decide_and]
  apply decide_eq_true
  cases w <;> simp only [Width.bytes, Width.bits] <;> omega

@[simp] theorem readLane_mergeLane (w : Width) (address : Address) (word : Word)
    (value : BitVec w.bits) : readLane w address (mergeLane w address word value) = value := by
  apply BitVec.eq_of_getLsbD_eq
  intro i inside
  rw [getLsbD_readLane w address _ inside, getLsbD_mergeLane, if_pos (by omega),
    Nat.add_sub_cancel_left]

@[simp] theorem mergeLane_readLane (w : Width) (address : Address) (word : Word) :
    mergeLane w address word (readLane w address word) = word := by
  apply BitVec.eq_of_getLsbD_eq
  intro i _
  rw [getLsbD_mergeLane]
  split
  · next covered =>
    rw [getLsbD_readLane w address _ (by omega), Nat.add_sub_of_le covered.1]
  · rfl

theorem toNat_readLane (w : Width) (address : Address) (word : Word) :
    (readLane w address word).toNat = word.toNat / 2 ^ (lane w address).offset % 2 ^ w.bits := by
  rw [readLane, BitVec.toNat_setWidth, BitField.toNat_extract_eq_mod]
  exact Nat.mod_mod _ _

theorem mod_pow_eq_sum (x base n : Nat) :
    x % base ^ n = ∑ k ∈ Finset.range n, x / base ^ k % base * base ^ k := by
  induction n with
  | zero => rw [Finset.sum_range_zero, Nat.pow_zero, Nat.mod_one]
  | succ n ih => rw [Nat.mod_pow_succ, ih, Finset.sum_range_succ, Nat.mul_comm (base ^ n)]

theorem toNat_byteAddress (w : Width) (address : Address) {k : Nat} (h : k < w.bytes) :
    (byteAddress w address k).toNat = address.toNat / w.bytes * w.bytes + k := by
  have bound := address.isLt
  rw [byteAddress, BitVec.toNat_ofNat, Nat.mod_eq_of_lt]
  cases w <;> simp only [Width.bytes] at h ⊢ <;> omega

theorem offset_lane_byteAddress (w : Width) (address : Address) {k : Nat} (h : k < w.bytes) :
    (lane .byte (byteAddress w address k)).offset = (lane w address).offset + 8 * k := by
  change (byteAddress w address k).toNat % 4 / 1 * 1 * 8 =
    address.toNat % 4 / w.bytes * w.bytes * 8 + 8 * k
  rw [toNat_byteAddress w address h]
  cases w <;> simp only [Width.bytes] at h ⊢ <;> omega

theorem div_byteAddress (w : Width) (address : Address) {k : Nat} (h : k < w.bytes) :
    (byteAddress w address k).toNat / 4 = address.toNat / 4 := by
  rw [toNat_byteAddress w address h]
  cases w <;> simp only [Width.bytes] at h ⊢ <;> omega

theorem wordIndex?_byteAddress (w : Width) (address : Address) {k : Nat} (h : k < w.bytes) :
    wordIndex? (byteAddress w address k) = wordIndex? address := by
  simp only [wordIndex?, div_byteAddress w address h]

theorem toNat_readLane_eq_sum (w : Width) (address : Address) (word : Word) :
    (readLane w address word).toNat = ∑ k ∈ Finset.range w.bytes,
      (readLane .byte (byteAddress w address k) word).toNat * 256 ^ k := by
  have whole : 2 ^ w.bits = 256 ^ w.bytes := by cases w <;> rfl
  rw [toNat_readLane, whole, mod_pow_eq_sum]
  apply Finset.sum_congr rfl
  intro k mem
  have shift : 2 ^ (8 * k) = 256 ^ k := Nat.pow_mul 2 8 k
  rw [toNat_readLane, offset_lane_byteAddress w address (Finset.mem_range.1 mem), Nat.pow_add,
    shift, Nat.div_div_eq_div_mul]
  rfl

namespace Session

variable {E : Type} {s : Session E} {w : Width} {address : Address}

theorem read_eq_ok_iff {value : BitVec w.bits} :
    (s.read w address).result = .ok value ↔
      ∃ i, wordIndex? address = .ok i ∧ value = readLane w address (s.machine.file.get i) := by
  cases addressed : wordIndex? address with
  | error fault => simp [read, Machine.read, addressed]
  | ok i => simp [read, Machine.read, addressed, eq_comm]

theorem read_byteAddress {k : Nat} (h : k < w.bytes) {i : WordIndex}
    (addressed : wordIndex? address = .ok i) :
    (s.read .byte (byteAddress w address k)).result =
      .ok (readLane .byte (byteAddress w address k) (s.machine.file.get i)) :=
  read_eq_ok_iff.2 ⟨i, (wordIndex?_byteAddress w address h).trans addressed, rfl⟩

theorem read_eq_ok_iff_bytes {value : BitVec w.bits} :
    (s.read w address).result = .ok value ↔ ∃ bytes : Nat → BitVec 8,
      (∀ k < w.bytes, (s.read .byte (byteAddress w address k)).result = .ok (bytes k)) ∧
      value.toNat = ∑ k ∈ Finset.range w.bytes, (bytes k).toNat * 256 ^ k := by
  constructor
  · intro h
    obtain ⟨i, addressed, rfl⟩ := read_eq_ok_iff.1 h
    exact ⟨_, fun k inside => read_byteAddress inside addressed, toNat_readLane_eq_sum ..⟩
  · rintro ⟨bytes, reads, sum⟩
    obtain ⟨i, first, _⟩ := read_eq_ok_iff.1 (reads 0 w.bytes_pos)
    have addressed := (wordIndex?_byteAddress w address w.bytes_pos).symm.trans first
    refine read_eq_ok_iff.2 ⟨i, addressed, BitVec.eq_of_toNat_eq ?_⟩
    rw [sum, toNat_readLane_eq_sum]
    apply Finset.sum_congr rfl
    intro k mem
    have inside := Finset.mem_range.1 mem
    have same := (reads k inside).symm.trans (read_byteAddress inside addressed)
    rw [Except.ok.inj same]

theorem read_eq_error_iff_bytes {fault : BusFault} :
    (s.read w address).result = .error fault ↔
      ∀ k < w.bytes, (s.read .byte (byteAddress w address k)).result = .error fault := by
  have same {k : Nat} (inside : k < w.bytes) :
      (s.read .byte (byteAddress w address k)).result = .error fault ↔
        (s.read w address).result = .error fault := by
    have word := div_byteAddress w address inside
    have far : 0x4000 ≤ (byteAddress w address k).toNat ↔ 0x4000 ≤ address.toNat := by omega
    rw [read_eq_error_iff, read_eq_error_iff, far, word]
  exact ⟨fun h k inside => (same inside).2 h, fun h => (same w.bytes_pos).1 (h 0 w.bytes_pos)⟩

end Session

/-- A lane is a field of its word, whatever the address, and only the address in the word counts.
The lanes of a width are apart or the same and leave no bit out. Reading a lane and merging into it
are a lens. An access is its bytes, in a lane and in a read of the block: the read gives the number
with those digits, and fails where their reads fail. -/
theorem lanes_divide_words (w : Width) :
    (∀ address : Address,
      BitField.declare (laneStart w address) (BitVec.ofNat 32 w.bits) = .ok (lane w address)) ∧
    (∀ address : Address, ∃ byte, (lane w address).offset = 8 * byte ∧
      (lane w address).width = 8 * w.bytes ∧ w.bytes ∣ byte ∧ byte ≤ address.toNat % 4 ∧
      address.toNat % 4 < byte + w.bytes) ∧
    (∀ a b : Address, a.toNat % 4 = b.toNat % 4 → lane w a = lane w b) ∧
    (∀ (address : Address) (word : Word) (value : BitVec w.bits),
      readLane w address (mergeLane w address word value) = value ∧
      mergeLane w address word (readLane w address word) = word ∧
      ∀ i, (laneMask w address).getLsbD i = false →
        (mergeLane w address word value).getLsbD i = word.getLsbD i) ∧
    (∀ a b : Address, lane w a = lane w b ∨ (lane w a).Disjoint (lane w b)) ∧
    (∀ i < 32, ∃ address : Address, (laneMask w address).getLsbD i = true) ∧
    (∀ (address : Address) (word : Word),
      (readLane w address word).toNat = ∑ k ∈ Finset.range w.bytes,
        (readLane .byte (byteAddress w address k) word).toNat * 256 ^ k) ∧
    (∀ (E : Type) (s : Session E) (address : Address),
      (address.toNat < windowBytes → ∃ value, (s.read w address).result = .ok value) ∧
      (∀ value, (s.read w address).result = .ok value ↔ ∃ bytes : Nat → BitVec 8,
        (∀ k < w.bytes, (s.read .byte (byteAddress w address k)).result = .ok (bytes k)) ∧
        value.toNat = ∑ k ∈ Finset.range w.bytes, (bytes k).toNat * 256 ^ k) ∧
      ∀ fault, (s.read w address).result = .error fault ↔
        ∀ k < w.bytes, (s.read .byte (byteAddress w address k)).result = .error fault) := by
  refine ⟨declare_laneStart w, exists_lane_offset w, fun _ _ => lane_congr w, ?_,
    lane_eq_or_disjoint w, fun i h => ⟨_, getLsbD_laneMask_of_lt w h⟩, toNat_readLane_eq_sum w, ?_⟩
  · intro address word value
    exact ⟨readLane_mergeLane w address word value, mergeLane_readLane w address word,
      fun i spared => getLsbD_mergeLane_of_not_mem spared word value⟩
  · intro E s address
    refine ⟨fun inside => ?_, fun value => Session.read_eq_ok_iff_bytes,
      fun fault => Session.read_eq_error_iff_bytes⟩
    have bound : address.toNat / 4 < wordCount := Nat.div_lt_of_lt_mul (Nat.mul_comm .. ▸ inside)
    exact ⟨_, Session.read_eq_ok_iff.2 ⟨⟨_, bound⟩, wordIndex?_eq_ok_iff.2 rfl, rfl⟩⟩

end GraphicsBlock

import GraphicsBlock.Proofs.Numeral
import GraphicsBlock.Replay

namespace GraphicsBlock

def OneLine (s : String) : Prop := '\n' ∉ s.toList

instance (s : String) : Decidable (OneLine s) := inferInstanceAs (Decidable (_ ∉ _))

namespace OneLine

theorem append_iff {s t : String} : OneLine (s ++ t) ↔ OneLine s ∧ OneLine t := by
  simp [OneLine, String.toList_append]

theorem toString_iff {s : String} : OneLine (toString s) ↔ OneLine s := .rfl

theorem notMem_toDigits {b : Nat} (low : 1 < b) (high : b ≤ 16) (n : Nat) :
    '\n' ∉ Nat.toDigits b n := by
  intro mem
  obtain ⟨d, digit, newline⟩ := Text.mem_toDigits low mem
  have digits : ∀ d < 16, '\n' ≠ Nat.digitChar d := by decide
  exact digits d (Nat.lt_of_lt_of_le digit high) newline

theorem toString_nat (n : Nat) : OneLine (toString n) := by
  change '\n' ∉ n.repr.toList
  rw [Nat.toList_repr]
  exact notMem_toDigits (by decide) (by decide) n

theorem toString_bool (b : Bool) : OneLine (toString b) := by
  cases b <;> decide

theorem hex (n : Nat) : OneLine (Text.hex n) := by
  refine append_iff.2 ⟨by decide, ?_⟩
  rw [OneLine, Text.hexDigits, String.toList_ofList]
  exact notMem_toDigits (by decide) (by decide) n

theorem hexPadded (digits n : Nat) : OneLine (Text.hexPadded digits n) := by
  refine append_iff.2 ⟨by decide, ?_⟩
  rw [OneLine, String.toList_ofList, List.leftpad, List.mem_append, List.mem_replicate]
  rintro (⟨_, zero⟩ | mem)
  · exact absurd zero (by decide)
  · exact notMem_toDigits (by decide) (by decide) n mem

theorem registerFault (fault : RegisterFault) : OneLine fault.message := by
  cases fault with
  | outOfRange | fieldOverflow | badGeometry | undefinedFormat =>
    unfold RegisterFault.message
    simp only [append_iff, toString_iff, toString_nat, hex, and_true]
    decide

theorem engine (e : Engine) : OneLine e.name := by
  rcases e with (_ | _) | _ | _ <;> decide +kernel

theorem busFault (fault : BusFault) : OneLine fault.message := by
  cases fault with
  | register fault => exact registerFault fault
  | invalidFillMode | inProgress =>
    unfold BusFault.message
    simp only [append_iff, toString_iff, toString_bool, engine, true_and, and_true]
    decide

theorem readLine {bits : Nat} (number : Nat) (address : Address)
    (result : Except BusFault (BitVec bits)) : OneLine (Replay.readLine number address result) := by
  cases result with
  | ok | error =>
    unfold Replay.readLine
    simp only [append_iff, toString_iff, toString_nat, hex, hexPadded, busFault, true_and, and_true]
    decide

theorem refusalLine {bits : Nat} (number : Nat) (address : Address) (value : BitVec bits)
    (fault : BusFault) : OneLine (Replay.refusalLine number address value fault) := by
  unfold Replay.refusalLine
  simp only [append_iff, toString_iff, toString_nat, hex, hexPadded, busFault, and_true]
  decide

end OneLine

end GraphicsBlock

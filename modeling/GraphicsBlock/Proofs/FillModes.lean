import GraphicsBlock.Proofs.Recoding

namespace GraphicsBlock

namespace FillControl

theorem width?_zeroSelects16 (c : FillControl)
    (h : c.width? .strict = none → ¬(c.get .fill24 = false ∧ c.get .fill32 = false)) :
    c.width? .zeroSelects16 = c.width? .strict := by
  unfold width? at h ⊢
  cases fill24 : c.get .fill24 <;> cases fill32 : c.get .fill32
  · exact absurd ⟨fill24, fill32⟩ (h (by rw [fill24, fill32]))
  all_goals rfl

theorem width?_of_both {c : FillControl} (fill24 : c.get .fill24 = true)
    (fill32 : c.get .fill32 = true) (mode : FillMode) : c.width? mode = none := by
  unfold width?
  rw [fill24, fill32]

end FillControl

theorem recodes_zeroSelects16 (settings : Settings) :
    Recodes { settings with fillMode := .strict } { settings with fillMode := .zeroSelects16 } id
      (· ≠ .invalidFillMode false false) where
  width c admitted := by
    apply c.width?_zeroSelects16
    rintro none ⟨fill24, fill32⟩
    apply admitted none
    rw [fill24, fill32]
  fill _ _ _ := rfl
  transfer _ := rfl
  commandList _ := rfl
  swap _ _ := rfl
  engine? _ := rfl

namespace Machine

variable {settings : Settings} {m : Machine} {s : Store} {accepted : Accepted} {unit : UnitId}

theorem Accepts.call_eq_none_of_both (h : Accepts settings m s accepted)
    (role : Role.at s.index = .trigger (.fill unit))
    (fill24 : (FillControl.mk s.merged).get .fill24 = true)
    (fill32 : (FillControl.mk s.merged).get .fill32 = true) : accepted.call = none := by
  cases h with
  | plain | fillRunning | fillIdle | transferRunning | transferIdle | commandRunning
  | commandIdle => rfl
  | fillLaunch _ _ _ width =>
    rw [← get_controlFor (by decide) m s] at fill24 fill32
    rw [FillControl.width?_of_both fill24 fill32] at width
    cases width
  | select other | transferLaunch other | commandLaunch other =>
    rw [role] at other
    cases other

end Machine

namespace Session

variable {E : Type} [Conduct E]

theorem call_eq_none_of_both (s : Session E) {unit : UnitId} {w : Width} {address : Address}
    {value : BitVec w.bits} (here : address.toNat / 4 = (Register.fill unit .control).index)
    (fill24 : (FillControl.mk (mergeLane w address
      (s.machine.file.register (.fill unit .control)) value)).get .fill24 = true)
    (fill32 : (FillControl.mk (mergeLane w address
      (s.machine.file.register (.fill unit .control)) value)).get .fill32 = true) :
    (s.write w address value).2.call = none := by
  cases written : s.machine.write s.settings w address value with
  | error => exact (write_of_error written).2.2
  | ok accepted =>
    obtain ⟨i, addressed, taken⟩ := Machine.accepts_of_write written
    cases (wordIndex?_eq_ok_iff.2 here).symm.trans addressed
    rw [(write_of_ok written).2.2]
    exact taken.call_eq_none_of_both (Role.at_trigger (.fill unit)) fill24 fill32

/-- A run in which the strict mode refuses no control word for having neither width bit takes the
same course if such words select 16 bits: each step gives the same answer, makes the same call and
leaves the same words and activities. In either mode, a write that merges both width bits into the
control word of a unit makes no call, whatever the session has come to. -/
theorem zeroSelects16_extends_strict (settings : Settings) (executor : E) :
    let strict := start { settings with fillMode := .strict } executor
    let wide := start { settings with fillMode := .zeroSelects16 } executor
    (∀ events,
      (∀ stage ∈ strict.stages events,
        stage.answer ≠ .refused (.invalidFillMode false false)) →
      wide.stages events = strict.stages events) ∧
    ∀ (s : Session E) (unit : UnitId) (w : Width) (address : Address) (value : BitVec w.bits),
      address.toNat / 4 = (Register.fill unit .control).index →
      let merged : FillControl :=
        ⟨mergeLane w address (s.machine.file.register (.fill unit .control)) value⟩
      merged.get .fill24 = true → merged.get .fill32 = true →
      (s.write w address value).2.call = none := by
  intro strict wide
  refine ⟨fun events quiet => ?_, fun s unit w address value here fill24 fill32 =>
    s.call_eq_none_of_both here fill24 fill32⟩
  have recoded : wide.stages events = (strict.stages events).map (Stage.recode id) :=
    (recodes_zeroSelects16 settings).stages_start takesAlike_id rfl events
      fun stage mem _ refused same =>
        quiet stage mem (refused.trans (congrArg Answer.refused same))
  rw [recoded, Stage.recode_id, List.map_id]

theorem zeroSelects16_extends_strict_words :
    let strict := start { fillMode := .strict } Executor.holding
    let events : List Event := [.write .full 0x1C#32 0x201#32, .write .byte 0x1C#32 1#8,
      .complete 0, .write .half 0x1C#32 0x200#16, .write .full 0x1C#32 0x301#32]
    (∀ stage ∈ strict.stages events,
      stage.answer ≠ .refused (.invalidFillMode false false)) ∧
    (start { fillMode := .zeroSelects16 } Executor.holding).stages events =
      strict.stages events := by
  intro strict events
  have answers : (strict.stages events).map (·.answer) =
      [.accepted, .refused (.inProgress (.fill .zero)), .completed (.fill .zero), .accepted,
        .refused (.invalidFillMode true true)] := by decide +kernel
  have quiet : ∀ stage ∈ strict.stages events,
      stage.answer ≠ .refused (.invalidFillMode false false) := by
    intro stage mem refused
    have listed := List.mem_map_of_mem (f := fun stage : Stage => stage.answer) mem
    rw [answers, refused] at listed
    simp at listed
  exact ⟨quiet, (zeroSelects16_extends_strict {} Executor.holding).1 events quiet⟩

end Session

end GraphicsBlock

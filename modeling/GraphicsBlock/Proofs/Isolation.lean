import GraphicsBlock.Proofs.Footprint
import GraphicsBlock.Proofs.Tokens

/-!
Regions do not interfere. What an access to a region comes to, and what the completion of its engine
does, depends on the words of the region, on whether its engine runs and on the token of that
engine; no other step changes these. `Linked` sessions agree on that much. A run that is cut down to
the steps which concern a region stays linked to the whole run, so the region cannot tell the two
apart.
-/

namespace GraphicsBlock

/-- What is done to a session whose executor holds its tokens: an access, or the completion of an
operation, if its token is at hand. -/
inductive Input
  | read (width : Width) (address : Address)
  | write (width : Width) (address : Address) (value : BitVec width.bits)
  | complete (engine : Engine)

def Input.event (held : List Token) : Input → Event
  | .read w address => .read w address
  | .write w address value => .write w address value
  | .complete e => .complete (held.idxOf ⟨e⟩)

namespace Region

def concerns (r : Region) : Input → Bool
  | .read _ address | .write _ address _ => r.contains (address.toNat / 4)
  | .complete e => e.region = r

def activities (r : Region) (m : Machine) : List Activity :=
  (Engine.all.filter (·.region = r)).map m.activity

theorem contains_trigger {r : Region} {e : Engine} :
    r.contains e.trigger.index = true ↔ e.region = r :=
  Register.contains_index_iff

theorem exists_index {r : Region} {address : Address}
    (within : r.contains (address.toNat / 4) = true) :
    ∃ i, wordIndex? address = .ok i ∧ r.contains i = true := by
  have bound : address.toNat / 4 < wordCount :=
    Nat.lt_of_lt_of_le (contains_iff.1 within).2 r.stop_le
  exact ⟨⟨_, bound⟩, wordIndex?_eq_ok_iff.2 rfl, within⟩

end Region

/-- What a region sees of a step: its answer, its call, and how it leaves the region. -/
structure Sight where
  input : Input
  answer : Answer
  call : Option Call
  words : List Word
  activities : List Activity

namespace Machine

structure Agree (r : Region) (m n : Machine) : Prop where
  word : ∀ i : WordIndex, r.contains i = true → m.file.get i = n.file.get i
  activity : ∀ e : Engine, e.region = r → m.activity e = n.activity e

namespace Agree

variable {r : Region} {m n k : Machine}

theorem refl (r : Region) (m : Machine) : m.Agree r m :=
  ⟨fun _ _ => rfl, fun _ _ => rfl⟩

theorem trans (h : m.Agree r n) (h' : n.Agree r k) : m.Agree r k where
  word i within := (h.word i within).trans (h'.word i within)
  activity e here := (h.activity e here).trans (h'.activity e here)

theorem alike (h : m.Agree r n) {i : WordIndex} (within : r.contains i = true) : m.Alike n i where
  word := h.word i within
  busy e here := by
    have region : e.region = r := Region.contains_trigger.1 (here ▸ within)
    rw [isBusy, isBusy, h.activity e region]
  bank _ s contained := by
    have region : s.region = r := Region.eq_of_contains contained within
    exact h.word s.index (Register.contains_index_iff.2 region)

theorem put (h : m.Agree r n) (i : WordIndex) (word : Word) (launched? : Option Engine) :
    (m.put i word launched?).Agree r (n.put i word launched?) where
  word j within := by rw [get_put, get_put, h.word j within]
  activity e here := by rw [activity_put, activity_put, h.activity e here]

theorem finish (h : m.Agree r n) {e : Engine} (here : e.region = r) :
    (m.finish e).Agree r (n.finish e) where
  word i within := by
    have trigger : m.file.register e.trigger = n.file.register e.trigger :=
      h.word e.trigger.index (Region.contains_trigger.2 here)
    rw [get_finish, get_finish, trigger, h.word i within]
  activity f hf := by rw [activity_finish, activity_finish, h.activity f hf]

theorem put_left (m : Machine) {i : WordIndex} (word : Word) {launched? : Option Engine}
    (outside : r.contains i = false) (here : ∀ e, launched? = some e → e.trigger.index = i) :
    (m.put i word launched?).Agree r m where
  word j within := by
    rw [get_put, if_neg]
    rintro rfl
    rw [within] at outside
    cases outside
  activity e region := by
    rw [activity_put, if_neg]
    intro launches
    rw [← here e launches, Region.contains_trigger.2 region] at outside
    cases outside

theorem finish_left (m : Machine) {e : Engine} (outside : e.region ≠ r) :
    (m.finish e).Agree r m where
  word i within := by
    rw [get_finish, if_neg]
    rintro rfl
    exact outside (Region.contains_trigger.1 within)
  activity f here := by
    rw [activity_finish, if_neg]
    rintro rfl
    exact outside here

theorem region_eq (h : m.Agree r n) : m.file.region r = n.file.region r := by
  apply List.ext_getElem
  · simp [RegisterFile.region]
  · intro k hk _
    have short : k < r.words := by
      simp only [RegisterFile.region, Vector.length_toList, Region.stop] at hk
      omega
    have within : r.contains (r.offset + k) = true :=
      Region.contains_iff.2 ⟨Nat.le_add_right .., Nat.add_lt_add_left short _⟩
    have bound : r.offset + k < wordCount :=
      Nat.lt_of_lt_of_le (Region.contains_iff.1 within).2 r.stop_le
    simp only [RegisterFile.region, Vector.getElem_toList, Vector.getElem_extract]
    exact h.word ⟨r.offset + k, bound⟩ within

theorem activities_eq (h : m.Agree r n) : r.activities m = r.activities n := by
  apply List.map_congr_left
  intro e mem
  exact h.activity e (of_decide_eq_true (List.mem_filter.1 mem).2)

end Agree

end Machine

namespace Session

variable {E : Type} [Conduct E]

def trail (s : Session E) : List Input → List (Input × Outcome × Machine)
  | [] => []
  | input :: inputs =>
    let (next, outcome) := s.step (input.event s.held)
    (input, outcome, next.machine) :: next.trail inputs

end Session

def Region.sight (r : Region) : Input × Outcome × Machine → Sight
  | (input, outcome, m) => ⟨input, outcome.answer, outcome.call, m.file.region r, r.activities m⟩

namespace Session

variable {E : Type} {s t u : Session E} {r : Region}

structure Agree (r : Region) (s t : Session E) : Prop where
  machine : s.machine.Agree r t.machine
  held : ∀ e : Engine, e.region = r → s.held.count ⟨e⟩ = t.held.count ⟨e⟩

theorem Agree.refl (r : Region) (s : Session E) : s.Agree r s := ⟨.refl r _, fun _ _ => rfl⟩

theorem Agree.trans (h : s.Agree r t) (h' : t.Agree r u) : s.Agree r u where
  machine := h.machine.trans h'.machine
  held e here := (h.held e here).trans (h'.held e here)

theorem Agree.completeOf (h : s.Agree r t) {e : Engine} (here : e.region = r) :
    (s.completeOf e).2 = (t.completeOf e).2 ∧
      (s.completeOf e).1.Agree r (t.completeOf e).1 := by
  by_cases mem : ⟨e⟩ ∈ s.held
  · have mem' : ⟨e⟩ ∈ t.held := by
      rw [← List.count_pos_iff, ← h.held e here]
      exact List.count_pos_iff.2 mem
    rw [completeOf_of_mem mem, completeOf_of_mem mem']
    refine ⟨rfl, h.machine.finish here, ?_⟩
    intro f region
    rw [List.count_erase, List.count_erase, h.held f region]
  · have mem' : ⟨e⟩ ∉ t.held := by
      rw [← List.count_eq_zero, ← h.held e here]
      exact List.count_eq_zero.2 mem
    rw [completeOf_of_notMem mem, completeOf_of_notMem mem']
    exact ⟨rfl, h⟩

theorem agree_completeOf (s : Session E) {e : Engine} (outside : e.region ≠ r) :
    (s.completeOf e).1.Agree r s := by
  by_cases mem : ⟨e⟩ ∈ s.held
  · rw [completeOf_of_mem mem]
    refine ⟨.finish_left s.machine outside, fun f region => List.count_erase_of_ne ?_⟩
    intro same
    cases same
    exact outside region
  · rw [completeOf_of_notMem mem]
    exact .refl r s

variable [Conduct E]

theorem agree_settle (keeps : Keeps s.executor) {i : WordIndex} {word : Word}
    {accepted : Accepted} (changed : accepted.machine = s.machine.put i word accepted.launched?)
    (outside : r.contains i = false)
    (here : ∀ e, accepted.launched? = some e → e.trigger.index = i) :
    (s.settle accepted).Agree r s := by
  obtain ⟨machine, held⟩ := settle_of_keeps keeps accepted
  constructor
  · rw [machine, changed]
    exact .put_left s.machine word outside here
  · intro e region
    rw [held, List.count_append]
    refine Nat.add_eq_left.2 (List.count_eq_zero.2 fun mem => ?_)
    have launches : accepted.launched? = some e := by simpa [Accepted.tokens] using mem
    rw [← here e launches, Region.contains_trigger.2 region] at outside
    cases outside

theorem agree_step (keeps : Keeps s.executor) {input : Input}
    (elsewhere : r.concerns input = false) : (s.step (input.event s.held)).1.Agree r s := by
  cases input with
  | read w address =>
    rw [Input.event, (s.step_read w address).1]
    exact .refl r s
  | complete e => exact s.agree_completeOf (of_decide_eq_false elsewhere)
  | write w address value =>
    cases written : s.machine.write s.settings w address value with
    | error fault =>
      rw [Input.event, (step_write_of_error written).1]
      exact .refl r s
    | ok accepted =>
      rw [Input.event, (step_write_of_ok written).1]
      obtain ⟨i, addressed, taken⟩ := Machine.accepts_of_write written
      have outside : r.contains i = false := wordIndex?_eq_ok_iff.1 addressed ▸ elsewhere
      exact agree_settle keeps taken.machine_eq_put outside
        fun e launches => taken.trigger_index_of_launched launches

/-- Two sessions that a region cannot tell apart, both with executors that keep their tokens. -/
structure Linked (r : Region) (s t : Session E) : Prop where
  keeps : Keeps s.executor
  keeps' : Keeps t.executor
  settings : s.settings = t.settings
  agree : s.Agree r t

theorem Linked.settle (h : s.Linked r t) (i : WordIndex) (word : Word) (call : Option Call) :
    (s.settle ⟨s.machine.put i word (call.bind Call.engine?), call⟩).Agree r
      (t.settle ⟨t.machine.put i word (call.bind Call.engine?), call⟩) := by
  obtain ⟨machine, held⟩ :=
    settle_of_keeps h.keeps ⟨s.machine.put i word (call.bind Call.engine?), call⟩
  obtain ⟨machine', held'⟩ :=
    settle_of_keeps h.keeps' ⟨t.machine.put i word (call.bind Call.engine?), call⟩
  constructor
  · rw [machine, machine']
    exact h.agree.machine.put i word _
  · intro e region
    rw [held, held', List.count_append, List.count_append, h.agree.held e region]
    rfl

theorem Linked.step (h : s.Linked r t) {input : Input} (within : r.concerns input = true) :
    let left := s.step (input.event s.held)
    let right := t.step (input.event t.held)
    left.2.answer = right.2.answer ∧ left.2.call = right.2.call ∧ left.1.Agree r right.1 := by
  intro left right
  cases input with
  | read w address =>
    obtain ⟨i, addressed, inside⟩ := Region.exists_index within
    have same : s.read w address = t.read w address := by
      simp only [read, Machine.read, addressed, h.agree.machine.word i inside]
    have outcome : left.2 = right.2 := congrArg (Reply.outcome · (.value w)) same
    exact ⟨congrArg Outcome.answer outcome, congrArg Outcome.call outcome, h.agree⟩
  | complete e =>
    obtain ⟨outcome, agree⟩ := h.agree.completeOf (of_decide_eq_true within)
    exact ⟨congrArg Outcome.answer outcome, congrArg Outcome.call outcome, agree⟩
  | write w address value =>
    obtain ⟨i, addressed, inside⟩ := Region.exists_index within
    obtain ⟨fault, refused, refused'⟩ | ⟨word, call, written, written', _⟩ :=
      Machine.write_congr s.settings value addressed (h.agree.machine.alike inside)
    · obtain ⟨leftEnd, leftCall, leftAnswer⟩ := step_write_of_error refused
      obtain ⟨rightEnd, rightCall, rightAnswer⟩ := step_write_of_error (h.settings ▸ refused')
      refine ⟨leftAnswer.trans rightAnswer.symm, leftCall.trans rightCall.symm, ?_⟩
      rw [show left.1 = s from leftEnd, show right.1 = t from rightEnd]
      exact h.agree
    · obtain ⟨leftEnd, leftCall, leftAnswer⟩ := step_write_of_ok written
      obtain ⟨rightEnd, rightCall, rightAnswer⟩ := step_write_of_ok (h.settings ▸ written')
      refine ⟨leftAnswer.trans rightAnswer.symm, leftCall.trans rightCall.symm, ?_⟩
      rw [show left.1 = s.settle _ from leftEnd, show right.1 = t.settle _ from rightEnd]
      exact h.settle i word call

theorem Linked.trail (h : s.Linked r t) (inputs : List Input) :
    ((s.trail inputs).filter (r.concerns ·.1)).map r.sight =
      (t.trail (inputs.filter r.concerns)).map r.sight := by
  induction inputs generalizing s t with
  | nil => rfl
  | cons input inputs ih =>
    have keeps := keeps_step h.keeps (input.event s.held)
    have settings := s.settings_step (input.event s.held)
    -- A step elsewhere is one of the first run alone; the others are taken by both.
    cases concerned : r.concerns input with
    | false =>
      have agree := (agree_step h.keeps concerned).trans h.agree
      rw [Session.trail, List.filter_cons_of_neg (by simp [concerned]),
        List.filter_cons_of_neg (by simp [concerned])]
      exact ih ⟨keeps, h.keeps', settings.trans h.settings, agree⟩
    | true =>
      obtain ⟨answer, call, agree⟩ := h.step concerned
      have keeps' := keeps_step h.keeps' (input.event t.held)
      have settings' := t.settings_step (input.event t.held)
      rw [Session.trail, List.filter_cons_of_pos (by simp [concerned]),
        List.filter_cons_of_pos (by simp [concerned]), Session.trail, List.map_cons, List.map_cons,
        ih ⟨keeps, keeps', settings.trans (h.settings.trans settings'.symm), agree⟩]
      congr 1
      simp only [Region.sight, answer, call, agree.machine.region_eq, agree.machine.activities_eq]

/-- What a region sees of a run, it sees of the steps alone that concern it. -/
theorem noninterference (r : Region) (settings : Settings) {executor : E} (keeps : Keeps executor)
    (inputs : List Input) :
    (((start settings executor).trail inputs).filter (r.concerns ·.1)).map r.sight =
      ((start settings executor).trail (inputs.filter r.concerns)).map r.sight :=
  Linked.trail ⟨keeps, keeps, rfl, .refl r _⟩ inputs

theorem noninterference_fill :
    let session : Session := start {} Executor.holding
    Keeps session.executor ∧
      ((session.trail [.write .full 0x1C#32 0x201#32, .write .full 0x2C#32 0x201#32,
          .complete (.fill .one), .complete (.fill .zero), .read .half 0x1C#32]).filter
        (Region.concerns (.fill .zero) ·.1)).map (Region.sight (.fill .zero)) =
      (session.trail [.write .full 0x1C#32 0x201#32, .complete (.fill .zero),
          .read .half 0x1C#32]).map (Region.sight (.fill .zero)) :=
  ⟨Executor.keeps_holding, noninterference (.fill .zero) {} Executor.keeps_holding _⟩

end Session

end GraphicsBlock

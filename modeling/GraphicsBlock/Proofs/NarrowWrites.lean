import GraphicsBlock.Proofs.CompletionOrder
import GraphicsBlock.Proofs.MaskedStore
import GraphicsBlock.Proofs.Scanouts

namespace GraphicsBlock

def Width.lanes (w : Width) : Nat := 4 / w.bytes

def laneAddress (i : WordIndex) (w : Width) (k : Nat) : Address :=
  BitVec.ofNat 32 (4 * i + k * w.bytes)

def Event.laneWrite (i : WordIndex) (w : Width) (value : Word) (k : Nat) : Event :=
  .write w (laneAddress i w k) (value.extractLsb' (k * w.bits) w.bits)

example :
    let i := (Register.fill .zero .control).index
    (List.range Width.byte.lanes).reverse.map (Event.laneWrite i .byte 0x44332211#32) =
      [.write .byte 0x1F#32 0x44#8, .write .byte 0x1E#32 0x33#8, .write .byte 0x1D#32 0x22#8,
        .write .byte 0x1C#32 0x11#8] := by decide

def laneMasks (i : WordIndex) (w : Width) (lanes : List Nat) : Word :=
  lanes.foldr (fun k mask => laneMask w (laneAddress i w k) ||| mask) 0

section Lanes

variable {i : WordIndex} {w : Width} {k : Nat}

theorem toNat_laneAddress (inside : k < w.lanes) :
    (laneAddress i w k).toNat = 4 * i + k * w.bytes := by
  have word : (i : Nat) < 4096 := i.isLt
  have lane : k * w.bytes < 4 := by
    cases w <;> simp only [Width.lanes, Width.bytes] at inside ⊢ <;> omega
  rw [laneAddress, BitVec.toNat_ofNat, Nat.mod_eq_of_lt (by omega)]

theorem wordIndex?_laneAddress (inside : k < w.lanes) : wordIndex? (laneAddress i w k) = .ok i := by
  rw [wordIndex?_eq_ok_iff, toNat_laneAddress inside]
  cases w <;> simp only [Width.lanes, Width.bytes] at inside ⊢ <;> omega

theorem offset_lane (inside : k < w.lanes) : (lane w (laneAddress i w k)).offset = k * w.bits := by
  change (laneAddress i w k).toNat % 4 / w.bytes * w.bytes * 8 = _
  rw [toNat_laneAddress inside]
  cases w <;> simp only [Width.lanes, Width.bytes, Width.bits] at inside ⊢ <;> omega

theorem getLsbD_laneMask_laneAddress (inside : k < w.lanes) (j : Nat) :
    (laneMask w (laneAddress i w k)).getLsbD j = decide (j / w.bits = k) := by
  rw [getLsbD_laneMask, offset_lane inside, ← Bool.decide_and]
  apply decide_eq_decide.2
  cases w <;> simp only [Width.bits] <;> omega

theorem merge_extractLsb' (m : Machine) (i : WordIndex) (w : Width) (address : Address)
    (value : Word) :
    m.merge i w address (value.extractLsb' (lane w address).offset w.bits) =
      m.part i (laneMask w address) value := by
  have merged : mergeLane w address (m.file.get i)
      (value.extractLsb' (lane w address).offset w.bits) =
        Word.blend (m.file.get i) (laneMask w address) value := by
    generalize start : (lane w address).offset = offset
    apply BitVec.eq_of_getLsbD_eq
    intro j _
    rw [getLsbD_mergeLane, Word.getLsbD_blend, getLsbD_laneMask, start, ← Bool.decide_and]
    by_cases covered : offset ≤ j ∧ j < offset + w.bits
    · have back : offset + (j - offset) = j := Nat.add_sub_of_le covered.1
      have low : j - offset < w.bits := by omega
      rw [if_pos covered, if_pos (decide_eq_true covered), BitVec.getLsbD_extractLsb', back,
        decide_eq_true low, Bool.true_and]
    · rw [if_neg covered, if_neg (mt of_decide_eq_true covered)]
  rw [Machine.merge, merged, Machine.part]

theorem write_laneAddress (settings : Settings) (m : Machine) (inside : k < w.lanes)
    (value : Word) :
    m.write settings w (laneAddress i w k) (value.extractLsb' (k * w.bits) w.bits) =
      m.store settings (m.part i (laneMask w (laneAddress i w k)) value) := by
  rw [Machine.write_of_index (wordIndex?_laneAddress inside), ← offset_lane (i := i) inside]
  exact congrArg (m.store settings) (merge_extractLsb' m i w _ value)

theorem laneMasks_cons (k : Nat) (lanes : List Nat) :
    laneMasks i w (k :: lanes) = laneMask w (laneAddress i w k) ||| laneMasks i w lanes := rfl

theorem laneMasks_singleton (k : Nat) : laneMasks i w [k] = laneMask w (laneAddress i w k) :=
  BitVec.or_zero

theorem getLsbD_laneMasks {lanes : List Nat} (inside : ∀ k ∈ lanes, k < w.lanes) (j : Nat) :
    (laneMasks i w lanes).getLsbD j = decide (j / w.bits ∈ lanes) := by
  induction lanes with
  | nil => simp [laneMasks]
  | cons k lanes ih =>
    obtain ⟨first, rest⟩ := List.forall_mem_cons.1 inside
    rw [laneMasks_cons, BitVec.getLsbD_or, getLsbD_laneMask_laneAddress first, ih rest,
      ← Bool.decide_or]
    exact decide_eq_decide.2 List.mem_cons.symm

theorem offset_lane_full (address : Address) : (lane .full address).offset = 0 := by
  change address.toNat % 4 / 4 * 4 * 8 = 0
  omega

theorem lt_lanes_of_perm {lanes : List Nat} (all : lanes.Perm (List.range w.lanes)) :
    ∀ k ∈ lanes, k < w.lanes :=
  fun _ mem => List.mem_range.1 (all.mem_iff.1 mem)

theorem ne_nil_of_perm {lanes : List Nat} (all : lanes.Perm (List.range w.lanes)) :
    lanes ≠ [] := by
  rintro rfl
  have none := all.length_eq
  cases w <;> cases none

theorem laneMasks_eq_full {lanes : List Nat} (all : lanes.Perm (List.range w.lanes))
    (address : Address) : laneMasks i w lanes = laneMask .full address := by
  have inside := lt_lanes_of_perm all
  apply BitVec.eq_of_getLsbD_eq
  intro j bit
  have covered : j / w.bits ∈ lanes := by
    rw [all.mem_iff, List.mem_range]
    cases w <;> simp only [Width.lanes, Width.bytes, Width.bits] <;> omega
  rw [getLsbD_laneMasks inside, decide_eq_true covered, getLsbD_laneMask, offset_lane_full,
    decide_eq_true (Nat.zero_le j), decide_eq_true (Nat.zero_add _ ▸ bit), Bool.and_true]

theorem write_full (settings : Settings) (m : Machine) {lanes : List Nat}
    (all : lanes.Perm (List.range w.lanes)) {address : Address}
    (addressed : wordIndex? address = .ok i) (value : Word) :
    m.write settings .full address value =
      m.store settings (m.part i (laneMasks i w lanes) value) := by
  have whole := merge_extractLsb' m i .full address value
  rw [offset_lane_full, BitVec.extractLsb'_eq_self] at whole
  rw [Machine.write_of_index addressed, laneMasks_eq_full all address]
  exact congrArg (m.store settings) whole

theorem sparesFlags_laneMask (inside : k < w.lanes) (high : ∀ e, Role.at i = .trigger e → k ≠ 0) :
    Machine.SparesFlags i (laneMask w (laneAddress i w k)) := by
  intro e role
  have above := high e role
  have low : 0 / w.bits = 0 ∧ 1 / w.bits = 0 := by cases w <;> decide
  rw [getLsbD_laneMask_laneAddress inside, getLsbD_laneMask_laneAddress inside, low.1, low.2]
  exact ⟨decide_eq_false above.symm, decide_eq_false above.symm⟩

end Lanes

namespace Session

variable {E : Type} [Conduct E] {s : Session E} {i : WordIndex} {w : Width} {value : Word}
  {lanes : List Nat}

theorem settle_of_machine (s : Session E) (machine : Machine) (accepted : Accepted) :
    { s with machine }.settle accepted = s.settle accepted := by
  obtain ⟨_, _ | _⟩ := accepted <;> rfl

/-- The events are accepted and come to what one accepted write comes to. -/
structure Amounts (s : Session E) (events : List Event) (accepted : Accepted) : Prop where
  settled : (s.run events).1 = s.settle accepted
  calls : (s.run events).2.filterMap (·.call) = accepted.call.toList
  answers : ∀ outcome ∈ (s.run events).2, outcome.answer = .accepted

variable {address : Address} {part : BitVec w.bits} {accepted : Accepted}

theorem amounts_write (written : s.machine.write s.settings w address part = .ok accepted) :
    s.Amounts [.write w address part] accepted := by
  obtain ⟨settled, called, answered⟩ := step_write_of_ok written
  refine ⟨settled, ?_, List.forall_mem_singleton.2 answered⟩
  rw [run_cons, run_nil, List.filterMap_cons, called]
  cases accepted.call <;> rfl

theorem Amounts.cons {machine : Machine} {events : List Event}
    (written : s.machine.write s.settings w address part = .ok ⟨machine, none⟩)
    (later : Amounts { s with machine } events accepted) :
    s.Amounts (.write w address part :: events) accepted := by
  obtain ⟨settled, called, answered⟩ := step_write_of_ok written
  have next : (s.step (.write w address part)).1 = { s with machine } := settled
  refine ⟨?_, ?_, ?_⟩
  · rw [run_cons, next, later.settled, settle_of_machine]
  · rw [run_cons, next, List.filterMap_cons, called, later.calls]
  · rw [run_cons, next]
    exact List.forall_mem_cons.2 ⟨answered, later.answers⟩

theorem amounts_laneWrites (coherent : s.machine.Coherent)
    (transfer : Role.at i ≠ .trigger .transfer) (unselected : ∀ u, Role.at i ≠ .select u)
    (inside : ∀ k ∈ lanes, k < w.lanes) (some_lane : lanes ≠ [])
    (high : ∀ e, Role.at i = .trigger e → ∀ k ∈ lanes.dropLast, k ≠ 0)
    (stored : s.machine.store s.settings (s.machine.part i (laneMasks i w lanes) value) =
      .ok accepted) : s.Amounts (lanes.map (Event.laneWrite i w value)) accepted := by
  induction lanes generalizing s with
  | nil => exact absurd rfl some_lane
  | cons k lanes ih =>
    obtain ⟨first, rest⟩ := List.forall_mem_cons.1 inside
    have written := write_laneAddress (i := i) s.settings s.machine first value
    cases lanes with
    | nil =>
      rw [laneMasks_singleton] at stored
      exact amounts_write (written.trans stored)
    | cons l lanes =>
      have flags : Machine.SparesFlags i (laneMask w (laneAddress i w k)) :=
        sparesFlags_laneMask first fun e role => high e role k List.mem_cons_self
      obtain ⟨word, call, parted, quiet⟩ :=
        Machine.exists_parted coherent transfer flags s.settings value
      cases quiet unselected
      -- No engine has started, and the other lanes store what is left of the word.
      have kept := coherent.store (s.machine.extends_part i _ value)
        (Machine.accepts_of_store parted.first)
      rw [laneMasks_cons, ← parted.second] at stored
      refine .cons (written.trans parted.first) (ih kept rest nofun ?_ stored)
      exact fun e role k mem => high e role k (List.mem_cons_of_mem _ mem)

end Session

namespace Machine

variable {i : WordIndex}

theorem get_finishAll (m : Machine) (es : List Engine)
    (elsewhere : ∀ e : Engine, e.trigger.index ≠ i) :
    (m.finishAll es).file.get i = m.file.get i := by
  induction es with
  | nil => rfl
  | cons e es ih => exact ((m.finishAll es).get_finish e i).trans ((if_neg (elsewhere e)).trans ih)

theorem put_finishAll (m : Machine) (es : List Engine) (word : Word)
    (elsewhere : ∀ e : Engine, e.trigger.index ≠ i) :
    (m.finishAll es).put i word none = (m.put i word none).finishAll es := by
  induction es with
  | nil => rfl
  | cons e es ih =>
    have moved := @finish_put (m.finishAll es) e i word none (elsewhere e) nofun
    exact moved.symm.trans (congrArg (finish · e) ih)

theorem screenBank_finishAll (m : Machine) (es : List Engine) (u : UnitId) :
    (m.finishAll es).file.screenBank u = m.file.screenBank u := by
  induction es with
  | nil => rfl
  | cons e es ih => exact (screenBank_finish _ e u).trans ih

theorem trigger_index_ne_of_select {u : UnitId} (role : Role.at i = .select u) (e : Engine) :
    e.trigger.index ≠ i := by
  intro here
  have trigger := Role.at_trigger e
  rw [here, role] at trigger
  cases trigger

end Machine

/-- Executors do nothing with their tokens when a screen is swapped. -/
def LeavesSwaps (E : Type) [Conduct E] : Prop :=
  ∀ (executor : E) unit scanout held, (Conduct.receive executor (.swap unit scanout) held).2 = []

theorem Executor.leavesSwaps : LeavesSwaps Executor := by
  intro executor unit scanout held
  change executor.deeds _ _ = []
  rw [deeds]
  simp [Call.engine?]

namespace Session

variable {E : Type} [Conduct E] {s : Session E} {u : UnitId} {i : WordIndex} {w : Width}
  {value : Word} {lanes : List Nat}

theorem machine_run_laneWrites (role : Role.at i = .select u) (inside : ∀ k ∈ lanes, k < w.lanes) :
    (s.run (lanes.map (Event.laneWrite i w value))).1.machine =
      (s.machine.put i (Word.blend (s.machine.file.get i) (laneMasks i w lanes) value)
        none).finishAll (s.chronicle (lanes.map (Event.laneWrite i w value))).spent := by
  have elsewhere := Machine.trigger_index_ne_of_select role
  induction lanes generalizing s with
  | nil =>
    change s.machine = s.machine.put i (Word.blend (s.machine.file.get i) 0 value) none
    rw [Word.blend_zero, Machine.put_get]
  | cons k lanes ih =>
    obtain ⟨first, rest⟩ := List.forall_mem_cons.1 inside
    obtain ⟨call, stored⟩ := Machine.store_select role s.settings s.machine
      (laneMask w (laneAddress i w k)) value
    have written := (write_laneAddress (i := i) s.settings s.machine first value).trans stored
    have next : (s.step (Event.laneWrite i w value k)).1 = _ := (step_write_of_ok written).1
    have spent : (s.moves (Event.laneWrite i w value k)).spent = _ := spent_moves_of_ok written
    rw [List.map_cons, run_cons, chronicle, Chronicle.spent, List.filterMap_append,
      Machine.finishAll_append]
    change _ = Machine.finishAll (Machine.finishAll _ (s.moves (Event.laneWrite i w value k)).spent)
      (chronicle _ _).spent
    -- What the executor has finished meanwhile is moved past the other lanes.
    rw [ih rest, next, spent, machine_settle, Machine.get_finishAll _ _ elsewhere,
      Machine.put_finishAll _ _ _ elsewhere, Machine.get_put_self, Machine.put_put,
      Word.blend_blend, laneMasks_cons]

theorem run_selects {events : List Event} (selects : ∀ event ∈ events, event.selects u = true) :
    (∀ outcome ∈ (s.run events).2, outcome.answer = .accepted ∧
      ∃ scanout, outcome.call = some (.swap u scanout)) ∧
    (events ≠ [] → (s.run events).2.getLast?.bind (·.call) =
      some (.swap u ((s.run events).1.machine.file.screenBank u).scanout)) := by
  induction events generalizing s with
  | nil => exact ⟨List.forall_mem_nil _, (absurd rfl ·)⟩
  | cons event events ih =>
    obtain ⟨first, rest⟩ := List.forall_mem_cons.1 selects
    cases event with
    | read | complete | drop => cases first
    | write w address part =>
      obtain ⟨answered, called, bank, _⟩ := s.step_of_selects part (of_decide_eq_true first)
      obtain ⟨each, last⟩ := @ih (s.step (.write w address part)).1 rest
      rw [run_cons]
      refine ⟨List.forall_mem_cons.2 ⟨⟨answered, _, called⟩, each⟩, fun _ => ?_⟩
      cases events with
      | nil =>
        rw [← bank] at called
        exact called
      | cons next events =>
        rw [← last nofun, run_cons, List.getLast?_cons_cons]

theorem conductMoves_of_swap (leaves : LeavesSwaps E) (s : Session E) (machine : Machine)
    (scanout : Scanout) : s.conductMoves ⟨machine, some (.swap u scanout)⟩ = [] := by
  have idle : (received { s with machine } (.swap u scanout)).2 = [] := leaves ..
  rw [conductMoves]
  simp only [idle, deedsMoves]

theorem held_settle_of_swap (leaves : LeavesSwaps E) (s : Session E) (machine : Machine)
    (scanout : Scanout) : (s.settle ⟨machine, some (.swap u scanout)⟩).held = s.held := by
  have idle : ∀ call, (Accepted.mk machine (some (.swap u scanout))).call = some call →
      (s.received call).2 = [] := by
    intro call same
    cases same
    exact leaves ..
  exact (settle_of_idle_conduct idle).2.trans (List.append_nil _)

theorem run_selects_of_leavesSwaps (leaves : LeavesSwaps E) {events : List Event}
    (selects : ∀ event ∈ events, event.selects u = true) :
    (s.chronicle events).spent = [] ∧ (s.run events).1.held = s.held := by
  induction events generalizing s with
  | nil => exact ⟨rfl, rfl⟩
  | cons event events ih =>
    obtain ⟨first, rest⟩ := List.forall_mem_cons.1 selects
    cases event with
    | read | complete | drop => cases first
    | write w address part =>
      have written : s.machine.write s.settings w address part = .ok ⟨_, some _⟩ :=
        Machine.write_of_selects (of_decide_eq_true first)
      obtain ⟨spent, held⟩ := @ih (s.step (.write w address part)).1 rest
      have moves := spent_moves_of_ok written
      rw [conductMoves_of_swap leaves] at moves
      refine ⟨?_, ?_⟩
      · rw [chronicle, Chronicle.spent, List.filterMap_append]
        exact (congrArg₂ (· ++ ·) spent moves).trans (List.append_nil _)
      · rw [run_cons, held, (step_write_of_ok written).1, held_settle_of_swap leaves]

theorem selects_write {address : Address} {part : BitVec w.bits} (role : Role.at i = .select u)
    (addressed : wordIndex? address = .ok i) : (Event.write w address part).selects u = true :=
  decide_eq_true ((wordIndex?_eq_ok_iff.1 addressed).trans (Role.at_eq_select_iff.1 role).symm)

theorem selects_laneWrites (role : Role.at i = .select u) (inside : ∀ k ∈ lanes, k < w.lanes)
    (value : Word) : ∀ event ∈ lanes.map (Event.laneWrite i w value), event.selects u = true := by
  intro event mem
  obtain ⟨k, lane, rfl⟩ := List.mem_map.1 mem
  exact selects_write role (wordIndex?_laneAddress (inside k lane))

theorem exists_accepted_of_answer {address : Address} {part : BitVec w.bits}
    (answered : (s.step (.write w address part)).2.answer = .accepted) :
    ∃ accepted, s.machine.write s.settings w address part = .ok accepted := by
  cases written : s.machine.write s.settings w address part with
  | error => cases (step_write_of_error written).2.2.symm.trans answered
  | ok accepted => exact ⟨accepted, rfl⟩

theorem ne_zero_of_mem_dropLast (nodup : lanes.Nodup) (last : lanes.getLast? = some 0) :
    ∀ k ∈ lanes.dropLast, k ≠ 0 := by
  intro k mem
  rw [← List.dropLast_append_getLast? 0 last] at nodup
  exact (List.nodup_append.1 nodup).2.2 k mem 0 List.mem_cons_self

theorem amounts_laneWrites_of_write {accepted : Accepted} {address : Address}
    (coherent : s.machine.Coherent) (transfer : Role.at i ≠ .trigger .transfer)
    (unselected : ∀ u, Role.at i ≠ .select u) (all : lanes.Perm (List.range w.lanes))
    (last : ∀ e, Role.at i = .trigger e → lanes.getLast? = some 0)
    (addressed : wordIndex? address = .ok i)
    (written : s.machine.write s.settings .full address value = .ok accepted) :
    s.Amounts (lanes.map (Event.laneWrite i w value)) accepted := by
  rw [write_full s.settings s.machine all addressed] at written
  refine amounts_laneWrites coherent transfer unselected (lt_lanes_of_perm all) (ne_nil_of_perm all)
    ?_ written
  exact fun e role => ne_zero_of_mem_dropLast (all.nodup_iff.2 List.nodup_range) (last e role)

theorem machine_run_select {address : Address} (role : Role.at i = .select u)
    (all : lanes.Perm (List.range w.lanes)) (addressed : wordIndex? address = .ok i)
    (value : Word) :
    ∃ accepted, s.machine.write s.settings .full address value = .ok accepted ∧
      (s.run [.write .full address value]).1.machine =
        accepted.machine.finishAll (s.chronicle [.write .full address value]).spent ∧
      (s.run (lanes.map (Event.laneWrite i w value))).1.machine =
        accepted.machine.finishAll
          (s.chronicle (lanes.map (Event.laneWrite i w value))).spent := by
  obtain ⟨call, stored⟩ :=
    Machine.store_select role s.settings s.machine (laneMasks i w lanes) value
  have written := (write_full s.settings s.machine all addressed value).trans stored
  refine ⟨_, written, ?_, machine_run_laneWrites role (lt_lanes_of_perm all)⟩
  rw [run_cons, run_nil, (step_write_of_ok written).1, machine_settle, ← spent_moves_of_ok written]
  rfl

theorem getLast?_call_run_select {address : Address} (role : Role.at i = .select u)
    (all : lanes.Perm (List.range w.lanes)) (addressed : wordIndex? address = .ok i) :
    (s.run (lanes.map (Event.laneWrite i w value))).2.getLast?.bind (·.call) =
      (s.run [.write .full address value]).2.getLast?.bind (·.call) := by
  have some_lane : lanes.map (Event.laneWrite i w value) ≠ [] :=
    mt List.map_eq_nil_iff.1 (ne_nil_of_perm all)
  have narrow := (s.run_selects (selects_laneWrites role (lt_lanes_of_perm all) value)).2 some_lane
  have whole : (Event.write .full address value).selects u = true := selects_write role addressed
  have wide := (s.run_selects (List.forall_mem_singleton.2 whole)).2 nofun
  obtain ⟨_, _, wideEnd, narrowEnd⟩ := s.machine_run_select role all addressed value
  rw [narrow, wide, narrowEnd, wideEnd, Machine.screenBank_finishAll, Machine.screenBank_finishAll]

/-- After any history a write of a whole word, if it is accepted, can be made lane by lane: from the
highest lane down, or in any order that ends with the lowest lane if the word starts an engine.
Every part is accepted, and together they lead to the same session with the same call. A select
word announces each part and the last as it announces the whole. What an executor finishes while it
is told of a swap counts as steps of its own, and these come more often if the swap is told in parts:
the machines are the same up to such steps, and are equal where no executor takes any, which is what
`LeavesSwaps` says. Only the word that starts a transfer cannot be written so, since the first part
of it that is not zero is the trigger. -/
theorem wide_write_decomposes (settings : Settings) (executor : E) (events : List Event)
    {i : WordIndex} (other : i.val ≠ 0x306) {address : Address}
    (addressed : wordIndex? address = .ok i) (value : Word)
    (all : lanes.Perm (List.range w.lanes))
    (last : ∀ e, Role.at i = .trigger e → lanes.getLast? = some 0) :
    let s := ((start settings executor).run events).1
    let wide := s.run [.write .full address value]
    let narrow := s.run (lanes.map (Event.laneWrite i w value))
    (∀ outcome ∈ wide.2, outcome.answer = .accepted) →
      (∀ outcome ∈ narrow.2, outcome.answer = .accepted) ∧
      ((∀ u, Role.at i ≠ .select u) → narrow.1 = wide.1 ∧
        narrow.2.filterMap (·.call) = wide.2.filterMap (·.call)) ∧
      ∀ u, Role.at i = .select u →
        (∀ outcome ∈ narrow.2, ∃ scanout, outcome.call = some (.swap u scanout)) ∧
        narrow.2.getLast?.bind (·.call) = wide.2.getLast?.bind (·.call) ∧
        (∃ accepted, s.machine.write s.settings .full address value = .ok accepted ∧
          wide.1.machine =
            accepted.machine.finishAll (s.chronicle [.write .full address value]).spent ∧
          narrow.1.machine = accepted.machine.finishAll
            (s.chronicle (lanes.map (Event.laneWrite i w value))).spent) ∧
        (LeavesSwaps E → narrow.1.machine = wide.1.machine ∧ narrow.1.held = wide.1.held) := by
  intro s wide narrow answered
  have coherent : s.machine.Coherent := coherent_run settings executor events
  have transfer : Role.at i ≠ .trigger .transfer := fun role =>
    other (Role.at_eq_trigger_iff.1 role).symm
  obtain ⟨accepted, written⟩ := exists_accepted_of_answer (answered _ List.mem_cons_self)
  have whole := amounts_write written
  have parts (unselected : ∀ u, Role.at i ≠ .select u) :=
    amounts_laneWrites_of_write coherent transfer unselected all last addressed written
  have narrows {u : UnitId} (role : Role.at i = .select u) :=
    selects_laneWrites role (lt_lanes_of_perm all) value
  refine ⟨?_, fun unselected => ?_, fun u role => ⟨?_, ?_, ?_, fun leaves => ?_⟩⟩
  · by_cases selected : ∃ u, Role.at i = .select u
    · obtain ⟨u, role⟩ := selected
      have told := s.run_selects (narrows role)
      exact fun outcome mem => (told.1 outcome mem).1
    · exact (parts fun u role => selected ⟨u, role⟩).answers
  · exact ⟨(parts unselected).settled.trans whole.settled.symm,
      (parts unselected).calls.trans whole.calls.symm⟩
  · exact fun outcome mem => ((s.run_selects (narrows role)).1 outcome mem).2
  · exact getLast?_call_run_select role all addressed
  · exact machine_run_select role all addressed value
  · have wides : (Event.write .full address value).selects u = true := selects_write role addressed
    obtain ⟨wideSpent, wideHeld⟩ :=
      s.run_selects_of_leavesSwaps leaves (List.forall_mem_singleton.2 wides)
    obtain ⟨narrowSpent, narrowHeld⟩ := s.run_selects_of_leavesSwaps leaves (narrows role)
    obtain ⟨_, _, wideEnd, narrowEnd⟩ := s.machine_run_select role all addressed value
    rw [wideSpent] at wideEnd
    rw [narrowSpent] at narrowEnd
    exact ⟨narrowEnd.trans wideEnd.symm, narrowHeld.trans wideHeld.symm⟩

theorem wide_write_decomposes_fill_select :
    (let i := (Register.fill .zero .control).index
    let s := ((start {} Executor.immediate).run
      [.write .full 0x10#32 0x3000000#32, .write .full 0x14#32 0x3000100#32]).1
    let wide := s.run [.write .full 0x1C#32 0x80000101#32]
    let narrow := s.run ([3, 2, 1, 0].map (Event.laneWrite i .byte 0x80000101#32))
    (∀ outcome ∈ wide.2, outcome.answer = .accepted) ∧
      (∀ outcome ∈ narrow.2, outcome.answer = .accepted) ∧ narrow.1 = wide.1 ∧
      narrow.2.filterMap (·.call) =
        [.fill ⟨.zero, 0x18000000#32, 0x18000800#32, .bytes 0#8 0#8 0#8⟩]) ∧
    (let i := (Register.screen .one .select).index
    let s := ((start {} Executor.immediate).run [.write .full 0x56C#32 0x10#32]).1
    let wide := s.run [.write .full 0x578#32 0x50001#32]
    let narrow := s.run ([1, 0].map (Event.laneWrite i .half 0x50001#32))
    (∀ outcome ∈ wide.2, outcome.answer = .accepted) ∧
      (∀ outcome ∈ narrow.2, ∃ scanout, outcome.call = some (.swap .one scanout)) ∧
      narrow.2.getLast?.bind (·.call) = wide.2.getLast?.bind (·.call) ∧
      narrow.1.machine = wide.1.machine) := by
  constructor
  · intro i s wide narrow
    have accepted : ∀ outcome ∈ wide.2, outcome.answer = .accepted := by decide +kernel
    have addressed : wordIndex? 0x1C#32 = .ok i := by decide
    have all : [3, 2, 1, 0].Perm (List.range Width.byte.lanes) := by decide
    obtain ⟨parts, same, _⟩ := wide_write_decomposes {} Executor.immediate
      [.write .full 0x10#32 0x3000000#32, .write .full 0x14#32 0x3000100#32] (by decide) addressed
      0x80000101#32 all (fun _ _ => rfl) accepted
    obtain ⟨ends, calls⟩ := same fun u => by cases u <;> decide
    exact ⟨accepted, parts, ends, calls.trans (by decide +kernel)⟩
  · intro i s wide narrow
    have accepted : ∀ outcome ∈ wide.2, outcome.answer = .accepted := by decide +kernel
    have addressed : wordIndex? 0x578#32 = .ok i := by decide
    have all : [1, 0].Perm (List.range Width.half.lanes) := by decide
    obtain ⟨_, _, select⟩ := wide_write_decomposes {} Executor.immediate
      [.write .full 0x56C#32 0x10#32] (by decide) addressed 0x50001#32 all (fun _ _ => rfl) accepted
    obtain ⟨each, last, _, same⟩ := select .one (Role.at_select .one)
    refine ⟨accepted, each, last, ?_⟩
    simpa only [narrow, wide, s] using (same Executor.leavesSwaps).1

end Session

end GraphicsBlock

import GraphicsBlock.Proofs.Acceptance

namespace GraphicsBlock

/-- The regions of a map and where they start, when the map starts at a given index. -/
def placements (start : Nat) : List Segment → List (Region × Nat)
  | [] => []
  | .padding words :: rest => placements (start + words) rest
  | .named r :: rest => (r, start) :: placements (start + r.words) rest

theorem placements_blockMap : placements 0 blockMap = Region.all.map fun r => (r, r.offset) := by
  decide

theorem mem_placements_iff {r : Region} {start : Nat} :
    (r, start) ∈ placements 0 blockMap ↔ start = r.offset := by
  rw [placements_blockMap, List.mem_map]
  constructor
  · rintro ⟨s, _, same⟩
    obtain ⟨rfl, rfl⟩ := Prod.mk.inj same
    rfl
  · rintro rfl
    exact ⟨r, Region.mem_all r, rfl⟩

def locateIn (order : List Region) (index : Nat) : Option Slot :=
  (order.find? (·.contains index)).map fun region => ⟨region, index - region.offset⟩

section

variable {order : List Region} {index : Nat}

theorem locateIn_eq_some_iff (complete : ∀ r, r ∈ order) {slot : Slot} :
    locateIn order index = some slot ↔
      slot.region.offset + slot.word = index ∧ slot.word < slot.region.words := by
  constructor
  · intro located
    obtain ⟨r, found, rfl⟩ := Option.map_eq_some_iff.1 located
    have contained := List.find?_some found
    obtain ⟨low, high⟩ := Region.contains_iff.1 contained
    exact ⟨Nat.add_sub_of_le low, Nat.sub_lt_left_of_lt_add low high⟩
  · rintro ⟨rfl, inside⟩
    have contained : slot.region.contains (slot.region.offset + slot.word) = true :=
      Region.contains_iff.2 ⟨Nat.le_add_right .., Nat.add_lt_add_left inside _⟩
    cases found : order.find? (·.contains (slot.region.offset + slot.word)) with
    | none => exact absurd contained (List.find?_eq_none.1 found _ (complete _))
    | some r =>
      -- Another region may be met first, but it would share the word with this one.
      have found_contains := List.find?_some found
      have same : r = slot.region := Region.eq_of_contains found_contains contained
      rw [locateIn, found, Option.map_some, same, Nat.add_sub_cancel_left]

theorem locateIn_eq_locate (complete : ∀ r, r ∈ order) : locateIn order index = locate index := by
  apply Option.ext
  intro slot
  exact (locateIn_eq_some_iff complete).trans (locateIn_eq_some_iff Region.mem_all).symm

theorem locate_eq_some_iff {slot : Slot} :
    locate index = some slot ↔
      slot.region.offset + slot.word = index ∧ slot.word < slot.region.words :=
  locateIn_eq_some_iff Region.mem_all

theorem lt_wordCount_of_locate {slot : Slot} (located : locate index = some slot) :
    index < wordCount := by
  obtain ⟨rfl, inside⟩ := locate_eq_some_iff.1 located
  exact Nat.lt_of_lt_of_le (Nat.add_lt_add_left inside _) slot.region.stop_le

end

theorem Operation.triggerWord?_eq (op : Operation) :
    op.triggerWord? = op.engine?.map fun e => e.trigger.index.val := by
  cases op with
  | fill unit => rw [triggerWord?, region?, Region.fill?, engine?, Option.map_map, Option.map_map]; rfl
  | transfer | commandList => rfl

theorem Operation.triggerWord?_eq_some_iff {op : Operation} {index : Nat} :
    op.triggerWord? = some index ↔ ∃ e, op.engine? = some e ∧ Role.at index = .trigger e := by
  simp only [triggerWord?_eq, Option.map_eq_some_iff, Role.at_eq_trigger_iff]

namespace Machine

def handle (settings : Settings) (m : Machine) (s : Store) : Engine → Handled
  | .fill unit => m.storeFillControl settings unit s
  | .transfer => m.storeTransferTrigger settings s
  | .commandList => m.storeCommandTrigger s

theorem dispatch_of_trigger {s : Store} {e : Engine} (role : Role.at s.index = .trigger e)
    (settings : Settings) (m : Machine) : m.dispatch settings s = m.handle settings s e := by
  cases e <;> simp only [dispatch, role, handle]

def running : Machine := ⟨.blank, ⟨.busy, .busy, .busy, .busy⟩⟩

theorem isBusy_running (e : Engine) : running.isBusy e = true := by
  rcases e with (_ | _) | _ | _ <;> rfl

def ones (i : WordIndex) : Store := ⟨i, BitVec.allOnes 32, BitVec.allOnes 32⟩

theorem getLsbD_ones (f : BitField) : (BitVec.allOnes 32).getLsbD f.offset = true := by
  have inside : f.offset < 32 := Nat.lt_of_lt_of_le (Nat.lt_add_of_pos_right f.width_pos) f.fits
  rw [BitVec.getLsbD_allOnes, decide_eq_true inside]

theorem touches_ones (i : WordIndex) {f : BitField} (h : f.width = 1) :
    (ones i).touches f = true :=
  ((ones i).touches_eq_getLsbD h).trans (getLsbD_ones f)

theorem handle_running (settings : Settings) (i : WordIndex) (e : Engine) :
    running.handle settings (ones i) e = running.refuseRunning e := by
  have busy := isBusy_running e
  cases e with
  | fill unit =>
    have kept : FillControl.Flag.trigger ≠ .finished := nofun
    have trigger : (running.controlFor (ones i)).get .trigger = true := by
      rw [get_controlFor kept, FillControl.get_eq_getLsbD]
      exact getLsbD_ones _
    rw [handle, storeFillControl, if_pos busy]
    exact if_pos (Bool.and_eq_true_iff.2 ⟨touches_ones i rfl, trigger⟩)
  | transfer =>
    have nonzero : BitVec.allOnes 32 &&& BitVec.allOnes 32 ≠ 0 := by decide
    rw [handle, storeTransferTrigger, if_pos busy]
    exact if_pos nonzero
  | commandList =>
    have trigger : (CommandTrigger.mk (BitVec.allOnes 32)).trigger = true := by decide
    rw [handle, storeCommandTrigger, if_pos busy]
    exact if_pos (Bool.and_eq_true_iff.2 ⟨touches_ones i rfl, trigger⟩)

theorem trigger_of_store_running {settings : Settings} {i : WordIndex} {e : Engine}
    (refused : running.store settings (ones i) = .error (.inProgress e)) :
    Role.at i = .trigger e := by
  cases refuses_of_store refused with
  | fillRunning role | transferRunning role | commandRunning role => exact role

end Machine

/-- All stores to a word are handled as stores to the trigger of an operation. -/
def Operation.Handles (op : Operation) (i : WordIndex) : Prop :=
  ∃ e, op.engine? = some e ∧ ∀ (settings : Settings) (m : Machine) (s : Store), s.index = i →
    m.dispatch settings s = m.handle settings s e

theorem Operation.handles_iff {op : Operation} {i : WordIndex} :
    op.Handles i ↔ op.triggerWord? = some i.val := by
  rw [triggerWord?_eq_some_iff]
  constructor
  · rintro ⟨e, engine, handled⟩
    -- Where every engine runs, a store of ones tells the triggers apart by the fault it comes to.
    have refused := (handled {} .running (Machine.ones i) rfl).trans (Machine.handle_running ..)
    exact ⟨e, engine, Machine.trigger_of_store_running (congrArg Handled.verdict refused)⟩
  · rintro ⟨e, engine, role⟩
    refine ⟨e, engine, fun settings m s here => ?_⟩
    exact Machine.dispatch_of_trigger (here ▸ role) settings m

/-- The regions stand where the map places them. An index is found exactly in the region that is
placed over it, at its distance from the start of the region, in whatever order the regions are
searched; the regions share no word and lie inside the block. The word at an index starts an
operation exactly when it stands where the region of the operation has its trigger, and the stores
to this word alone are handled as stores to that trigger. -/
theorem locate_inverts_placement :
    (∀ (r : Region) (start : Nat), (r, start) ∈ placements 0 blockMap ↔ start = r.offset) ∧
    (∀ (index : Nat) (r : Region) (k : Nat),
      locate index = some ⟨r, k⟩ ↔ r.offset + k = index ∧ k < r.words) ∧
    (∀ (index : Nat) (r s : Region),
      r.contains index = true → s.contains index = true → r = s) ∧
    (∀ (index : Nat) (order : List Region), (∀ r, r ∈ order) →
      locateIn order index = locate index) ∧
    (∀ (index : Nat) (slot : Slot), locate index = some slot → index < wordCount) ∧
    (∀ (index : Nat) (op : Operation), op.triggerWord? = some index ↔
      ∃ e, op.engine? = some e ∧ Role.at index = .trigger e) ∧
    (∀ (i : WordIndex) (op : Operation), op.Handles i ↔ op.triggerWord? = some i.val) :=
  ⟨fun _ _ => mem_placements_iff, fun _ _ _ => locate_eq_some_iff,
    fun _ _ _ => Region.eq_of_contains, fun _ _ => locateIn_eq_locate,
    fun _ _ => lt_wordCount_of_locate,
    fun _ _ => Operation.triggerWord?_eq_some_iff, fun _ _ => Operation.handles_iff⟩

end GraphicsBlock

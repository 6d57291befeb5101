import GraphicsBlock.Proofs.Accounts
import GraphicsBlock.Proofs.Reachable
import Mathlib.Data.List.InsertIdx
import Mathlib.Data.List.Perm.Basic

namespace GraphicsBlock

/-- The tokens at hand are those of busy engines, one for each at most. -/
structure Machine.Backs (m : Machine) (held : List Token) : Prop where
  nodup : held.Nodup
  busy : ∀ token ∈ held, m.isBusy token.engine = true

namespace Machine.Backs

variable {m : Machine} {held : List Token}

theorem notMem_of_idle (h : m.Backs held) {e : Engine} (idle : m.isBusy e = false) :
    ⟨e⟩ ∉ held := by
  intro mem
  rw [h.busy _ mem] at idle
  cases idle

theorem launch (h : m.Backs held) {e : Engine} {next : Machine} (idle : m.isBusy e = false)
    (activities : next.activities = m.activities.set e .busy) : next.Backs (held ++ [⟨e⟩]) where
  nodup := by
    rw [List.nodup_append]
    refine ⟨h.nodup, by simp, ?_⟩
    intro token mem last hlast same
    rw [List.mem_singleton.1 hlast] at same
    exact h.notMem_of_idle idle (same ▸ mem)
  busy := by
    intro token mem
    rw [isBusy_of_set activities]
    split
    · rfl
    · next other =>
      rcases List.mem_append.1 mem with old | new
      · exact h.busy token old
      · exact absurd (congrArg Token.engine (List.mem_singleton.1 new)).symm other

theorem drop (h : m.Backs held) (position : Nat) : m.Backs (held.eraseIdx position) where
  nodup := h.nodup.eraseIdx position
  busy token mem := h.busy token (List.mem_of_mem_eraseIdx mem)

theorem notMem_eraseIdx (h : m.Backs held) {position : Nat} {token : Token}
    (at_position : held[position]? = some token) : token ∉ held.eraseIdx position := by
  intro mem
  obtain ⟨other, ne, at_other⟩ := List.mem_eraseIdx_iff_getElem?.1 mem
  obtain ⟨lt, _⟩ := List.getElem?_eq_some_iff.1 at_other
  exact ne ((List.getElem?_inj lt h.nodup).1 (at_other.trans at_position.symm))

theorem finish (h : m.Backs held) {position : Nat} {token : Token}
    (at_position : held[position]? = some token) :
    (m.finish token.engine).Backs (held.eraseIdx position) where
  nodup := h.nodup.eraseIdx position
  busy := by
    intro other mem
    have ne : token.engine ≠ other.engine := by
      intro same
      have : token = other := congrArg Token.mk same
      exact h.notMem_eraseIdx at_position (this ▸ mem)
    rw [isBusy_finish, if_neg ne]
    exact h.busy other (List.mem_of_mem_eraseIdx mem)

end Machine.Backs

theorem Reachable.backs {settings : Settings} {m : Machine} {held : List Token}
    (h : Reachable settings m held) : m.Backs held := by
  induction h with
  | start => exact ⟨List.nodup_nil, nofun⟩
  | @write m held _ _ _ accepted _ written ih =>
    obtain ⟨i, _, taken⟩ := Machine.accepts_of_write written
    rcases taken.quiet_or_launch with ⟨same, quiet⟩ | ⟨e, launched, _, idle, activities⟩
    · rw [Accepted.tokens, quiet]
      refine ⟨by simpa using ih.nodup, fun token mem => ?_⟩
      rw [Machine.isBusy, Machine.activity, same]
      exact ih.busy token (by simpa using mem)
    · rw [Accepted.tokens, launched]
      exact ih.launch idle activities
  | complete _ at_position ih => exact ih.finish at_position
  | drop _ _ ih => exact ih.drop _

/-- What a past says of the session that it has led to. -/
structure Session.Books (s : Session E) (past : Past) : Prop where
  accounts : ∀ e, past.Accounts e (s.machine.isBusy e) (s.held.count ⟨e⟩)
  origins : past.origins = s.held.map fun token => past.launches token.engine

namespace Session.Books

variable {E : Type} {s next : Session E} {past : Past} {entry : Event × Outcome}

theorem start (settings : Settings) (executor : E) : (start settings executor).Books [] where
  accounts := by
    intro e
    have idle : Machine.start.isBusy e = false := by simp [Machine.isBusy]
    change Past.Accounts [] e (Machine.start.isBusy e) 0
    rw [idle]
    exact .nil e
  origins := rfl

theorem origins_eq (h : s.Books past) (launched : entry.2.launched? = none) :
    past.origins = s.held.map fun token => Past.launches (entry :: past) token.engine := by
  rw [h.origins]
  apply List.map_congr_left
  intro token _
  rw [Past.launches_cons_of_ne (by simp [launched])]

theorem quiet (h : s.Books past) (activities : next.machine.activities = s.machine.activities)
    (held : next.held = s.held) (launched : entry.2.launched? = none)
    (completed : ∀ e, entry.2.answer ≠ .completed e) (dropped : ∀ e, entry.2.answer ≠ .dropped e)
    (origins : Past.origins (entry :: past) = past.origins) : next.Books (entry :: past) where
  accounts := by
    intro e
    rw [held, Machine.isBusy, Machine.activity, activities]
    exact (h.accounts e).frame (by simp [launched]) (completed e) (dropped e)
  origins := by
    rw [origins, held]
    exact h.origins_eq launched

theorem launch (h : s.Books past) {e : Engine} (idle : s.machine.isBusy e = false)
    (fresh : ⟨e⟩ ∉ s.held) (activities : next.machine.activities = s.machine.activities.set e .busy)
    (held : next.held = s.held ++ [⟨e⟩]) (launched : entry.2.launched? = some e)
    (answered : entry.2.answer = .accepted)
    (origins : Past.origins (entry :: past) = past.origins ++ [past.launches e + 1]) :
    next.Books (entry :: past) where
  accounts := by
    intro f
    rw [Machine.isBusy_of_set activities, held, List.count_append]
    by_cases same : e = f
    · subst same
      have before := h.accounts e
      rw [idle] at before
      rw [if_pos rfl, List.count_singleton_self]
      exact before.launch launched (by simp [answered]) (by simp [answered])
    · have other : List.count (⟨f⟩ : Token) [⟨e⟩] = 0 := by simp [same]
      rw [if_neg same, other]
      exact (h.accounts f).frame (by simp [launched, same]) (by simp [answered])
        (by simp [answered])
  origins := by
    rw [origins, held, List.map_append, h.origins]
    congr 1
    -- No older token is the engine's, so the launches that they came with stay the latest.
    · apply List.map_congr_left
      intro token mem
      have other : e ≠ token.engine := fun same => fresh (same ▸ mem)
      rw [Past.launches_cons_of_ne (by simp [launched, other])]
    · rw [List.map_singleton, Past.launches_cons, if_pos launched]

theorem count_eraseIdx {held : List Token} {position : Nat} {token : Token}
    (at_position : held[position]? = some token) (f : Engine) :
    held.count ⟨f⟩ =
      (held.eraseIdx position).count ⟨f⟩ + if token.engine = f then 1 else 0 := by
  obtain ⟨lt, rfl⟩ := List.getElem?_eq_some_iff.1 at_position
  rw [← (List.getElem_cons_eraseIdx_perm lt).count_eq ⟨f⟩, List.count_cons]
  simp [Token.ext_iff]

theorem complete (h : s.Books past) {position : Nat} {token : Token}
    (at_position : s.held[position]? = some token) (last : token ∉ s.held.eraseIdx position)
    (machine : next.machine = s.machine.finish token.engine)
    (held : next.held = s.held.eraseIdx position) (launched : entry.2.launched? = none)
    (answered : entry.2.answer = .completed token.engine)
    (origins : Past.origins (entry :: past) = past.origins.eraseIdx position) :
    next.Books (entry :: past) where
  accounts := by
    intro f
    have before := h.accounts f
    rw [count_eraseIdx at_position] at before
    rw [machine, Machine.isBusy_finish, held]
    by_cases same : token.engine = f
    · subst same
      -- The engine has no second token to be left with.
      have gone : (s.held.eraseIdx position).count ⟨token.engine⟩ = 0 := List.count_eq_zero.2 last
      rw [if_pos rfl, gone] at before ⊢
      exact before.complete (by simp [launched]) answered
    · rw [if_neg same] at before ⊢
      exact before.frame (by simp [launched]) (by simp [answered, same]) (by simp [answered])
  origins := by
    rw [origins, held, h.origins_eq launched, List.eraseIdx_map]

theorem drop (h : s.Books past) {position : Nat} {token : Token}
    (at_position : s.held[position]? = some token) (machine : next.machine = s.machine)
    (held : next.held = s.held.eraseIdx position) (launched : entry.2.launched? = none)
    (answered : entry.2.answer = .dropped token.engine)
    (origins : Past.origins (entry :: past) = past.origins.eraseIdx position) :
    next.Books (entry :: past) where
  accounts := by
    intro f
    have before := h.accounts f
    rw [count_eraseIdx at_position] at before
    rw [machine, held]
    by_cases same : token.engine = f
    · subst same
      rw [if_pos rfl] at before
      exact before.drop (by simp [launched]) answered
    · rw [if_neg same] at before
      exact before.frame (by simp [launched]) (by simp [answered]) (by simp [answered, same])
  origins := by
    rw [origins, held, h.origins_eq launched, List.eraseIdx_map]

theorem origins_eraseIdx_of_none (h : s.Books past) {position : Nat}
    (absent : s.held[position]? = none) : past.origins.eraseIdx position = past.origins := by
  apply List.eraseIdx_of_length_le
  rw [h.origins, List.length_map]
  exact List.getElem?_eq_none_iff.1 absent

end Session.Books

/-- The executor leaves its tokens alone while it is called, and so do the executors that calls
turn it into. -/
def Keeps {E : Type} [Conduct E] (executor : E) : Prop :=
  ∃ kept : E → Prop, kept executor ∧ ∀ x, kept x → ∀ call held,
    (Conduct.receive x call held).2 = [] ∧ kept (Conduct.receive x call held).1

namespace Executor

theorem finishesAtOnce_note (executor : Executor) (call : Call) :
    (executor.note call).finishesAtOnce = executor.finishesAtOnce := by
  cases executor with
  | holding | immediate => rfl
  | tracing => cases call <;> rfl

theorem keeps {executor : Executor} (h : executor.finishesAtOnce = false) : Keeps executor := by
  refine ⟨(·.finishesAtOnce = false), h, fun x deferring call held => ⟨?_, ?_⟩⟩
  · change x.deeds call held = _
    rw [deeds, deferring]
    rfl
  · exact (x.finishesAtOnce_note call).trans deferring

theorem keeps_holding : Keeps Executor.holding := keeps rfl

end Executor

theorem Keeps.receive {E : Type} [Conduct E] {executor : E} (h : Keeps executor) (call : Call)
    (held : List Token) :
    (Conduct.receive executor call held).2 = [] ∧ Keeps (Conduct.receive executor call held).1 := by
  obtain ⟨kept, now, always⟩ := h
  obtain ⟨idle, next⟩ := always executor now call held
  exact ⟨idle, kept, next, always⟩

namespace Session

variable {E : Type} [Conduct E] {s : Session E} {past : Past}

theorem settle_of_keeps (keeps : Keeps s.executor) (accepted : Accepted) :
    (s.settle accepted).machine = accepted.machine ∧
      (s.settle accepted).held = s.held ++ accepted.tokens :=
  settle_of_idle_conduct fun call _ => (keeps.receive call _).1

theorem Books.write (keeps : Keeps s.executor) (reached : s.IsReachable) (h : s.Books past)
    (w : Width) (address : Address) (value : BitVec w.bits) :
    (s.step (.write w address value)).1.Books
      ((.write w address value, (s.step (.write w address value)).2) :: past) := by
  cases written : s.machine.write s.settings w address value with
  | error fault =>
    obtain ⟨unchanged, called, answer⟩ := step_write_of_error written
    have launched : (s.step (.write w address value)).2.launched? = none := by
      simp [Outcome.launched?, called]
    refine h.quiet ?_ ?_ launched (by simp [answer]) (by simp [answer])
      (by simp [Past.origins, launched])
    · rw [unchanged]
    · rw [unchanged]
  | ok accepted =>
    obtain ⟨next, called, answer⟩ := step_write_of_ok written
    obtain ⟨machine, held⟩ := settle_of_keeps keeps accepted
    have launched : (s.step (.write w address value)).2.launched? = accepted.launched? := by
      simp [Outcome.launched?, Accepted.launched?, called]
    obtain ⟨i, _, taken⟩ := Machine.accepts_of_write written
    rcases taken.quiet_or_launch with ⟨same, quiet⟩ | ⟨e, work, _, idle, activities⟩
    · refine h.quiet ?_ ?_ (launched.trans quiet) (by simp [answer]) (by simp [answer])
        (by simp [Past.origins, launched, quiet])
      · rw [next, machine, same]
      · rw [next, held, Accepted.tokens, quiet]
        exact List.append_nil _
    · refine h.launch idle (reached.backs.notMem_of_idle idle) ?_ ?_ (launched.trans work) answer
        (by simp [Past.origins, launched, work])
      · rw [next, machine, activities]
      · rw [next, held, Accepted.tokens, work]
        rfl

theorem Books.step (keeps : Keeps s.executor) (reached : s.IsReachable) (h : s.Books past)
    (event : Event) :
    (s.step event).1.Books ((event, (s.step event).2) :: past) := by
  cases event with
  | read w address =>
    obtain ⟨same, called, ⟨value, answer⟩ | ⟨fault, answer⟩⟩ := s.step_read w address
    all_goals
      refine h.quiet ?_ ?_ (by simp [Outcome.launched?, called]) (by simp [answer])
        (by simp [answer]) rfl
      · rw [same]
      · rw [same]
  | write w address value => exact h.write keeps reached w address value
  | complete position =>
    cases token : s.held[position]? with
    | none =>
      rw [Session.step, complete_of_none token]
      exact h.quiet rfl rfl rfl (by simp) (by simp) (h.origins_eraseIdx_of_none token)
    | some =>
      rw [Session.step, complete_of_some token]
      exact h.complete token (reached.backs.notMem_eraseIdx token) rfl rfl rfl rfl rfl
  | drop position =>
    cases token : s.held[position]? with
    | none =>
      rw [Session.step, drop_of_none token]
      exact h.quiet rfl rfl rfl (by simp) (by simp) (h.origins_eraseIdx_of_none token)
    | some =>
      rw [Session.step, drop_of_some token]
      exact h.drop token rfl rfl rfl rfl rfl

theorem keeps_step (keeps : Keeps s.executor) (event : Event) :
    Keeps (s.step event).1.executor := by
  cases event with
  | read => exact keeps
  | write w address value =>
    cases written : s.machine.write s.settings w address value with
    | error =>
      rw [(step_write_of_error written).1]
      exact keeps
    | ok accepted =>
      rw [(step_write_of_ok written).1, executor_settle]
      cases accepted.call with
      | none => exact keeps
      | some call => exact (keeps.receive call _).2
  | complete position => exact (s.acts_complete position).executor_eq ▸ keeps
  | drop position => exact (s.acts_drop position).executor_eq ▸ keeps

structure Kept (s : Session E) (past : Past) : Prop where
  keeps : Keeps s.executor
  reached : s.IsReachable
  books : s.Books past

theorem kept_start (settings : Settings) {executor : E} (keeps : Keeps executor) :
    (start settings executor).Kept [] :=
  ⟨keeps, isReachable_start settings executor, .start settings executor⟩

theorem Kept.step (h : s.Kept past) (event : Event) :
    (s.step event).1.Kept ((event, (s.step event).2) :: past) :=
  ⟨keeps_step h.keeps event, isReachable_step h.reached event, h.books.step h.keeps h.reached event⟩

theorem kept_run (settings : Settings) {executor : E} (keeps : Keeps executor)
    (events : List Event) :
    ((start settings executor).run events).1.Kept ((start settings executor).history events) :=
  history_induction (kept_start settings keeps) (fun _ _ event h => h.step event) events

theorem held_of_completed {event : Event} {e : Engine}
    (completed : (s.step event).2.answer = .completed e) :
    ∃ position, event = .complete position ∧ s.held[position]? = some ⟨e⟩ := by
  cases event with
  | read w address =>
    obtain ⟨_, _, ⟨value, answer⟩ | ⟨fault, answer⟩⟩ := s.step_read w address
    all_goals
      rw [answer] at completed
      cases completed
  | write w address value =>
    cases written : s.machine.write s.settings w address value with
    | error =>
      rw [(step_write_of_error written).2.2] at completed
      cases completed
    | ok =>
      rw [(step_write_of_ok written).2.2] at completed
      cases completed
  | complete position =>
    cases token : s.held[position]? with
    | none =>
      rw [Session.step, complete_of_none token] at completed
      cases completed
    | some held =>
      rw [Session.step, complete_of_some token] at completed
      cases completed
      exact ⟨position, rfl, token⟩
  | drop position =>
    cases token : s.held[position]? with
    | none =>
      rw [Session.step, drop_of_none token] at completed
      cases completed
    | some =>
      rw [Session.step, drop_of_some token] at completed
      cases completed

theorem Kept.completed_iff (h : s.Kept past) (event : Event) (e : Engine) :
    (s.step event).2.answer = .completed e ↔
      s.machine.isBusy e = true ∧ (s.step event).1.machine.isBusy e = false := by
  constructor
  · intro completed
    obtain ⟨position, rfl, at_position⟩ := held_of_completed completed
    refine ⟨h.reached.backs.busy _ (List.mem_of_getElem? at_position), ?_⟩
    rw [Session.step, complete_of_some at_position, Machine.isBusy_finish, if_pos rfl]
  · rintro ⟨busy, idle⟩
    by_contra other
    -- Without a completion the one launch since the engine was last idle would still count.
    have before := (h.books.accounts e).running
    have after := ((h.step event).books.accounts e).running
    rw [Past.sinceIdle_cons_of_ne other, Past.launches_cons, before] at after
    simp [busy, idle] at after

/-- With an executor that keeps its tokens, each engine has at most one live token and is busy
while it has one. It is busy exactly if since it last fell idle one launch has brought one token,
which is still held or is lost. A completion ends the latest launch of a busy engine, and nothing
else makes an engine idle. Launches are completions, live tokens and lost ones. -/
theorem token_discipline (settings : Settings) {executor : E} (keeps : Keeps executor)
    (events : List Event) :
    let s := ((start settings executor).run events).1
    let past := (start settings executor).history events
    (∀ e, s.held.count ⟨e⟩ ≤ 1) ∧
    (∀ e, ⟨e⟩ ∈ s.held → s.machine.isBusy e = true) ∧
    (∀ e, s.machine.isBusy e = true ↔ (past.sinceIdle e).launches e = 1 ∧
      s.held.count ⟨e⟩ + (past.sinceIdle e).losses e = 1) ∧
    (∀ position e, s.held[position]? = some ⟨e⟩ → s.machine.isBusy e = true ∧
      (s.complete position).1.machine.isBusy e = false ∧
      past.origins[position]? = some (past.launches e)) ∧
    (∀ event e, (s.step event).2.answer = .completed e ↔
      s.machine.isBusy e = true ∧ (s.step event).1.machine.isBusy e = false) ∧
    (∀ e, past.launches e = past.completions e + s.held.count ⟨e⟩ + past.losses e) := by
  intro s past
  have kept : s.Kept past := kept_run settings keeps events
  have backs : s.machine.Backs s.held := kept.reached.backs
  refine ⟨fun e => List.nodup_iff_count.1 backs.nodup _, fun e mem => backs.busy _ mem,
    fun e => (kept.books.accounts e).busy_iff, fun position e at_position => ?_, kept.completed_iff,
    fun e => (kept.books.accounts e).total⟩
  have completed : (s.step (.complete position)).2.answer = .completed e := by
    rw [Session.step, complete_of_some at_position]
  obtain ⟨busy, idle⟩ := (kept.completed_iff _ e).1 completed
  refine ⟨busy, idle, ?_⟩
  rw [kept.books.origins, List.getElem?_map, at_position]
  rfl

theorem token_discipline_holding :
    Keeps Executor.holding ∧
      let events : List Event := [.write .full 0x18F0#32 1#32, .complete 0,
        .write .byte 0x18F0#32 1#8, .drop 0]
      ((start {} Executor.holding).run events).1.machine.isBusy .commandList = true :=
  ⟨Executor.keeps_holding,
    ((token_discipline {} Executor.keeps_holding _).2.2.1 .commandList).2 (by decide +kernel)⟩

end Session

end GraphicsBlock

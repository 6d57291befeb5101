import GraphicsBlock.Job

namespace GraphicsBlock

inductive Activity
  | idle
  | busy
  deriving DecidableEq

def Activity.outline : Activity → Text.Outline
  | .idle => .plain "Idle"
  | .busy => .plain "Busy"

structure Activities where
  fill0 : Activity := .idle
  fill1 : Activity := .idle
  transfer : Activity := .idle
  commandList : Activity := .idle
  deriving DecidableEq

namespace Activities

def get (a : Activities) : Engine → Activity
  | .fill .zero => a.fill0
  | .fill .one => a.fill1
  | .transfer => a.transfer
  | .commandList => a.commandList

def set (a : Activities) (e : Engine) (value : Activity) : Activities :=
  match e with
  | .fill .zero => { a with fill0 := value }
  | .fill .one => { a with fill1 := value }
  | .transfer => { a with transfer := value }
  | .commandList => { a with commandList := value }

theorem get_set (a : Activities) (e f : Engine) (value : Activity) :
    (a.set e value).get f = if e = f then value else a.get f := by
  rcases e with (_ | _) | _ | _ <;> rcases f with (_ | _) | _ | _ <;> simp [set, get]

@[ext] theorem ext_get {a b : Activities} (h : ∀ e, a.get e = b.get e) : a = b := by
  cases a
  cases b
  have h0 := h (.fill .zero)
  have h1 := h (.fill .one)
  have h2 := h .transfer
  have h3 := h .commandList
  simp_all [get]

end Activities

structure Machine where
  file : RegisterFile
  activities : Activities
  deriving DecidableEq

namespace Machine

def start : Machine := ⟨.blank, {}⟩

def activity (m : Machine) (e : Engine) : Activity := m.activities.get e

def isBusy (m : Machine) (e : Engine) : Bool := m.activity e = .busy

def operationActivity (m : Machine) (op : Operation) : Activity :=
  match op.engine? with
  | some e => m.activity e
  | none => .idle

def update (m : Machine) (r : Register) (value : Word) (e : Engine) (activity : Activity) :
    Machine :=
  ⟨m.file.setRegister r value, m.activities.set e activity⟩

/-- What the trigger word holds once the engine is done with `word` in it: a fill reports its end in
the control word, the other engines clear theirs. -/
def doneWord (e : Engine) (word : Word) : Word :=
  match e with
  | .fill _ => (((FillControl.mk word).set .trigger false).set .finished true).raw
  | .transfer | .commandList => 0

def finish (m : Machine) (e : Engine) : Machine :=
  match e.operation.triggerWord? with
  | none => m
  | some index =>
    let done := doneWord e ((m.file.read? index).toOption.getD 0)
    -- A trigger word lies inside the file, so that this write does not fail.
    let file := (m.file.write? index done).toOption.getD m.file
    ⟨file, m.activities.set e .idle⟩

theorem finish_eq (m : Machine) (e : Engine) :
    m.finish e = m.update e.trigger (doneWord e (m.file.register e.trigger)) e .idle := by
  rw [finish, e.triggerWord?_operation]
  simp only [RegisterFile.read?_index, RegisterFile.write?_index]
  rfl

theorem ext_get {m n : Machine} (word : ∀ i, m.file.get i = n.file.get i)
    (activity : ∀ e, m.activity e = n.activity e) : m = n := by
  cases m
  cases n
  congr
  · exact RegisterFile.ext word
  · exact Activities.ext_get activity

@[simp] theorem activity_start (e : Engine) : start.activity e = .idle := by
  rcases e with (_ | _) | _ | _ <;> rfl

theorem activity_of_set {m next : Machine} {e : Engine} {a : Activity}
    (h : next.activities = m.activities.set e a) (f : Engine) :
    next.activity f = if e = f then a else m.activity f := by
  rw [activity, h]
  exact Activities.get_set ..

theorem isBusy_of_set {m next : Machine} {e : Engine} {a : Activity}
    (h : next.activities = m.activities.set e a) (f : Engine) :
    next.isBusy f = if e = f then decide (a = .busy) else m.isBusy f := by
  rw [isBusy, activity_of_set h]
  split <;> rfl

theorem isBusy_update (m : Machine) (r : Register) (word : Word) (e f : Engine) (a : Activity) :
    (m.update r word e a).isBusy f = if e = f then decide (a = .busy) else m.isBusy f :=
  isBusy_of_set rfl f

theorem isBusy_finish (m : Machine) (e f : Engine) :
    (m.finish e).isBusy f = if e = f then false else m.isBusy f := by
  rw [finish_eq]
  exact isBusy_update ..

theorem activity_finish (m : Machine) (e f : Engine) :
    (m.finish e).activity f = if e = f then .idle else m.activity f := by
  rw [finish_eq]
  exact activity_of_set rfl f

theorem register_finish (m : Machine) (e : Engine) (r : Register) :
    (m.finish e).file.register r =
      if e.trigger = r then doneWord e (m.file.register e.trigger) else m.file.register r := by
  rw [finish_eq]
  exact RegisterFile.register_setRegister ..

theorem register_finish_of_ne (m : Machine) {e : Engine} {r : Register} (h : e.trigger ≠ r) :
    (m.finish e).file.register r = m.file.register r := by
  rw [register_finish, if_neg h]

theorem get_finish (m : Machine) (e : Engine) (i : WordIndex) :
    (m.finish e).file.get i =
      if e.trigger.index = i then doneWord e (m.file.register e.trigger) else m.file.get i := by
  rw [finish_eq]
  exact RegisterFile.get_set ..

end Machine

end GraphicsBlock

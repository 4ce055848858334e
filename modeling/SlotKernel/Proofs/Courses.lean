import SlotKernel.Machine.Basic

/-!
Computations with the places marked where something else may come in. A lock is taken or released, a
hook is called, bytes go to another slot, a context is captured or restored: there a `Course` stops
over, and it goes on from whatever answer and state it is given. So a course that was captured can go
on much later, in a state that other courses have left behind, and more than once. A `Script` is a
computation that follows a course from every state. With the machine's own answers at every point it
is an ordinary computation again.

What a course does is told by a protocol: at each point it says what must hold there and with what
the course may be continued. A course that meets a protocol does so along every continuation.
-/

namespace SlotKernel

/-- A place in a computation where something else may come in. -/
inductive Point where
  /-- The lock of the kernel state is to be taken. -/
  | lock
  | unlock
  /-- The refresh hook is called. -/
  | hook
  | copy (target : PhysAddr) (source : VirtAddr) (count : UInt32)
  | capture
  | restore (ctx : Context)

/-- What a computation is told at a point. -/
@[reducible]
def Point.Answer : Point → Type
  | .capture => Capture
  | _ => Unit

/-- How a computation on `σ` goes on from some state: it ends, or it reaches a point and goes on from
there as it is answered. -/
inductive Course (σ α : Type) where
  | returned (a : α) (s : σ)
  | stopped (stop : Stop) (s : σ)
  | reached (point : Point) (s : σ) (next : point.Answer → σ → Course σ α)

/-- A computation with its points marked. -/
def Script (σ α : Type) :=
  σ → Course σ α

variable {σ α β ι : Type}

def Course.bind : Course σ α → (α → Script σ β) → Course σ β
  | .returned a s, next => next a s
  | .stopped stop s, _ => .stopped stop s
  | .reached point s rest, next => .reached point s fun answer s => (rest answer s).bind next

instance : Monad (Script σ) where
  pure a := fun s => .returned a s
  bind script next := fun s => (script s).bind next

namespace Script

/-- A computation without points. -/
def lift (act : Run σ α) : Script σ α := fun s =>
  match act s with
  | .ok a s => .returned a s
  | .error stop s => .stopped stop s

def visit (point : Point) : Script σ point.Answer := fun s =>
  .reached point s .returned

end Script

/-! ### Running -/

/-- Follow a course with one way of answering for each point. -/
def Course.run (answer : (point : Point) → Run σ point.Answer) :
    Course σ α → EStateM.Result Stop σ α
  | .returned a s => .ok a s
  | .stopped stop s => .error stop s
  | .reached point s next =>
      match answer point s with
      | .ok a s => (next a s).run answer
      | .error stop s => .error stop s

/-- The computation that a script is with these answers. -/
def Script.run (answer : (point : Point) → Run σ point.Answer) (script : Script σ α) : Run σ α :=
  fun s => (script s).run answer

section Run

variable (answer : (point : Point) → Run σ point.Answer)

theorem Course.run_bind (course : Course σ α) (next : α → Script σ β) :
    (course.bind next).run answer =
      match course.run answer with
      | .ok a s => (next a s).run answer
      | .error stop s => .error stop s := by
  induction course with
  | returned a s => rfl
  | stopped stop s => rfl
  | reached point s rest ih =>
      simp only [Course.bind, Course.run]
      cases answer point s with
      | ok a s => exact ih a s
      | error stop s => rfl

namespace Script

theorem run_pure (a : α) : (pure a : Script σ α).run answer = pure a :=
  rfl

theorem run_lift (act : Run σ α) : (lift act).run answer = act := by
  funext s
  rw [run, lift]
  cases act s <;> rfl

theorem run_visit (point : Point) : (visit point : Script σ _).run answer = answer point := by
  funext s
  rw [run, visit, Course.run]
  cases answer point s <;> rfl

theorem run_bind (script : Script σ α) (next : α → Script σ β) :
    (script >>= next).run answer = script.run answer >>= fun a => (next a).run answer := by
  funext s
  change ((script s).bind next).run answer =
    EStateM.bind (script.run answer) (fun a => (next a).run answer) s
  rw [Course.run_bind, EStateM.bind, run]
  cases (script s).run answer <;> rfl

end Script

end Run

/-! ### Protocols -/

/-- What is asked of a course at each point, in terms of what it may be continued with. A protocol
keeps a record of its own beside the state. -/
structure Protocol (σ ι : Type) where
  asks : (point : Point) → σ → ι → (point.Answer → σ → ι → Prop) → Prop
  /-- The stops that are allowed. -/
  stops : Stop → Prop
  asks_mono : ∀ {point s i} {goal goal' : point.Answer → σ → ι → Prop},
    (∀ answer s i, goal answer s i → goal' answer s i) → asks point s i goal → asks point s i goal'

variable {protocol : Protocol σ ι} {post post' : α → σ → ι → Prop} {s : σ} {i : ι}

/-- The course keeps to the protocol, and where it returns, `post` holds. -/
def Course.Meets (protocol : Protocol σ ι) (post : α → σ → ι → Prop) : Course σ α → ι → Prop
  | .returned a s, i => post a s i
  | .stopped stop _, _ => protocol.stops stop
  | .reached point s next, i =>
      protocol.asks point s i fun answer s i => (next answer s).Meets protocol post i

theorem Course.Meets.imp {course : Course σ α} (h : course.Meets protocol post i)
    (hpost : ∀ a s i, post a s i → post' a s i) : course.Meets protocol post' i := by
  induction course generalizing i with
  | returned a s => exact hpost a s i h
  | stopped stop s => exact h
  | reached point s next ih => exact protocol.asks_mono (fun answer s i => ih answer s) h

theorem Course.meets_bind {course : Course σ α} {next : α → Script σ β}
    {post : β → σ → ι → Prop}
    (h : course.Meets protocol (fun a s i => (next a s).Meets protocol post i) i) :
    (course.bind next).Meets protocol post i := by
  induction course generalizing i with
  | returned a s => exact h
  | stopped stop s => exact h
  | reached point s rest ih => exact protocol.asks_mono (fun answer s i => ih answer s) h

namespace Script

/-- From this state and with this record, the script keeps to the protocol. -/
def Meets (protocol : Protocol σ ι) (script : Script σ α) (post : α → σ → ι → Prop) (s : σ)
    (i : ι) : Prop :=
  (script s).Meets protocol post i

theorem meets_bind {script : Script σ α} {next : α → Script σ β} {post : β → σ → ι → Prop}
    (h : Meets protocol script (fun a => (next a).Meets protocol post) s i) :
    Meets protocol (script >>= next) post s i :=
  Course.meets_bind h

theorem Meets.imp {script : Script σ α} (h : Meets protocol script post s i)
    (hpost : ∀ a s i, post a s i → post' a s i) : Meets protocol script post' s i :=
  Course.Meets.imp h hpost

/-- Where the first part has done what is asked of it, the second part takes over. -/
theorem Meets.bind {script : Script σ α} {next : α → Script σ β} {mid : α → σ → ι → Prop}
    {post : β → σ → ι → Prop} (h : Meets protocol script mid s i)
    (hnext : ∀ a s i, mid a s i → (next a).Meets protocol post s i) :
    Meets protocol (script >>= next) post s i :=
  meets_bind (h.imp hnext)

theorem meets_visit {point : Point} {post : point.Answer → σ → ι → Prop}
    (h : protocol.asks point s i post) : Meets protocol (visit point) post s i :=
  h

theorem meets_lift {act : Run σ α} (hreturn : ∀ a s', act s = .ok a s' → post a s' i)
    (hstop : ∀ stop s', act s = .error stop s' → protocol.stops stop) :
    Meets protocol (lift act) post s i := by
  rw [Meets, lift]
  cases hact : act s with
  | ok a s' => exact hreturn a s' hact
  | error stop s' => exact hstop stop s' hact

end Script

end SlotKernel

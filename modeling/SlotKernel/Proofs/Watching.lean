import SlotKernel.Proofs.Scripts
import SlotKernel.Services.Shell

/-!
The services of the kernel under the eyes of a watcher. Each service is the one that it is named for
with marks added where a service begins and ends, where a switch has given back the lock, and where a
hook is called; a mark keeps the whole system as it is then. The marks are all that is added: with
them left out, what is watched does what the service does.
-/

namespace SlotKernel

/-- What is left of a switch once the lock is released. -/
def callIfResumed {m : Type → Type} [Monad m] (call : RefreshHook → m Unit) :
    Option (SwitchOutcome × Option RefreshHook) → m (Option SwitchOutcome)
  | some (.resumed, some hook) => do
      call hook
      return some .resumed
  | answer => return answer.map (·.1)

theorem SystemM.switchThen_eq {μ : Type} [Machine μ] (call : RefreshHook → SystemM μ Unit)
    (number : Nat) :
    switchThen call number = (do
      callIfResumed call (← withKernel (requestSwitch number)).join) := by
  unfold switchThen
  congr 1
  funext answer
  rcases answer.join with _ | ⟨outcome, hook⟩
  · rfl
  · cases outcome <;> cases hook <;> rfl

/-- What the watcher notes, with the system as it is at that point. -/
inductive Mark (μ : Type) where
  /-- A service begins. -/
  | entered (system : System μ)
  /-- A service returns. -/
  | left (system : System μ)
  /-- The part of a switch under the lock is over and the lock is released. -/
  | switched (number : Nat) (before : System μ) (outcome : Option SwitchOutcome)
      (system : System μ)
  /-- The kernel calls its hook. -/
  | called (hook : RefreshHook) (system : System μ)
  /-- The shell has registered a function. -/
  | shellRegistered (requests : List Request) (system : System μ)
  /-- The function of the shell is called. -/
  | shellCalled (requests : List Request) (system : System μ)

/-- A system and the marks so far, the latest first. -/
structure Watched (μ : Type) where
  system : System μ
  marks : List (Mark μ) := []

abbrev WatchedM (μ : Type) := Run (Watched μ)

/-- A call of a service, by a program of the kernel or by the shell, or something that becomes of the
machine between two calls. -/
inductive ServiceCall (μ : Type) where
  | request (made : Request)
  | shellActiveProcess
  | shellSwitchTo (number : UInt32)
  | shellSetRefreshHook (requests : List Request)
  | shellViewportBase
  | shellMapPhysical (phys : UInt32)
  | turn (machine : μ)

section Perform

variable {μ : Type} [Machine μ]

def ServiceCall.perform : ServiceCall μ → SystemM μ Unit
  | .request made => SystemM.perform SystemM.switchTo made
  | .shellActiveProcess => do let _ ← Shell.activeProcess
  | .shellSwitchTo number => Shell.switchTo number
  | .shellSetRefreshHook requests => Shell.setRefreshHook requests
  | .shellViewportBase => do let _ ← Shell.viewportBase
  | .shellMapPhysical phys => do let _ ← Shell.mapPhysical phys
  | .turn machine =>
      modify fun system => { system with board := { system.board with machine := machine } }

end Perform

namespace WatchedM

variable {μ α β : Type}

/-- Let the system work. -/
def watch (act : SystemM μ α) : WatchedM μ α
  | ⟨system, marks⟩ =>
      match act system with
      | .ok a system => .ok a ⟨system, marks⟩
      | .error stop system => .error stop ⟨system, marks⟩

def note (mark : System μ → Mark μ) : WatchedM μ Unit :=
  modify fun w => { w with marks := mark w.system :: w.marks }

/-- Do the work of a service. -/
def service (act : WatchedM μ α) : WatchedM μ α := do
  note .entered
  let a ← act
  note .left
  return a

def setRefreshHook (hook : RefreshHook) : WatchedM μ Bool :=
  service (watch (SystemM.setRefreshHook hook))

def registerShellHook (requests : List Request) : WatchedM μ Unit :=
  service do
    watch (SystemM.setShellHook requests)
    note (.shellRegistered requests)
    let _ ← setRefreshHook .shell

variable [Machine μ]

section Hooks

variable (switch : Nat → WatchedM μ (Option SwitchOutcome))

def perform : Request → WatchedM μ Unit
  | .note text => watch (SystemM.record (.note text))
  | .status => do
      let active ← service (watch SystemM.activeProcess)
      let count ← service (watch SystemM.processCount)
      let base ← service (watch SystemM.viewportBase)
      watch (SystemM.record (.status active count base))
  | .switchTo process => do
      let outcome ← switch process
      watch (SystemM.record (.switched outcome))
  | .mapPhysical phys => do
      let answer ← service (watch (SystemM.mapPhysical phys))
      watch (SystemM.record (.mapped answer))
  | .register hook => do
      let accepted ← setRefreshHook hook
      watch (SystemM.record (.registered accepted))
  | .registerShell requests => registerShellHook requests

def callShell : WatchedM μ Unit := do
  match ← watch SystemM.getShellHook with
  | none => return ()
  | some requests =>
      note (.shellCalled requests)
      requests.forM (perform switch)

def callHook (hook : RefreshHook) : WatchedM μ Unit := do
  note (.called hook)
  match hook with
  | .redraw => watch (HasConsole.onConsole (·.refresh))
  | .shell => callShell switch
  | .requests requests => requests.forM (perform switch)

end Hooks

/-- The part of a switch under the lock. -/
def switchLocked (number : Nat) : WatchedM μ (Option (SwitchOutcome × Option RefreshHook)) := do
  let before := (← get).system
  let answer ← watch (SystemM.withKernel (SystemM.requestSwitch number))
  note (.switched number before (answer.join.map (·.1)))
  return answer.join

def switchThen (call : RefreshHook → WatchedM μ Unit) (number : Nat) :
    WatchedM μ (Option SwitchOutcome) :=
  service do
    callIfResumed call (← switchLocked number)

def switchWithin : Nat → Nat → WatchedM μ (Option SwitchOutcome)
  | 0, number => switchThen (fun _ => throw .hooksNested) number
  | depth + 1, number => switchThen (callHook (switchWithin depth)) number

def switchTo (number : Nat) : WatchedM μ (Option SwitchOutcome) := do
  let depth := Machine.pendingResumes (← get).system.board.machine
  switchWithin depth number

def call : ServiceCall μ → WatchedM μ Unit
  | .request made => perform switchTo made
  | .shellActiveProcess => do let _ ← service (watch SystemM.activeProcess)
  | .shellSwitchTo number => do let _ ← switchTo number.toNat
  | .shellSetRefreshHook requests => registerShellHook requests
  | .shellViewportBase => do let _ ← service (watch SystemM.viewportBase)
  | .shellMapPhysical phys => do let _ ← service (watch (SystemM.mapPhysical ⟨phys⟩))
  | .turn machine =>
      watch (modify fun system => { system with board := { system.board with machine := machine } })

/-! ### What is watched -/

/-- With the marks left out, the watched computation is this one. -/
def Watches (watched : WatchedM μ α) (act : SystemM μ α) : Prop :=
  ∀ w, act w.system =
    match watched w with
    | .ok a w' => .ok a w'.system
    | .error stop w' => .error stop w'.system

omit [Machine μ]

theorem watches_watch (act : SystemM μ α) : Watches (watch act) act := by
  rintro ⟨system, marks⟩
  simp only [watch]
  cases act system <;> rfl

theorem watches_pure (a : α) : Watches (pure a : WatchedM μ α) (pure a) :=
  fun _ => rfl

theorem watches_throw (stop : Stop) : Watches (throw stop : WatchedM μ α) (throw stop) :=
  fun _ => rfl

theorem Watches.bind {watched : WatchedM μ α} {act : SystemM μ α} {next : α → WatchedM μ β}
    {next' : α → SystemM μ β} (h : Watches watched act) (hnext : ∀ a, Watches (next a) (next' a)) :
    Watches (watched >>= next) (act >>= next') := by
  intro w
  have hact := h w
  change EStateM.bind act next' w.system = match EStateM.bind watched next w with
    | .ok b w' => .ok b w'.system
    | .error stop w' => .error stop w'.system
  rw [EStateM.bind, EStateM.bind, hact]
  cases watched w with
  | error stop w₁ => rfl
  | ok a w₁ => exact hnext a w₁

/-- A mark is not part of what is watched. -/
theorem Watches.note_bind {watched : WatchedM μ α} {act : SystemM μ α} (h : Watches watched act)
    (mark : System μ → Mark μ) : Watches (note mark >>= fun _ => watched) act :=
  fun w => h { w with marks := mark w.system :: w.marks }

theorem Watches.service {watched : WatchedM μ α} {act : SystemM μ α} (h : Watches watched act) :
    Watches (service watched) act := by
  have hleft := h.bind fun a => (watches_pure a).note_bind .left
  rw [bind_pure] at hleft
  exact hleft.note_bind .entered

theorem watches_get_bind {next : Watched μ → WatchedM μ α} {act : SystemM μ α}
    (h : ∀ w, Watches (next w) act) : Watches (get >>= next) act :=
  fun w => h w w

theorem watches_forM {watched : β → WatchedM μ Unit} {act : β → SystemM μ Unit}
    (h : ∀ item, Watches (watched item) (act item)) (items : List β) :
    Watches (items.forM watched) (items.forM act) := by
  induction items with
  | nil => exact watches_pure ()
  | cons item items ih => exact (h item).bind fun _ => ih

theorem watches_setRefreshHook (hook : RefreshHook) :
    Watches (setRefreshHook hook : WatchedM μ Bool) (SystemM.setRefreshHook hook) :=
  (watches_watch _).service

theorem watches_registerShellHook (requests : List Request) :
    Watches (registerShellHook requests : WatchedM μ Unit)
      (SystemM.registerShellHook requests) := by
  apply Watches.service
  refine (watches_watch _).bind fun _ => Watches.note_bind ?_ _
  exact (watches_setRefreshHook .shell).bind fun _ => watches_pure ()

theorem watches_callIfResumed {call : RefreshHook → WatchedM μ Unit}
    {call' : RefreshHook → SystemM μ Unit} (h : ∀ hook, Watches (call hook) (call' hook))
    (answer : Option (SwitchOutcome × Option RefreshHook)) :
    Watches (callIfResumed call answer) (callIfResumed call' answer) := by
  rcases answer with _ | ⟨outcome, hook⟩
  · exact watches_pure _
  · cases outcome with
    | unchanged => exact watches_pure _
    | transferred => exact watches_pure _
    | resumed =>
        cases hook with
        | none => exact watches_pure _
        | some hook => exact (h hook).bind fun _ => watches_pure _

section Hooks

variable [Machine μ] {switch : Nat → WatchedM μ (Option SwitchOutcome)}
  {switch' : Nat → SystemM μ (Option SwitchOutcome)}
  (h : ∀ number, Watches (switch number) (switch' number))

include h

theorem watches_perform (request : Request) :
    Watches (perform switch request) (SystemM.perform switch' request) := by
  cases request with
  | note text => exact watches_watch _
  | status =>
      refine (watches_watch _).service.bind fun active => ?_
      refine (watches_watch _).service.bind fun count => ?_
      exact (watches_watch _).service.bind fun base => watches_watch _
  | switchTo process => exact (h process).bind fun outcome => watches_watch _
  | mapPhysical phys => exact (watches_watch _).service.bind fun answer => watches_watch _
  | register hook => exact (watches_setRefreshHook hook).bind fun accepted => watches_watch _
  | registerShell requests => exact watches_registerShellHook requests

theorem watches_callHook (hook : RefreshHook) :
    Watches (callHook switch hook) (SystemM.callHook switch' hook) := by
  apply Watches.note_bind
  cases hook with
  | redraw => exact watches_watch _
  | requests requests => exact watches_forM (watches_perform h) requests
  | shell =>
      refine (watches_watch _).bind fun found => ?_
      cases found with
      | none => exact watches_pure ()
      | some requests => exact (watches_forM (watches_perform h) requests).note_bind _

end Hooks

section Switch

variable [Machine μ]

theorem watches_switchThen {call : RefreshHook → WatchedM μ Unit}
    {call' : RefreshHook → SystemM μ Unit} (h : ∀ hook, Watches (call hook) (call' hook))
    (number : Nat) : Watches (switchThen call number) (SystemM.switchThen call' number) := by
  have hlocked : Watches (switchLocked (μ := μ) number) (do
      return (← SystemM.withKernel (SystemM.requestSwitch number)).join) := by
    refine watches_get_bind fun before => ?_
    exact (watches_watch _).bind fun answer => (watches_pure _).note_bind _
  rw [SystemM.switchThen_eq]
  have hthen := (hlocked.bind fun answer => watches_callIfResumed h answer).service
  rw [bind_assoc] at hthen
  simp only [pure_bind] at hthen
  exact hthen

theorem watches_switchWithin (depth number : Nat) :
    Watches (switchWithin (μ := μ) depth number) (SystemM.switchWithin depth number) := by
  induction depth generalizing number with
  | zero => exact watches_switchThen (fun _ => watches_throw _) number
  | succ depth ih => exact watches_switchThen (watches_callHook ih) number

theorem watches_switchTo (number : Nat) :
    Watches (switchTo (μ := μ) number) (SystemM.switchTo number) :=
  fun w => watches_switchWithin _ number w

theorem watches_call (made : ServiceCall μ) : Watches (call made) made.perform := by
  cases made with
  | request made => exact watches_perform watches_switchTo made
  | shellActiveProcess =>
      simp only [ServiceCall.perform, Shell.activeProcess, bind_assoc, pure_bind]
      exact (watches_watch _).service.bind fun _ => watches_pure ()
  | shellSwitchTo number => exact (watches_switchTo _).bind fun _ => watches_pure ()
  | shellSetRefreshHook requests => exact watches_registerShellHook requests
  | shellViewportBase =>
      simp only [ServiceCall.perform, Shell.viewportBase, bind_assoc]
      refine (watches_watch _).service.bind fun base => ?_
      cases base <;> exact watches_pure ()
  | shellMapPhysical phys =>
      simp only [ServiceCall.perform, Shell.mapPhysical, bind_assoc]
      refine (watches_watch _).service.bind fun answer => ?_
      cases answer <;> exact watches_pure ()
  | turn machine => exact watches_watch _

end Switch

end WatchedM

end SlotKernel

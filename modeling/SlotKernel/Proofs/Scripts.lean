import SlotKernel.Proofs.Courses
import SlotKernel.Proofs.Startup
import SlotKernel.Services.Start

/-!
The operations of the kernel and its services as scripts. Everything between two points is a step of
the installed kernel, and what is done there is what the operation itself does: with the answers of
the machine and the lock, each script is the operation that it is named for. The kernel is looked up
anew at every step, so a script that goes on after a capture works on the kernel as it is then.
-/

namespace SlotKernel

variable {μ α β : Type}

/-- Let the installed kernel work. Where there is none, nothing can go on. -/
def SystemM.inKernel (act : KernelM μ α) : SystemM μ α := fun system =>
  match system.installed with
  | none => .error (.panicked .stateMissing) system
  | some kernel =>
      match act ⟨kernel, system.board, system.tracing⟩ with
      | .ok a world => .ok a (system.withWorld world)
      | .error stop world => .error stop (system.withWorld world)

/-- The answers of the machine and of the lock. The kernel tells nothing to a hook. -/
def Point.perform [Machine μ] : (point : Point) → SystemM μ point.Answer
  | .lock => SystemM.lock
  | .unlock => SystemM.unlock
  | .hook => pure ()
  | .copy target source count => liftM (Machine.copyToPhysical (μ := μ) target source count)
  | .capture => liftM (Machine.capture (μ := μ))
  | .restore ctx => liftM (Machine.restore (μ := μ) ctx)

namespace KernelM

/-- The process of a number, or a report that there is none. -/
def lookUp (number : Nat) : KernelM μ (Option Nat) := do
  let k ← kernel
  match k.process? number with
  | none =>
      Report.error "services: switch_to ignored; no such process"
      Report.number " requested" number
      Report.number " process_count" k.config.processCount
      return none
  | some target => return some target

/-- Boot and fetch the hook. -/
def bootForHook [Machine μ] (base : PhysAddr) (viewport : Option VirtAddr) :
    KernelM μ (ReplicateOutcome × Option RefreshHook) := do
  let outcome ← boot base viewport
  return (outcome, (← kernel).refreshHook)

end KernelM

namespace Script

section Kernel

variable [Machine μ]

/-! ### Operations of the kernel -/

/-- A step of the installed kernel. -/
def step (act : KernelM μ α) : Script (System μ) α :=
  lift (SystemM.inKernel act)

def leave (range : PageRange) (invalidation : Invalidation) (ctx : Context) :
    Script (System μ) SwitchOutcome := do
  step (liftM (Board.invalidate (μ := μ) range invalidation))
  visit (.restore ctx)
  return .transferred

def depart (target : Nat) (limit : UInt32) : Script (System μ) SwitchOutcome := do
  let source ← step KernelM.outgoing
  match ← visit .capture with
  | .resumed => return .resumed
  | .saved ctx =>
      let (range, request) ← step (KernelM.arrive source target limit ctx)
      leave range request.invalidation request.context

def withoutInterrupts (script : Script (System μ) α) : Script (System μ) α := do
  let was ← step (liftM (Machine.mask (μ := μ)))
  let a ← script
  step (liftM (Machine.unmask (μ := μ) was))
  return a

def switchTo (target : Nat) : Script (System μ) SwitchOutcome := do
  match ← step (KernelM.approach target) with
  | none => return .unchanged
  | some limit =>
      let outcome ← withoutInterrupts (depart target limit)
      step (KernelM.settle outcome)

def copySlot (window : Window) (slot : Nat) : Script (System μ) Unit := do
  let start ← step (KernelM.copyStart window slot)
  visit (.copy start window.start window.byteCount)
  step (KernelM.pushEvent (.slotReplicated slot start window.byteCount))

def fillSlots (seed : Context) : Script (System μ) ReplicateOutcome := do
  let k ← step KernelM.kernel
  (List.range' 1 (k.config.processCount - 1)).forM (copySlot k.config.window)
  step (KernelM.seedAll k.config seed)

def replicate : Script (System μ) ReplicateOutcome := do
  match ← step KernelM.replicable with
  | some outcome => return outcome
  | none =>
      match ← visit .capture with
      | .saved seed => fillSlots seed
      | .resumed => do
          step (KernelM.trace .forkResumed)
          return .resumed

def boot (base : PhysAddr) (viewport : Option VirtAddr) :
    Script (System μ) ReplicateOutcome := do
  step (KernelM.prepare base viewport)
  let outcome ← replicate
  step KernelM.check
  return outcome

def bootForHook (base : PhysAddr) (viewport : Option VirtAddr) :
    Script (System μ) (ReplicateOutcome × Option RefreshHook) := do
  let outcome ← boot base viewport
  let k ← step KernelM.kernel
  return (outcome, k.refreshHook)

def requestSwitch (number : Nat) :
    Script (System μ) (Option (SwitchOutcome × Option RefreshHook)) := do
  match ← step (KernelM.lookUp number) with
  | none => return none
  | some target =>
      let outcome ← switchTo target
      let k ← step KernelM.kernel
      return some (outcome, k.refreshHook)

/-! ### They are the operations -/

/-- As long as a kernel is installed, the script is this operation of it. -/
def Performs (script : Script (System μ) α) (act : KernelM μ α) : Prop :=
  ∀ s, s.installed.isSome = true → script.run Point.perform s = SystemM.inKernel act s

theorem performs_pure (a : α) : Performs (pure a : Script (System μ) α) (pure a) := by
  intro s hs
  obtain ⟨k, hk⟩ := Option.isSome_iff_exists.mp hs
  rw [run_pure, SystemM.inKernel, hk]
  change EStateM.Result.ok a s = .ok a { s with installed := some k }
  rw [← hk]

theorem performs_step (act : KernelM μ α) : Performs (step act) act := by
  intro s _
  rw [step, run_lift]

theorem performs_bind {script : Script (System μ) α} {act : KernelM μ α}
    {next : α → Script (System μ) β} {next' : α → KernelM μ β} (h : Performs script act)
    (hnext : ∀ a, Performs (next a) (next' a)) : Performs (script >>= next) (act >>= next') := by
  intro s hs
  obtain ⟨k, hk⟩ := Option.isSome_iff_exists.mp hs
  rw [run_bind]
  change EStateM.bind (script.run Point.perform) (fun a => (next a).run Point.perform) s = _
  rw [EStateM.bind, h s hs, SystemM.inKernel, SystemM.inKernel, hk]
  change _ = (match EStateM.bind act next' ⟨k, s.board, s.tracing⟩ with
    | .ok b w => .ok b (s.withWorld w)
    | .error stop w => .error stop (s.withWorld w) : EStateM.Result Stop (System μ) β)
  rw [EStateM.bind]
  dsimp only
  cases act ⟨k, s.board, s.tracing⟩ with
  | error stop w => rfl
  | ok a w => exact hnext a (s.withWorld w) rfl

/-- At a point of the machine the script does what the machine does. -/
theorem performs_visit {point : Point} {act : Run μ point.Answer}
    (hpoint : Point.perform point = (liftM act : SystemM μ point.Answer)) :
    Performs (visit point) (liftM act : KernelM μ point.Answer) := by
  intro s hs
  obtain ⟨k, hk⟩ := Option.isSome_iff_exists.mp hs
  have hsystem : (liftM act : SystemM μ point.Answer) = SystemM.onBoard (Board.onMachine act) := rfl
  have hkernel : (liftM act : KernelM μ point.Answer) = KernelM.onBoard (Board.onMachine act) := rfl
  rw [run_visit, hpoint, hsystem, hkernel, SystemM.inKernel, hk]
  simp only [SystemM.onBoard, KernelM.onBoard]
  cases Board.onMachine act s.board with
  | ok a board =>
      change EStateM.Result.ok a { s with board := board } =
        .ok a { s with installed := some k, board := board }
      rw [← hk]
  | error stop board =>
      change EStateM.Result.error stop { s with board := board } =
        .error stop { s with installed := some k, board := board }
      rw [← hk]

theorem performs_forM {script : β → Script (System μ) Unit} {act : β → KernelM μ Unit}
    (h : ∀ item, Performs (script item) (act item)) (items : List β) :
    Performs (items.forM script) (items.forM act) := by
  induction items with
  | nil => exact performs_pure ()
  | cons item items ih => exact performs_bind (h item) fun _ => ih

theorem performs_withoutInterrupts {script : Script (System μ) α} {act : KernelM μ α}
    (h : Performs script act) :
    Performs (withoutInterrupts script) (KernelM.withoutInterrupts act) := by
  refine performs_bind (performs_step _) fun was => performs_bind h fun a => ?_
  exact performs_bind (performs_step _) fun _ => performs_pure a

theorem performs_leave (range : PageRange) (invalidation : Invalidation) (ctx : Context) :
    Performs (leave range invalidation ctx) (KernelM.leave (μ := μ) range invalidation ctx) := by
  refine performs_bind (performs_step _) fun _ => ?_
  exact performs_bind (performs_visit rfl) fun _ => performs_pure _

theorem performs_depart (target : Nat) (limit : UInt32) :
    Performs (depart target limit) (KernelM.depart (μ := μ) target limit) := by
  rw [KernelM.depart_eq]
  refine performs_bind (performs_step _) fun source => ?_
  refine performs_bind (performs_visit rfl) fun answer => ?_
  cases answer with
  | resumed => exact performs_pure _
  | saved ctx => exact performs_bind (performs_step _) fun _ => performs_leave _ _ _

theorem performs_switchTo (target : Nat) :
    Performs (switchTo target) (KernelM.switchTo (μ := μ) target) := by
  rw [KernelM.switchTo_eq]
  refine performs_bind (performs_step _) fun answer => ?_
  cases answer with
  | none => exact performs_pure _
  | some limit =>
      refine performs_bind (performs_withoutInterrupts (performs_depart target limit)) ?_
      exact fun outcome => performs_step _

theorem performs_copySlot (window : Window) (slot : Nat) :
    Performs (copySlot window slot) (KernelM.copySlot (μ := μ) window slot) := by
  rw [KernelM.copySlot_eq]
  refine performs_bind (performs_step _) fun start => ?_
  exact performs_bind (performs_visit rfl) fun _ => performs_step _

theorem performs_fillSlots (seed : Context) :
    Performs (fillSlots seed) (KernelM.fillSlots (μ := μ) seed) := by
  rw [KernelM.fillSlots_eq]
  refine performs_bind (performs_step _) fun k => ?_
  refine performs_bind (performs_forM (performs_copySlot _) _) fun _ => ?_
  exact performs_step _

theorem performs_replicate : Performs replicate (KernelM.replicate (μ := μ)) := by
  rw [KernelM.replicate_eq]
  refine performs_bind (performs_step _) fun answer => ?_
  cases answer with
  | some outcome => exact performs_pure _
  | none =>
      refine performs_bind (performs_visit rfl) fun answer => ?_
      cases answer with
      | saved seed => exact performs_fillSlots seed
      | resumed => exact performs_bind (performs_step _) fun _ => performs_pure _

theorem performs_bootForHook (base : PhysAddr) (viewport : Option VirtAddr) :
    Performs (bootForHook base viewport) (KernelM.bootForHook (μ := μ) base viewport) := by
  have hboot : Performs (boot base viewport) (KernelM.boot (μ := μ) base viewport) := by
    rw [KernelM.boot_eq]
    refine performs_bind (performs_step _) fun _ => ?_
    refine performs_bind performs_replicate fun outcome => ?_
    exact performs_bind (performs_step _) fun _ => performs_pure _
  exact performs_bind hboot fun outcome => performs_bind (performs_step _) fun k => performs_pure _

theorem requestSwitch_eq (number : Nat) :
    SystemM.requestSwitch (μ := μ) number = (do
      match ← KernelM.lookUp number with
      | none => return none
      | some target =>
          let outcome ← KernelM.switchTo target
          return some (outcome, (← KernelM.kernel).refreshHook)) := by
  simp only [SystemM.requestSwitch, KernelM.lookUp, bind_assoc]
  congr 1
  funext k
  cases k.process? number <;> simp only [bind_assoc, pure_bind]

theorem performs_requestSwitch (number : Nat) :
    Performs (requestSwitch number) (SystemM.requestSwitch (μ := μ) number) := by
  rw [requestSwitch_eq]
  refine performs_bind (performs_step _) fun answer => ?_
  cases answer with
  | none => exact performs_pure _
  | some target =>
      refine performs_bind (performs_switchTo target) fun outcome => ?_
      exact performs_bind (performs_step _) fun k => performs_pure _

end Kernel

/-! ### The kernel behind its lock -/

section Lock

/-- Do something under the lock. -/
def locked (script : Script (System μ) α) : Script (System μ) α := do
  visit .lock
  let a ← script
  visit .unlock
  return a

/-- Follow the script if a kernel is installed. -/
def ifInstalled (script : Script (System μ) α) : Script (System μ) (Option α) := fun s =>
  match s.installed with
  | none => .returned none s
  | some _ => (script >>= fun a => pure (some a)) s

/-- One look at the kernel. -/
def look (act : KernelM μ α) : Script (System μ) (Option α) :=
  locked (lift (SystemM.onKernel act))

/-- Install a kernel unless there is one. -/
def install (config : Config) : Script (System μ) Bool :=
  locked (lift do
    let vacant := (← get).installed.isNone
    if vacant then
      modify fun system => { system with installed := some { config := config } }
    return vacant)

variable [Machine μ]

theorem run_locked (script : Script (System μ) α) :
    (locked script).run Point.perform = (do
      SystemM.lock
      let a ← script.run Point.perform
      SystemM.unlock
      return a) := by
  have hlock : (visit .lock : Script (System μ) Unit).run Point.perform = SystemM.lock :=
    run_visit _ _
  have hunlock : (visit .unlock : Script (System μ) Unit).run Point.perform = SystemM.unlock :=
    run_visit _ _
  simp only [locked, run_bind, run_pure, hlock, hunlock]

theorem run_look (act : KernelM μ α) :
    (look act).run Point.perform = SystemM.withKernel act := by
  rw [look, run_locked, run_lift]
  rfl

theorem run_install (config : Config) :
    (install config : Script (System μ) Bool).run Point.perform = SystemM.install config := by
  rw [install, run_locked, run_lift]
  simp only [SystemM.install, bind_assoc]
  congr 1
  funext _
  congr 1
  funext s
  split <;> simp only [bind_assoc, pure_bind]

theorem run_ifInstalled {script : Script (System μ) α} {act : KernelM μ α}
    (h : Performs script act) : (ifInstalled script).run Point.perform = SystemM.onKernel act := by
  funext s
  rw [run, ifInstalled, SystemM.onKernel]
  cases hk : s.installed with
  | none => rfl
  | some k =>
      change (script >>= fun a => pure (some a)).run Point.perform s = _
      rw [run_bind]
      change EStateM.bind (script.run Point.perform) _ s = _
      rw [EStateM.bind, h s (by rw [hk]; rfl), SystemM.inKernel, hk]
      dsimp only
      cases act ⟨k, s.board, s.tracing⟩ <;> rfl

end Lock

/-! ### Services -/

section Services

variable [Machine μ]

def activeProcess : Script (System μ) (Option Nat) :=
  look (return (← KernelM.kernel).active)

def processCount : Script (System μ) (Option Nat) :=
  look (return (← KernelM.kernel).config.processCount)

def viewportBase : Script (System μ) (Option VirtAddr) := do
  let base ← look (return (← KernelM.kernel).viewport.map (·.base))
  return base.join

def setRefreshHook (hook : RefreshHook) : Script (System μ) Bool := do
  let answer ← look (KernelM.modifyKernel fun k => { k with refreshHook := some hook })
  return answer.isSome

def registerShellHook (requests : List Request) : Script (System μ) Unit := do
  lift (SystemM.setShellHook requests)
  let _ ← setRefreshHook .shell

def mapPhysical (phys : PhysAddr) : Script (System μ) (Except MappingError VirtAddr) := do
  let answer ← look (KernelM.mapPhysical phys)
  return answer.getD (.error .noViewport)

variable (switch : Nat → Script (System μ) (Option SwitchOutcome))

/-- Answer one request of a hook, with `switch` for switching. -/
def perform : Request → Script (System μ) Unit
  | .note text => lift (SystemM.record (.note text))
  | .status => do
      let active ← activeProcess
      let count ← processCount
      let base ← viewportBase
      lift (SystemM.record (.status active count base))
  | .switchTo process => do
      let outcome ← switch process
      lift (SystemM.record (.switched outcome))
  | .mapPhysical phys => do
      let answer ← mapPhysical phys
      lift (SystemM.record (.mapped answer))
  | .register hook => do
      let accepted ← setRefreshHook hook
      lift (SystemM.record (.registered accepted))
  | .registerShell requests => registerShellHook requests

def callHook (hook : RefreshHook) : Script (System μ) Unit := do
  visit .hook
  match hook with
  | .redraw => lift (HasConsole.onConsole (·.refresh))
  | .shell => do
      if let some requests ← lift SystemM.getShellHook then
        requests.forM (perform switch)
  | .requests requests => requests.forM (perform switch)

def switchThen (call : RefreshHook → Script (System μ) Unit) (number : Nat) :
    Script (System μ) (Option SwitchOutcome) := do
  let answer ← locked (ifInstalled (requestSwitch number))
  match answer.join with
  | none => return none
  | some (outcome, hook) =>
      if outcome = .resumed then
        if let some hook := hook then
          call hook
      return some outcome

/-- Switch with hooks that call one another at most so deep. -/
def switchWithin : Nat → Nat → Script (System μ) (Option SwitchOutcome)
  | 0, number => switchThen (fun _ => lift (throw .hooksNested)) number
  | depth + 1, number => switchThen (callHook (switchWithin depth)) number

theorem run_mapPhysical (phys : PhysAddr) :
    (mapPhysical phys : Script (System μ) _).run Point.perform = SystemM.mapPhysical phys := by
  simp only [mapPhysical, SystemM.mapPhysical, run_bind, run_look, run_pure]

theorem run_viewportBase :
    (viewportBase : Script (System μ) _).run Point.perform = SystemM.viewportBase := by
  simp only [viewportBase, SystemM.viewportBase, run_bind, run_look, run_pure]

theorem run_setRefreshHook (hook : RefreshHook) :
    (setRefreshHook hook : Script (System μ) _).run Point.perform = SystemM.setRefreshHook hook := by
  simp only [setRefreshHook, SystemM.setRefreshHook, run_bind, run_look, run_pure]

theorem run_registerShellHook (requests : List Request) :
    (registerShellHook requests : Script (System μ) _).run Point.perform =
      SystemM.registerShellHook requests := by
  simp only [registerShellHook, SystemM.registerShellHook, run_bind, run_lift, run_setRefreshHook,
    run_pure]

section Hooks

variable {switch} {switch' : Nat → SystemM μ (Option SwitchOutcome)}
  (hswitch : ∀ number, (switch number).run Point.perform = switch' number)

include hswitch

theorem run_perform (request : Request) :
    (perform switch request).run Point.perform = SystemM.perform switch' request := by
  cases request <;>
    simp only [perform, SystemM.perform, run_bind, run_lift, run_mapPhysical, run_setRefreshHook,
      run_viewportBase, run_registerShellHook, activeProcess, processCount, SystemM.activeProcess,
      SystemM.processCount, run_look, hswitch]

theorem run_forM_perform (requests : List Request) :
    (requests.forM (perform switch)).run Point.perform =
      requests.forM (SystemM.perform switch') := by
  induction requests with
  | nil => rfl
  | cons request requests ih =>
      change (perform switch request >>= fun _ => requests.forM (perform switch)).run _ = _
      rw [run_bind, run_perform hswitch, ih]
      rfl

theorem run_callHook (hook : RefreshHook) :
    (callHook switch hook).run Point.perform = SystemM.callHook switch' hook := by
  have hvisit : ∀ script : Script (System μ) Unit,
      (visit .hook >>= fun _ => script).run Point.perform = script.run Point.perform := by
    intro script
    rw [run_bind, run_visit]
    rfl
  cases hook with
  | redraw => exact (hvisit _).trans (run_lift _ _)
  | requests requests => exact (hvisit _).trans (run_forM_perform hswitch requests)
  | shell =>
      refine (hvisit _).trans ?_
      rw [run_bind, run_lift]
      change _ = (SystemM.getShellHook >>= _)
      congr 1
      funext found
      cases found with
      | none => rfl
      | some requests => exact run_forM_perform hswitch requests

end Hooks

theorem run_switchThen {call : RefreshHook → Script (System μ) Unit}
    {call' : RefreshHook → SystemM μ Unit}
    (hcall : ∀ hook, (call hook).run Point.perform = call' hook) (number : Nat) :
    (switchThen call number).run Point.perform = SystemM.switchThen call' number := by
  rw [switchThen, run_bind, run_locked, run_ifInstalled (performs_requestSwitch number),
    SystemM.switchThen]
  congr 1
  funext answer
  cases answer.join with
  | none => rfl
  | some found =>
      obtain ⟨outcome, hook⟩ := found
      dsimp only
      split
      · cases hook with
        | none => rfl
        | some hook =>
            dsimp only
            rw [run_bind, hcall]
            rfl
      · rfl

/-- With the answers of the machine and the lock, the script of a switch is the switch. -/
theorem run_switchWithin (depth number : Nat) :
    (switchWithin depth number : Script (System μ) _).run Point.perform =
      SystemM.switchWithin depth number := by
  induction depth generalizing number with
  | zero => exact run_switchThen (fun _ => run_lift _ _) number
  | succ depth ih => exact run_switchThen (run_callHook ih) number

end Services

end Script

end SlotKernel

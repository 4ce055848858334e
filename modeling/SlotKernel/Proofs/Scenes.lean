import Mathlib.Logic.Function.Basic
import SlotKernel.Machine.Processor
import SlotKernel.Proofs.Scripts

/-!
Processes that share the bare processor. A scene is what there is at one moment: the process that
runs, the course that it is on, and for each slot the frame that the last capture left in the memory
of that slot. A frame is copied with the window, so the capture of a replication is in every slot.
Restoring a context goes on with the frame in the slot that the window shows by then, and the process
of that slot is the one that runs from there on. A process that is back from a call makes the next
one as it likes, and may have turned interrupts on or off before that.
-/

namespace SlotKernel

/-! ### Services -/

/-- A call of the services by a process. -/
inductive Service where
  | activeProcess
  | processCount
  | viewportBase
  | mapPhysical (phys : PhysAddr)
  | switchTo (number : Nat)
  | setRefreshHook (hook : RefreshHook)
  | registerShellHook (requests : List Request)
  | reboot

/-- What a process gets back from the boot or from a call. -/
inductive Return where
  | booted (outcome : ReplicateOutcome)
  | active (process : Option Nat)
  | count (count : Option Nat)
  | base (addr : Option VirtAddr)
  | mapped (answer : Except MappingError VirtAddr)
  | switched (outcome : Option SwitchOutcome)
  | registered (accepted : Bool)
  | done

section Launch

variable {μ : Type} [Machine μ]

/-- The service, with hooks of a switch that call one another at most so deep. -/
def Service.perform (depth : Nat) : Service → SystemM μ Return
  | .activeProcess => return .active (← SystemM.activeProcess)
  | .processCount => return .count (← SystemM.processCount)
  | .viewportBase => return .base (← SystemM.viewportBase)
  | .mapPhysical phys => return .mapped (← SystemM.mapPhysical phys)
  | .switchTo number => return .switched (← SystemM.switchWithin (depth + 1) number)
  | .setRefreshHook hook => return .registered (← SystemM.setRefreshHook hook)
  | .registerShellHook requests => do
      SystemM.registerShellHook requests
      return .done
  | .reboot => do
      SystemM.reboot
      return .done

def Service.script (depth : Nat) : Service → Script (System μ) Return
  | .activeProcess => return .active (← Script.activeProcess)
  | .processCount => return .count (← Script.processCount)
  | .viewportBase => return .base (← Script.viewportBase)
  | .mapPhysical phys => return .mapped (← Script.mapPhysical phys)
  | .switchTo number => return .switched (← Script.switchWithin (depth + 1) number)
  | .setRefreshHook hook => return .registered (← Script.setRefreshHook hook)
  | .registerShellHook requests => do
      Script.registerShellHook requests
      return .done
  | .reboot => do
      Script.lift SystemM.reboot
      return .done

/-- With the answers of the machine and the lock, the script of a service is the service. -/
theorem Service.run_script (depth : Nat) (service : Service) :
    (service.script depth : Script (System μ) Return).run Point.perform = service.perform depth := by
  cases service <;>
    simp only [Service.script, Service.perform, Script.run_bind, Script.run_lift, Script.run_pure,
      Script.activeProcess, Script.processCount, SystemM.activeProcess, SystemM.processCount,
      Script.run_look, Script.run_viewportBase, Script.run_mapPhysical, Script.run_switchWithin,
      Script.run_setRefreshHook, Script.run_registerShellHook]

def SystemM.refuseSecond : SystemM μ Unit := do
  Report.error "entry: kernel state installed twice"
  Run.panic .installedTwice

def SystemM.refuseMissing : SystemM μ ReplicateOutcome := do
  Report.error "entry: kernel state disappeared during boot"
  Run.panic .stateMissing

/-- What is left of a start once the kernel has booted. A process that comes here for the first time
in a slot that was copied has its hook called. -/
def SystemM.enter (switch : Nat → SystemM μ (Option SwitchOutcome)) :
    Option (ReplicateOutcome × Option RefreshHook) → SystemM μ ReplicateOutcome
  | some (.resumed, hook) => do
      Report.info "entry: replicated process started"
      if let some hook := hook then
        callHook switch hook
      return .resumed
  | some (outcome, _) => do
      let _ ← withKernel (μ := μ) KernelM.dump
      return outcome
  | none => refuseMissing

/-- Install a kernel and boot it, as far as the shell. -/
def SystemM.launch (switch : Nat → SystemM μ (Option SwitchOutcome)) (config : Config)
    (base : PhysAddr) (viewport : Option VirtAddr) : SystemM μ ReplicateOutcome := do
  unless ← install config do
    refuseSecond
  enter switch (← withKernel (KernelM.bootForHook base viewport))

/-- The boot image launches the configuration that it has checked. -/
theorem SystemM.start_eq (image : Image) :
    SystemM.start (μ := μ) image = (do
      HasConsole.onConsole Console.init
      Report.info "kernel::start()"
      let config ← imageConfig image
      let _ ← launch switchTo config image.pagingBase (some image.viewport)) := by
  simp only [start, launch, bind_assoc]
  refine bind_congr fun _ => bind_congr fun _ => bind_congr fun config => bind_congr fun vacant => ?_
  cases vacant
  case' true => simp only [if_true, bind_assoc]
  case' false =>
    simp only [Bool.false_eq_true, if_false, refuseSecond, bind_assoc]
    refine bind_congr fun _ => bind_congr fun _ => ?_
  all_goals
    refine bind_congr fun answer => ?_
    obtain _ | ⟨outcome, hook⟩ := answer
    · simp only [enter, refuseMissing, bind_assoc]
      rfl
    · cases outcome with
      | resumed => cases hook <;> simp only [enter, bind_assoc, pure_bind, bind_pure_unit]
      | _ => simp only [enter, bind_assoc, pure_bind]

def Script.enter (switch : Nat → Script (System μ) (Option SwitchOutcome)) :
    Option (ReplicateOutcome × Option RefreshHook) → Script (System μ) ReplicateOutcome
  | some (.resumed, hook) => do
      lift (Report.info "entry: replicated process started")
      if let some hook := hook then
        callHook switch hook
      return .resumed
  | some (outcome, _) => do
      let _ ← look KernelM.dump
      return outcome
  | none => lift SystemM.refuseMissing

def Script.launch (switch : Nat → Script (System μ) (Option SwitchOutcome)) (config : Config)
    (base : PhysAddr) (viewport : Option VirtAddr) : Script (System μ) Return := do
  unless ← install config do
    lift SystemM.refuseSecond
  let answer ← locked (ifInstalled (bootForHook base viewport))
  return .booted (← enter switch answer)

/-- With the answers of the machine and the lock, the script of a launch is the launch. -/
theorem Script.run_launch (depth : Nat) (config : Config) (base : PhysAddr)
    (viewport : Option VirtAddr) :
    (launch (switchWithin depth) config base viewport : Script (System μ) Return).run
        Point.perform = (do
      return .booted (← SystemM.launch (SystemM.switchWithin depth) config base viewport)) := by
  have henter : ∀ answer, (enter (switchWithin depth) answer : Script (System μ) _).run
      Point.perform = SystemM.enter (SystemM.switchWithin depth) answer := by
    rintro (_ | ⟨outcome, hook⟩)
    · simp only [enter, SystemM.enter, run_lift]
    · cases outcome with
      | resumed =>
          cases hook with
          | none => simp only [enter, SystemM.enter, run_bind, run_lift, run_pure]
          | some hook =>
              simp only [enter, SystemM.enter, run_bind, run_lift, run_pure,
                run_callHook (run_switchWithin depth)]
      | _ => simp only [enter, SystemM.enter, run_bind, run_look, run_pure]
  have hboot := run_ifInstalled (performs_bootForHook (μ := μ) base viewport)
  simp only [launch, SystemM.launch, run_bind, run_install, bind_assoc]
  refine bind_congr fun vacant => ?_
  cases vacant <;>
    simp only [Bool.false_eq_true, if_true, if_false, run_bind, run_lift, run_locked, hboot, henter,
      run_pure, bind_assoc, pure_bind, SystemM.withKernel]

end Launch

/-! ### Scenes -/

/-- What a capture leaves on the stack of a process: the context by which it is known, and how the
call goes on that was captured. -/
structure StackFrame where
  context : Context
  goOn : System Processor → Course (System Processor) Return

structure Scene where
  running : Nat
  course : Course (System Processor) Return
  /-- The frame in the memory of each slot. -/
  frames : Nat → Option StackFrame

/-- A call that a process makes, with the interrupt flag that it makes it with. -/
structure Invocation where
  process : Nat
  service : Service
  interrupts : Bool

inductive Happening where
  | called (invocation : Invocation)
  | acquired (process : Nat)
  | released (process : Nat)
  | hooked (process : Nat)
  | copied (process slot : Nat)
  | captured (process : Nat)
  | transferred (source target : Nat)

/-- Who does it. -/
def Happening.process : Happening → Nat
  | .called invocation => invocation.process
  | .acquired process | .released process | .hooked process | .copied process _
  | .captured process | .transferred process _ => process

namespace Processor

/-- The processor after a capture of this context. -/
def saving (p : Processor) (ctx : Context) : Processor :=
  { p with captures := p.captures + 1, executed := p.executed.push (.capture ctx) }

/-- The processor after this context was restored and the capture that saved it answered anew. -/
def wakingUp (p : Processor) (ctx : Context) : Processor :=
  { p with executed := (p.executed.push (.restore ctx)).push .resume }

end Processor

namespace System

def withProcessor (s : System Processor) (processor : Processor) : System Processor :=
  { s with board := { s.board with machine := processor } }

def withInterrupts (s : System Processor) (interrupts : Bool) : System Processor :=
  s.withProcessor { s.board.machine with interrupts := interrupts }

end System

namespace Scene

/-- What can happen next. A lock that is held cannot be acquired, and a context can only be restored
where the slot that is shown has the frame of that context. -/
inductive Step (allowed : Service → Prop) (depth : Nat) : Happening → Scene → Scene → Prop where
  | called {p : Nat} {r : Return} {s : System Processor} {frames : Nat → Option StackFrame}
      {service : Service} (hallowed : allowed service) (interrupts : Bool) :
      Step allowed depth (.called ⟨p, service, interrupts⟩) ⟨p, .returned r s, frames⟩
        ⟨p, service.script depth (s.withInterrupts interrupts), frames⟩
  | acquired {p : Nat} {s : System Processor} {frames : Nat → Option StackFrame}
      {next : Unit → System Processor → Course (System Processor) Return} (hfree : s.locked = false) :
      Step allowed depth (.acquired p) ⟨p, .reached .lock s next, frames⟩
        ⟨p, next () { s with locked := true }, frames⟩
  | released {p : Nat} {s : System Processor} {frames : Nat → Option StackFrame}
      {next : Unit → System Processor → Course (System Processor) Return} :
      Step allowed depth (.released p) ⟨p, .reached .unlock s next, frames⟩
        ⟨p, next () { s with locked := false }, frames⟩
  | hooked {p : Nat} {s : System Processor} {frames : Nat → Option StackFrame}
      {next : Unit → System Processor → Course (System Processor) Return} :
      Step allowed depth (.hooked p) ⟨p, .reached .hook s next, frames⟩ ⟨p, next () s, frames⟩
  /-- The window is copied to a slot, and with it the frame that lies in the window. -/
  | copied {p slot : Nat} {s : System Processor} {frames : Nat → Option StackFrame}
      {next : Unit → System Processor → Course (System Processor) Return} {k : Kernel} {start : PhysAddr}
      {processor : Processor} (hkernel : s.installed = some k) (hshows : k.Shows p)
      (hslot : slot < k.config.processCount)
      (hstart : KernelM.slotStart k.config.window slot = .ok start)
      (hcopy : Machine.copyToPhysical start k.config.window.start k.config.window.byteCount
        s.board.machine = .ok () processor) :
      Step allowed depth (.copied p slot)
        ⟨p, .reached (.copy start k.config.window.start k.config.window.byteCount) s next, frames⟩
        ⟨p, next () (s.withProcessor processor), Function.update frames slot (frames p)⟩
  /-- The stack of the running process lies in the window. -/
  | captured {p : Nat} {s : System Processor} {frames : Nat → Option StackFrame}
      {next : Capture → System Processor → Course (System Processor) Return} {k : Kernel} {ctx : Context}
      (hkernel : s.installed = some k) (hshows : k.Shows p)
      (hctx : ctx.validate k.config.window = .ok ()) :
      Step allowed depth (.captured p) ⟨p, .reached .capture s next, frames⟩
        ⟨p, next (.saved ctx) (s.withProcessor (s.board.machine.saving ctx)),
          Function.update frames p (some ⟨ctx, next .resumed⟩)⟩
  | transferred {p q : Nat} {s : System Processor} {frames : Nat → Option StackFrame}
      {next : Unit → System Processor → Course (System Processor) Return} {k : Kernel} {frame : StackFrame}
      (hkernel : s.installed = some k) (hshows : k.Shows q) (hframe : frames q = some frame) :
      Step allowed depth (.transferred p q)
        ⟨p, .reached (.restore frame.context) s next, frames⟩
        ⟨q, frame.goOn (s.withProcessor (s.board.machine.wakingUp frame.context)), frames⟩

/-- The scenes that a system comes to, with what has happened on the way, the latest first. -/
inductive Run (allowed : Service → Prop) (depth : Nat) (opening : Scene) :
    List Happening → Scene → Prop where
  | opened : Run allowed depth opening [] opening
  | stepped {history : List Happening} {scene scene' : Scene} {happening : Happening}
      (hrun : Run allowed depth opening history scene)
      (hstep : Step allowed depth happening scene scene') :
      Run allowed depth opening (happening :: history) scene'

/-- The launch of a configuration by the first process, with no frames anywhere. -/
def opening (depth : Nat) (config : Config) (base : PhysAddr) (viewport : Option VirtAddr)
    (s : System Processor) : Scene :=
  ⟨0, Script.launch (Script.switchWithin depth) config base viewport s, fun _ => none⟩

section Step

variable {allowed : Service → Prop} {depth : Nat} {happening : Happening} {scene scene' : Scene}

/-- Only the running process does anything, and another one runs only after a transfer. -/
theorem Step.process_eq (hstep : Step allowed depth happening scene scene') :
    happening.process = scene.running ∧ (scene'.running = scene.running ∨
      happening = .transferred scene.running scene'.running) := by
  cases hstep with
  | transferred => exact ⟨rfl, Or.inr rfl⟩
  | _ => exact ⟨rfl, Or.inl rfl⟩

end Step

end Scene

/-- The last call that a process has made. -/
def lastCall (history : List Happening) (p : Nat) : Option Invocation :=
  history.findSome? fun
    | .called invocation => if invocation.process = p then some invocation else none
    | _ => none

end SlotKernel

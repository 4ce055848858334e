import SlotKernel.Services.System

/-!
The services of the kernel. Queries and mappings take the lock for one look at the kernel. A switch
that brings a process back calls the refresh hook, after the lock is released and with the hook that
is registered by then, so that the hook may call the services in turn; a hook whose own switch
resumes calls the hook again, which can go on only as long as captures answer `resumed`.
-/

namespace SlotKernel.SystemM

variable {μ : Type}

/-- The active process, if a kernel is installed. -/
def activeProcess : SystemM μ (Option Nat) :=
  withKernel (return (← KernelM.kernel).active)

def processCount : SystemM μ (Option Nat) :=
  withKernel (return (← KernelM.kernel).config.processCount)

/-- Where the viewport lies, if there is one. -/
def viewportBase : SystemM μ (Option VirtAddr) :=
  return (← withKernel (return (← KernelM.kernel).viewport.map (·.base))).join

/-- Register a refresh hook; the answer is whether there is a kernel to register it with. -/
def setRefreshHook (hook : RefreshHook) : SystemM μ Bool :=
  return (← withKernel (KernelM.modifyKernel fun k => { k with refreshHook := some hook })).isSome

/-- Register a hook of the shell. The kernel calls whatever the shell registered last. -/
def registerShellHook (requests : List Request) : SystemM μ Unit := do
  setShellHook requests
  let _ ← setRefreshHook .shell

/-- Show a physical address through the viewport. -/
def mapPhysical [Machine μ] (phys : PhysAddr) : SystemM μ (Except MappingError VirtAddr) :=
  return (← withKernel (KernelM.mapPhysical phys)).getD (.error .noViewport)

/-- Answer one request of a hook, with `switch` for switching. -/
def perform [Machine μ] (switch : Nat → SystemM μ (Option SwitchOutcome)) : Request → SystemM μ Unit
  | .note text => record (.note text)
  | .status => do
      let active ← activeProcess
      let count ← processCount
      record (.status active count (← viewportBase))
  | .switchTo process => do record (.switched (← switch process))
  | .mapPhysical phys => do record (.mapped (← mapPhysical phys))
  | .register hook => do record (.registered (← setRefreshHook hook))
  | .registerShell requests => registerShellHook requests

/-- Call a hook, with `switch` for its requests to switch. -/
def callHook [Machine μ] (switch : Nat → SystemM μ (Option SwitchOutcome)) :
    RefreshHook → SystemM μ Unit
  | .redraw => HasConsole.onConsole (·.refresh)
  | .shell => do
      if let some requests ← getShellHook then
        requests.forM (perform switch)
  | .requests requests => requests.forM (perform switch)

/-- Switch to a process by number and fetch the hook, or report a number that no process has. -/
def requestSwitch [Machine μ] (number : Nat) :
    KernelM μ (Option (SwitchOutcome × Option RefreshHook)) := do
  let k ← KernelM.kernel
  match k.process? number with
  | none =>
      Report.error "services: switch_to ignored; no such process"
      Report.number " requested" number
      Report.number " process_count" k.config.processCount
      return none
  | some target =>
      let outcome ← KernelM.switchTo target
      return some (outcome, (← KernelM.kernel).refreshHook)

/-- Switch and, if the process comes back, deal with the hook. -/
def switchThen [Machine μ] (call : RefreshHook → SystemM μ Unit) (number : Nat) :
    SystemM μ (Option SwitchOutcome) := do
  match (← withKernel (requestSwitch number)).join with
  | none => return none
  | some (outcome, hook) =>
      if outcome = .resumed then
        if let some hook := hook then
          call hook
      return some outcome

/-- Switch with hooks that call one another at most so deep. -/
def switchWithin [Machine μ] : Nat → Nat → SystemM μ (Option SwitchOutcome)
  | 0, number => switchThen (fun _ => throw .hooksNested) number
  | depth + 1, number => switchThen (callHook (switchWithin depth)) number

/-- Switch to a process by number. Nothing happens for a number that no process has. -/
def switchTo [Machine μ] (number : Nat) : SystemM μ (Option SwitchOutcome) := do
  let depth := Machine.pendingResumes (← get).board.machine
  switchWithin depth number

/-- Reset the machine. -/
def reboot [Machine μ] : SystemM μ Unit := do
  Report.info "services: reboot requested"
  onBoard Board.reboot

end SlotKernel.SystemM

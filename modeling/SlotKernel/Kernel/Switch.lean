import SlotKernel.Kernel.World

/-!
Switching to another process. With interrupts off, the running context is captured for the process
that gives up the machine; the target becomes the active process, the window moves to its slot, and
its context is restored. On a real machine that is the end of the computation. The process that gave
up the machine goes on when its own context is restored: then its capture answers a second time, and
it has nothing left to do but to put the interrupts back and to note that it is here again.

A switch to the running process, or with a single process, changes nothing.
-/

namespace SlotKernel

inductive SwitchOutcome where
  /-- There was nothing to switch. -/
  | unchanged
  /-- Another process gave the machine back to this one. -/
  | resumed
  /-- The context of the target was restored and control came back all the same, as on a simulated
  machine. -/
  | transferred
  deriving DecidableEq

namespace KernelM

variable {μ : Type} [Machine μ]

/-- Save a context for a process. -/
def saveContext (process : Nat) (ctx : Context) : KernelM μ Unit :=
  modifyKernel fun k => { k with contexts := k.contexts.setIfInBounds process ctx }

/-- The saved context of a process, checked. -/
def checkedContext (target : Nat) : KernelM μ Context := do
  let k ← kernel
  let ctx := k.contexts[target]?.getD .empty
  match ctx.validate k.config.window with
  | .ok () => return ctx
  | .error error =>
      Report.error "sched: saved context of the target is corrupted"
      Report.number " target" target
      Run.panic (.badContext error)

/-- Move the window from slot `source` to slot `target` and let the context of the target go on. -/
def transfer (source target : Nat) (limit : UInt32) (ctx : Context) :
    KernelM μ SwitchOutcome := do
  let config := (← kernel).config
  modifyKernel fun k => { k with active := target }
  pushEvent (.taskSwitched source target)
  pushEvent (.windowMoved source target config.window.pageCount)
  trace (.switchMoving source target)
  let move : WindowMove := ⟨config.window, source, target, limit⟩
  let request ← Machine.handOver (μ := μ) ⟨move, config.invalidation, ctx⟩
  let (paging, range) ← Board.movedTables (μ := μ) request.move (← kernel).paging
  modifyKernel fun k => { k with paging := paging }
  Board.invalidate (μ := μ) range request.invalidation
  Machine.restore (μ := μ) request.context
  return .transferred

/-- Capture the running context and leave for the target, or find that the process is back. -/
def depart (target : Nat) (limit : UInt32) : KernelM μ SwitchOutcome := do
  let source := (← kernel).active
  unless source < maxProcesses do
    Run.panic (.noContextSlot source)
  match ← Machine.capture (μ := μ) with
  | .resumed => return .resumed
  | .saved ctx =>
      saveContext source ctx
      trace (.switchCaptured source)
      let restored ← checkedContext target
      transfer source target limit restored

/-- What is left of a switch once control is with the process again. -/
def settle (outcome : SwitchOutcome) : KernelM μ SwitchOutcome := do
  if outcome = .resumed then
    let active := (← kernel).active
    trace (.switchResumed active)
    pushEvent (.taskResumed active)
  return outcome

def switchTo (target : Nat) : KernelM μ SwitchOutcome := do
  let k ← kernel
  if !k.config.isMultiprocess || target == k.active then
    trace (.switchSkipped target)
    return .unchanged
  if k.config.processCount ≤ target || !k.replicated then
    Report.error "sched: switch_task target has no replicated slot"
    Report.number " target" target
    Run.panic (.notRunnable target)
  let limit ← k.frameLimit
  let outcome ← withoutInterrupts (depart target limit)
  settle outcome

end KernelM

end SlotKernel

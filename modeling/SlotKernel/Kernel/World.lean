import SlotKernel.Kernel.State

/-!
The kernel at work: its state, the board it runs on, and whether the steps of replication and
switching are traced in the log. `KernelM` is the monad of the kernel's operations.
-/

namespace SlotKernel

structure World (μ : Type) where
  kernel : Kernel
  board : Board μ
  tracing : Bool := false

abbrev KernelM (μ : Type) := Run (World μ)

/-- A step that can be followed in the log. -/
inductive TracePoint where
  | switchSkipped (target : Nat)
  | switchCaptured (source : Nat)
  | switchMoving (source target : Nat)
  | switchResumed (active : Nat)
  | forkCopy (slot : Nat) (start : PhysAddr)
  | forkResumed

/-- Write a trace point to the log. -/
def TracePoint.show {σ : Type} [HasConsole σ] : TracePoint → Run σ Unit
  | .switchSkipped target => do
      Report.info "switch_trace path=skipped"
      Report.number " target" target
  | .switchCaptured source => do
      Report.info "switch_trace path=captured"
      Report.number " from" source
  | .switchMoving source target => do
      Report.info "switch_trace path=patching"
      Report.number " from" source
      Report.number " to" target
  | .switchResumed active => do
      Report.info "switch_trace path=resumed"
      Report.number " active" active
  | .forkCopy slot start => do
      Report.info "switch_trace fork=copy"
      Report.number " slot" slot
      Report.hex " phys_start" start.val
  | .forkResumed =>
      Report.info "switch_trace fork=resumed"

namespace KernelM

variable {μ : Type}

/-- Let the board work. -/
def onBoard {α : Type} (act : Run (Board μ) α) : KernelM μ α
  | ⟨kernel, board, tracing⟩ =>
      match act board with
      | .ok a board => .ok a ⟨kernel, board, tracing⟩
      | .error stop board => .error stop ⟨kernel, board, tracing⟩

instance : MonadLift (Run (Board μ)) (KernelM μ) where
  monadLift := onBoard

instance : HasConsole (World μ) where
  onConsole change := onBoard (Board.onConsole change)

/-- The state of the kernel. -/
def kernel : KernelM μ Kernel :=
  return (← get).kernel

def setKernel (k : Kernel) : KernelM μ Unit :=
  modify fun world => { world with kernel := k }

def modifyKernel (change : Kernel → Kernel) : KernelM μ Unit :=
  modify fun world => { world with kernel := change world.kernel }

def pushEvent (event : Event) : KernelM μ Unit :=
  modifyKernel (·.pushEvent event)

/-- Log a trace point if tracing is on. -/
def trace (point : TracePoint) : KernelM μ Unit := do
  if (← get).tracing then
    point.show

/-- Work with interrupts off, then put them back to what they were. A computation that stops never
gets to that. -/
def withoutInterrupts [Machine μ] {α : Type} (act : KernelM μ α) : KernelM μ α := do
  let was ← Machine.mask (μ := μ)
  let a ← act
  Machine.unmask (μ := μ) was
  return a

end KernelM

end SlotKernel

import SlotKernel.Kernel.World

/-!
Replicating the process. Once paging is on, the running context is captured, the process window is
copied to the slot of every other process, and the captured context is saved for each of them. So
each of them starts where the capture answers a second time, with a stack of its own that looks like
the one at the capture. This happens once; with a single process there is nothing to do.
-/

namespace SlotKernel

inductive ReplicateOutcome where
  /-- There is only one process. -/
  | skipped
  /-- So many slots were copied. -/
  | forked (copies : Nat)
  /-- A process starts here, in a slot that was copied earlier. -/
  | resumed
  /-- It had been done before. -/
  | alreadyDone
  deriving DecidableEq

namespace KernelM

variable {μ : Type} [Machine μ]

/-- Where the window of slot 0 lies in another slot. -/
def slotStart (window : Window) (slot : Nat) : Except Panic PhysAddr := do
  let distance ← orPanic .multiplyOverflow (Word.mul? (UInt32.ofNat slot) slotStride)
  return ⟨← orPanic .addOverflow (Word.add? window.start.val distance)⟩

/-- Copy the window to a slot. -/
def copySlot (window : Window) (slot : Nat) : KernelM μ Unit := do
  let start ← slotStart window slot
  trace (.forkCopy slot start)
  Machine.copyToPhysical (μ := μ) start window.start window.byteCount
  pushEvent (.slotReplicated slot start window.byteCount)

/-- The contexts with the same one saved for every process but the first. -/
def seedContexts (contexts : Vector Context maxProcesses) (count : Nat) (seed : Context) :
    Vector Context maxProcesses :=
  Vector.ofFn fun i => if 1 ≤ i.val ∧ i.val < count then seed else contexts[i]

/-- Fill every slot and save the context for its process. -/
def fillSlots (seed : Context) : KernelM μ ReplicateOutcome := do
  let config := (← kernel).config
  let copies := config.processCount - 1
  (List.range' 1 copies).forM (copySlot config.window)
  modifyKernel fun k =>
    { k with contexts := seedContexts k.contexts config.processCount seed, replicated := true }
  pushEvent (.contextsSeeded copies)
  Report.number "fork: replicated slots" copies
  return .forked copies

def replicate : KernelM μ ReplicateOutcome := do
  let k ← kernel
  if !k.config.isMultiprocess then
    Report.info "fork: single process configuration; nothing to replicate"
    return .skipped
  if k.replicated then
    return .alreadyDone
  if !k.pagingEnabled then
    Report.error "fork: replicate called before paging was enabled"
    Run.panic .pagingNotEnabled
  match ← Machine.capture (μ := μ) with
  | .saved seed => fillSlots seed
  | .resumed =>
      trace .forkResumed
      return .resumed

end KernelM

end SlotKernel

import SlotKernel.Kernel.World

/-!
Looking at the kernel through the log. The check says nothing while the kernel is in order and names
each rule that is broken otherwise; the dump writes out the events and the processes.
-/

namespace SlotKernel.KernelM

variable {μ : Type}

/-- Check the place of the active process, the window, the contexts of replicated processes and,
with a single process, that nothing was changed. -/
def check : KernelM μ Unit := do
  let k ← kernel
  if k.config.processCount ≤ k.active then
    Report.error "INVARIANT VIOLATION: active process out of range"
    Report.number " active" k.active
  if k.tablesBuilt then
    unless ← k.windowMatchesActive do
      Report.error "INVARIANT VIOLATION: window is not mapped to the active slot"
      Report.number " active" k.active
  if k.replicated then
    (k.processContexts.zipIdx.drop 1).forM fun (ctx, process) => do
      if let .error _ := ctx.validate k.config.window then
        Report.error "INVARIANT VIOLATION: context of a replicated process is not restorable"
        Report.number " process" process
  if !k.config.isMultiprocess && (k.replicated || k.active != 0) then
    Report.error "INVARIANT VIOLATION: single-process configuration was mutated"

/-- Write one process to the log. -/
def dumpProcess (ctx : Context) (process : Nat) : KernelM μ Unit := do
  Report.number " process" process
  let base ← slotBase process
  Report.hex "  slot_base" base.start.val
  if ctx.isSeeded then
    Report.hex "  eip" ctx.eip
    Report.hex "  esp" ctx.esp
  else
    Report.info "  context = None"

/-- Write all events and all processes to the log. -/
def dump : KernelM μ Unit := do
  let k ← kernel
  Report.info "=== KernelState Event Log Dump ==="
  k.events.entries.toList.forM (·.show)
  Report.info "=== End of Event Log ==="
  Report.info "=== Process Dump ==="
  Report.number " process_count" k.config.processCount
  Report.number " active" k.active
  k.processContexts.zipIdx.forM fun (ctx, process) => dumpProcess ctx process
  Report.info "=== End of Process Dump ==="

end SlotKernel.KernelM

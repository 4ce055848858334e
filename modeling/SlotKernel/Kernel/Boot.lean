import SlotKernel.Kernel.Inspect
import SlotKernel.Kernel.Viewport
import SlotKernel.Kernel.Replicate
import SlotKernel.Kernel.Switch
import SlotKernel.Kernel.Paging

/-!
Booting: the tables are built, paging is turned on, the viewport is placed, and the process is
replicated. The viewport only serves the shell, so the kernel boots without one where it cannot
be placed. Each process comes out of a boot by itself, the first with the outcome of the replication
and every other, when it is first switched to, as resumed.
-/

namespace SlotKernel.KernelM

variable {μ : Type} [Machine μ]

/-- Place the viewport and go on without it if that is refused. -/
def offerViewport (base : VirtAddr) : KernelM μ Unit := do
  if let .error _ ← placeViewport base then
    Report.error "entry: physical memory window unavailable"
    Report.hex " base" base.val

/-- Bring up a kernel whose paging structures lie at `base`, with a viewport if an address is
given. -/
def boot (base : PhysAddr) (viewport : Option VirtAddr) : KernelM μ ReplicateOutcome := do
  let config := (← kernel).config
  Report.number "entry: process_count" config.processCount
  Report.hex "entry: image_start" config.window.start.val
  let _ ← buildTables base
  enablePaging
  if let some addr := viewport then
    offerViewport addr
  modifyKernel fun k => { k with refreshHook := some .redraw }
  let outcome ← replicate
  check
  return outcome

end SlotKernel.KernelM

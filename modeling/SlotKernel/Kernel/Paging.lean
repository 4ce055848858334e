import SlotKernel.Kernel.World

/-!
Setting up paging: the tables are built once while paging is off, and then paging is turned on
with the directory as its root. Turning paging on without tables panics; turning it on again does
nothing.
-/

namespace SlotKernel.KernelM

variable {μ : Type}

/-- Build the tables of a kernel whose paging structures lie at `base`. -/
def buildTables (base : PhysAddr) : KernelM μ BuildSummary := do
  let k ← kernel
  let (paging, summary) ← PageTables.build base k.config.processCount
  modifyKernel fun k => { k with paging := paging, tablesBuilt := true }
  Report.info "kernel: page tables built"
  Report.number " tables" summary.tables
  Report.number " mapped_pages" summary.mappedPages.toNat
  Report.hex " directory" base.val
  pushEvent (.tablesBuilt summary.tables summary.mappedPages)
  return summary

def enablePaging [Machine μ] : KernelM μ Unit := do
  let k ← kernel
  if !k.tablesBuilt then
    Report.error "kernel: enable_paging before page tables were built"
    Run.panic .tablesNotBuilt
  if k.pagingEnabled then
    return
  let directory := k.paging.directoryAddress
  Machine.activatePaging (μ := μ) directory
  modifyKernel fun k => { k with pagingEnabled := true }
  Report.info "kernel: paging enabled"
  pushEvent (.pagingEnabled directory)

end SlotKernel.KernelM

import SlotKernel.Layout

/-!
The configuration of the kernel: how many processes share the window, where the window starts and
how cached mappings are dropped after a switch. A `Config` is only built by `Config.check`, and
its proof fields say what every later step relies on: between one and eight processes, and a window
that starts on a page boundary in the second MiB, so that no two slots overlap.
-/

namespace SlotKernel

/-- The processes that saved contexts are reserved for. -/
def maxProcesses : Nat := 8

/-- The processes of the boot image. -/
def defaultProcessCount : Nat := 2

/-- How the cached mappings of moved window pages are dropped. -/
inductive Invalidation where
  /-- Each page by itself, in ascending order. -/
  | perPage
  /-- All cached mappings of the machine at once. -/
  | fullFlush
  deriving DecidableEq

def Invalidation.standard : Invalidation := .perPage

structure Config where
  processCount : Nat
  window : Window
  invalidation : Invalidation
  one_le_processCount : 1 ≤ processCount
  processCount_le : processCount ≤ maxProcesses
  window_aligned : window.start.isPageAligned = true
  slotStride_le_start : slotStride ≤ window.start.val
  start_lt_ceiling : window.start.val < windowCeiling
  deriving DecidableEq

namespace Config

/-- Check a configuration for a machine with so many bytes of memory. No process counts as one. The
first rule that is broken decides the error: the number of processes and page tables, the alignment
of the window, its place in the second MiB, and room for the boot MiB and one MiB a process. -/
def check (processCount : Nat) (imageStart : VirtAddr) (memory : UInt32)
    (invalidation : Invalidation) : Except (Failure ConfigError) Config := do
  let count := max 1 processCount
  if hcount : count ≤ maxProcesses then
    if maxPageTables < (← pageTablesNeeded count) then
      throw (.refused (.tooManyProcesses count maxProcesses))
    if haligned : imageStart.isPageAligned then
      if hplace : slotStride ≤ imageStart.val ∧ imageStart.val < windowCeiling then
        let pages ← identityMappedPages count
        let required : UInt32 ← orPanic .multiplyOverflow (Word.mul? pages pageSize)
        if memory < required then
          throw (.refused (.insufficientMemory required memory))
        return {
          processCount := count
          window := ⟨imageStart⟩
          invalidation := invalidation
          one_le_processCount := Nat.le_max_left 1 processCount
          processCount_le := hcount
          window_aligned := haligned
          slotStride_le_start := hplace.1
          start_lt_ceiling := hplace.2 }
      else
        throw (.refused (.imageStartOutsideWindow imageStart))
    else
      throw (.refused (.imageStartMisaligned imageStart))
  else
    throw (.refused (.tooManyProcesses count maxProcesses))

/-- Replicating and switching only make sense with a second process. -/
def isMultiprocess (config : Config) : Bool :=
  2 ≤ config.processCount

end Config

end SlotKernel

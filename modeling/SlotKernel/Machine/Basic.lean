import SlotKernel.Config
import SlotKernel.Context
import SlotKernel.Machine.Run
import SlotKernel.Paging.WindowMove

/-!
What the kernel asks of the machine it runs on. Paging and cached mappings, the interrupt mask,
copying between slots, and the two halves of a transfer: `capture` saves the running context and
answers a second time, as `resumed`, when that context is restored; `restore` lets a saved context
go on. Between the two the request for the switch is handed over to a place that the moving window
cannot take away.
-/

namespace SlotKernel

/-- The answer of a capture. -/
inductive Capture where
  /-- The context was saved just now. -/
  | saved (context : Context)
  /-- A context that was saved here earlier goes on. -/
  | resumed

/-- Everything that the last part of a switch needs. -/
structure SwitchRequest where
  move : WindowMove
  invalidation : Invalidation
  context : Context

class Machine (μ : Type) where
  /-- Load the page directory and turn paging on. -/
  activatePaging : PhysAddr → Run μ Unit
  /-- Drop the cached mapping of one page. -/
  invalidatePage : Page → Run μ Unit
  /-- Drop all cached mappings. -/
  flushMappings : Run μ Unit
  /-- Turn interrupts off; the answer is whether they were on. -/
  mask : Run μ Bool
  /-- Put interrupts back to what `mask` found. -/
  unmask : Bool → Run μ Unit
  /-- Turn interrupts off for good. -/
  disableInterrupts : Run μ Unit
  /-- Copy bytes that the running process sees to physical memory. -/
  copyToPhysical : PhysAddr → VirtAddr → UInt32 → Run μ Unit
  capture : Run μ Capture
  /-- Move the request to where it survives the switch. -/
  handOver : SwitchRequest → Run μ SwitchRequest
  restore : Context → Run μ Unit
  /-- Wait for ever. -/
  halt : Run μ Unit
  /-- How many of the next captures can answer `resumed`. -/
  pendingResumes : μ → Nat

end SlotKernel

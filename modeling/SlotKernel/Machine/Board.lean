import SlotKernel.Machine.Basic
import SlotKernel.Machine.Report

/-!
The board: a machine together with the console and the devices on its bus. Dropping the cached
mappings of a range of pages, moving the process window and rebooting work on the board.
-/

namespace SlotKernel

structure Board (μ : Type) where
  machine : μ
  console : Console := .ready

namespace Board

variable {μ : Type}

/-- Let the machine of the board work. -/
def onMachine {α : Type} (act : Run μ α) : Run (Board μ) α
  | ⟨machine, console⟩ =>
      match act machine with
      | .ok a machine => .ok a ⟨machine, console⟩
      | .error stop machine => .error stop ⟨machine, console⟩

instance : MonadLift (Run μ) (Run (Board μ)) where
  monadLift := onMachine

/-- Change the console. -/
def onConsole (change : Console → Console) : Run (Board μ) Unit
  | ⟨machine, console⟩ => .ok () ⟨machine, change console⟩

instance : HasConsole (Board μ) where
  onConsole := onConsole

/-- Let the devices of the board work. -/
def onDevices {α : Type} (act : Run Devices α) : Run (Board μ) α
  | ⟨machine, console⟩ =>
      match act console.devices with
      | .ok a devices => .ok a ⟨machine, { console with devices := devices }⟩
      | .error stop devices => .error stop ⟨machine, { console with devices := devices }⟩

variable [Machine μ]

/-- Drop the cached mappings of a range of pages. -/
def invalidate (range : PageRange) : Invalidation → Run (Board μ) Unit
  | .perPage => range.pages.forM fun page => Machine.invalidatePage (μ := μ) page
  | .fullFlush => Machine.flushMappings (μ := μ)

/-- The tables with the window moved, and the pages of the window. There is no way back from a move
that is refused, so it panics. -/
def movedTables (move : WindowMove) (paging : PageTables) :
    Run (Board μ) (PageTables × PageRange) :=
  match move.apply paging with
  | .ok moved => return moved
  | .error (.refused error) => do
      Report.error "mm::window: patch landed outside the expected window"
      Report.number " from_slot" move.source
      Report.number " to_slot" move.target
      Run.panic (.windowMove error)
  | .error (.panicked cause) => Run.panic cause

/-- Move the window and drop the cached mappings of its pages. -/
def moveWindow (move : WindowMove) (invalidation : Invalidation) (paging : PageTables) :
    Run (Board μ) (PageTables × PageRange) := do
  let (moved, range) ← movedTables move paging
  invalidate range invalidation
  return (moved, range)

/-- Ask the keyboard controller for a reset and wait for it with interrupts off. -/
def reboot : Run (Board μ) Unit := do
  Machine.disableInterrupts (μ := μ)
  let _ ← onDevices (Reset.pulse 32)
  Machine.halt (μ := μ)

end Board

end SlotKernel

import SlotKernel.Kernel.Event
import SlotKernel.Kernel.Hook
import SlotKernel.Paging.Build

/-!
The state of the kernel: its configuration, the paging structures and how far they are set up, a
saved context for each process, the process that runs now, the hook, the viewport and the event log.

What the operations keep once the kernel is up: the active process is one of the configured ones,
each page of the process window shows the frame of the active slot, every process that does not run
has a context that can be restored, and with a single process nothing ever changes.
-/

namespace SlotKernel

structure Kernel where
  config : Config
  paging : PageTables := .empty
  tablesBuilt : Bool := false
  pagingEnabled : Bool := false
  contexts : Vector Context maxProcesses := Vector.replicate maxProcesses .empty
  active : Nat := 0
  /-- Whether every slot holds a process. -/
  replicated : Bool := false
  refreshHook : Option RefreshHook := none
  viewport : Option Viewport := none
  events : EventLog := {}

namespace Kernel

/-- The number of a process that there is. -/
def process? (k : Kernel) (number : Nat) : Option Nat :=
  if number < k.config.processCount then some number else none

/-- The contexts of the configured processes. -/
def processContexts (k : Kernel) : List Context :=
  k.contexts.toList.take k.config.processCount

/-- The frames from this number on are not mapped one to one. -/
def frameLimit (k : Kernel) : Except Panic UInt32 :=
  identityMappedPages k.config.processCount

def pushEvent (k : Kernel) (event : Event) : Kernel :=
  { k with events := k.events.push event }

/-- Whether a page shows the frame that lies `base` above its own number. -/
def showsSlot (k : Kernel) (base : Frame) (page : Page) : Bool :=
  match k.paging.entry? page, base.add? page.number with
  | some entry, some expected => entry.isPresent && entry.frame == expected
  | _, _ => false

/-- Whether every page of the process window shows the slot of the active process. -/
def windowMatchesActive (k : Kernel) : Except Panic Bool := do
  let base ← slotBase k.active
  return k.config.window.pages.all (k.showsSlot base)

end Kernel

end SlotKernel

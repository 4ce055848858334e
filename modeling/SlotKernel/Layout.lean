import SlotKernel.Error

/-!
The layout of physical memory. The first MiB belongs to the boot code and the devices. The second
holds the kernel and, from the image start up to the 2 MiB ceiling, the process window: data, stack
and everything that a process has of its own. Slot `k` is the same stretch `k` MiB higher up, slot 0
being the window's own place, and the tables map the boot MiB and one MiB for each process one to
one. A process runs in the window with the window's pages pointed at the frames of its slot.

Slot numbers and process counts are natural numbers, narrowed to 32 bits before they are scaled to
frames; a scaled number that does not fit panics.
-/

namespace SlotKernel

def mib : UInt32 := 0x100000

def pagesPerMib : UInt32 := 256

/-- The distance between two neighbouring slots. -/
def slotStride : UInt32 := mib

/-- The end of the process window, where the stack begins. -/
def windowCeiling : UInt32 := 0x200000

/-- There is room for so many page tables. -/
def maxPageTables : Nat := 4

def pagesPerTable : UInt32 := 1024

/-- The pages mapped one to one: the boot MiB and one MiB for each process. -/
def identityMappedPages (processCount : Nat) : Except Panic UInt32 := do
  let megabytes ← orPanic .addOverflow (Word.add? (UInt32.ofNat processCount) 1)
  orPanic .multiplyOverflow (Word.mul? megabytes pagesPerMib)

/-- The page tables that cover those pages, at least one. -/
def pageTablesNeeded (processCount : Nat) : Except Panic Nat := do
  let pages ← identityMappedPages processCount
  return max 1 ((pages.toNat + 1023) / 1024)

/-- How far the frames of a slot lie above those of slot 0, as a frame number. -/
def slotBase (slot : Nat) : Except Panic Frame :=
  return ⟨← orPanic .multiplyOverflow (Word.mul? (UInt32.ofNat slot) pagesPerMib)⟩

/-- The stretch of virtual memory that changes hands between processes. It ends at the ceiling and
is empty where it would start above it. -/
structure Window where
  start : VirtAddr
  deriving DecidableEq

namespace Window

/-- The first address above the window. -/
def ceiling (_ : Window) : VirtAddr :=
  ⟨windowCeiling⟩

def byteCount (window : Window) : UInt32 :=
  Word.monus windowCeiling window.start.val

def firstPage (window : Window) : Page :=
  window.start.page

def pageCount (window : Window) : UInt32 :=
  window.byteCount / pageSize

def contains (window : Window) (addr : VirtAddr) : Bool :=
  window.start.val ≤ addr.val && addr.val < windowCeiling

def range (window : Window) : PageRange :=
  ⟨window.firstPage, window.pageCount⟩

/-- The pages of the window in ascending order. -/
def pages (window : Window) : List Page :=
  window.range.pages

def describe (window : Window) : String :=
  "ProcessWindow \x7b start: " ++ window.start.describe ++ " \x7d"

end Window

end SlotKernel

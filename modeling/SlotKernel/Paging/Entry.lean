import SlotKernel.Address
import SlotKernel.Paging.Flags

/-!
Entries of the two-level tables of the 32-bit machine. An entry is one word: a 20-bit frame number
above twelve attribute bits. The operations below keep the two apart: what exceeds 20 bits of a
frame number or twelve bits of a flag set is dropped, and changing one field leaves the other alone.
-/

namespace SlotKernel

/-- The frame number field of an entry. -/
def frameMask : UInt32 := 0xfffff000

/-- The attribute bits of an entry. -/
def flagMask : UInt32 := 0xfff

/-- An entry of the page directory, naming the frame of a page table. -/
structure DirectoryEntry where
  raw : UInt32
  deriving DecidableEq, Inhabited

namespace DirectoryEntry

def empty : DirectoryEntry := ⟨0⟩

def new (table : Frame) (flags : DirectoryFlags) : DirectoryEntry :=
  ⟨((table.number <<< pageShift) &&& frameMask) ||| (flags.bits &&& flagMask)⟩

/-- The named attributes of the entry. -/
def flags (e : DirectoryEntry) : DirectoryFlags :=
  DirectoryFlags.truncate e.raw

def isPresent (e : DirectoryEntry) : Bool :=
  e.flags.contains .present

def tableFrame (e : DirectoryEntry) : Frame :=
  ⟨(e.raw &&& frameMask) >>> pageShift⟩

def describe (e : DirectoryEntry) : String :=
  "PDE(" ++ e.tableFrame.describe ++ ", " ++ e.flags.describe ++ ")"

end DirectoryEntry

/-- An entry of a page table, naming the frame that a page shows. -/
structure TableEntry where
  raw : UInt32
  deriving DecidableEq, Inhabited

namespace TableEntry

def empty : TableEntry := ⟨0⟩

def new (frame : Frame) (flags : PageFlags) : TableEntry :=
  ⟨((frame.number <<< pageShift) &&& frameMask) ||| (flags.bits &&& flagMask)⟩

/-- The named attributes of the entry. -/
def flags (e : TableEntry) : PageFlags :=
  PageFlags.truncate e.raw

def isPresent (e : TableEntry) : Bool :=
  e.flags.contains .present

def frame (e : TableEntry) : Frame :=
  ⟨(e.raw &&& frameMask) >>> pageShift⟩

/-- Point the entry at another frame under the same attributes. -/
def setFrame (e : TableEntry) (frame : Frame) : TableEntry :=
  ⟨((frame.number <<< pageShift) &&& frameMask) ||| (e.raw &&& flagMask)⟩

def insertFlags (e : TableEntry) (flags : PageFlags) : TableEntry :=
  ⟨e.raw ||| (flags.bits &&& flagMask)⟩

def removeFlags (e : TableEntry) (flags : PageFlags) : TableEntry :=
  ⟨e.raw &&& ~~~(flags.bits &&& flagMask)⟩

def describe (e : TableEntry) : String :=
  "PTE(" ++ e.frame.describe ++ ", " ++ e.flags.describe ++ ")"

end TableEntry

/-- The top level of the tables. -/
abbrev Directory := Vector DirectoryEntry 1024

/-- A table of the second level. -/
abbrev Table := Vector TableEntry 1024

def Directory.empty : Directory := Vector.replicate 1024 .empty

def Table.empty : Table := Vector.replicate 1024 .empty

end SlotKernel

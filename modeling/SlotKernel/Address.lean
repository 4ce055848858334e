import SlotKernel.Numeral
import SlotKernel.Word

/-!
Addresses of the 32-bit machine and the 4 KiB units they fall into. A physical address lies in a
frame and a virtual address in a page; the four types are kept apart, so that a frame number is
never taken for a page number. A frame that an entry can point to has a number of at most 20 bits.
Frame and page numbers are words of their own, and the address where a unit starts keeps the low 32
bits of the product.
-/

namespace SlotKernel

/-- A byte address of physical memory. -/
structure PhysAddr where
  val : UInt32
  deriving DecidableEq, Inhabited

/-- A byte address as the program sees it. -/
structure VirtAddr where
  val : UInt32
  deriving DecidableEq, Inhabited

/-- A 4 KiB unit of physical memory, by number. -/
structure Frame where
  number : UInt32
  deriving DecidableEq, Inhabited

/-- A 4 KiB unit of virtual memory, by number. -/
structure Page where
  number : UInt32
  deriving DecidableEq, Inhabited

/-- The bytes in a frame or page. -/
def pageSize : UInt32 := 4096

/-- The bits of an address inside its frame or page. -/
def pageShift : UInt32 := 12

/-- The largest frame number that fits the 20 bits of an entry. -/
def maxFrameNumber : UInt32 := 0xfffff

namespace PhysAddr

def isPageAligned (a : PhysAddr) : Bool :=
  a.val &&& (pageSize - 1) == 0

/-- The start of the frame that holds the address. -/
def alignDown (a : PhysAddr) : PhysAddr :=
  ⟨a.val &&& ~~~(pageSize - 1)⟩

def frame (a : PhysAddr) : Frame :=
  ⟨a.val >>> pageShift⟩

def add? (a : PhysAddr) (bytes : UInt32) : Option PhysAddr :=
  (Word.add? a.val bytes).map PhysAddr.mk

def describe (a : PhysAddr) : String :=
  "PhysAddr(" ++ Numeral.hex a.val.toNat ++ ")"

end PhysAddr

namespace VirtAddr

def isPageAligned (a : VirtAddr) : Bool :=
  a.val &&& (pageSize - 1) == 0

/-- The start of the page that holds the address. -/
def alignDown (a : VirtAddr) : VirtAddr :=
  ⟨a.val &&& ~~~(pageSize - 1)⟩

/-- The bytes between the start of the page and the address. -/
def offset (a : VirtAddr) : UInt32 :=
  a.val &&& (pageSize - 1)

def page (a : VirtAddr) : Page :=
  ⟨a.val >>> pageShift⟩

def add? (a : VirtAddr) (bytes : UInt32) : Option VirtAddr :=
  (Word.add? a.val bytes).map VirtAddr.mk

def describe (a : VirtAddr) : String :=
  "VirtAddr(" ++ Numeral.hex a.val.toNat ++ ")"

end VirtAddr

namespace Frame

/-- The physical address of the first byte, modulo `2 ^ 32`. -/
def start (f : Frame) : PhysAddr :=
  ⟨f.number <<< pageShift⟩

/-- The frame of a number, if an entry can point to it. -/
def ofNumber? (number : UInt32) : Option Frame :=
  if number > maxFrameNumber then none else some ⟨number⟩

/-- The frame so many frames further on, if an entry can point to it. -/
def add? (f : Frame) (count : UInt32) : Option Frame :=
  (Word.add? f.number count).bind ofNumber?

/-- The frame at the same distance from `target` as `f` is from `source`. A frame below `source` has
no such distance. -/
def rebase? (f source target : Frame) : Option Frame :=
  (Word.sub? f.number source.number).bind target.add?

/-- A frame is described by the address where it starts. -/
def describe (f : Frame) : String :=
  "PhysFrame(" ++ Numeral.hex f.start.val.toNat ++ ")"

end Frame

namespace Page

/-- The virtual address of the first byte, modulo `2 ^ 32`. -/
def start (p : Page) : VirtAddr :=
  ⟨p.number <<< pageShift⟩

def add? (p : Page) (count : UInt32) : Option Page :=
  (Word.add? p.number count).map Page.mk

/-- The directory entry that covers the page. A number beyond 20 bits gives an index beyond the
directory. -/
def directoryIndex (p : Page) : Nat :=
  (p.number >>> 10).toNat

/-- The place of the page in its page table. -/
def tableIndex (p : Page) : Fin 1024 :=
  ⟨p.number.toNat % 1024, Nat.mod_lt _ (by decide)⟩

/-- The two indices are the digits of the number. -/
theorem number_eq (p : Page) : p.number.toNat = 1024 * p.directoryIndex + p.tableIndex := by
  have shift : UInt32.toNat 10 % 32 = 10 := rfl
  simp only [directoryIndex, tableIndex, UInt32.toNat_shiftRight, shift, Nat.shiftRight_eq_div_pow]
  omega

theorem eq_of_index_eq {p q : Page} (directory : p.directoryIndex = q.directoryIndex)
    (table : p.tableIndex = q.tableIndex) : p = q := by
  have hp := p.number_eq
  have hq := q.number_eq
  have same : p.number = q.number := UInt32.toNat_inj.mp (by omega)
  cases p
  cases q
  simp_all

/-- A page is described by the address where it starts. -/
def describe (p : Page) : String :=
  "VirtPage(" ++ Numeral.hex p.start.val.toNat ++ ")"

/-- So many pages in ascending order from the first on. -/
def span (first : Page) (count : Nat) : List Page :=
  (List.range count).map fun i => ⟨first.number + UInt32.ofNat i⟩

end Page

/-- A run of pages, by its first page and its length. -/
structure PageRange where
  first : Page
  count : UInt32
  deriving DecidableEq

def PageRange.pages (range : PageRange) : List Page :=
  range.first.span range.count.toNat

end SlotKernel

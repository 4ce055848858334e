import SlotKernel.Layout
import SlotKernel.Paging.Entry

/-!
The paging structures of the kernel: one directory and four page tables that lie behind it in
physical memory, of which the first few are built. A page has an entry when its table is built and
the directory entry for it is present. Every change goes through `modify?` on one such entry, and
no operation here drops cached mappings; that is the machine's part.
-/

namespace SlotKernel

structure PageTables where
  directory : Directory
  tables : Vector Table maxPageTables
  /-- How many of the tables are built. -/
  tableCount : Fin (maxPageTables + 1)
  /-- The physical address of the directory. -/
  base : PhysAddr
  deriving DecidableEq

/-- A change to the entry of one page. -/
inductive PageAction where
  /-- Show a frame, with these attributes on top of the present ones. -/
  | map (page : Page) (frame : Frame) (flags : PageFlags)
  /-- Stop caching accesses to the page. -/
  | disableCache (page : Page)

namespace PageTables

/-- Structures with nothing built. -/
def empty : PageTables where
  directory := .empty
  tables := Vector.replicate maxPageTables .empty
  tableCount := 0
  base := ⟨0⟩

/-- What the machine loads as its page directory. -/
def directoryAddress (s : PageTables) : PhysAddr :=
  s.base

/-- The frame of a page table; the tables follow the directory one frame each. -/
def tableFrame (base : PhysAddr) (index : Nat) : Frame :=
  ⟨base.frame.number + 1 + UInt32.ofNat index⟩

/-- The table that holds the entry of a page, if that table is built and present. -/
def tableOf? (s : PageTables) (page : Page) : Option (Fin maxPageTables) :=
  if h : page.directoryIndex < s.tableCount.val then
    have bound : page.directoryIndex < maxPageTables := by have := s.tableCount.isLt; omega
    have inDirectory : page.directoryIndex < 1024 := Nat.lt_trans bound (by decide)
    if s.directory[page.directoryIndex].isPresent then some ⟨page.directoryIndex, bound⟩ else none
  else
    none

/-- The entry of a page. -/
def entry? (s : PageTables) (page : Page) : Option TableEntry :=
  (s.tableOf? page).map fun table => s.tables[table][page.tableIndex]

/-- The structures with the entry of a page changed, if it has one. -/
def modify? (s : PageTables) (page : Page) (change : TableEntry → TableEntry) :
    Option PageTables :=
  (s.tableOf? page).map fun (table : Fin maxPageTables) =>
    let entries := s.tables[table]
    let entry := change entries[page.tableIndex]
    { s with tables := s.tables.set table (entries.set page.tableIndex entry) }

theorem tableOf?_val {s : PageTables} {page : Page} {table : Fin maxPageTables}
    (h : s.tableOf? page = some table) : table.val = page.directoryIndex := by
  unfold tableOf? at h
  split at h
  · simp only [Option.ite_none_right_eq_some, Option.some.injEq] at h
    rw [← h.2]
  · contradiction

theorem tableOf?_of_modify? {s s' : PageTables} {page : Page} {change : TableEntry → TableEntry}
    (h : s.modify? page change = some s') (other : Page) :
    s'.tableOf? other = s.tableOf? other := by
  obtain ⟨_, _, rfl⟩ := Option.map_eq_some_iff.mp h
  rfl

/-- After a change of a page's entry, that page has the changed entry. -/
theorem entry?_of_modify? {s s' : PageTables} {page : Page} {change : TableEntry → TableEntry}
    (h : s.modify? page change = some s') : s'.entry? page = (s.entry? page).map change := by
  have same := tableOf?_of_modify? h page
  obtain ⟨_, found, rfl⟩ := Option.map_eq_some_iff.mp h
  unfold entry?
  rw [same, found]
  simp

/-- A change of one page's entry leaves the entries of all other pages as they were. -/
theorem entry?_of_modify?_ne {s s' : PageTables} {page other : Page}
    {change : TableEntry → TableEntry} (h : s.modify? page change = some s') (ne : other ≠ page) :
    s'.entry? other = s.entry? other := by
  have same := tableOf?_of_modify? h other
  obtain ⟨table, found, rfl⟩ := Option.map_eq_some_iff.mp h
  unfold entry?
  rw [same]
  cases place : s.tableOf? other with
  | none => rfl
  | some table' =>
      have hp := tableOf?_val found
      have hq := tableOf?_val place
      simp only [Option.map_some, Option.some.injEq]
      by_cases eq : table = table'
      · subst eq
        have index : page.tableIndex ≠ other.tableIndex := fun index =>
          ne (Page.eq_of_index_eq (hq.symm.trans hp) index.symm)
        simp [Fin.val_ne_of_ne index]
      · simp [Fin.val_ne_of_ne eq]

/-- The physical address that a virtual address stands for, found by walking the tables. -/
def resolve? (s : PageTables) (addr : VirtAddr) : Option PhysAddr := do
  let entry ← s.entry? addr.page
  guard entry.isPresent
  entry.frame.start.add? addr.offset

/-- The entries of the built tables, from page 0 on. -/
def builtEntries (s : PageTables) : List TableEntry :=
  (s.tables.toList.take s.tableCount).flatMap (·.toList)

/-- How many pages of the built tables are present. -/
def presentPageCount (s : PageTables) : Nat :=
  s.builtEntries.countP (·.isPresent)

/-- Change one page. Page 0 is never mapped, and a page without an entry is refused. -/
def apply (s : PageTables) : PageAction → Except MappingError PageTables
  | .map page frame flags =>
      if page.number == 0 then
        .error .nullPage
      else
        (s.modify? page fun entry => (entry.setFrame frame).insertFlags flags).elim
          (.error (.notMapped page)) .ok
  | .disableCache page =>
      (s.modify? page (·.insertFlags .cacheDisable)).elim (.error (.notMapped page)) .ok

/-- Make the page of `virt` show the frame of `phys`, writable. -/
def mapPhysicalPage (s : PageTables) (virt : VirtAddr) (phys : PhysAddr) :
    Except MappingError PageTables :=
  match Frame.ofNumber? phys.frame.number with
  | some frame => s.apply (.map virt.page frame (.present ||| .writable))
  | none => .error (.frameOutOfRange phys)

/-- Stop caching accesses to the page of `virt`. -/
def disableCacheForPage (s : PageTables) (virt : VirtAddr) : Except MappingError PageTables :=
  s.apply (.disableCache virt.page)

/-- The frames that these pages show, if all of them have entries. -/
def frames? (s : PageTables) (pages : List Page) : Option (List Frame) :=
  pages.mapM fun page => (s.entry? page).map (·.frame)

end PageTables

end SlotKernel

import SlotKernel.Paging.Tables

/-!
Building the tables before paging is turned on. The boot MiB and one MiB for each process are mapped
one to one, writable, write-through and for the kernel alone; page 0 keeps its frame but is not
present, so that a null access faults. The result depends on the address of the structures and the
number of processes and on nothing that was there before.
-/

namespace SlotKernel

/-- What a build reports. -/
structure BuildSummary where
  tables : Nat
  mappedPages : UInt32
  deriving DecidableEq

namespace PageTables

def initialDirectoryFlags : DirectoryFlags :=
  .present ||| .writable ||| .writeThrough

def initialPageFlags : PageFlags :=
  .present ||| .writable ||| .writeThrough

/-- The first entry of a page of the mapped part. -/
def initialEntry (page : Nat) : TableEntry :=
  let entry := TableEntry.new ⟨UInt32.ofNat page⟩ initialPageFlags
  if page = 0 then entry.removeFlags .present else entry

/-- A directory with the first `count` tables behind `base`. -/
def initialDirectory (base : PhysAddr) (count : Nat) : Directory :=
  Vector.ofFn fun i =>
    if i.val < count then .new (tableFrame base i) initialDirectoryFlags else .empty

/-- The table that covers pages from `1024 * index` on, with the first `mapped` pages of all tables
mapped one to one. -/
def initialTable (mapped : Nat) (index : Nat) : Table :=
  Vector.ofFn fun i =>
    let page := 1024 * index + i.val
    if page < mapped then initialEntry page else .empty

/-- Build the structures that lie at `base` for so many processes. The address has to be page
aligned. No more than four tables are built, and no more is mapped than they cover. -/
def build (base : PhysAddr) (processCount : Nat) : Except Panic (PageTables × BuildSummary) := do
  unless base.isPageAligned do
    throw .misalignedDirectory
  let needed ← pageTablesNeeded processCount
  let pages ← identityMappedPages processCount
  let count : Fin (maxPageTables + 1) := ⟨min needed maxPageTables, by omega⟩
  let mapped := min pages (UInt32.ofNat count.val * pagesPerTable)
  return ({
    directory := initialDirectory base count
    tables := Vector.ofFn fun index => initialTable mapped.toNat index
    tableCount := count
    base := base }, ⟨count, mapped⟩)

end PageTables

end SlotKernel

import Mathlib.Data.Option.Basic
import SlotKernel.Config
import SlotKernel.Proofs.Edits
import SlotKernel.Proofs.Geometry

/-!
The tables that a build leaves behind for an accepted configuration. Every page of the mapped part
has its first entry: it shows the frame of its own number, and only page 0 is not present. So each
page of the process window shows slot 0.
-/

namespace SlotKernel

/-- A word whose lowest bit is set stays present in a directory entry, whatever frame is named. -/
theorem DirectoryEntry.isPresent_new_initial (table : Frame) :
    (new table PageTables.initialDirectoryFlags).isPresent = true := by
  rw [(tells_new table _).present_eq]
  decide

theorem TableEntry.isPresent_initialEntry_zero :
    (PageTables.initialEntry 0).isPresent = false := by
  decide

namespace PageTables

theorem initialEntry_of_ne_zero {page : Page} (h : page.number.toNat ≠ 0) :
    initialEntry page.number.toNat = .new ⟨page.number⟩ initialPageFlags := by
  rw [initialEntry, UInt32.ofNat_toNat]
  exact if_neg h

/-- The page is present and shows the frame of its own number. -/
def ShowsItself (s : PageTables) (page : Page) : Prop :=
  ∃ entry, s.entry? page = some entry ∧ entry.isPresent = true ∧ entry.frame = ⟨page.number⟩

/-- An address in such a page stands for itself. -/
theorem ShowsItself.resolve?_eq {s : PageTables} {addr : VirtAddr}
    (h : s.ShowsItself addr.page) : s.resolve? addr = some ⟨addr.val⟩ := by
  obtain ⟨entry, hentry, hpresent, hframe⟩ := h
  have hpage := addr.number_page
  have hlt := addr.val.toNat_lt
  have hshift : UInt32.toNat 12 % 32 = 12 := rfl
  have hmask : UInt32.toNat (pageSize - 1) = 2 ^ 12 - 1 := rfl
  have hstart : entry.frame.start.val.toNat = 4096 * (addr.val.toNat / 4096) := by
    rw [hframe, Frame.start, UInt32.toNat_shiftLeft, hpage, pageShift, hshift, Nat.shiftLeft_eq]
    omega
  have hoffset : addr.offset.toNat = addr.val.toNat % 4096 := by
    rw [VirtAddr.offset, UInt32.toNat_and, hmask, Nat.and_two_pow_sub_one_eq_mod]
  have hadd : Word.add? entry.frame.start.val addr.offset = some addr.val := by
    rw [Word.add?, if_pos (by simp only [UInt32.size]; omega), Option.some.injEq,
      ← UInt32.toNat_inj, UInt32.toNat_add]
    omega
  rw [resolve?, hentry]
  simp [hpresent, PhysAddr.add?, hadd]

theorem showsItself_of_initial {s : PageTables} {page : Page} (hzero : page.number.toNat ≠ 0)
    (hlt : page.number.toNat < 2 ^ 20)
    (h : s.entry? page = some (initialEntry page.number.toNat)) : s.ShowsItself page := by
  rw [initialEntry_of_ne_zero hzero] at h
  exact ⟨_, h, TableEntry.isPresent_new_initial _, TableEntry.frame_new _ hlt⟩

/-- A page below the mapped limit has its first entry in the tables built to cover it. -/
theorem entry?_initial {base : PhysAddr} {count : Fin (maxPageTables + 1)} {mapped : Nat}
    {page : Page} (hcovered : page.number.toNat < 1024 * count.val)
    (hmapped : page.number.toNat < mapped) :
    entry? {
      directory := initialDirectory base count
      tables := Vector.ofFn fun index => initialTable mapped index
      tableCount := count
      base := base } page = some (initialEntry page.number.toNat) := by
  have hnumber := page.number_eq
  have hindex := page.tableIndex.isLt
  have hcount : page.directoryIndex < count.val := by omega
  simp only [PageTables.entry?, tableOf?, dif_pos hcount, initialDirectory, Vector.getElem_ofFn,
    if_pos hcount, DirectoryEntry.isPresent_new_initial, if_true, Option.map_some,
    Fin.getElem_fin, initialTable, ← hnumber, if_pos hmapped]

/-- The tables of an accepted configuration cover every page that is to be mapped. -/
theorem min_covered_eq (config : Config) :
    min (UInt32.ofNat (256 * (config.processCount + 1)))
        (UInt32.ofNat (min (max 1 ((256 * (config.processCount + 1) + 1023) / 1024)) maxPageTables) *
          pagesPerTable) =
      UInt32.ofNat (256 * (config.processCount + 1)) := by
  have hcount : config.processCount ≤ 8 := config.processCount_le
  have hscale : UInt32.toNat pagesPerTable = 1024 := rfl
  apply if_pos
  rw [UInt32.le_iff_toNat_le, UInt32.toNat_mul, hscale, UInt32.toNat_ofNat', UInt32.toNat_ofNat']
  simp only [maxPageTables]
  omega

/-- What a build gives, for any number of processes. -/
theorem of_build_eq_ok {base : PhysAddr} {processCount : Nat} {built : PageTables}
    {summary : BuildSummary} (h : build base processCount = .ok (built, summary)) :
    base.isPageAligned = true ∧ ∃ (count : Fin (maxPageTables + 1)) (mapped : Nat), built = {
      directory := initialDirectory base count
      tables := Vector.ofFn fun index => initialTable mapped index
      tableCount := count
      base := base } := by
  by_cases hbase : base.isPageAligned = true
  · rw [build, if_pos hbase] at h
    obtain ⟨needed, -, h⟩ := exists_of_bind_eq_ok h
    obtain ⟨pages, -, h⟩ := exists_of_bind_eq_ok h
    exact ⟨hbase, _, _, (Prod.mk.inj (Except.ok.inj h)).1.symm⟩
  · rw [build, if_neg hbase] at h
    cases h

/-- What is built for an accepted configuration: enough tables for the boot MiB and a MiB for each
process, and the first entry for each of their pages. -/
theorem build_eq_ok (config : Config) {base : PhysAddr} (hbase : base.isPageAligned = true) :
    ∃ built summary, build base config.processCount = .ok (built, summary) ∧ built.base = base ∧
      ∀ page : Page, page.number.toNat < 256 * (config.processCount + 1) →
        built.entry? page = some (initialEntry page.number.toNat) := by
  have hcount : config.processCount ≤ 8 := config.processCount_le
  rw [build, if_pos hbase, pageTablesNeeded_eq (by omega), identityMappedPages_eq (by omega)]
  refine ⟨_, _, rfl, rfl, ?_⟩
  intro page hpage
  apply entry?_initial
  · simp only [maxPageTables]
    omega
  · rw [min_covered_eq, UInt32.toNat_ofNat_of_lt' (by simp only [UInt32.size]; omega)]
    exact hpage

/-- It reports the tables and the pages of the boot MiB and a MiB for each process. -/
theorem summary_of_build {config : Config} {base : PhysAddr} {built : PageTables}
    {summary : BuildSummary} (h : build base config.processCount = .ok (built, summary)) :
    summary = ⟨(256 * (config.processCount + 1) + 1023) / 1024,
        UInt32.ofNat (256 * (config.processCount + 1))⟩ ∧
      built.base = base := by
  have hcount : config.processCount ≤ 8 := config.processCount_le
  rw [build, if_pos (of_build_eq_ok h).1, pageTablesNeeded_eq (by omega),
    identityMappedPages_eq (by omega)] at h
  obtain ⟨hbuilt, hsummary⟩ := Prod.mk.inj (Except.ok.inj h)
  have htables : min (max 1 ((256 * (config.processCount + 1) + 1023) / 1024)) maxPageTables =
      (256 * (config.processCount + 1) + 1023) / 1024 := by
    simp only [maxPageTables]
    omega
  refine ⟨?_, congrArg PageTables.base hbuilt.symm⟩
  rw [← hsummary, BuildSummary.mk.injEq]
  exact ⟨htables, min_covered_eq config⟩

end PageTables

end SlotKernel

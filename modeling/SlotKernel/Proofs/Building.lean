import SlotKernel.Proofs.Walks

/-!
Building the tables word by word, over whatever lies there. Everything is cleared first, then the
directory gets one word for each table and the tables one word for each mapped page, and at the end
page 0 loses its present bit. No word that is written lies outside of the directory or the tables
and no sum is too large for a word, so this ends as `build` does and finds nothing of what was there
before. Every word of the result is known.
-/

namespace SlotKernel

/-- A loop over the first numbers, given what it has reached before each of them. -/
theorem foldlM_range_eq_some {σ : Type} {step : σ → Nat → Option σ} {n : Nat} (reached : Nat → σ)
    (hstep : ∀ i < n, step (reached i) i = some (reached (i + 1))) :
    (List.range n).foldlM step (reached 0) = some (reached n) := by
  induction n with
  | zero => rfl
  | succ n ih =>
      have hbefore := ih fun i hi => hstep i (Nat.lt_succ_of_lt hi)
      rw [List.range_succ, List.foldlM_append, hbefore]
      change ([n].foldlM step (reached n)) = _
      rw [List.foldlM_cons, hstep n (Nat.lt_succ_self n)]
      rfl

namespace PageTables

/-! ### The loops -/

/-- The frame of a page table, if the sums are words. -/
def tableFrame? (base : PhysAddr) (index : Nat) : Option Frame := do
  let first ← Word.add? base.frame.number 1
  let number ← Word.add? first (UInt32.ofNat index)
  return ⟨number⟩

/-- The structures with a word of the directory written, if there is such a word. -/
def writeDirectory? (s : PageTables) (index : Nat) (entry : DirectoryEntry) : Option PageTables :=
  if h : index < 1024 then some { s with directory := s.directory.set index entry } else none

/-- The structures with a word of a table written. -/
def setWord (s : PageTables) (table : Fin maxPageTables) (index : Fin 1024) (entry : TableEntry) :
    PageTables :=
  { s with tables :=
      s.tables.setIfInBounds table ((s.tables.get table).setIfInBounds index entry) }

/-- The structures with a word of a table changed, if there is such a word. -/
def changeWord? (s : PageTables) (table index : Nat) (change : TableEntry → TableEntry) :
    Option PageTables :=
  if h : table < maxPageTables ∧ index < 1024 then
    some (s.setWord ⟨table, h.1⟩ ⟨index, h.2⟩ (change (s.entryAt ⟨table, h.1⟩ ⟨index, h.2⟩)))
  else
    none

/-- Name one table in the directory. -/
def linkTable (s : PageTables) (index : Nat) : Option PageTables := do
  let frame ← tableFrame? s.base index
  s.writeDirectory? index (.new frame initialDirectoryFlags)

/-- Map one page to the frame of its own number. -/
def fillPage (s : PageTables) (page : Nat) : Option PageTables :=
  s.changeWord? (page / 1024) (page % 1024) fun _ => .new ⟨UInt32.ofNat page⟩ initialPageFlags

/-- The structures with every word cleared, for a new base and a new number of tables. -/
def cleared (before : PageTables) (base : PhysAddr) (count : Fin (maxPageTables + 1)) :
    PageTables where
  directory := before.directory.map fun _ => .empty
  tables := before.tables.map fun table => table.map fun _ => .empty
  tableCount := count
  base := base

/-- Clear every word, run both loops, and make page 0 not present. -/
def overwrite (before : PageTables) (base : PhysAddr) (count : Fin (maxPageTables + 1))
    (mapped : Nat) : Option PageTables := do
  let linked ← (List.range count).foldlM linkTable (before.cleared base count)
  let filled ← (List.range mapped).foldlM fillPage linked
  filled.changeWord? 0 0 (·.removeFlags .present)

theorem min_maxPageTables_lt (needed : Nat) : min needed maxPageTables < maxPageTables + 1 := by
  omega

/-- Build over what lies there. Where this has no result a step would have panicked. -/
def rebuild (before : PageTables) (base : PhysAddr) (processCount : Nat) :
    Option (PageTables × BuildSummary) := do
  guard base.isPageAligned
  let needed ← (pageTablesNeeded processCount).toOption
  let pages ← (identityMappedPages processCount).toOption
  let count : Fin (maxPageTables + 1) := ⟨min needed maxPageTables, min_maxPageTables_lt needed⟩
  let covered ← Word.mul? (UInt32.ofNat count.val) pagesPerTable
  let mapped := min pages covered
  let built ← before.overwrite base count mapped.toNat
  return (built, ⟨count, mapped⟩)

theorem tableFrame?_eq_some (base : PhysAddr) {index : Nat} (h : index < 1024) :
    tableFrame? base index = some (tableFrame base index) := by
  have hbase := base.number_frame
  have hlt := base.val.toNat_lt
  have hone : UInt32.toNat 1 = 1 := rfl
  have hindex : (UInt32.ofNat index).toNat = index :=
    UInt32.toNat_ofNat_of_lt' (by simp only [UInt32.size]; omega)
  have hfirst : Word.add? base.frame.number 1 = some (base.frame.number + 1) :=
    if_pos (by rw [hone]; simp only [UInt32.size]; omega)
  have hnumber : Word.add? (base.frame.number + 1) (UInt32.ofNat index) =
      some (base.frame.number + 1 + UInt32.ofNat index) := by
    apply if_pos
    rw [UInt32.toNat_add, hone, hindex]
    simp only [UInt32.size]
    omega
  simp only [tableFrame?, hfirst, hnumber, Option.bind_eq_bind, Option.bind_some]
  rfl

/-- The structures after the first rounds of the loop over the directory. -/
def linkedTo (s : PageTables) (n : Nat) : PageTables :=
  { s with directory := Vector.ofFn fun i =>
      if i.val < n then .new (tableFrame s.base i) initialDirectoryFlags else s.directory.get i }

/-- The structures after the first rounds of the loop over the pages. -/
def filledTo (s : PageTables) (n : Nat) : PageTables :=
  { s with tables := Vector.ofFn fun table => Vector.ofFn fun i =>
      if 1024 * table.val + i.val < n then
        .new ⟨UInt32.ofNat (1024 * table.val + i.val)⟩ initialPageFlags
      else
        s.entryAt table i }

theorem linkedTo_zero (s : PageTables) : s.linkedTo 0 = s := by
  have hdirectory : (Vector.ofFn s.directory.get) = s.directory := by
    ext i hi
    rw [Vector.getElem_ofFn]
    rfl
  simp only [linkedTo, Nat.not_lt_zero, if_false, hdirectory]

theorem linkTable_linkedTo (s : PageTables) {i : Nat} (hi : i < 1024) :
    linkTable (s.linkedTo i) i = some (s.linkedTo (i + 1)) := by
  simp only [linkTable, tableFrame?_eq_some _ hi, writeDirectory?, Option.bind_eq_bind,
    Option.bind_some, dif_pos hi, Option.some.injEq, linkedTo, PageTables.mk.injEq, and_true]
  apply Vector.ext
  intro j hj
  rw [Vector.getElem_set, Vector.getElem_ofFn, Vector.getElem_ofFn]
  by_cases hlast : i = j
  · subst hlast
    simp
  · have hsame : j < i + 1 ↔ j < i := by omega
    simp only [hlast, hsame, if_false]

/-- Structures are known by what lies at the places of their tables. -/
theorem eq_of_entryAt_eq {s s' : PageTables} (hskeleton : s'.SameSkeleton s)
    (h : ∀ table index, s'.entryAt table index = s.entryAt table index) : s' = s := by
  have htables : s'.tables = s.tables :=
    Vector.ext fun table htable => Vector.ext fun index hindex => h ⟨table, htable⟩ ⟨index, hindex⟩
  obtain ⟨hdirectory, hcount, hbase⟩ := hskeleton
  cases s
  cases s'
  simp only at htables hdirectory hcount hbase
  rw [htables, hdirectory, hcount, hbase]

theorem entryAt_setWord (s : PageTables) (table other : Fin maxPageTables) (index place : Fin 1024)
    (entry : TableEntry) : (s.setWord table index entry).entryAt other place =
      if table = other ∧ index = place then entry else s.entryAt other place := by
  change (s.tables.setIfInBounds table (s.tables[table].setIfInBounds index entry))[other][place] =
    if table = other ∧ index = place then entry else s.tables[other][place]
  by_cases htable : table = other
  · subst htable
    by_cases hindex : index = place
    · simp [hindex]
    · simp [hindex, Fin.val_ne_of_ne hindex]
  · simp [htable, Fin.val_ne_of_ne htable]

theorem entryAt_filledTo (s : PageTables) (n : Nat) (table : Fin maxPageTables) (index : Fin 1024) :
    (s.filledTo n).entryAt table index =
      if 1024 * table.val + index.val < n then
        .new ⟨UInt32.ofNat (1024 * table.val + index.val)⟩ initialPageFlags
      else
        s.entryAt table index := by
  change (s.filledTo n).tables[table][index] = _
  simp only [filledTo, Fin.getElem_fin, Vector.getElem_ofFn]

theorem filledTo_zero (s : PageTables) : s.filledTo 0 = s := by
  refine eq_of_entryAt_eq ⟨rfl, rfl, rfl⟩ fun table index => ?_
  rw [entryAt_filledTo, if_neg (Nat.not_lt_zero _)]

theorem fillPage_filledTo (s : PageTables) {i : Nat} (hi : i < 4096) :
    fillPage (s.filledTo i) i = some (s.filledTo (i + 1)) := by
  have hplace : i / 1024 < maxPageTables ∧ i % 1024 < 1024 := by
    simp only [maxPageTables]
    omega
  rw [fillPage, changeWord?, dif_pos hplace, Option.some.injEq]
  refine eq_of_entryAt_eq ⟨rfl, rfl, rfl⟩ fun table index => ?_
  rw [entryAt_setWord, entryAt_filledTo, entryAt_filledTo]
  have hindex := index.isLt
  by_cases hwritten : 1024 * table.val + index.val = i
  · have htable : (⟨i / 1024, hplace.1⟩ : Fin maxPageTables) = table :=
      Fin.ext (show i / 1024 = table.val by omega)
    have hindex : (⟨i % 1024, hplace.2⟩ : Fin 1024) = index :=
      Fin.ext (show i % 1024 = index.val by omega)
    rw [if_pos ⟨htable, hindex⟩, hwritten, if_pos (Nat.lt_succ_self i)]
  · have hother : ¬ ((⟨i / 1024, hplace.1⟩ : Fin maxPageTables) = table ∧
        (⟨i % 1024, hplace.2⟩ : Fin 1024) = index) := by
      rintro ⟨rfl, rfl⟩
      exact hwritten (Nat.div_add_mod i 1024)
    have hsame : 1024 * table.val + index.val < i + 1 ↔ 1024 * table.val + index.val < i := by
      omega
    rw [if_neg hother]
    simp only [hsame]

theorem foldlM_linkTable (s : PageTables) {n : Nat} (hn : n ≤ 1024) :
    (List.range n).foldlM linkTable s = some (s.linkedTo n) := by
  have hloop := foldlM_range_eq_some s.linkedTo fun i hi =>
    s.linkTable_linkedTo (Nat.lt_of_lt_of_le hi hn)
  rwa [linkedTo_zero] at hloop

theorem foldlM_fillPage (s : PageTables) {n : Nat} (hn : n ≤ 4096) :
    (List.range n).foldlM fillPage s = some (s.filledTo n) := by
  have hloop := foldlM_range_eq_some s.filledTo fun i hi =>
    s.fillPage_filledTo (Nat.lt_of_lt_of_le hi hn)
  rwa [filledTo_zero] at hloop

/-- The structures that a build leaves behind. -/
def initial (base : PhysAddr) (count : Fin (maxPageTables + 1)) (mapped : Nat) : PageTables where
  directory := initialDirectory base count
  tables := Vector.ofFn fun index => initialTable mapped index
  tableCount := count
  base := base

theorem entryAt_initial (base : PhysAddr) (count : Fin (maxPageTables + 1)) (mapped : Nat)
    (table : Fin maxPageTables) (index : Fin 1024) :
    (initial base count mapped).entryAt table index =
      if 1024 * table.val + index.val < mapped then
        initialEntry (1024 * table.val + index.val)
      else
        .empty := by
  change (initial base count mapped).tables[table][index] = _
  simp only [initial, initialTable, Fin.getElem_fin, Vector.getElem_ofFn]

/-- Whatever lies there, the loops come to that. -/
theorem overwrite_eq_some (before : PageTables) (base : PhysAddr)
    (count : Fin (maxPageTables + 1)) {mapped : Nat} (hmapped : mapped ≤ 4096) :
    before.overwrite base count mapped = some (initial base count mapped) := by
  have hcount : count.val < 5 := count.isLt
  have hplace : 0 < maxPageTables ∧ 0 < 1024 := by decide
  have hempty (i : Fin 1024) : (before.cleared base count).directory.get i = .empty := by
    change (before.directory.map fun _ => DirectoryEntry.empty)[i] = _
    rw [Fin.getElem_fin, Vector.getElem_map]
  have hdirectory : (((before.cleared base count).linkedTo count).filledTo mapped).directory =
      initialDirectory base count := by
    simp only [filledTo, linkedTo, hempty]
    rfl
  have hcleared (table index) : ((before.cleared base count).linkedTo count).entryAt table index =
      .empty := by
    change ((before.cleared base count).linkedTo count).tables[table][index] = _
    simp [linkedTo, cleared]
  rw [overwrite, foldlM_linkTable _ (by omega), Option.bind_eq_bind, Option.bind_some,
    foldlM_fillPage _ hmapped, Option.bind_some, changeWord?, dif_pos hplace, Option.some.injEq]
  refine eq_of_entryAt_eq ⟨hdirectory, rfl, rfl⟩ fun table index => ?_
  rw [entryAt_setWord, entryAt_initial, entryAt_filledTo, entryAt_filledTo, hcleared, hcleared]
  by_cases hzero : (⟨0, hplace.1⟩ : Fin maxPageTables) = table ∧ (⟨0, hplace.2⟩ : Fin 1024) = index
  · obtain ⟨rfl, rfl⟩ := hzero
    rw [if_pos ⟨rfl, rfl⟩]
    change TableEntry.removeFlags (ite (0 < mapped) _ _) .present =
      ite (0 < mapped) (initialEntry 0) _
    by_cases hmapped : 0 < mapped
    · rw [if_pos hmapped, if_pos hmapped]
      rfl
    · rw [if_neg hmapped, if_neg hmapped]
      rfl
  · have hpage : 1024 * table.val + index.val ≠ 0 := fun h =>
      hzero ⟨Fin.ext (show 0 = table.val by omega), Fin.ext (show 0 = index.val by omega)⟩
    rw [if_neg hzero, initialEntry, if_neg hpage]

/-- The last product is always a word, and no more is mapped than the tables hold. -/
theorem mul?_pagesPerTable (count : Fin (maxPageTables + 1)) :
    Word.mul? (UInt32.ofNat count.val) pagesPerTable =
        some (UInt32.ofNat count.val * pagesPerTable) ∧
      (UInt32.ofNat count.val * pagesPerTable).toNat = 1024 * count.val := by
  have hcount : count.val < 5 := count.isLt
  have hscale : UInt32.toNat pagesPerTable = 1024 := rfl
  have hword : (UInt32.ofNat count.val).toNat = count.val :=
    UInt32.toNat_ofNat_of_lt' (by simp only [UInt32.size]; omega)
  constructor
  · exact if_pos (by rw [hword, hscale]; simp only [UInt32.size]; omega)
  · rw [UInt32.toNat_mul, hword, hscale]
    omega

/-- Building over what lies there comes to the end of `build`, whatever lies there. -/
theorem rebuild_eq_toOption (before : PageTables) (base : PhysAddr) (processCount : Nat) :
    before.rebuild base processCount = (build base processCount).toOption := by
  unfold rebuild build
  cases haligned : base.isPageAligned with
  | false => rfl
  | true =>
      cases hneeded : pageTablesNeeded processCount with
      | error cause => rfl
      | ok needed =>
          cases hpages : identityMappedPages processCount with
          | error cause => rfl
          | ok pages =>
              let count : Fin (maxPageTables + 1) := ⟨min needed maxPageTables, by omega⟩
              have hcount : count.val ≤ 4 := Nat.min_le_right needed maxPageTables
              obtain ⟨hmul, hcovered⟩ := mul?_pagesPerTable count
              have hmapped : (min pages (UInt32.ofNat count.val * pagesPerTable)).toNat ≤ 4096 := by
                rw [UInt32.toNat_min]
                omega
              change (Word.mul? (UInt32.ofNat count.val) pagesPerTable >>= fun covered =>
                before.overwrite base count (min pages covered).toNat >>= fun built =>
                some (built, BuildSummary.mk count.val (min pages covered))) = _
              rw [hmul, Option.bind_eq_bind, Option.bind_some, overwrite_eq_some _ _ _ hmapped]
              rfl

/-! ### What is built -/

variable {base : PhysAddr}

theorem linked_initial (haligned : base.isPageAligned = true)
    (hroom : base.val.toNat / 4096 + 4 < 2 ^ 20) (count : Fin (maxPageTables + 1)) (mapped : Nat) :
    (initial base count mapped).Linked :=
  ⟨rfl, base.isPageAligned_iff.mp haligned, hroom⟩

theorem toNat_initialEntry {page : Nat} (h : page < 2 ^ 20) :
    (initialEntry page).raw.toNat = if page = 0 then 10 else 4096 * page + 11 := by
  have hbits : UInt32.toNat initialPageFlags.bits = 11 := rfl
  have hword : (UInt32.ofNat page).toNat = page :=
    UInt32.toNat_ofNat_of_lt' (by simp only [UInt32.size]; omega)
  by_cases hzero : page = 0
  · subst hzero
    decide
  · rw [initialEntry, if_neg hzero, if_neg hzero, TableEntry.toNat_new, hword, hbits]
    omega

section Initial

variable {count : Fin (maxPageTables + 1)} {mapped : Nat} (hfits : mapped ≤ 1024 * count.val)

include hfits

theorem resolve?_initial (addr : VirtAddr) :
    (initial base count mapped).resolve? addr =
      if 4096 ≤ addr.val.toNat ∧ addr.val.toNat < 4096 * mapped then some ⟨addr.val⟩ else none := by
  have hpage := addr.number_page
  have hlt := addr.number_page_lt
  have hnumber := addr.page.number_eq
  have hindex := addr.page.tableIndex.isLt
  by_cases hmapped : addr.page.number.toNat < mapped
  · have hentry : PageTables.entry? (initial base count mapped) addr.page =
        some (initialEntry addr.page.number.toNat) :=
      entry?_initial (Nat.lt_of_lt_of_le hmapped hfits) hmapped
    by_cases hzero : addr.page.number.toNat = 0
    · rw [hzero] at hentry
      rw [resolve?_of_absent hentry TableEntry.isPresent_initialEntry_zero, if_neg (by omega)]
    · rw [(showsItself_of_initial hzero hlt hentry).resolve?_eq, if_pos (by omega)]
  · rw [if_neg (by omega)]
    cases hentry : PageTables.entry? (initial base count mapped) addr.page with
    | none => rw [resolve?, hentry]; rfl
    | some entry =>
        obtain ⟨table, htable, rfl⟩ := Option.map_eq_some_iff.mp hentry
        have hdirectory := tableOf?_val htable
        have hempty : (initial base count mapped).entryAt table addr.page.tableIndex = .empty := by
          rw [entryAt_initial, if_neg (by omega)]
        rw [resolve?_of_absent hentry]
        change TableEntry.isPresent ((initial base count mapped).entryAt _ _) = false
        rw [hempty]
        decide

end Initial

theorem builtEntries_initial (base : PhysAddr) (count : Fin (maxPageTables + 1)) (mapped : Nat) :
    (initial base count mapped).builtEntries = (List.range (1024 * count.val)).map fun page =>
      if page < mapped then initialEntry page else .empty := by
  have hcount : min count.val maxPageTables = count.val := by
    have hlt := count.isLt
    omega
  have htables : (initial base count mapped).tables.toList =
      (List.range maxPageTables).map (initialTable mapped) := by
    apply List.ext_getElem
    · simp
    · intro i hi hi'
      simp [initial]
  have htable (row : Nat) : (initialTable mapped row).toList = (List.range 1024).map fun i =>
      if 1024 * row + i < mapped then initialEntry (1024 * row + i) else .empty := by
    apply List.ext_getElem
    · simp
    · intro i hi hi'
      simp [initialTable]
  rw [builtEntries, htables, ← List.map_take, List.take_range]
  change ((List.range (min count.val maxPageTables)).map _).flatMap _ = _
  rw [hcount, List.flatMap_map, ← flatMap_range_rows]
  simp only [htable]

theorem countP_range_between (low high n : Nat) :
    (List.range n).countP (fun i => decide (low ≤ i ∧ i < high)) = min high n - low := by
  induction n with
  | zero => simp
  | succ n ih =>
      rw [List.range_succ, List.countP_append, ih, List.countP_singleton]
      split
      all_goals simp_all
      all_goals omega

theorem presentPageCount_initial {count : Fin (maxPageTables + 1)} {mapped : Nat}
    (hfits : mapped ≤ 1024 * count.val) :
    (initial base count mapped).presentPageCount = mapped - 1 := by
  have hcount : count.val < 5 := count.isLt
  have hpresent : ∀ page ∈ List.range (1024 * count.val),
      (if page < mapped then initialEntry page else .empty : TableEntry).isPresent = true ↔
        decide (1 ≤ page ∧ page < mapped) = true := by
    intro page hpage
    have hword := @toNat_initialEntry page (by have := List.mem_range.mp hpage; omega)
    rw [decide_eq_true_iff, TableEntry.isPresent_iff]
    split
    · rw [hword]
      split <;> omega
    · have hempty : TableEntry.empty.raw.toNat = 0 := rfl
      rw [hempty]
      omega
  rw [presentPageCount, builtEntries_initial, List.countP_map]
  refine (List.countP_congr hpresent).trans ?_
  rw [countP_range_between]
  omega

/-- Structures that map their first pages one to one, page 0 apart, word by word. The attribute bits
of a word are those for a present, writable and write-through entry, `11`, or without the present
bit `10`. -/
structure OneToOne (base : PhysAddr) (tables mapped : Nat) (s : PageTables) : Prop where
  base_eq : s.base = base
  tableCount_eq : s.tableCount.val = tables
  directory : ∀ i : Fin 1024, s.directory[i].raw.toNat =
    if i.val < tables then 4096 * (base.val.toNat / 4096 + 1 + i.val) + 11 else 0
  words : ∀ table index, (s.entryAt table index).raw.toNat =
    if 1024 * table.val + index.val < mapped then
      if 1024 * table.val + index.val = 0 then 10 else 4096 * (1024 * table.val + index.val) + 11
    else
      0
  presentPageCount_eq : s.presentPageCount = mapped - 1
  resolve?_eq : ∀ addr, s.resolve? addr =
    if 4096 ≤ addr.val.toNat ∧ addr.val.toNat < 4096 * mapped then some ⟨addr.val⟩ else none

theorem oneToOne_initial (haligned : base.isPageAligned = true)
    (hroom : base.val.toNat / 4096 + 4 < 2 ^ 20) {count : Fin (maxPageTables + 1)} {mapped : Nat}
    (hfits : mapped ≤ 1024 * count.val) :
    (initial base count mapped).OneToOne base count mapped where
  base_eq := rfl
  tableCount_eq := rfl
  directory i := by
    have hlinked := linked_initial haligned hroom count mapped
    have hbase := base.isPageAligned_iff.mp haligned
    by_cases hi : i.val < count.val
    · rw [if_pos hi, hlinked.toNat_directory hi]
      change base.val.toNat + _ + 11 = _
      omega
    · rw [if_neg hi, hlinked.directory_eq_empty (Nat.le_of_not_lt hi)]
      rfl
  words table index := by
    have htable : table.val < 4 := table.isLt
    rw [entryAt_initial]
    by_cases hmapped : 1024 * table.val + index.val < mapped
    · rw [if_pos hmapped, if_pos hmapped, toNat_initialEntry (by omega)]
    · rw [if_neg hmapped, if_neg hmapped]
      rfl
  presentPageCount_eq := presentPageCount_initial hfits
  resolve?_eq := resolve?_initial hfits

/-- The build for any number of processes whose megabytes can be counted in pages. -/
theorem build_eq_initial (haligned : base.isPageAligned = true) {processCount : Nat}
    (hcount : processCount + 1 < 2 ^ 24) :
    ∃ (count : Fin (maxPageTables + 1)) (mapped : UInt32),
      build base processCount = .ok (initial base count mapped.toNat, ⟨count, mapped⟩) ∧
      mapped.toNat = min (256 * (processCount + 1)) 4096 ∧
      count.val = (mapped.toNat + 1023) / 1024 := by
  have hpages : (UInt32.ofNat (256 * (processCount + 1))).toNat = 256 * (processCount + 1) :=
    UInt32.toNat_ofNat_of_lt' (by simp only [UInt32.size]; omega)
  let count : Fin (maxPageTables + 1) :=
    ⟨min (max 1 ((256 * (processCount + 1) + 1023) / 1024)) maxPageTables, by omega⟩
  have htables : count.val = min (max 1 ((256 * (processCount + 1) + 1023) / 1024)) 4 := rfl
  have hcovered := (mul?_pagesPerTable count).2
  rw [build, if_pos haligned, pageTablesNeeded_eq hcount, identityMappedPages_eq hcount]
  refine ⟨count, min (UInt32.ofNat (256 * (processCount + 1)))
    (UInt32.ofNat count.val * pagesPerTable), rfl, ?_, ?_⟩
  all_goals
    rw [UInt32.toNat_min, hpages, hcovered, htables]
    omega

/-- Building depends on the base and the number of processes and on nothing else: over any
structures the loops end in the same ones. They map the boot MiB and one MiB for each process one to
one, as far as four tables reach. -/
theorem build_exact (haligned : base.isPageAligned = true)
    (hroom : base.val.toNat / 4096 + 4 < 2 ^ 20) {processCount : Nat}
    (hcount : processCount + 1 < 2 ^ 24) :
    ∃ (tables : Nat) (mapped : UInt32) (built : PageTables),
      mapped.toNat = min ((processCount + 1) * 256) 4096 ∧
      tables = (mapped.toNat + 1023) / 1024 ∧ 1 ≤ tables ∧
      build base processCount = .ok (built, ⟨tables, mapped⟩) ∧
      (∀ before : PageTables, before.rebuild base processCount = some (built, ⟨tables, mapped⟩)) ∧
      built.OneToOne base tables mapped.toNat := by
  obtain ⟨count, mapped, hbuild, hmapped, htables⟩ := build_eq_initial haligned hcount
  refine ⟨count, mapped, initial base count mapped.toNat, by omega, htables, by omega, hbuild, ?_,
    oneToOne_initial haligned hroom (by omega)⟩
  intro before
  rw [rebuild_eq_toOption, hbuild]
  rfl

/-- Over the tables for seven processes those for two come out as they always do, and so they do
over themselves. -/
theorem build_exact_two : ∃ larger built : PageTables,
    build ⟨0x90000⟩ 7 = .ok (larger, ⟨2, 2048⟩) ∧
    larger.rebuild ⟨0x90000⟩ 2 = some (built, ⟨1, 768⟩) ∧
    built.rebuild ⟨0x90000⟩ 2 = some (built, ⟨1, 768⟩) ∧
    (⟨0x90000⟩ : PhysAddr).isPageAligned = true ∧ built.OneToOne ⟨0x90000⟩ 1 768 := by
  obtain ⟨_, mapped, larger, hmapped, rfl, -, hlarger, -⟩ :=
    @build_exact ⟨0x90000⟩ rfl (by decide) 7 (by decide)
  obtain rfl : mapped = 2048 := UInt32.toNat_inj.mp hmapped
  obtain ⟨_, mapped, built, hmapped, rfl, -, -, hover, hexact⟩ :=
    @build_exact ⟨0x90000⟩ rfl (by decide) 2 (by decide)
  obtain rfl : mapped = 768 := UInt32.toNat_inj.mp hmapped
  exact ⟨larger, built, hlarger, hover larger, hover built, rfl, hexact⟩

end PageTables

end SlotKernel

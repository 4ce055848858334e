import SlotKernel.Paging.WindowMove
import SlotKernel.Proofs.Entries
import SlotKernel.Proofs.Geometry

/-!
Changes of page tables as lists of edits, one for each page. Moving the window, placing a viewport
and pointing it elsewhere all come down to such a list once their checks have passed, and the two
lemmas on `edit` say everything about the result: an edited page has the changed entry, and every
other page, the directory, the number of tables and the base are as they were.
-/

namespace SlotKernel

/-- A page and what becomes of its entry. -/
abbrev Edit := Page × (TableEntry → TableEntry)

namespace PageTables

theorem number_lt_of_entry? {s : PageTables} {page : Page} {entry : TableEntry}
    (h : s.entry? page = some entry) : page.number.toNat < 2 ^ 20 := by
  obtain ⟨table, htable, -⟩ := Option.map_eq_some_iff.mp h
  have hplace := tableOf?_val htable
  have hnumber := page.number_eq
  have htableIndex := page.tableIndex.isLt
  have hlt : table.val < 4 := table.isLt
  omega

/-- The structures after some edits. A page without an entry is left out. -/
def edit (s : PageTables) (edits : List Edit) : PageTables :=
  edits.foldl (fun s change => (s.modify? change.1 change.2).getD s) s

theorem edit_cons (s : PageTables) (change : Edit) (edits : List Edit) :
    s.edit (change :: edits) = ((s.modify? change.1 change.2).getD s).edit edits :=
  rfl

theorem edit_append (s : PageTables) (edits others : List Edit) :
    s.edit (edits ++ others) = PageTables.edit (s.edit edits) others :=
  List.foldl_append

theorem modify?_eq_none {s : PageTables} {page : Page} (h : s.entry? page = none)
    (change : TableEntry → TableEntry) : s.modify? page change = none := by
  rw [modify?, Option.map_eq_none_iff]
  exact Option.map_eq_none_iff.mp h

section Modify

variable (s : PageTables) (page : Page) (change : TableEntry → TableEntry)

theorem directory_modify : ((s.modify? page change).getD s).directory = s.directory := by
  cases h : s.tableOf? page <;> simp [modify?, h]

theorem tableCount_modify : ((s.modify? page change).getD s).tableCount = s.tableCount := by
  cases h : s.tableOf? page <;> simp [modify?, h]

theorem base_modify : ((s.modify? page change).getD s).base = s.base := by
  cases h : s.tableOf? page <;> simp [modify?, h]

theorem entry?_modify_self :
    PageTables.entry? ((s.modify? page change).getD s) page = (s.entry? page).map change := by
  cases h : s.modify? page change with
  | some s' => exact entry?_of_modify? h
  | none =>
      have hnone : s.tableOf? page = none := by simpa only [modify?, Option.map_eq_none_iff] using h
      simp [PageTables.entry?, hnone]

theorem entry?_modify_ne {other : Page} (hne : other ≠ page) :
    PageTables.entry? ((s.modify? page change).getD s) other = s.entry? other := by
  cases h : s.modify? page change with
  | some s' => exact entry?_of_modify?_ne h hne
  | none => rfl

end Modify

@[simp]
theorem directory_edit (s : PageTables) (edits : List Edit) :
    (s.edit edits).directory = s.directory := by
  induction edits generalizing s with
  | nil => rfl
  | cons change edits ih => rw [edit_cons, ih, directory_modify]

@[simp]
theorem tableCount_edit (s : PageTables) (edits : List Edit) :
    (s.edit edits).tableCount = s.tableCount := by
  induction edits generalizing s with
  | nil => rfl
  | cons change edits ih => rw [edit_cons, ih, tableCount_modify]

@[simp]
theorem base_edit (s : PageTables) (edits : List Edit) : (s.edit edits).base = s.base := by
  induction edits generalizing s with
  | nil => rfl
  | cons change edits ih => rw [edit_cons, ih, base_modify]

theorem tableOf?_edit (s : PageTables) (edits : List Edit) (page : Page) :
    PageTables.tableOf? (s.edit edits) page = s.tableOf? page := by
  simp only [tableOf?, directory_edit, tableCount_edit]

theorem entry?_edit_of_not_mem {s : PageTables} {edits : List Edit} {page : Page}
    (h : page ∉ edits.map (·.1)) : PageTables.entry? (s.edit edits) page = s.entry? page := by
  induction edits generalizing s with
  | nil => rfl
  | cons change edits ih =>
      simp only [List.map_cons, List.mem_cons, not_or] at h
      rw [edit_cons, ih h.2, entry?_modify_ne s change.1 change.2 h.1]

theorem entry?_edit_of_mem {s : PageTables} {edits : List Edit}
    (hnodup : (edits.map (·.1)).Nodup) {change : Edit} (hmem : change ∈ edits) :
    PageTables.entry? (s.edit edits) change.1 = (s.entry? change.1).map change.2 := by
  induction edits generalizing s with
  | nil => cases hmem
  | cons head edits ih =>
      rw [List.map_cons, List.nodup_cons] at hnodup
      rw [edit_cons]
      rcases List.mem_cons.mp hmem with rfl | htail
      · rw [entry?_edit_of_not_mem hnodup.1, entry?_modify_self]
      · have hne : change.1 ≠ head.1 := fun heq =>
          hnodup.1 (heq ▸ List.mem_map_of_mem htail)
        rw [ih hnodup.2 htail, entry?_modify_ne s head.1 head.2 hne]

/-! ### Places -/

/-- The page whose entry lies at a place of a table. -/
def pageAt (table : Fin maxPageTables) (index : Fin 1024) : Page :=
  ⟨UInt32.ofNat (1024 * table + index)⟩

/-- What lies there. -/
def entryAt (s : PageTables) (table : Fin maxPageTables) (index : Fin 1024) : TableEntry :=
  (s.tables.get table).get index

section Places

variable (table : Fin maxPageTables) (index : Fin 1024)

theorem number_pageAt : (pageAt table index).number.toNat = 1024 * table + index := by
  have htable : table.val < 4 := table.isLt
  exact UInt32.toNat_ofNat_of_lt' (by simp only [UInt32.size]; omega)

theorem index_pageAt :
    (pageAt table index).directoryIndex = table ∧ (pageAt table index).tableIndex = index := by
  have hnumber := (pageAt table index).number_eq
  have hindex := (pageAt table index).tableIndex.isLt
  rw [number_pageAt] at hnumber
  exact ⟨by omega, Fin.ext (by omega)⟩

variable {table index} {s : PageTables}

theorem tableOf?_pageAt {found : Fin maxPageTables}
    (h : s.tableOf? (pageAt table index) = some found) : found = table :=
  Fin.ext ((tableOf?_val h).trans (index_pageAt table index).1)

/-- What lies at a place is the entry of its page, if that page has one. -/
theorem entryAt_of_entry_eq {entry : TableEntry} (h : s.entry? (pageAt table index) = some entry) :
    s.entryAt table index = entry := by
  obtain ⟨found, htable, rfl⟩ := Option.map_eq_some_iff.mp h
  obtain rfl := tableOf?_pageAt htable
  change s.tables[found][index] = _
  simp only [(index_pageAt found index).2]

theorem entryAt_modify_ne {page : Page} (change : TableEntry → TableEntry)
    (hne : pageAt table index ≠ page) :
    entryAt ((s.modify? page change).getD s) table index = s.entryAt table index := by
  cases htable : s.tableOf? page with
  | none => simp only [modify?, htable, Option.map_none, Option.getD_none]
  | some found =>
      simp only [modify?, htable, Option.map_some, Option.getD_some]
      change (s.tables.set _ _)[table][index] = s.tables[table][index]
      by_cases hsame : found = table
      · subst hsame
        have hindex : page.tableIndex ≠ index := by
          rintro rfl
          apply hne
          apply Page.eq_of_number_eq
          rw [number_pageAt, page.number_eq, tableOf?_val htable]
        simp [Fin.val_ne_of_ne hindex]
      · simp [Fin.val_ne_of_ne hsame]

theorem entryAt_edit_of_not_mem {edits : List Edit} (h : pageAt table index ∉ edits.map (·.1)) :
    (s.edit edits).entryAt table index = s.entryAt table index := by
  induction edits generalizing s with
  | nil => rfl
  | cons change edits ih =>
      simp only [List.map_cons, List.mem_cons, not_or] at h
      rw [edit_cons, ih h.2, entryAt_modify_ne change.2 h.1]

/-- Edits do not reach what lies at a place whose page has no entry. -/
theorem entryAt_edit_of_none {edits : List Edit} (h : s.entry? (pageAt table index) = none) :
    (s.edit edits).entryAt table index = s.entryAt table index := by
  induction edits generalizing s with
  | nil => rfl
  | cons change edits ih =>
      rw [edit_cons]
      by_cases hpage : pageAt table index = change.1
      · rw [modify?_eq_none (hpage ▸ h), Option.getD_none, ih h]
      · have hnone := (entry?_modify_ne s change.1 change.2 hpage).trans h
        rw [ih hnone, entryAt_modify_ne change.2 hpage]

end Places

/-- Edited tables are known by the entries of their pages. -/
theorem edit_ext {s : PageTables} {edits others : List Edit}
    (h : ∀ page, PageTables.entry? (s.edit edits) page = PageTables.entry? (s.edit others) page) :
    s.edit edits = s.edit others := by
  have htables : (s.edit edits).tables = (s.edit others).tables := by
    refine Vector.ext fun table htable => Vector.ext fun index hindex => ?_
    have hplace := h (pageAt ⟨table, htable⟩ ⟨index, hindex⟩)
    cases hentry : PageTables.entry? (s.edit edits) (pageAt ⟨table, htable⟩ ⟨index, hindex⟩) with
    | some entry =>
        exact (entryAt_of_entry_eq hentry).trans (entryAt_of_entry_eq (hplace ▸ hentry)).symm
    | none =>
        have hnone : s.entry? (pageAt ⟨table, htable⟩ ⟨index, hindex⟩) = none := by
          rw [PageTables.entry?, Option.map_eq_none_iff] at hentry ⊢
          rwa [← tableOf?_edit]
        exact (entryAt_edit_of_none hnone).trans (entryAt_edit_of_none hnone).symm
  have hdirectory := (directory_edit s edits).trans (directory_edit s others).symm
  have hcount := (tableCount_edit s edits).trans (tableCount_edit s others).symm
  have hbase := (base_edit s edits).trans (base_edit s others).symm
  cases hs : s.edit edits
  cases hs' : s.edit others
  simp only [hs, hs'] at htables hdirectory hcount hbase
  rw [htables, hdirectory, hcount, hbase]

/-- Edits of different pages may be made in either order. -/
theorem edit_comm {edits others : List Edit} (hedits : (edits.map (·.1)).Nodup)
    (hothers : (others.map (·.1)).Nodup)
    (hdisjoint : ∀ page ∈ edits.map (·.1), page ∉ others.map (·.1)) (s : PageTables) :
    PageTables.edit (s.edit edits) others = PageTables.edit (s.edit others) edits := by
  rw [← edit_append, ← edit_append]
  apply edit_ext
  intro page
  rw [edit_append, edit_append]
  by_cases hpage : page ∈ edits.map (·.1)
  · have hother := hdisjoint page hpage
    obtain ⟨change, hchange, rfl⟩ := List.mem_map.mp hpage
    rw [entry?_edit_of_not_mem hother, entry?_edit_of_mem hedits hchange,
      entry?_edit_of_mem hedits hchange, entry?_edit_of_not_mem hother]
  · rw [entry?_edit_of_not_mem (s := s.edit others) hpage]
    by_cases hother : page ∈ others.map (·.1)
    · obtain ⟨change, hchange, rfl⟩ := List.mem_map.mp hother
      rw [entry?_edit_of_mem hothers hchange, entry?_edit_of_mem hothers hchange,
        entry?_edit_of_not_mem hpage]
    · rw [entry?_edit_of_not_mem hother, entry?_edit_of_not_mem hother,
        entry?_edit_of_not_mem hpage]

/-! ### Loops -/

/-- A loop over different pages whose steps each change one entry, as long as that entry is ready
for it, is a list of edits: a step does not spoil the entries of the later ones. -/
theorem foldlM_eq_edit {ε α : Type} {step : PageTables → α → Except ε PageTables}
    (change : α → Edit) (ready : α → TableEntry → Prop)
    (hstep : ∀ s item entry, s.entry? (change item).1 = some entry → ready item entry →
      step s item = .ok ((s.modify? (change item).1 (change item).2).getD s))
    {items : List α} (hnodup : (items.map fun item => (change item).1).Nodup) {s : PageTables}
    (hready : ∀ item ∈ items, ∃ entry, s.entry? (change item).1 = some entry ∧ ready item entry) :
    items.foldlM step s = .ok (s.edit (items.map change)) := by
  induction items generalizing s with
  | nil => rfl
  | cons item items ih =>
      rw [List.map_cons, List.nodup_cons] at hnodup
      obtain ⟨entry, hentry, hitem⟩ := hready item List.mem_cons_self
      rw [List.foldlM_cons, hstep s item entry hentry hitem, List.map_cons, edit_cons]
      apply ih hnodup.2
      intro other hmem
      have hne : (change other).1 ≠ (change item).1 := fun heq =>
        hnodup.1 (heq ▸ List.mem_map_of_mem hmem)
      rw [entry?_modify_ne s _ _ hne]
      exact hready other (List.mem_cons_of_mem item hmem)

end PageTables

theorem exists_of_bind_eq_ok {ε α β : Type} {x : Except ε α} {next : α → Except ε β} {b : β}
    (h : x >>= next = .ok b) : ∃ a, x = .ok a ∧ next a = .ok b := by
  cases x with
  | error failure => cases h
  | ok a => exact ⟨a, rfl, h⟩

theorem eq_ok_of_toOption {ε α : Type} {x : Except ε α} {a : α} (h : x.toOption = some a) :
    x = .ok a := by
  cases x with
  | error failure => cases h
  | ok b =>
      cases h
      rfl

theorem forM_eq_ok_iff {ε α : Type} {check : α → Except ε Unit} {items : List α} :
    items.forM check = .ok () ↔ ∀ item ∈ items, check item = .ok () := by
  induction items with
  | nil =>
      constructor
      · intro _ _ hmem
        cases hmem
      · intro _
        rfl
  | cons item items ih =>
      rw [List.forall_mem_cons, ← ih]
      change (check item >>= fun _ => items.forM check) = _ ↔ _
      cases hitem : check item with
      | error failure =>
          constructor
          · intro h
            cases h
          · rintro ⟨h, _⟩
            cases h
      | ok _ => exact ⟨fun h => ⟨rfl, h⟩, fun h => h.2⟩

/-- A loop that fails does so in the first item that fails, with the error of that item. -/
theorem forM_eq_error_iff {ε α : Type} {check : α → Except ε Unit} {items : List α} {error : ε} :
    items.forM check = .error error ↔ ∃ before item after, items = before ++ item :: after ∧
      (∀ earlier ∈ before, check earlier = .ok ()) ∧ check item = .error error := by
  induction items with
  | nil =>
      constructor
      · intro h
        cases h
      · rintro ⟨before, item, after, hitems, -⟩
        exact absurd hitems.symm (by simp)
  | cons head items ih =>
      change (check head >>= fun _ => items.forM check) = _ ↔ _
      cases hhead : check head with
      | error failure =>
          constructor
          · intro h
            cases h
            exact ⟨[], head, items, rfl, List.forall_mem_nil _, hhead⟩
          · rintro ⟨before, item, after, hitems, hbefore, hitem⟩
            cases before with
            | nil =>
                cases hitems
                exact hhead.symm.trans hitem
            | cons first before =>
                cases hitems
                cases hhead.symm.trans (hbefore head List.mem_cons_self)
      | ok _ =>
          change items.forM check = _ ↔ _
          rw [ih]
          constructor
          · rintro ⟨before, item, after, rfl, hbefore, hitem⟩
            exact ⟨head :: before, item, after, rfl, List.forall_mem_cons.mpr ⟨hhead, hbefore⟩,
              hitem⟩
          · rintro ⟨before, item, after, hitems, hbefore, hitem⟩
            cases before with
            | nil =>
                cases hitems
                cases hhead.symm.trans hitem
            | cons first before =>
                cases hitems
                exact ⟨before, item, after, rfl, (List.forall_mem_cons.mp hbefore).2, hitem⟩

/-- A loop that maps a list, and whose steps can only give one value each, gives these values. -/
theorem mapM_eq_ok {ε α β : Type} {step : α → Except ε β} {value : α → β}
    (hvalue : ∀ item found, step item = .ok found → found = value item) {items : List α}
    {founds : List β} (h : items.mapM step = .ok founds) :
    founds = items.map value ∧ ∀ item ∈ items, step item = .ok (value item) := by
  induction items generalizing founds with
  | nil =>
      cases h
      exact ⟨rfl, fun _ hmem => by cases hmem⟩
  | cons item items ih =>
      rw [List.mapM_cons] at h
      obtain ⟨found, hitem, h⟩ := exists_of_bind_eq_ok h
      obtain ⟨rest, hrest, h⟩ := exists_of_bind_eq_ok h
      cases h
      obtain ⟨hfounds, hsteps⟩ := ih hrest
      have hfound := hvalue item found hitem
      subst hfounds hfound
      exact ⟨rfl, List.forall_mem_cons.mpr ⟨hitem, hsteps⟩⟩

/-- A loop that maps a list ends well if every step does. -/
theorem exists_mapM_eq_ok {ε α β : Type} {step : α → Except ε β} {items : List α}
    (h : ∀ item ∈ items, ∃ b, step item = .ok b) : ∃ bs, items.mapM step = .ok bs := by
  induction items with
  | nil => exact ⟨[], rfl⟩
  | cons item items ih =>
      obtain ⟨⟨b, hitem⟩, hitems⟩ := List.forall_mem_cons.mp h
      obtain ⟨bs, hrest⟩ := ih hitems
      refine ⟨b :: bs, ?_⟩
      rw [List.mapM_cons, hitem]
      change (items.mapM step >>= fun bs => .ok (b :: bs)) = _
      rw [hrest]
      rfl

/-- It ends with an error if some step does and no step has another error. -/
theorem mapM_eq_error {ε α β : Type} {step : α → Except ε β} {items : List α} {error : ε}
    (h : ∀ item ∈ items, (∃ b, step item = .ok b) ∨ step item = .error error)
    (hsome : ∃ item ∈ items, step item = .error error) : items.mapM step = .error error := by
  induction items with
  | nil =>
      obtain ⟨_, hmem, -⟩ := hsome
      cases hmem
  | cons item items ih =>
      obtain ⟨hitem, hitems⟩ := List.forall_mem_cons.mp h
      rw [List.mapM_cons]
      rcases hitem with ⟨b, hitem⟩ | hitem
      · have hrest : ∃ item ∈ items, step item = .error error := by
          obtain ⟨other, hmem, hother⟩ := hsome
          rcases List.mem_cons.mp hmem with rfl | htail
          · cases hitem.symm.trans hother
          · exact ⟨other, htail, hother⟩
        rw [hitem]
        change (items.mapM step >>= fun bs => .ok (b :: bs)) = _
        rw [ih hitems hrest]
        rfl
      · rw [hitem]
        rfl

end SlotKernel

import SlotKernel.Proofs.Moves

/-!
The calls that change the structures. One that does not replace them as a whole comes down to edits,
one for each page that it works on, and an edit of page 0 leaves the present flag of its entry as it
was: mapping refuses the page, a viewport does not reach it, a moved window keeps the attributes of
its entries, and a page that is no longer cached is not present for that.
-/

namespace SlotKernel

/-- The edits leave it to page 0 whether it is present. -/
def NullSafe (edits : List Edit) : Prop :=
  ∀ change ∈ edits, change.1.number = 0 → ∀ entry, (change.2 entry).isPresent = entry.isPresent

theorem nullSafe_of_ne {edits : List Edit} (h : ∀ change ∈ edits, change.1.number ≠ 0) :
    NullSafe edits :=
  fun change hmem hnull => absurd hnull (h change hmem)

theorem nullSafe_map {α : Type} {items : List α} {page : α → Page}
    {change : α → TableEntry → TableEntry}
    (h : ∀ item ∈ items, ∀ entry, (change item entry).isPresent = entry.isPresent) :
    NullSafe (items.map fun item => (page item, change item)) := by
  intro edit hmem _ entry
  obtain ⟨item, hitem, rfl⟩ := List.mem_map.mp hmem
  exact h item hitem entry

/-! ### Changes as edits -/

/-- The page that an action changes. -/
def PageAction.page : PageAction → Page
  | .map page _ _ => page
  | .disableCache page => page

namespace PageTables

variable {s s' : PageTables}

theorem eq_edit_of_elim {page : Page} {change : TableEntry → TableEntry}
    (h : (s.modify? page change).elim (.error (MappingError.notMapped page)) Except.ok = .ok s') :
    s' = s.edit [(page, change)] := by
  show s' = (s.modify? page change).getD s
  cases hfound : s.modify? page change with
  | none =>
      rw [hfound] at h
      cases h
  | some next =>
      rw [hfound] at h
      cases h
      rfl

theorem apply_eq_edit {action : PageAction} (h : s.apply action = .ok s') :
    ∃ edits, s' = s.edit edits ∧ edits.map (·.1) = [action.page] ∧ NullSafe edits := by
  cases action with
  | map page frame flags =>
      rw [PageTables.apply] at h
      split at h
      · cases h
      · next hnull =>
        refine ⟨_, eq_edit_of_elim h, rfl, nullSafe_of_ne fun change hmem => ?_⟩
        rw [List.mem_singleton.mp hmem]
        simpa using hnull
  | disableCache page =>
      refine ⟨_, eq_edit_of_elim h, rfl, ?_⟩
      intro change hmem _ entry
      rw [List.mem_singleton.mp hmem]
      exact entry.isPresent_insertFlags_cacheDisable

theorem number_ne_zero_of_mapPhysicalPage {virt : VirtAddr} {phys : PhysAddr}
    (h : s.mapPhysicalPage virt phys = .ok s') : virt.page.number ≠ 0 := by
  intro hnull
  rw [mapPhysicalPage_eq_apply, PageTables.apply, if_pos (by rw [hnull]; rfl)] at h
  cases h

theorem mapPhysicalPage_eq_edit {virt : VirtAddr} {phys : PhysAddr}
    (h : s.mapPhysicalPage virt phys = .ok s') :
    ∃ edits, s' = s.edit edits ∧ edits.map (·.1) = [virt.page] ∧ NullSafe edits := by
  rw [mapPhysicalPage_eq_apply] at h
  exact apply_eq_edit h

end PageTables

/-- Each item of a loop that ends well had a step that ended well. -/
theorem exists_of_foldlM_eq_ok {ε α β : Type} {step : β → α → Except ε β} {items : List α}
    {b b' : β} (h : items.foldlM step b = .ok b') {item : α} (hmem : item ∈ items) :
    ∃ t t', step t item = .ok t' := by
  induction items generalizing b with
  | nil => cases hmem
  | cons head items ih =>
      rw [List.foldlM_cons] at h
      obtain ⟨next, hhead, hrest⟩ := exists_of_bind_eq_ok h
      rcases List.mem_cons.mp hmem with rfl | htail
      · exact ⟨b, next, hhead⟩
      · exact ih hrest htail

/-- No viewport that reaches page 0 is pointed anywhere, whether or not it was placed. -/
theorem Viewport.number_ne_zero_of_map {s : PageTables} {view : Viewport} {phys : PhysAddr}
    {result : PageTables × PageRange} (h : view.map s phys = .ok result) {page : Page}
    (hpage : page ∈ view.pages) : page.number ≠ 0 := by
  obtain ⟨targets, htargets, h⟩ := exists_of_bind_eq_ok h
  obtain ⟨mapped, hmapped, -⟩ := exists_of_bind_eq_ok h
  obtain ⟨rfl, hsome⟩ := targets_eq_ok htargets
  obtain ⟨item, hitem, rfl⟩ := exists_item hpage
  obtain ⟨entry, hentry⟩ := Option.isSome_iff_exists.mp (hsome item hitem).1
  obtain ⟨t, t', hstep⟩ := exists_of_foldlM_eq_ok hmapped (List.mem_map_of_mem hitem)
  have hmapped := PageTables.number_ne_zero_of_mapPhysicalPage hstep
  rwa [Page.page_start (PageTables.number_lt_of_entry? hentry)] at hmapped

theorem Viewport.eq_edit_of_place {s : PageTables} {base : VirtAddr} {window : Window}
    {result : Viewport × PageTables} (h : Viewport.place s base window = .ok result) :
    result = (⟨base⟩, s.edit (Viewport.mk base).placeEdits) := by
  rcases Viewport.place_cases s base window with ⟨error, herror⟩ | ⟨-, hplace⟩
  · cases h.symm.trans herror
  · exact Except.ok.inj (h.symm.trans hplace)

theorem Viewport.eq_edit_of_map {view : Viewport} {s : PageTables} {phys : PhysAddr}
    {result : PageTables × PageRange} (h : view.map s phys = .ok result) :
    result = (s.edit (view.mapEdits phys), view.range) := by
  rcases view.map_cases s phys fun _ hpage => Viewport.number_ne_zero_of_map h hpage with
    ⟨error, herror⟩ | hmap
  · cases h.symm.trans herror
  · exact Except.ok.inj (h.symm.trans hmap)

theorem WindowMove.eq_edit_of_apply {move : WindowMove} {s : PageTables}
    {result : PageTables × PageRange} (h : move.apply s = .ok result) :
    result = (s.edit (move.window.pages.map fun page =>
      (page, (·.setFrame (move.movedFrame s page)))), move.window.range) := by
  obtain ⟨_, hchecks, -⟩ := exists_of_bind_eq_ok h
  exact Except.ok.inj (h.symm.trans (WindowMove.apply_eq_edit (forM_eq_ok_iff.mp hchecks)))

/-! ### Calls -/

/-- A call that changes the structures, or replaces them. -/
inductive TableCall where
  | reset
  | build (base : PhysAddr) (processCount : Nat)
  | apply (action : PageAction)
  | mapPhysicalPage (virt : VirtAddr) (phys : PhysAddr)
  | disableCacheForPage (virt : VirtAddr)
  | placeViewport (base : VirtAddr) (window : Window)
  | mapViewport (view : Viewport) (phys : PhysAddr)
  | moveWindow (move : WindowMove)

namespace TableCall

/-- The structures that a call leaves if it is not refused. -/
def changed? (s : PageTables) : TableCall → Option PageTables
  | .reset => some .empty
  | .build base processCount => (PageTables.build base processCount).toOption.map (·.1)
  | .apply action => (s.apply action).toOption
  | .mapPhysicalPage virt phys => (s.mapPhysicalPage virt phys).toOption
  | .disableCacheForPage virt => (s.disableCacheForPage virt).toOption
  | .placeViewport base window => (Viewport.place s base window).toOption.map (·.2)
  | .mapViewport view phys => (view.map s phys).toOption.map (·.1)
  | .moveWindow move => (move.apply s).toOption.map (·.1)

/-- The structures after a call. A refused one leaves them as they were. -/
def perform (s : PageTables) (call : TableCall) : PageTables :=
  (call.changed? s).getD s

/-- A build has to be given an aligned address with room for four tables behind it, and a number of
processes whose pages can be counted in 32 bits. -/
def Admissible : TableCall → Prop
  | .build base processCount =>
      base.isPageAligned = true ∧ base.val.toNat / 4096 + 4 < 2 ^ 20 ∧
        ∃ pages, identityMappedPages processCount = .ok pages
  | _ => True

/-- The pages that a call works on. A reset and a build replace the structures as a whole. -/
def pages : TableCall → List Page
  | .reset => []
  | .build _ _ => []
  | .apply action => [action.page]
  | .mapPhysicalPage virt _ => [virt.page]
  | .disableCacheForPage virt => [virt.page]
  | .placeViewport base _ => (Viewport.mk base).pages
  | .mapViewport view _ => view.pages
  | .moveWindow move => move.window.pages

def replaces : TableCall → Bool
  | .reset => true
  | .build _ _ => true
  | _ => false

/-- A call that does not replace the structures edits the pages it works on, and it leaves it to
page 0 whether it is present. -/
theorem changed?_eq_edit {s s' : PageTables} {call : TableCall} (hkeeps : call.replaces = false)
    (h : call.changed? s = some s') :
    ∃ edits, s' = s.edit edits ∧ edits.map (·.1) = call.pages ∧ NullSafe edits := by
  cases call with
  | reset => cases hkeeps
  | build base processCount => cases hkeeps
  | apply action => exact PageTables.apply_eq_edit (eq_ok_of_toOption h)
  | mapPhysicalPage virt phys => exact PageTables.mapPhysicalPage_eq_edit (eq_ok_of_toOption h)
  | disableCacheForPage virt => exact PageTables.apply_eq_edit (eq_ok_of_toOption h)
  | placeViewport base window =>
      obtain ⟨result, hplace, rfl⟩ := Option.map_eq_some_iff.mp h
      rw [Viewport.eq_edit_of_place (eq_ok_of_toOption hplace)]
      refine ⟨_, rfl, Viewport.pages_placeEdits _, ?_⟩
      exact nullSafe_map fun _ _ entry => entry.isPresent_insertFlags_cacheDisable
  | mapViewport view phys =>
      obtain ⟨result, hmap, rfl⟩ := Option.map_eq_some_iff.mp h
      have hmapped := eq_ok_of_toOption hmap
      rw [Viewport.eq_edit_of_map hmapped]
      refine ⟨_, rfl, view.pages_mapEdits phys, nullSafe_of_ne fun change hmem => ?_⟩
      apply Viewport.number_ne_zero_of_map hmapped
      rw [← view.pages_mapEdits phys]
      exact List.mem_map_of_mem hmem
  | moveWindow move =>
      obtain ⟨result, hmove, rfl⟩ := Option.map_eq_some_iff.mp h
      rw [WindowMove.eq_edit_of_apply (eq_ok_of_toOption hmove)]
      refine ⟨_, rfl, ?_, nullSafe_map fun _ _ entry => entry.isPresent_setFrame _⟩
      rw [List.map_map]
      exact List.map_id _

/-- A call that is not refused empties the structures, builds them anew or edits them. -/
theorem changed?_cases {s s' : PageTables} {call : TableCall} (h : call.changed? s = some s') :
    (call = .reset ∧ s' = .empty) ∨
    (∃ base processCount summary, call = .build base processCount ∧
      PageTables.build base processCount = .ok (s', summary)) ∨
    ∃ edits, s' = s.edit edits ∧ edits.map (·.1) = call.pages ∧ NullSafe edits := by
  cases hkeeps : call.replaces with
  | false => exact Or.inr (Or.inr (changed?_eq_edit hkeeps h))
  | true =>
      cases call with
      | reset =>
          cases h
          exact Or.inl ⟨rfl, rfl⟩
      | build base processCount =>
          obtain ⟨⟨built, summary⟩, hbuild, rfl⟩ := Option.map_eq_some_iff.mp h
          exact Or.inr (Or.inl ⟨base, processCount, summary, rfl, eq_ok_of_toOption hbuild⟩)
      | _ => cases hkeeps

/-- What holds of the structures holds after a call, if it holds of empty ones and of those that the
call builds, and if edits of them keep it. -/
theorem perform_keeps {holds : PageTables → Prop} {s : PageTables} (h : holds s) {call : TableCall}
    (hempty : holds .empty)
    (hbuild : ∀ base processCount built summary, call = .build base processCount →
      PageTables.build base processCount = .ok (built, summary) → holds built)
    (hedit : ∀ edits, NullSafe edits → holds (s.edit edits)) : holds (call.perform s) := by
  unfold perform
  cases hchanged : call.changed? s with
  | none => exact h
  | some s' =>
      obtain ⟨-, rfl⟩ | ⟨base, processCount, summary, hcall, hbuilt⟩ | ⟨edits, rfl, -, hsafe⟩ :=
        changed?_cases hchanged
      · exact hempty
      · exact hbuild base processCount s' summary hcall hbuilt
      · exact hedit edits hsafe

end TableCall

namespace PageTables

/-- The structures that new ones become by some calls. -/
def afterCalls (calls : List TableCall) : PageTables :=
  calls.foldl TableCall.perform .empty

end PageTables

end SlotKernel

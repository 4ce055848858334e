import SlotKernel.Proofs.Copies

/-!
Booting up to the replication. From a kernel with nothing but its configuration, a boot builds the
tables, turns paging on and offers a viewport; `Kernel.Prepared` is what that leaves for the
replication, which decides how the boot ends. A prepared kernel is up.
-/

namespace SlotKernel

namespace Kernel

/-- A placement of the viewport is refused or done. -/
def Places (k : Kernel) (base : VirtAddr) (k' : Kernel) : Prop :=
  k' = k ∨ (∀ page ∈ (Viewport.mk base).pages,
    Viewport.checkPage k.paging k.config.window page = .ok ()) ∧ k' = k.withViewport ⟨base⟩

/-- The kernel of a boot just before the replication. -/
structure Prepared (config : Config) (built : PageTables) (k : Kernel) : Prop where
  up : k.Up
  viewUncached : k.ViewUncached
  config_eq : k.config = config
  replicated_eq : k.replicated = false
  contexts_eq : ∀ p, k.context p = .empty
  structure_eq : k.paging.directory = built.directory ∧ k.paging.tableCount = built.tableCount ∧
    k.paging.base = built.base
  /-- Only the pages of the viewport have changed since the build. -/
  entry?_eq : ∀ page, page ∉ config.window.pages →
    (∀ view, k.viewport = some view → page ∉ view.pages) →
    k.paging.entry? page = built.entry? page
  /-- The boot MiB and the slots are mapped one to one. -/
  identity : ∀ page : Page, page.number.toNat ≠ 0 →
    page.number.toNat < 256 * (config.processCount + 1) → k.paging.ShowsItself page

variable {config : Config} {built : PageTables} {summary : BuildSummary} {k k' : Kernel}

theorem Places.step {base : VirtAddr} (h : k.Places base k') : Step k k' := by
  rcases h with rfl | ⟨hchecks, rfl⟩
  · exact .idle k'
  · exact .placed k ⟨base⟩ hchecks

theorem prepared_withPagingOn
    (hbuilt : ∀ page : Page, page.number.toNat < 256 * (config.processCount + 1) →
      built.entry? page = some (PageTables.initialEntry page.number.toNat)) :
    Prepared config built ((withTables { config := config } built summary).withPagingOn) where
  up := by
    have hone := config.one_le_processCount
    refine ⟨hone, fun _ => rfl, rfl, rfl, ?_, ?_, ?_⟩
    · intro page hpage
      have hrange := config.mem_pages.mp hpage
      have hfirst := config.firstPage_bounds
      have hentry := hbuilt page (by omega)
      rw [PageTables.initialEntry_of_ne_zero (by omega)] at hentry
      change built.entry? page = some (.new (slotFrame 0 page) _)
      rw [hentry, slotFrame_zero]
    · intro view hview
      cases hview
    · intro hreplicated
      cases hreplicated
  viewUncached := fun _ hview => nomatch hview
  config_eq := rfl
  replicated_eq := rfl
  contexts_eq := by
    intro p
    change (Vector.replicate maxProcesses Context.empty)[p]?.getD .empty = _
    rw [Vector.getElem?_replicate]
    split <;> rfl
  structure_eq := ⟨rfl, rfl, rfl⟩
  entry?_eq := fun _ _ _ => rfl
  identity := by
    intro page hzero hpage
    have hcount : config.processCount ≤ 8 := config.processCount_le
    exact PageTables.showsItself_of_initial hzero (by omega) (hbuilt page hpage)

/-- The pages of a viewport that is placed show the frames that they showed before. -/
theorem showsItself_withViewport {base : VirtAddr} {page : Page}
    (h : k.paging.ShowsItself page) : (k.withViewport ⟨base⟩).paging.ShowsItself page := by
  change PageTables.ShowsItself (k.paging.edit (Viewport.mk base).placeEdits) page
  obtain ⟨entry, hentry, hpresent, hframe⟩ := h
  by_cases hview : page ∈ (Viewport.mk base).pages
  · refine ⟨entry.insertFlags .cacheDisable, ?_, TableEntry.isPresent_insertFlags hpresent _, ?_⟩
    · rw [Viewport.entry?_edit_placeEdits hview, hentry, Option.map_some]
    · rw [TableEntry.frame_insertFlags, hframe]
  · refine ⟨entry, ?_, hpresent, hframe⟩
    rw [PageTables.entry?_edit_of_not_mem (by rwa [Viewport.pages_placeEdits]), hentry]

/-- A viewport that is placed over a fresh kernel leaves it prepared. -/
theorem Prepared.places {base : VirtAddr} (h : Prepared config built k) (hfresh : k.viewport = none)
    (hplaces : k.Places base k') : Prepared config built k' := by
  have hstep := hplaces.step
  obtain ⟨hdirectory, hcount, hbase⟩ := hstep.structure_eq
  have hkept : k'.replicated = k.replicated ∧ k'.contexts = k.contexts := by
    rcases hplaces with rfl | ⟨-, rfl⟩ <;> exact ⟨rfl, rfl⟩
  refine ⟨h.up.step hstep, h.viewUncached.step h.up hstep, hstep.config_eq.trans h.config_eq,
    hkept.1.trans h.replicated_eq, ?_, ?_, ?_, ?_⟩
  · intro p
    rw [context, hkept.2]
    exact h.contexts_eq p
  · rw [hdirectory, hcount, hbase]
    exact h.structure_eq
  · intro page hwindow hview
    rw [hstep.entry?_eq (by rwa [h.config_eq]) hview]
    apply h.entry?_eq page hwindow
    intro view hsome
    cases hfresh.symm.trans hsome
  · intro page hzero hpage
    have hshows := h.identity page hzero hpage
    rcases hplaces with rfl | ⟨-, rfl⟩
    · exact hshows
    · exact showsItself_withViewport hshows

theorem Prepared.withHook (h : Prepared config built k) (hook : Option RefreshHook) :
    Prepared config built { k with refreshHook := hook } :=
  { h with up := { h.up with } }

end Kernel

namespace KernelM

variable {μ : Type} [Machine μ] {m m₁ : μ}

/-- A machine that turns paging on and lets viewports be placed comes to the replication with a
prepared kernel. -/
theorem returns_prepare_prepared (config : Config) {base : PhysAddr}
    (hbase : base.isPageAligned = true) {kept : μ → μ → Prop}
    (hactivate : Machine.activatePaging base m = .ok () m₁) (hkept : kept m₁ m₁)
    (hplace : ∀ addr (k : Kernel), k.Up → ∃ answer k' m',
      Returns (placeViewport addr) k m₁ answer k' m' ∧
      k.Places addr k' ∧ kept m₁ m')
    (viewport : Option VirtAddr) :
    ∃ built summary k m₂, PageTables.build base config.processCount = .ok (built, summary) ∧
      built.base = base ∧ Kernel.Prepared config built k ∧ k.refreshHook = some .redraw ∧
      kept m₁ m₂ ∧ Returns (prepare base viewport) { config := config } m () k m₂ := by
  obtain ⟨built, summary, hbuild, hdirectory, hentries⟩ := PageTables.build_eq_ok config hbase
  have hprepared := @Kernel.prepared_withPagingOn config built summary hentries
  have hpaging : Returns enablePaging (Kernel.withTables { config := config } built summary) m ()
      ((Kernel.withTables { config := config } built summary).withPagingOn) m₁ := by
    apply returns_enablePaging rfl rfl
    change Machine.activatePaging built.base m = _
    rw [hdirectory]
    exact hactivate
  cases viewport with
  | none =>
      exact ⟨built, summary, _, m₁, hbuild, hdirectory, hprepared.withHook (some .redraw), rfl,
        hkept, returns_prepare hbuild hpaging (returns_pure _)⟩
  | some addr =>
      obtain ⟨answer, k, m₂, hreturns, hplaces, hkept₂⟩ := hplace addr _ hprepared.up
      exact ⟨built, summary, _, m₂, hbuild, hdirectory,
        (hprepared.places rfl hplaces).withHook (some .redraw), rfl, hkept₂,
        returns_prepare hbuild hpaging (returns_offerViewport hreturns)⟩

/-- So its boot ends as the replication does from a prepared kernel. -/
theorem ends_boot_prepared {config : Config} {base : PhysAddr} (hbase : base.isPageAligned = true)
    {kept : μ → μ → Prop} (hactivate : Machine.activatePaging base m = .ok () m₁)
    (hkept : kept m₁ m₁)
    (hplace : ∀ addr (k : Kernel), k.Up → ∃ answer k' m',
      Returns (placeViewport addr) k m₁ answer k' m' ∧
      k.Places addr k' ∧ kept m₁ m')
    (viewport : Option VirtAddr) :
    ∃ built summary k m₂, PageTables.build base config.processCount = .ok (built, summary) ∧
      built.base = base ∧ Kernel.Prepared config built k ∧ kept m₁ m₂ ∧
      ∀ outcome k' m', Ends replicate k m₂ outcome k' m' → k'.active < 2 ^ 24 →
        Ends (boot base viewport) { config := config } m outcome k' m' := by
  obtain ⟨built, summary, k, m₂, hbuild, hdirectory, hprepared, -, hkept₂, hprepare⟩ :=
    returns_prepare_prepared config hbase hactivate hkept hplace viewport
  exact ⟨built, summary, k, m₂, hbuild, hdirectory, hprepared, hkept₂,
    fun outcome k' m' hreplicate hactive => ends_boot hprepare hreplicate hactive⟩

end KernelM

end SlotKernel

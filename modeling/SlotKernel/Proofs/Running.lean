import SlotKernel.Proofs.Startup

/-!
What an operation can do to a kernel that is up, and what no operation breaks. `Kernel.Step` lists
every change once: the window moves to the slot of another process, the viewport is pointed or
placed, the processes are seeded, or an event is noted. `Kernel.Up` is the invariant: the active
process is one of the configured ones, the window shows its slot, the viewport keeps clear of the
window, and every process that waits can be restored. Under it the pages of the viewport stay
uncached.
-/

namespace SlotKernel

/-- A context that can be restored was saved, and its stack lies in the window. -/
theorem Context.validate_eq_ok_iff {ctx : Context} {window : Window} :
    ctx.validate window = .ok () ↔
      ctx.eip ≠ 0 ∧ window.start.val < ctx.esp ∧ ctx.esp ≤ windowCeiling := by
  change _ ↔ ctx.eip ≠ 0 ∧ window.start.val < ctx.esp ∧ ctx.esp ≤ window.ceiling.val
  rw [← UInt32.not_le, ← UInt32.not_lt]
  by_cases heip : ctx.eip = 0
  · simp [validate, isSeeded, heip]
  · by_cases hlow : ctx.esp ≤ window.start.val
    · simp [validate, isSeeded, heip, hlow]
    · by_cases hhigh : window.ceiling.val < ctx.esp
      · simp [validate, isSeeded, heip, hlow, hhigh]
      · simp [validate, isSeeded, heip, hlow, hhigh, UInt32.not_lt.mp hhigh]

namespace Kernel

/-! ### Contexts -/

section Contexts

variable {k : Kernel} {ctx seed : Context} {events : EventLog} {p : Nat}

theorem context_saved_self (hactive : k.active < maxProcesses) :
    (k.saved ctx).context k.active = ctx := by
  simp [context, saved, hactive]

theorem context_saved_ne (hne : p ≠ k.active) : (k.saved ctx).context p = k.context p := by
  simp [context, saved, hne.symm]

theorem context_seeded (hlow : 1 ≤ p) (hhigh : p < k.config.processCount) :
    (k.seeded seed events).context p = seed := by
  have hbound : p < maxProcesses := Nat.lt_of_lt_of_le hhigh k.config.processCount_le
  simp [context, seeded, KernelM.seedContexts, hbound, hlow, hhigh]

theorem context_seeded_of_not (hp : ¬ (1 ≤ p ∧ p < k.config.processCount)) :
    (k.seeded seed events).context p = k.context p := by
  by_cases hbound : p < maxProcesses
  · simp [context, seeded, KernelM.seedContexts, hp, hbound]
  · simp [context, hbound]

end Contexts

/-! ### Steps -/

/-- The kernel after a switch, with this context saved for the process that gave up the machine. -/
def switchedTo (k : Kernel) (ctx : Context) (target : Nat) : Kernel :=
  (k.saved ctx).movedTo target (k.paging.edit (k.config.window.moveEdits target))

/-- The kernel with its viewport pointed at an address. -/
def pointedAt (k : Kernel) (view : Viewport) (phys : PhysAddr) : Kernel :=
  (k.withPaging (k.paging.edit (view.mapEdits phys))).pushEvent (.viewportMapped phys)

/-- The kernel with a viewport placed. -/
def withViewport (k : Kernel) (view : Viewport) : Kernel :=
  { k.withPaging (k.paging.edit view.placeEdits) with viewport := some view }

/-- What one operation can do to the kernel. -/
inductive Step : Kernel → Kernel → Prop where
  | idle (k : Kernel) : Step k k
  | noted (k : Kernel) (event : Event) : Step k (k.pushEvent event)
  /-- The active process gives up the machine and its context is saved. -/
  | switched (k : Kernel) (ctx : Context) (target : Nat)
      (hctx : ctx.validate k.config.window = .ok ())
      (htarget : target < k.config.processCount) (hreplicated : k.replicated = true) :
      Step k (k.switchedTo ctx target)
  | mapped (k : Kernel) (view : Viewport) (phys : PhysAddr) (hview : k.viewport = some view) :
      Step k (k.pointedAt view phys)
  | placed (k : Kernel) (view : Viewport)
      (hchecks : ∀ page ∈ view.pages,
        Viewport.checkPage k.paging k.config.window page = .ok ()) :
      Step k (k.withViewport view)
  | seeded (k : Kernel) (seed : Context) (events : EventLog)
      (hseed : seed.validate k.config.window = .ok ()) (hfirst : k.replicated = false) :
      Step k (k.seeded seed events)

section Step

variable {k k' : Kernel} (hstep : Step k k')

include hstep

theorem Step.config_eq : k'.config = k.config := by
  cases hstep <;> rfl

theorem Step.replicated (hreplicated : k.replicated = true) : k'.replicated = true := by
  cases hstep <;> first | exact hreplicated | rfl

theorem Step.structure_eq : k'.paging.directory = k.paging.directory ∧
    k'.paging.tableCount = k.paging.tableCount ∧ k'.paging.base = k.paging.base := by
  cases hstep with
  | idle | noted | seeded => exact ⟨rfl, rfl, rfl⟩
  | switched | mapped | placed =>
      exact ⟨PageTables.directory_edit _ _, PageTables.tableCount_edit _ _,
        PageTables.base_edit _ _⟩

/-- A page outside the window and outside the viewport keeps its entry. -/
theorem Step.entry?_eq {page : Page} (hwindow : page ∉ k.config.window.pages)
    (hview : ∀ view, k'.viewport = some view → page ∉ view.pages) :
    k'.paging.entry? page = k.paging.entry? page := by
  cases hstep with
  | idle | noted | seeded => rfl
  | switched =>
      apply PageTables.entry?_edit_of_not_mem
      rwa [Window.pages_moveEdits]
  | mapped view phys hbefore =>
      apply PageTables.entry?_edit_of_not_mem
      rw [Viewport.pages_mapEdits]
      exact hview view hbefore
  | placed view =>
      apply PageTables.entry?_edit_of_not_mem
      rw [Viewport.pages_placeEdits]
      exact hview view rfl

end Step

/-! ### The invariant -/

/-- There is something to switch: the target is one of the processes, and another one runs. -/
structure Leaves (k : Kernel) (target : Nat) : Prop where
  active_lt : k.active < k.config.processCount
  target_lt : target < k.config.processCount
  ne : target ≠ k.active
  replicated : k.replicated = true

/-- Everything else that a switch looks at on its way is in order, too. -/
structure Departs (k : Kernel) (target : Nat) : Prop extends Leaves k target where
  shows : k.Shows k.active
  restorable : (k.context target).validate k.config.window = .ok ()

/-- The window can be moved to the slot of the target: it shows the slot of the active process, and
the last frame of the last slot is the last one below the limit. -/
theorem Departs.apply_moveTo {k : Kernel} {target : Nat} (h : k.Departs target) {limit : UInt32}
    (hlimit : k.frameLimit = .ok limit) :
    (k.moveTo target limit).apply k.paging =
      .ok (k.paging.edit (k.config.window.moveEdits target), k.config.window.range) := by
  have hcount : k.config.processCount ≤ 8 := k.config.processCount_le
  have hactive := h.active_lt
  have htarget := h.target_lt
  obtain ⟨pages, hpages, hnumber⟩ := k.config.identityMappedPages_eq
  cases hpages.symm.trans hlimit
  apply (k.moveTo target limit).apply_eq_ok
  · exact h.shows.2
  · intro page hpage
    have hrange := k.config.mem_pages.mp hpage
    apply WindowMove.targetFrame_eq
    · change 256 * k.active + _ < _
      omega
    · change 256 * target + _ < _
      omega
    · change 256 * target + _ < limit.toNat
      omega

/-- What holds of a kernel that is up between any two operations. -/
structure Up (k : Kernel) : Prop where
  active_lt : k.active < k.config.processCount
  active_eq : k.replicated = false → k.active = 0
  tablesBuilt : k.tablesBuilt = true
  pagingEnabled : k.pagingEnabled = true
  /-- The window shows the slot of the active process, with the attributes of the first entries. -/
  window : ∀ page ∈ k.config.window.pages, k.paging.entry? page =
    some (.new (slotFrame k.active page) PageTables.initialPageFlags)
  viewport : ∀ view, k.viewport = some view → ∀ page ∈ view.pages,
    page.number ≠ 0 ∧ page ∉ k.config.window.pages
  /-- A process that waits has a context that can be restored. -/
  restorable : k.replicated = true → ∀ p, p < k.config.processCount → p ≠ k.active →
    (k.context p).validate k.config.window = .ok ()

section Up

variable {k k' : Kernel}

/-- A kernel that is up shows the slot of its active process. -/
theorem Up.shows (hup : Up k) : k.Shows k.active := by
  have hactive := hup.active_lt
  have hcount : k.config.processCount ≤ 8 := k.config.processCount_le
  refine ⟨hactive, fun page hpage => ⟨_, hup.window page hpage, TableEntry.isPresent_new_initial _,
    TableEntry.frame_new _ ?_⟩⟩
  have hrange := k.config.mem_pages.mp hpage
  rw [number_slotFrame (by omega) (by omega)]
  omega

/-- A kernel that is up can leave for every other process. -/
theorem Up.departs (hup : Up k) {target : Nat} (htarget : target < k.config.processCount)
    (hne : target ≠ k.active) (hreplicated : k.replicated = true) : k.Departs target :=
  ⟨⟨hup.active_lt, htarget, hne, hreplicated⟩, hup.shows,
    hup.restorable hreplicated target htarget hne⟩

theorem Up.window_moved (hup : Up k) (target : Nat) {page : Page}
    (hpage : page ∈ k.config.window.pages) :
    PageTables.entry? (k.paging.edit (k.config.window.moveEdits target)) page =
      some (.new (slotFrame target page) PageTables.initialPageFlags) := by
  rw [PageTables.entry?_edit_moveEdits hpage, hup.window page hpage]
  exact congrArg some (TableEntry.setFrame_new _ _ _)

/-- Every page that may become part of a viewport has a number other than 0 and lies outside the
window. -/
theorem clear_of_checkPage {page : Page}
    (hcheck : Viewport.checkPage k.paging k.config.window page = .ok ()) :
    page.number ≠ 0 ∧ page ∉ k.config.window.pages := by
  obtain ⟨hnull, houtside, hsome⟩ := Viewport.checkPage_eq_ok_iff.mp hcheck
  obtain ⟨entry, hentry⟩ := Option.isSome_iff_exists.mp hsome
  refine ⟨hnull, ?_⟩
  rw [← k.config.contains_start_iff (PageTables.number_lt_of_entry? hentry), houtside]
  exact Bool.false_ne_true

theorem Up.window_edited (hup : Up k) {edits : List Edit}
    (hclear : ∀ page ∈ edits.map (·.1), page ∉ k.config.window.pages) :
    ∀ page ∈ k.config.window.pages, PageTables.entry? (k.paging.edit edits) page =
      some (.new (slotFrame k.active page) PageTables.initialPageFlags) := by
  intro page hpage
  rw [PageTables.entry?_edit_of_not_mem (fun hmem => hclear page hmem hpage)]
  exact hup.window page hpage

/-- Every step keeps the invariant. -/
theorem Up.step (hup : Up k) (hstep : Step k k') : Up k' := by
  cases hstep with
  | idle => exact hup
  | noted event => exact { hup with }
  | switched ctx target hctx htarget hreplicated =>
      refine { hup with active_lt := htarget, active_eq := ?_, window := ?_, restorable := ?_ }
      · intro hnot
        cases hreplicated.symm.trans hnot
      · intro page hpage
        exact hup.window_moved target hpage
      · intro _ p hp hne
        change ((k.saved ctx).context p).validate k.config.window = .ok ()
        -- only the process that was active until now waits with a new context
        by_cases hold : p = k.active
        · subst hold
          rwa [context_saved_self (Nat.lt_of_lt_of_le hp k.config.processCount_le)]
        · rw [context_saved_ne hold]
          exact hup.restorable hreplicated p hp hold
  | mapped view phys hview =>
      refine { hup with window := ?_ }
      apply hup.window_edited
      rw [Viewport.pages_mapEdits]
      exact fun page hpage => (hup.viewport view hview page hpage).2
  | placed view hchecks =>
      refine { hup with window := ?_, viewport := ?_ }
      · apply hup.window_edited
        rw [Viewport.pages_placeEdits]
        exact fun page hpage => (clear_of_checkPage (hchecks page hpage)).2
      · rintro _ ⟨⟩ page hpage
        have hclear := clear_of_checkPage (hchecks page hpage)
        exact hclear
  | seeded seed events hseed hfirst =>
      refine { hup with active_eq := fun _ => hup.active_eq hfirst, restorable := ?_ }
      intro _ p hp hne
      -- before the seeding the active process is the first one
      have hlow : 1 ≤ p := by
        have hzero := hup.active_eq hfirst
        change p ≠ k.active at hne
        omega
      have hcontext : (k.seeded seed events).context p = seed := context_seeded hlow hp
      rw [hcontext]
      exact hseed

end Up

/-! ### The pages of the viewport -/

/-- The pages of the viewport have entries, and none of them is cached. -/
def ViewUncached (k : Kernel) : Prop :=
  ∀ view, k.viewport = some view → ∀ page ∈ view.pages,
    ∃ entry, k.paging.entry? page = some entry ∧ entry.flags.contains .cacheDisable = true

/-- Every step keeps this too: a viewport is placed on pages that have entries, pointing it sets
bits only, and the window moves elsewhere. -/
theorem ViewUncached.step {k k' : Kernel} (h : ViewUncached k) (hup : Up k) (hstep : Step k k') :
    ViewUncached k' := by
  cases hstep with
  | idle | noted | seeded => exact h
  | switched ctx target =>
      intro view hview page hpage
      have hkept : PageTables.entry? (k.paging.edit (k.config.window.moveEdits target)) page =
          k.paging.entry? page := by
        apply PageTables.entry?_edit_of_not_mem
        rw [Window.pages_moveEdits]
        exact (hup.viewport view hview page hpage).2
      obtain ⟨entry, hentry, huncached⟩ := h view hview page hpage
      exact ⟨entry, hkept.trans hentry, huncached⟩
  | mapped view phys hview =>
      intro other hother page hpage
      cases hview.symm.trans hother
      obtain ⟨item, hitem, rfl⟩ := Viewport.exists_item hpage
      obtain ⟨entry, hentry, huncached⟩ :=
        h view hview item.1 (List.fst_mem_of_mem_zipIdx hitem)
      refine ⟨_, (Viewport.entry?_edit_mapEdits hitem phys).trans (congrArg _ hentry), ?_⟩
      exact PageFlags.contains_trans (TableEntry.contains_mapped huncached _) (by decide)
  | placed view hchecks =>
      rintro _ ⟨⟩ page hpage
      obtain ⟨-, -, hsome⟩ := Viewport.checkPage_eq_ok_iff.mp (hchecks page hpage)
      obtain ⟨entry, hentry⟩ := Option.isSome_iff_exists.mp hsome
      exact ⟨_, (Viewport.entry?_edit_placeEdits hpage).trans (congrArg _ hentry),
        entry.contains_insertFlags_cacheDisable⟩

end Kernel

end SlotKernel

import SlotKernel.Proofs.Mapping
import SlotKernel.Proofs.Replication
import SlotKernel.Proofs.Walks

/-!
The steps of a boot, taken again in a session. Turning paging on and replicating look at what was
done before and do nothing more. Building the tables does not look: it writes the tables of the boot
once more, and so does a whole boot, which begins with it. Processes, contexts and the machine stay
as they are, but the window comes to show the slot of process 0 again, whichever process runs by
then, and no cached mapping of it is dropped.
-/

namespace SlotKernel

/-! ### Addresses in tables that were changed -/

namespace PageTables

theorem resolve?_congr {s s' : PageTables} {addr : VirtAddr}
    (h : s'.entry? addr.page = s.entry? addr.page) : s'.resolve? addr = s.resolve? addr := by
  rw [resolve?, resolve?, h]

/-- Placing a viewport takes no page to another frame. -/
theorem resolve?_placeEdits (s : PageTables) (view : Viewport) (addr : VirtAddr) :
    PageTables.resolve? (s.edit view.placeEdits) addr = s.resolve? addr := by
  by_cases hview : addr.page ∈ view.pages
  · have hentry := @Viewport.entry?_edit_placeEdits s view addr.page hview
    cases hold : s.entry? addr.page with
    | none =>
        rw [hold, Option.map_none] at hentry
        exact resolve?_congr (hentry.trans hold.symm)
    | some entry =>
        rw [hold, Option.map_some] at hentry
        cases hpresent : entry.isPresent with
        | false =>
            have habsent := entry.isPresent_insertFlags_cacheDisable.trans hpresent
            rw [resolve?_of_absent hold hpresent, resolve?_of_absent hentry habsent]
        | true =>
            rw [resolve?, resolve?, hold, hentry]
            change (guard ((entry.insertFlags .cacheDisable).isPresent = true) >>= fun _ =>
              (entry.insertFlags .cacheDisable).frame.start.add? addr.offset) = _
            rw [entry.isPresent_insertFlags_cacheDisable, entry.frame_insertFlags]
            rfl
  · apply resolve?_congr
    apply entry?_edit_of_not_mem
    rwa [Viewport.pages_placeEdits]

end PageTables

/-! ### The window -/

namespace Kernel

variable {k : Kernel} {slot : Nat}

theorem showsSlot_eq {page : Page} {entry : TableEntry} (hpage : page.number.toNat < 512)
    (hactive : k.active < 9) (hslot : slot < 9) (hentry : k.paging.entry? page = some entry)
    (hpresent : entry.isPresent = true) (hframe : entry.frame = slotFrame slot page) :
    k.showsSlot ⟨UInt32.ofNat (256 * k.active)⟩ page = decide (k.active = slot) := by
  have hbase : (UInt32.ofNat (256 * k.active)).toNat = 256 * k.active :=
    UInt32.toNat_ofNat_of_lt' (by simp only [UInt32.size]; omega)
  have hadd : Frame.add? ⟨UInt32.ofNat (256 * k.active)⟩ page.number =
      some (slotFrame k.active page) := by
    apply Frame.add?_eq
    rw [hbase]
    omega
  rw [showsSlot, hentry, hadd]
  simp only [hpresent, hframe, Bool.true_and]
  by_cases heq : k.active = slot
  · rw [heq, beq_self_eq_true, decide_eq_true rfl]
  · have hne : slotFrame slot page ≠ slotFrame k.active page := by
      intro hsame
      have hshown := @number_slotFrame slot page (by omega) (by omega)
      have hexpected := @number_slotFrame k.active page (by omega) (by omega)
      rw [hsame] at hshown
      omega
    rw [beq_eq_false_iff_ne.mpr hne, decide_eq_false heq]

/-- A window that shows one slot matches the active process if that is its slot. -/
theorem windowMatchesActive_eq (hactive : k.active < k.config.processCount)
    (hslot : slot < k.config.processCount)
    (hshows : ∀ page ∈ k.config.window.pages, ∃ entry, k.paging.entry? page = some entry ∧
      entry.isPresent = true ∧ entry.frame = slotFrame slot page) :
    k.windowMatchesActive = .ok (decide (k.active = slot)) := by
  have hcount : k.config.processCount ≤ 8 := k.config.processCount_le
  have hpages : ∀ page ∈ k.config.window.pages,
      k.showsSlot ⟨UInt32.ofNat (256 * k.active)⟩ page = decide (k.active = slot) := by
    intro page hpage
    obtain ⟨entry, hentry, hpresent, hframe⟩ := hshows page hpage
    have hrange := (k.config.mem_pages.mp hpage).2
    exact showsSlot_eq hrange (by omega) (by omega) hentry hpresent hframe
  have hfirst : k.config.window.firstPage ∈ k.config.window.pages :=
    k.config.mem_pages.mpr ⟨Nat.le_refl _, k.config.firstPage_bounds.2⟩
  rw [windowMatchesActive, slotBase_eq (by omega)]
  change Except.ok (k.config.window.pages.all _) = _
  congr 1
  cases hmatch : decide (k.active = slot) with
  | true =>
      rw [hmatch] at hpages
      exact List.all_eq_true.mpr hpages
  | false =>
      rw [hmatch] at hpages
      rw [List.all_eq_false]
      exact ⟨_, hfirst, by rw [hpages _ hfirst]; exact Bool.false_ne_true⟩

theorem Up.windowMatchesActive_eq (hup : k.Up) : k.windowMatchesActive = .ok true := by
  rw [Kernel.windowMatchesActive_eq hup.active_lt hup.active_lt hup.shows.2, decide_eq_true rfl]

/-! ### Building again -/

/-- What a build of the tables leaves of a kernel that is up, as far as processes and addresses are
concerned. -/
structure Rebuilt (built : PageTables) (k k' : Kernel) : Prop where
  config_eq : k'.config = k.config
  active_eq : k'.active = k.active
  contexts_eq : k'.contexts = k.contexts
  replicated_eq : k'.replicated = k.replicated
  resolve?_eq : ∀ addr, k'.paging.resolve? addr = built.resolve? addr
  /-- The window shows the slot of process 0. -/
  shows : ∀ page ∈ k.config.window.pages, k'.paging.ShowsItself page

variable {built : PageTables} {k' : Kernel}

theorem rebuilt_withTables (k : Kernel) (summary : BuildSummary)
    (hshows : ∀ page ∈ k.config.window.pages, built.ShowsItself page) :
    k.Rebuilt built (k.withTables built summary) :=
  ⟨rfl, rfl, rfl, rfl, fun _ => rfl, hshows⟩

theorem Rebuilt.withViewport (h : k.Rebuilt built k') (base : VirtAddr) :
    k.Rebuilt built (k'.withViewport ⟨base⟩) where
  config_eq := h.config_eq
  active_eq := h.active_eq
  contexts_eq := h.contexts_eq
  replicated_eq := h.replicated_eq
  resolve?_eq := fun addr => (PageTables.resolve?_placeEdits _ _ addr).trans (h.resolve?_eq addr)
  shows := fun page hpage => showsItself_withViewport (h.shows page hpage)

theorem Rebuilt.windowMatchesActive_eq (h : k.Rebuilt built k')
    (hactive : k.active < k.config.processCount) :
    k'.windowMatchesActive = .ok (decide (k.active = 0)) := by
  rw [← h.active_eq]
  rw [← h.active_eq, ← h.config_eq] at hactive
  apply Kernel.windowMatchesActive_eq hactive k'.config.one_le_processCount
  intro page hpage
  rw [h.config_eq] at hpage
  rw [slotFrame_zero]
  exact h.shows page hpage

/-- Once the processes are there, or if there is only one, nothing is left to replicate. -/
theorem Settled.returns_replicate {μ : Type} [Machine μ] (h : k.Settled) (m : μ) :
    ∃ outcome, (outcome = .skipped ∨ outcome = .alreadyDone) ∧
      KernelM.Returns KernelM.replicate k m outcome k m := by
  cases hmulti : k.config.isMultiprocess with
  | false => exact ⟨.skipped, Or.inl rfl, KernelM.returns_replicate_skipped hmulti⟩
  | true =>
      rcases h with hreplicated | hsingle
      · exact ⟨.alreadyDone, Or.inr rfl, KernelM.returns_replicate_alreadyDone hmulti hreplicated⟩
      · cases hsingle.symm.trans hmulti

end Kernel

namespace KernelM

variable {k : Kernel} {base : PhysAddr} {built : PageTables} {summary : BuildSummary}

/-- A viewport can be placed over tables that were built again. -/
theorem returns_offerViewport_rebuilt {k' : Kernel} (h : k.Rebuilt built k')
    (henabled : k'.pagingEnabled = true) (addr : VirtAddr) (m : Simulated) :
    ∃ k'' pages, Returns (offerViewport addr) k' m () k'' (m.dropped pages) ∧
      k.Rebuilt built k'' ∧ k''.pagingEnabled = true ∧
      ∀ page ∈ pages, page ∉ k.config.window.pages := by
  rcases Viewport.place_cases k'.paging addr k'.config.window with
    ⟨error, hplace⟩ | ⟨hchecks, hplace⟩
  · refine ⟨k', [], ?_, h, henabled, fun page hpage => by cases hpage⟩
    rw [Simulated.dropped_nil]
    exact returns_offerViewport (returns_placeViewport_refused hplace)
  · refine ⟨_, (Viewport.mk addr).pages, ?_, h.withViewport addr, henabled, ?_⟩
    · exact returns_offerViewport (Simulated.returns_placeViewport henabled hplace)
    · intro page hpage
      rw [← h.config_eq]
      exact (Kernel.clear_of_checkPage (hchecks page hpage)).2

/-- A boot of a kernel that is up builds the tables again and may place its viewport again. -/
theorem returns_boot_again (hup : k.Up) (hsettled : k.Settled)
    (hbuild : PageTables.build base k.config.processCount = .ok (built, summary))
    (hshows : ∀ page ∈ k.config.window.pages, built.ShowsItself page)
    (viewport : Option VirtAddr) (m : Simulated) :
    ∃ outcome k' pages, (outcome = .skipped ∨ outcome = .alreadyDone) ∧
      Returns (boot base viewport) k m outcome k' (m.dropped pages) ∧ k.Rebuilt built k' ∧
      ∀ page ∈ pages, page ∉ k.config.window.pages := by
  have hrebuilt := k.rebuilt_withTables summary hshows
  have hpaging : Returns enablePaging (k.withTables built summary) m ()
      (k.withTables built summary) m := returns_enablePaging_again rfl hup.pagingEnabled
  obtain ⟨k₂, pages, hoffer, hrebuilt₂, hclear⟩ : ∃ k₂ pages,
      Returns (viewport.elim (pure ()) offerViewport) (k.withTables built summary) m () k₂
        (m.dropped pages) ∧
      k.Rebuilt built k₂ ∧ ∀ page ∈ pages, page ∉ k.config.window.pages := by
    cases viewport with
    | none =>
        refine ⟨_, [], ?_, hrebuilt, fun page hpage => by cases hpage⟩
        rw [Simulated.dropped_nil]
        exact returns_pure _
    | some addr =>
        obtain ⟨k₂, pages, hoffer, hrebuilt₂, -, hclear⟩ :=
          returns_offerViewport_rebuilt hrebuilt hup.pagingEnabled addr m
        exact ⟨k₂, pages, hoffer, hrebuilt₂, hclear⟩
  have hprepare := returns_prepare hbuild hpaging hoffer
  have hrebuilt₃ : k.Rebuilt built { k₂ with refreshHook := some .redraw } := { hrebuilt₂ with }
  have hsettled₃ : Kernel.Settled { k₂ with refreshHook := some .redraw } := by
    rcases hsettled with hreplicated | hsingle
    · exact Or.inl (hrebuilt₂.replicated_eq.trans hreplicated)
    · refine Or.inr ?_
      change k₂.config.isMultiprocess = false
      rw [hrebuilt₂.config_eq, hsingle]
  obtain ⟨outcome, houtcome, hreplicate⟩ := hsettled₃.returns_replicate (m.dropped pages)
  refine ⟨outcome, _, pages, houtcome, ends_boot hprepare hreplicate ?_, hrebuilt₃, hclear⟩
  have hcount : k.config.processCount ≤ 8 := k.config.processCount_le
  have hactive := hup.active_lt
  change k₂.active < _
  rw [hrebuilt₂.active_eq]
  omega

end KernelM

/-! ### In a session -/

open KernelM

/-- What is the same after a step that builds the tables again, given the viewports that were placed
before: processes and contexts everywhere, and addresses where neither a viewport nor a switch has
changed what the boot built. -/
structure Kernel.BootedAgain (config : Config) (built : PageTables) (placed : List Viewport)
    (k k' : Kernel) : Prop where
  active_eq : k'.active = k.active
  contexts_eq : k'.contexts = k.contexts
  replicated_eq : k'.replicated = k.replicated
  kept : ∀ addr : VirtAddr, (∀ view ∈ placed, addr.page ∉ view.pages) →
    (addr.page ∈ config.window.pages → k.active = 0) →
    k'.paging.resolve? addr = k.paging.resolve? addr
  /-- All other addresses stand for what they stood for after the first build. -/
  resolve?_eq : ∀ addr, k'.paging.resolve? addr = built.resolve? addr
  windowMatchesActive_eq : k'.windowMatchesActive = .ok (decide (k.active = 0))

theorem Kernel.Rebuilt.bootedAgain {config : Config} {built : PageTables} {placed : List Viewport}
    {k k' : Kernel} (h : k.Rebuilt built k') (hup : k.Up)
    (htraced : k.Traced config built placed)
    (hbuilt : ∀ page ∈ k.config.window.pages,
      built.entry? page = some (.new ⟨page.number⟩ PageTables.initialPageFlags)) :
    k.BootedAgain config built placed k' := by
  refine ⟨h.active_eq, h.contexts_eq, h.replicated_eq, ?_, h.resolve?_eq,
    h.windowMatchesActive_eq hup.active_lt⟩
  intro addr hclear hwindow
  rw [h.resolve?_eq]
  apply PageTables.resolve?_congr
  by_cases hpage : addr.page ∈ config.window.pages
  · rw [← htraced.config_eq] at hpage
    rw [hbuilt _ hpage, hup.window _ hpage, hwindow (htraced.config_eq ▸ hpage), slotFrame_zero]
  · exact (htraced.elsewhere _ hpage hclear).symm

/-- A boot that found no resume pending, and any session after it. Turning paging on and replicating
again change nothing at all. Building the tables again, or booting again, changes no process, no
context and, but for cached mappings of the viewport, nothing of the machine; addresses are kept as
far as they show what the boot built, and the window matches the active process only if that is the
first one. -/
theorem boot_steps_repeated {config : Config} {base : PhysAddr} {viewport : Option VirtAddr}
    {m : Simulated} (hresume : m.resumeNext = false) {console : Console} {tracing : Bool}
    {outcome : ReplicateOutcome} {start w : World Simulated} {turns : List Turn}
    (hboot : boot base viewport ⟨{ config := config }, ⟨m, console⟩, tracing⟩ = .ok outcome start)
    (hsession : Session start turns w) :
    Returns enablePaging w.kernel w.board.machine () w.kernel w.board.machine ∧
    (∃ again, (again = .skipped ∨ again = .alreadyDone) ∧
      Returns replicate w.kernel w.board.machine again w.kernel w.board.machine) ∧
    ∃ built summary, PageTables.build base config.processCount = .ok (built, summary) ∧
      (∃ k', Returns (buildTables base) w.kernel w.board.machine summary k' w.board.machine ∧
        w.kernel.BootedAgain config built (placedViewports start turns) k') ∧
      ∃ again k' pages, (again = .skipped ∨ again = .alreadyDone) ∧
        Returns (boot base viewport) w.kernel w.board.machine again k'
          (w.board.machine.dropped pages) ∧
        w.kernel.BootedAgain config built (placedViewports start turns) k' ∧
        ∀ page ∈ pages, page ∉ config.window.pages := by
  obtain ⟨built, summary, k, pages, hbuild, -, hprepared, heffect⟩ := Simulated.effect_of_boot hboot
  have hstart := hprepared.up.step heffect.step
  have hup := hsession.up hstart
  have hsettled := hsession.settled hstart
    (heffect.settled_of_first hprepared.replicated_eq hresume)
  have htraced := hsession.traced hstart (hprepared.traced_forked heffect)
  have hconfig : w.kernel.config = config := htraced.config_eq
  have hentries : ∀ page ∈ w.kernel.config.window.pages,
      built.entry? page = some (PageTables.initialEntry page.number.toNat) ∧
        page.number.toNat ≠ 0 ∧ page.number.toNat < 2 ^ 20 := by
    intro page hpage
    have hrange := w.kernel.config.mem_pages.mp hpage
    have hfirst := w.kernel.config.firstPage_bounds
    have hone := config.one_le_processCount
    cases hbase : base.isPageAligned with
    | false =>
        rw [PageTables.build, hbase] at hbuild
        cases hbuild
    | true =>
        obtain ⟨_, _, hbuild', -, hinitial⟩ := PageTables.build_eq_ok config hbase
        cases hbuild'.symm.trans hbuild
        exact ⟨hinitial page (by omega), by omega, by omega⟩
  have hbuilt : ∀ page ∈ w.kernel.config.window.pages,
      built.entry? page = some (.new ⟨page.number⟩ PageTables.initialPageFlags) := by
    intro page hpage
    obtain ⟨hentry, hzero, -⟩ := hentries page hpage
    rw [hentry, PageTables.initialEntry_of_ne_zero hzero]
  have hshows : ∀ page ∈ w.kernel.config.window.pages, built.ShowsItself page := by
    intro page hpage
    obtain ⟨hentry, hzero, hlt⟩ := hentries page hpage
    exact PageTables.showsItself_of_initial hzero hlt hentry
  have hagain := hbuild
  rw [← hconfig] at hagain
  refine ⟨returns_enablePaging_again hup.tablesBuilt hup.pagingEnabled,
    hsettled.returns_replicate _, built, summary, hbuild, ?_, ?_⟩
  · exact ⟨_, returns_buildTables hagain,
      (w.kernel.rebuilt_withTables summary hshows).bootedAgain hup htraced hbuilt⟩
  · obtain ⟨again, k', pages, hanswer, hreturns, hrebuilt, hclear⟩ :=
      returns_boot_again hup hsettled hagain hshows viewport w.board.machine
    rw [hconfig] at hclear
    exact ⟨again, k', pages, hanswer, hreturns, hrebuilt.bootedAgain hup htraced hbuilt, hclear⟩

theorem boot_steps_repeated_halves :
    ∃ start w k', (Simulated.new 2).resumeNext = false ∧
      boot ⟨0x90000⟩ (some ⟨0x108000⟩) ⟨{ config := .halves }, ⟨Simulated.new 2, .ready⟩, false⟩ =
        .ok (.forked 1) start ∧
      Session start [⟨start, .switchTo 1, .switched .transferred, w⟩] w ∧
      w.kernel.active = 1 ∧ k'.active = 1 ∧ k'.windowMatchesActive = .ok false ∧
      ∃ again pages, Returns (boot ⟨0x90000⟩ (some ⟨0x108000⟩)) w.kernel w.board.machine again k'
        (w.board.machine.dropped pages) := by
  obtain ⟨start, w, hboot, hswitch, -, hactive⟩ := Simulated.switched_halves
  have hsession : Session start [⟨start, .switchTo 1, .switched .transferred, w⟩] w :=
    .called .started hswitch
  obtain ⟨-, -, built, summary, -, -, again, k', pages, -, hreturns, hagain, -⟩ :=
    boot_steps_repeated rfl hboot hsession
  have hmatches := hagain.windowMatchesActive_eq
  rw [hactive] at hmatches
  exact ⟨start, w, k', rfl, hboot, hsession, hactive, hagain.active_eq.trans hactive, hmatches,
    again, pages, hreturns⟩

/-- While the second process runs, building the tables again takes the window away from it: what
showed its slot shows that of the first process, and no cached mapping is dropped. -/
theorem window_lost_halves :
    ∃ start w w', boot ⟨0x90000⟩ (some ⟨0x108000⟩)
        ⟨{ config := .halves }, ⟨Simulated.new 2, .ready⟩, false⟩ = .ok (.forked 1) start ∧
      (Call.switchTo 1).perform start = .ok (.switched .transferred) w ∧
      (∃ summary, buildTables ⟨0x90000⟩ w = .ok summary w') ∧
      w.kernel.active = 1 ∧ w'.kernel.active = 1 ∧
      w.kernel.paging.resolve? ⟨0x180000⟩ = some ⟨0x280000⟩ ∧
      w'.kernel.paging.resolve? ⟨0x180000⟩ = some ⟨0x180000⟩ ∧
      w.kernel.windowMatchesActive = .ok true ∧ w'.kernel.windowMatchesActive = .ok false ∧
      w'.board.machine = w.board.machine := by
  obtain ⟨start, w, hboot, hswitch, hforked, hactive⟩ := Simulated.switched_halves
  have hup := hforked.up.step (Simulated.effect_of_perform hforked.up hswitch).step
  have hconfig : w.kernel.config = .halves :=
    (Simulated.effect_of_perform hforked.up hswitch).step.config_eq.trans hforked.config_eq
  have hpage : (⟨0x180⟩ : Page) ∈ w.kernel.config.window.pages := by
    rw [hconfig, Config.mem_pages]
    decide
  obtain ⟨built, summary, hbuild, -, hentries⟩ :=
    @PageTables.build_eq_ok .halves ⟨0x90000⟩ (by decide)
  rw [← hconfig] at hbuild
  have hreturns := @returns_buildTables Simulated w.kernel w.board.machine _ built summary hbuild
  obtain ⟨console, hrebuild⟩ := hreturns w.board.console w.tracing
  have hbefore := hup.window _ hpage
  rw [hactive] at hbefore
  have hafter := hentries ⟨0x180⟩ (by decide)
  have hshows : ∀ page ∈ w.kernel.config.window.pages, built.ShowsItself page := by
    intro page hmem
    have hrange := w.kernel.config.mem_pages.mp hmem
    have hfirst := w.kernel.config.firstPage_bounds
    have hcount : Config.halves.processCount = 2 := rfl
    exact PageTables.showsItself_of_initial (by omega) (by omega) (hentries page (by omega))
  have hrebuilt := (w.kernel.rebuilt_withTables summary hshows).windowMatchesActive_eq hup.active_lt
  rw [hactive] at hrebuilt
  refine ⟨start, w, _, hboot, hswitch, ⟨summary, hrebuild⟩, hactive, hactive, ?_, ?_,
    hup.windowMatchesActive_eq, hrebuilt, rfl⟩
  · rw [@PageTables.resolve?_of_present _ ⟨0x180000⟩ _ hbefore (by decide)]
    decide
  · change built.resolve? _ = _
    rw [@PageTables.resolve?_of_present _ ⟨0x180000⟩ _ hafter (by decide)]
    decide

end SlotKernel

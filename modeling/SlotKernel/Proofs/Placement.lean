import SlotKernel.Proofs.InPlace
import SlotKernel.Proofs.Sessions
import SlotKernel.Proofs.Walks

/-!
Placing a viewport. Each of its four pages is admitted or refused for one reason, and the first page
that is refused decides the answer. With all four admitted exactly one bit of their entries changes,
and with one of them refused nothing does: this is shown for tables that are changed in place by the
two loops. A boot therefore cares about the viewport that it is given only where it can be placed;
where it cannot, the boot is the one without a viewport, but for what it writes to the log.
-/

namespace SlotKernel

namespace Viewport

/-- The page can be part of a viewport. -/
structure Admits (s : PageTables) (window : Window) (page : Page) : Prop where
  notNull : page.number ≠ 0
  outside : ¬ (window.start.val ≤ page.start.val ∧ page.start.val < windowCeiling)
  mapped : ∃ entry, s.entry? page = some entry

/-- The page cannot be part of a viewport, and for this reason before all others. -/
inductive Refuses (s : PageTables) (window : Window) (page : Page) : MappingError → Prop where
  | null (hnull : page.number = 0) : Refuses s window page .nullPage
  | overlaps (hnull : page.number ≠ 0)
      (hinside : window.start.val ≤ page.start.val ∧ page.start.val < windowCeiling) :
      Refuses s window page (.overlapsWindow page)
  | unmapped (hnull : page.number ≠ 0)
      (houtside : ¬ (window.start.val ≤ page.start.val ∧ page.start.val < windowCeiling))
      (hentry : s.entry? page = none) : Refuses s window page (.notMapped page)

/-- Place a viewport in tables that are changed in place. -/
def placeInPlace (base : VirtAddr) (window : Window) :
    EStateM MappingError PageTables Viewport := do
  let view : Viewport := ⟨base⟩
  view.pages.forM fun page => PageTables.look (checkPage · window page)
  view.pages.forM fun page => PageTables.change (·.disableCacheForPage page.start)
  return view

variable {s s' : PageTables} {base : VirtAddr} {window : Window} {page : Page}

theorem contains_start_eq_true_iff : window.contains page.start = true ↔
    window.start.val ≤ page.start.val ∧ page.start.val < windowCeiling := by
  rw [Window.contains, Bool.and_eq_true, decide_eq_true_iff, decide_eq_true_iff]

theorem admits_iff : Admits s window page ↔ checkPage s window page = .ok () := by
  rw [checkPage_eq_ok_iff, ← Bool.not_eq_true, contains_start_eq_true_iff,
    Option.isSome_iff_exists]
  exact ⟨fun h => ⟨h.notNull, h.outside, h.mapped⟩, fun h => ⟨h.1, h.2.1, h.2.2⟩⟩

theorem refuses_iff {error : MappingError} :
    Refuses s window page error ↔ checkPage s window page = .error error := by
  constructor
  · rintro (hnull | ⟨hnull, hinside⟩ | ⟨hnull, houtside, hentry⟩)
    · simp [checkPage, hnull]
    · rw [← contains_start_eq_true_iff] at hinside
      simp [checkPage, hnull, hinside]
    · rw [← contains_start_eq_true_iff] at houtside
      simp [checkPage, hnull, houtside, hentry]
  · intro h
    unfold checkPage at h
    split_ifs at h with hnull hinside hentry
    · cases h
      exact .null (beq_iff_eq.mp hnull)
    all_goals
      rw [beq_iff_eq] at hnull
      rw [contains_start_eq_true_iff] at hinside
      cases h
    · exact .overlaps hnull hinside
    · exact .unmapped hnull hinside (Option.isNone_iff_eq_none.mp hentry)

/-- In place a placement comes to the same end, and a refused one has changed nothing. -/
theorem placeInPlace_eq (base : VirtAddr) (window : Window) (s : PageTables) :
    placeInPlace base window s =
      match place s base window with
      | .ok (view, s') => .ok view s'
      | .error error => .error error s := by
  change (((Viewport.mk base).pages.forM fun page => PageTables.look (checkPage · window page)) >>=
    fun _ => ((Viewport.mk base).pages.forM fun page =>
      PageTables.change (·.disableCacheForPage page.start)) >>=
        fun _ => pure (Viewport.mk base)) s = _
  rw [PageTables.forM_look (checkPage · window)]
  cases hchecks : (Viewport.mk base).pages.forM (checkPage s window) with
  | error error =>
      rw [bind_of_error (PageTables.look_of_error hchecks), place, hchecks]
      rfl
  | ok _ =>
      have hpass := forM_eq_ok_iff.mp hchecks
      rw [bind_of_ok (PageTables.look_of_ok hchecks),
        bind_of_ok (PageTables.forM_change (foldlM_disableCache_eq_edit hpass)), place_eq_ok hpass]
      rfl

theorem numbers_pages (view : Viewport) :
    view.pages.map (·.number.toNat) = List.range' (view.base.val.toNat / 4096) 4 := by
  have hbase := view.base.number_page_lt
  have hcount : UInt32.toNat pageCount = 4 := rfl
  rw [pages, Page.numbers_span (by rw [hcount]; simp only [UInt32.size]; omega), hcount,
    view.base.number_page]

end Viewport

/-- The second structures are the first with the cache-disable bit of these pages set, which is
`0x10`, and with no other bit of any word changed. -/
structure PageTables.Uncached (s : PageTables) (pages : List Page) (s' : PageTables) : Prop where
  inside : ∀ page ∈ pages, ∃ entry, s.entry? page = some entry ∧
    s'.entry? page = some ⟨entry.raw ||| 0x10⟩
  outside : ∀ table index, pageAt table index ∉ pages →
    s'.entryAt table index = s.entryAt table index
  skeleton : s'.SameSkeleton s

namespace Viewport

theorem uncached_edit {s : PageTables} {base : VirtAddr}
    (hmapped : ∀ page ∈ (Viewport.mk base).pages, ∃ entry, s.entry? page = some entry) :
    s.Uncached (Viewport.mk base).pages (s.edit (Viewport.mk base).placeEdits) where
  inside page hpage := by
    obtain ⟨entry, hentry⟩ := hmapped page hpage
    have hbit : PageFlags.cacheDisable.bits &&& flagMask = 0x10 := by decide
    have hset : entry.insertFlags .cacheDisable = ⟨entry.raw ||| 0x10⟩ := by
      rw [TableEntry.insertFlags, hbit]
    refine ⟨entry, hentry, ?_⟩
    rw [entry?_edit_placeEdits hpage, hentry, Option.map_some, hset]
  outside table index hmem := by
    apply PageTables.entryAt_edit_of_not_mem
    rwa [pages_placeEdits]
  skeleton := s.sameSkeleton_edit _

/-- Everything there is to say about placing a viewport in these tables. -/
structure Placing (s : PageTables) (base : VirtAddr) (window : Window) : Prop where
  numbers : (Viewport.mk base).pages.map (·.number.toNat) =
    List.range' (base.val.toNat / 4096) 4
  /-- A refusal of the first loop is the answer, and the second loop is never refused. -/
  inPlace : placeInPlace base window s =
    match place s base window with
    | .ok (view, s') => .ok view s'
    | .error error => .error error s
  done_iff : (∃ result, place s base window = .ok result) ↔
    ∀ page ∈ (Viewport.mk base).pages, Admits s window page
  done : ∀ view s', place s base window = .ok (view, s') →
    view = ⟨base⟩ ∧ s.Uncached view.pages s'
  /-- The answer is the reason of the first page that is refused. -/
  refused_iff : ∀ error, place s base window = .error error ↔
    ∃ before page after, (Viewport.mk base).pages = before ++ page :: after ∧
      (∀ earlier ∈ before, Admits s window earlier) ∧ Refuses s window page error
  /-- The window of an accepted configuration is not touched. -/
  apart : ∀ config : Config, config.window = window →
    (∃ result, place s base window = .ok result) →
      ∀ page ∈ (Viewport.mk base).pages, page ∉ window.pages

theorem placing (s : PageTables) (base : VirtAddr) (window : Window) : Placing s base window := by
  have hdone : (∃ result, place s base window = .ok result) ↔
      ∀ page ∈ (Viewport.mk base).pages, Admits s window page := by
    simp only [admits_iff]
    rcases place_cases s base window with ⟨error, hplace⟩ | ⟨hpass, hplace⟩
    · have hchecks := checks_of_place_error hplace
      constructor
      · rintro ⟨result, hresult⟩
        cases hplace.symm.trans hresult
      · intro hpass
        cases (forM_eq_ok_iff.mpr hpass).symm.trans hchecks
    · exact ⟨fun _ => hpass, fun _ => ⟨_, hplace⟩⟩
  constructor
  case numbers => exact numbers_pages ⟨base⟩
  case inPlace => exact placeInPlace_eq base window s
  case done_iff => exact hdone
  case done =>
    intro view s' h
    have hadmits := hdone.mp ⟨_, h⟩
    rw [place_eq_ok fun page hpage => admits_iff.mp (hadmits page hpage)] at h
    cases h
    exact ⟨rfl, uncached_edit fun page hpage => (hadmits page hpage).mapped⟩
  case refused_iff =>
    intro error
    simp only [admits_iff, refuses_iff, ← forM_eq_error_iff]
    constructor
    · exact checks_of_place_error
    · intro hchecks
      rw [place, hchecks]
      rfl
  case apart =>
    rintro config rfl hplaced page hpage hmem
    obtain ⟨-, houtside, entry, hentry⟩ := hdone.mp hplaced page hpage
    rw [← contains_start_eq_true_iff] at houtside
    exact houtside ((config.contains_start_iff (PageTables.number_lt_of_entry? hentry)).mpr hmem)

end Viewport

/-- A viewport can be placed in front of the window, as long as it keeps off page 0. -/
theorem Kernel.Prepared.admits {config : Config} {built : PageTables} {k : Kernel}
    (h : Kernel.Prepared config built k) {page : Page} (hnull : page.number.toNat ≠ 0)
    (hfront : page.number.toNat < config.window.firstPage.number.toNat) :
    Viewport.Admits k.paging config.window page := by
  have hcount := config.one_le_processCount
  have hfirst := config.firstPage_bounds
  have hstart := config.toNat_windowStart
  obtain ⟨entry, hentry, -⟩ := h.identity page hnull (by omega)
  refine ⟨fun hzero => hnull (congrArg UInt32.toNat hzero), ?_, entry, hentry⟩
  rw [UInt32.le_iff_toNat_le, Page.toNat_start (by omega)]
  omega

theorem Simulated.places_of_admits {w : World Simulated} (henabled : w.kernel.pagingEnabled = true)
    {base : VirtAddr} (hadmits : ∀ page ∈ (Viewport.mk base).pages,
      Viewport.Admits w.kernel.paging w.kernel.config.window page) :
    ∃ w', (Call.placeViewport base).perform w = .ok (.placed (.ok ())) w' ∧
      w'.kernel.viewport = some ⟨base⟩ := by
  have hplace := Viewport.place_eq_ok fun page hpage => Viewport.admits_iff.mp (hadmits page hpage)
  have hreturns := Simulated.returns_placeViewport (m := w.board.machine) henabled hplace
  obtain ⟨w', hplaced⟩ := hreturns.ok rfl rfl
  have hkernel := (hreturns.eq_of_ok rfl rfl hplaced).2.1
  refine ⟨w', ?_, by rw [hkernel]⟩
  change EStateM.bind (KernelM.placeViewport base) _ w = _
  rw [EStateM.bind, hplaced]
  rfl

/-! ### Booting with a viewport that cannot be placed -/

namespace KernelM

variable {μ : Type} [Machine μ] {m m₁ : μ}

/-- The kernel of a boot before the replication, if it goes on without a viewport. -/
def withoutViewport (config : Config) (built : PageTables) (summary : BuildSummary) : Kernel :=
  { (Kernel.withTables { config := config } built summary).withPagingOn with
    refreshHook := some .redraw }

theorem returns_prepare_withoutViewport {config : Config} {base : PhysAddr} {built : PageTables}
    {summary : BuildSummary} (hbuild : PageTables.build base config.processCount =
      .ok (built, summary))
    (hactivate : Machine.activatePaging built.base m = .ok () m₁) {viewport : Option VirtAddr}
    (hrefused : ∀ addr, viewport = some addr →
      ∃ error, Viewport.place built addr config.window = .error error) :
    Returns (prepare base viewport) { config := config } m ()
      (withoutViewport config built summary) m₁ := by
  have hpaging : Returns enablePaging (Kernel.withTables { config := config } built summary) m ()
      ((Kernel.withTables { config := config } built summary).withPagingOn) m₁ :=
    returns_enablePaging rfl rfl hactivate
  cases viewport with
  | none => exact returns_prepare hbuild hpaging (returns_pure _)
  | some addr =>
      obtain ⟨error, hplace⟩ := hrefused addr rfl
      exact returns_prepare hbuild hpaging
        (returns_offerViewport (returns_placeViewport_refused hplace))

end KernelM

open KernelM

/-- On a machine with room and a number for the capture, all boots that go on without a viewport
come to one end, whatever they were offered. -/
theorem Simulated.exists_returns_boot_withoutViewport {config : Config} {base : PhysAddr}
    {built : PageTables} {summary : BuildSummary}
    (hbuild : PageTables.build base config.processCount = .ok (built, summary)) {m : Simulated}
    (hroom : m.HasRoom (config.processCount + 1)) (hcaptures : m.captures < 2 ^ 27) :
    ∃ outcome k m', ∀ viewport : Option VirtAddr,
      (∀ addr, viewport = some addr →
        ∃ error, Viewport.place built addr config.window = .error error) →
      Returns (boot base viewport) { config := config } m outcome k m' := by
  obtain ⟨_, _, hother, -, hentries⟩ :=
    PageTables.build_eq_ok config (PageTables.of_build_eq_ok hbuild).1
  cases hother.symm.trans hbuild
  have hprepared : Kernel.Prepared config built (withoutViewport config built summary) :=
    (Kernel.prepared_withPagingOn hentries).withHook _
  have hcount : config.processCount ≤ 8 := config.processCount_le
  rcases ends_replicate (m.rooted built.base) hprepared.up with
    ⟨outcome, k, m', hreplicate, heffect⟩ | ⟨_, _, _, -, hcapture | hnoRoom, -⟩
  · refine ⟨outcome, k, m', fun viewport hrefused => ?_⟩
    apply KernelM.ends_boot (returns_prepare_withoutViewport hbuild rfl hrefused) hreplicate
    have hactive := (hprepared.up.step heffect.step).active_lt
    rw [heffect.step.config_eq] at hactive
    change k.active < config.processCount at hactive
    omega
  · obtain ⟨_, hctx⟩ := @capturedContext_eq_ok (m.captures + 1) hcaptures
    cases hctx.symm.trans hcapture
  · exact absurd hroom hnoRoom

/-- Placing a viewport is decided before it acts: the answer depends on its four pages alone, as
`Placing` says, for any tables, any address and any window. So a boot of an accepted configuration
ends whatever address it is offered, and where the viewport is refused it ends with the kernel and
the machine of a boot that is offered none. A later refusal leaves the kernel, with the viewport
that it has, and its machine as they were. -/
theorem viewport_placed_or_refused {base : PhysAddr} (hbase : base.isPageAligned = true)
    {config : Config} {m : Simulated} (hroom : m.HasRoom (config.processCount + 1))
    (hcaptures : m.captures < 2 ^ 27) :
    (∀ s addr window, Viewport.Placing s addr window) ∧
    (∀ addr : VirtAddr, ∃ built summary outcome k m',
      PageTables.build base config.processCount = .ok (built, summary) ∧
      Returns (boot base (some addr)) { config := config } m outcome k m' ∧
      ((∃ error, Viewport.place built addr config.window = .error error) →
        Returns (boot base none) { config := config } m outcome k m')) ∧
    ∀ (μ : Type) [Machine μ] (k : Kernel) (m : μ) (addr : VirtAddr) (error : MappingError),
      Viewport.place k.paging addr k.config.window = .error error →
        Returns (placeViewport addr) k m (.error error) k m := by
  refine ⟨Viewport.placing, fun addr => ?_, fun _ _ _ _ _ _ => returns_placeViewport_refused⟩
  obtain ⟨built, summary, hbuild, -⟩ := PageTables.build_eq_ok config hbase
  rcases Viewport.place_cases built addr config.window with ⟨error, hrefused⟩ | ⟨-, hplaced⟩
  · obtain ⟨outcome, k, m', hboot⟩ :=
      Simulated.exists_returns_boot_withoutViewport hbuild hroom hcaptures
    have hoffered : Returns (boot base (some addr)) { config := config } m outcome k m' := by
      apply hboot
      rintro _ ⟨⟩
      exact ⟨error, hrefused⟩
    have hnone : Returns (boot base none) { config := config } m outcome k m' := by
      apply hboot
      rintro _ ⟨⟩
    exact ⟨built, summary, outcome, k, m', hbuild, hoffered, fun _ => hnone⟩
  · obtain ⟨outcome, k, m', hboot⟩ :=
      Simulated.exists_returns_boot config hbase (some addr) hroom hcaptures
    refine ⟨built, summary, outcome, k, m', hbuild, hboot, ?_⟩
    rintro ⟨error, hrefused⟩
    cases hplaced.symm.trans hrefused

/-- Offered the start of the process window, a boot goes on without a viewport. -/
theorem viewport_placed_or_refused_halves :
    (Simulated.new 2).HasRoom (Config.halves.processCount + 1) ∧
    (Simulated.new 2).captures < 2 ^ 27 ∧
    ∃ built summary outcome k m',
      PageTables.build ⟨0x90000⟩ Config.halves.processCount = .ok (built, summary) ∧
      Viewport.place built ⟨0x180000⟩ Config.halves.window = .error (.overlapsWindow ⟨0x180⟩) ∧
      Returns (boot ⟨0x90000⟩ (some ⟨0x180000⟩)) { config := .halves } (Simulated.new 2) outcome k
        m' ∧
      Returns (boot ⟨0x90000⟩ none) { config := .halves } (Simulated.new 2) outcome k m' := by
  have hroom : (Simulated.new 2).HasRoom (Config.halves.processCount + 1) := Simulated.hasRoom_new 2
  have hcaptures : (Simulated.new 2).captures < 2 ^ 27 := Nat.two_pow_pos 27
  obtain ⟨hplacing, hboots, -⟩ :=
    @viewport_placed_or_refused ⟨0x90000⟩ rfl .halves (Simulated.new 2) hroom hcaptures
  obtain ⟨built, summary, outcome, k, m', hbuild, hoffered, hnone⟩ := hboots ⟨0x180000⟩
  have hrefused : Viewport.place built ⟨0x180000⟩ Config.halves.window =
      .error (.overlapsWindow ⟨0x180⟩) := by
    apply ((hplacing built ⟨0x180000⟩ Config.halves.window).refused_iff _).mpr
    exact ⟨[], ⟨0x180⟩, _, rfl, List.forall_mem_nil _, .overlaps (by decide) (by decide)⟩
  exact ⟨hroom, hcaptures, built, summary, outcome, k, m', hbuild, hrefused, hoffered,
    hnone ⟨_, hrefused⟩⟩

end SlotKernel

import SlotKernel.Proofs.Pointing

/-!
Where the viewport is said to be. Two answers tell: the base is the address that the viewport was
placed at, and a mapping answers with an address of its own. A placement looks at the page of its
address only, so it also accepts an address inside a page; the pages, and with them the answers of a
mapping, then start below the base. Both tell the same exactly for a base where a page starts, and
only from such a base on do the bytes of the viewport lie in its pages to the last one.
-/

namespace SlotKernel

theorem VirtAddr.toNat_offset (addr : VirtAddr) : addr.offset.toNat = addr.val.toNat % 4096 := by
  have hmask : UInt32.toNat (pageSize - 1) = 2 ^ 12 - 1 := rfl
  rw [VirtAddr.offset, UInt32.toNat_and, hmask, Nat.and_two_pow_sub_one_eq_mod]

theorem Config.contains_iff (config : Config) (addr : VirtAddr) :
    config.window.contains addr = true ↔ addr.page ∈ config.window.pages :=
  Window.contains_iff_page_mem config.window_aligned config.start_lt_ceiling addr

namespace Viewport

/-- The bytes of a viewport. -/
def byteCount : Nat :=
  pageCount.toNat * pageSize.toNat

/-- The physical address that is to show at the base. -/
def shownAtBase (view : Viewport) (phys : PhysAddr) : PhysAddr :=
  ⟨phys.alignDown.val + view.base.offset⟩

variable {view : Viewport} {phys : PhysAddr}

theorem byteCount_eq : byteCount = 16384 :=
  rfl

theorem toNat_shownAtBase (view : Viewport) (phys : PhysAddr) :
    (view.shownAtBase phys).val.toNat = phys.alignDown.val.toNat + view.base.val.toNat % 4096 := by
  have hdown := phys.toNat_alignDown
  have hphys := phys.val.toNat_lt
  have hoffset := view.base.toNat_offset
  rw [shownAtBase, UInt32.toNat_add, hoffset]
  omega

/-- A byte from the base on lies in the pages as long as it and the offset of the base stay within
their bytes. -/
theorem page_add?_mem_iff {n : UInt32} {virt : VirtAddr} (hadd : view.base.add? n = some virt) :
    virt.page ∈ view.pages ↔ view.base.val.toNat % 4096 + n.toNat < byteCount := by
  rw [VirtAddr.add?, Option.map_eq_some_iff] at hadd
  obtain ⟨word, hword, rfl⟩ := hadd
  have hsum := Word.toNat_of_add? hword
  rw [mem_pages, VirtAddr.number_page, hsum, byteCount_eq]
  omega

end Viewport

/-- The pages show the same frames for every address of one frame, so the base shows the address of
that frame that has its offset, and the bytes after it what follows. -/
theorem PageTables.Repointed.resolve?_base {s s' : PageTables} {view : Viewport} {phys : PhysAddr}
    (h : s.Repointed view phys s') {n : UInt32}
    (hn : view.base.val.toNat % 4096 + n.toNat < Viewport.byteCount) :
    ∃ virt target, view.base.add? n = some virt ∧ s'.resolve? virt = some target ∧
      target.val.toNat = phys.alignDown.val.toNat + view.base.val.toNat % 4096 + n.toNat := by
  have hdown := phys.toNat_alignDown
  have hatBase := view.toNat_shownAtBase phys
  have hcount := Viewport.byteCount_eq
  have hbase : s.Repointed view (view.shownAtBase phys) s' := by
    refine ⟨fun page i hitem => ?_, h.outside, h.skeleton⟩
    have hsame : (view.shownAtBase phys).val.toNat / 4096 = phys.val.toNat / 4096 := by omega
    rw [hsame]
    exact h.inside page i hitem
  have hstart : view.base.val.toNat = 4096 * (view.base.val.toNat / 4096) +
      (view.shownAtBase phys).val.toNat % 4096 := by omega
  have hfits : (view.shownAtBase phys).val.toNat % 4096 + n.toNat < 16384 := by omega
  obtain ⟨virt, target, hvirt, htarget, hresolve⟩ := hbase.resolve?_eq hstart hfits
  rw [PhysAddr.add?, Option.map_eq_some_iff] at htarget
  obtain ⟨word, hword, rfl⟩ := htarget
  refine ⟨virt, _, hvirt, hresolve, ?_⟩
  rw [Word.toNat_of_add? hword, hatBase]

/-- What a kernel says of its viewport once an address was mapped and answered with another, and how
much of it is so: the base, the bytes from it on, and the answer. -/
structure Kernel.Advertises (k : Kernel) (view : Viewport) (phys : PhysAddr) (addr : VirtAddr) :
    Prop where
  advertised : k.viewport = some view
  answer_eq : addr.val.toNat = 4096 * (view.base.val.toNat / 4096) + phys.val.toNat % 4096
  answer_iff : addr.val.toNat = view.base.val.toNat + phys.val.toNat % 4096 ↔
    view.base.isPageAligned = true
  /-- As many bytes as the pages have from the base on show the memory behind the address. -/
  shown : ∀ n : UInt32, view.base.val.toNat % 4096 + n.toNat < Viewport.byteCount →
    ∃ virt target, view.base.add? n = some virt ∧ virt.page ∈ view.pages ∧
      k.config.window.contains virt = false ∧ k.paging.resolve? virt = some target ∧
      target.val.toNat = phys.alignDown.val.toNat + view.base.val.toNat % 4096 + n.toNat
  /-- The others lie behind the pages. -/
  beyond : ∀ n : UInt32, Viewport.byteCount ≤ view.base.val.toNat % 4096 + n.toNat →
    ∀ virt, view.base.add? n = some virt → virt.page ∉ view.pages
  whole_iff : (∀ n : UInt32, n.toNat < Viewport.byteCount →
      ∃ virt, view.base.add? n = some virt ∧ virt.page ∈ view.pages) ↔
    view.base.isPageAligned = true

namespace Kernel

variable {k : Kernel} {view : Viewport} {phys : PhysAddr} {addr : VirtAddr} {s : PageTables}

theorem Advertises.of_repointed (hview : k.viewport = some view)
    (hoff : ∀ page ∈ view.pages, page ∉ k.config.window.pages)
    (hrepointed : s.Repointed view phys k.paging)
    (haddr : addr.val.toNat = 4096 * (view.base.val.toNat / 4096) + phys.val.toNat % 4096) :
    k.Advertises view phys addr := by
  have haligned := view.base.isPageAligned_iff
  have hcount := Viewport.byteCount_eq
  refine ⟨hview, haddr, ?_, ?_, ?_, ?_⟩
  · rw [haligned, haddr]
    omega
  · intro n hn
    obtain ⟨virt, target, hvirt, hresolve, htarget⟩ := hrepointed.resolve?_base hn
    have hmem := (Viewport.page_add?_mem_iff hvirt).mpr hn
    refine ⟨virt, target, hvirt, hmem, ?_, hresolve, htarget⟩
    rw [← Bool.not_eq_true, k.config.contains_iff]
    exact hoff _ hmem
  · intro n hn virt hvirt hmem
    have hlt := (Viewport.page_add?_mem_iff hvirt).mp hmem
    omega
  · rw [haligned]
    constructor
    · intro hwhole
      obtain ⟨virt, hvirt, hmem⟩ := hwhole 16383 (by decide)
      have hlt := (Viewport.page_add?_mem_iff hvirt).mp hmem
      change _ + 16383 < _ at hlt
      omega
    · intro hzero n hn
      obtain ⟨virt, _, hvirt, -⟩ := hrepointed.resolve?_base (n := n) (by omega)
      exact ⟨virt, hvirt, (Viewport.page_add?_mem_iff hvirt).mpr (by omega)⟩

end Kernel

open KernelM

/-- A mapping that is done leaves a kernel that advertises the viewport which it had before. -/
theorem Simulated.advertises_of_mapped {w w' : World Simulated} (hup : w.kernel.Up)
    (huncached : w.kernel.ViewUncached) {view : Viewport} (hview : w.kernel.viewport = some view)
    {phys : PhysAddr} {addr : VirtAddr}
    (hmap : (Call.mapPhysical phys).perform w = .ok (.mapped (.ok addr)) w') :
    w'.kernel.Advertises view phys addr := by
  have hperform : ∀ {answer k' m'}, Returns (mapPhysical phys) w.kernel w.board.machine answer k'
      m' → answer = .ok addr ∧ w'.kernel = k' := by
    intro answer k' m' hreturns
    obtain ⟨hanswer, hkernel, -⟩ :=
      (hreturns.bind (returns_pure (Answer.mapped answer))).eq_of_ok rfl rfl hmap
    cases hanswer
    exact ⟨rfl, hkernel⟩
  rcases UInt32.lt_or_le phys.val 0xffffd000 with hphys | hphys
  · obtain ⟨_, paging, hpointed, hreturns⟩ :=
      Simulated.returns_mapPhysical_pointed hview huncached hup hphys w.board.machine
    obtain ⟨hanswer, hkernel⟩ := hperform hreturns
    cases hanswer
    rw [hkernel]
    exact .of_repointed hview (fun page hpage => (hup.viewport view hview page hpage).2)
      hpointed.repointed hpointed.addr_eq
  · obtain ⟨hanswer, -⟩ :=
      hperform (Simulated.returns_mapPhysical_beyond hview huncached hphys w.board.machine)
    cases hanswer

/-- A placement that is done makes its address the base, aligned or not. -/
theorem Simulated.viewport_of_placed {w w' : World Simulated} (hup : w.kernel.Up) {base : VirtAddr}
    (hplace : (Call.placeViewport base).perform w = .ok (.placed (.ok ())) w') :
    w'.kernel.viewport = some ⟨base⟩ := by
  have heffect := effect_of_perform hup hplace
  generalize w'.kernel = k', w'.board.machine = m' at heffect ⊢
  cases heffect
  rfl

/-- The shell is told the base. -/
theorem Shell.viewportBase_of_installed {system : System Simulated} (hfree : system.locked = false)
    {k : Kernel} (hinstalled : system.installed = some k) {view : Viewport}
    (hview : k.viewport = some view) :
    ∃ system', Shell.viewportBase system = .ok view.base.val system' := by
  have hlocked : SystemM.withKernel
      (do return (← KernelM.kernel).viewport.map (·.base) : KernelM Simulated _) system =
        .ok (some (k.viewport.map (·.base))) (system.withWorld ⟨k, system.board, system.tracing⟩) :=
    SystemM.withKernel_free hfree hinstalled _
  have hservice : SystemM.viewportBase system =
      .ok (k.viewport.map (·.base)) (system.withWorld ⟨k, system.board, system.tracing⟩) :=
    bind_of_ok hlocked
  rw [hview] at hservice
  exact ⟨_, bind_of_ok hservice⟩

/-- The viewport of a session is where its base says exactly if a page starts there. After a boot
and any calls a placement that is done makes its address the base, which is what the shell is told.
A mapping that is done then answers with the address that has the distance of the requested one in
its frame, from where the page of the base starts; that is the base itself, and the bytes from the
base on are those of the pages, for an aligned base and for no other. The bytes of the pages from
the base on lie outside the process window and show what follows the frame of the address. -/
theorem viewport_advertised_iff_aligned {config : Config} {base : PhysAddr}
    {viewport : Option VirtAddr} {m : Simulated} {console : Console} {tracing : Bool}
    {outcome : ReplicateOutcome} {start : World Simulated}
    (hboot : boot base viewport ⟨{ config := config }, ⟨m, console⟩, tracing⟩ = .ok outcome start)
    {turns : List Turn} {w : World Simulated} (hsession : Session start turns w) :
    (∀ addr w', (Call.placeViewport addr).perform w = .ok (.placed (.ok ())) w' →
      w'.kernel.viewport = some ⟨addr⟩) ∧
    ∀ view, w.kernel.viewport = some view →
      (∀ system : System Simulated, system.locked = false → system.installed = some w.kernel →
        ∃ system', Shell.viewportBase system = .ok view.base.val system') ∧
      ∀ phys addr w', (Call.mapPhysical phys).perform w = .ok (.mapped (.ok addr)) w' →
        w'.kernel.Advertises view phys addr := by
  obtain ⟨hup, huncached⟩ := Session.viewUncached_of_boot hboot hsession
  refine ⟨fun addr w' => Simulated.viewport_of_placed hup, fun view hview => ⟨?_, ?_⟩⟩
  · intro system hfree hinstalled
    exact Shell.viewportBase_of_installed hfree hinstalled hview
  · intro phys addr w' hmap
    exact Simulated.advertises_of_mapped hup huncached hview hmap

/-- Two processes boot, a viewport is placed in front of their window, and it can be pointed. -/
theorem Simulated.mapped_halves {addr : VirtAddr} (hnull : 0 < addr.val.toNat / 4096)
    (hfront : addr.val.toNat / 4096 + 4 ≤ 0x180) {phys : PhysAddr}
    (hphys : phys.val < 0xffffd000) :
    ∃ start placed shown w, boot ⟨0x90000⟩ (some ⟨0x108000⟩)
        ⟨{ config := .halves }, ⟨Simulated.new 2, .ready⟩, false⟩ = .ok (.forked 1) start ∧
      (Call.placeViewport addr).perform start = .ok (.placed (.ok ())) placed ∧
      placed.kernel.viewport = some ⟨addr⟩ ∧
      (Call.mapPhysical phys).perform placed = .ok (.mapped (.ok shown)) w ∧
      w.kernel.Advertises ⟨addr⟩ phys shown := by
  obtain ⟨start, placed, hboot, hplaced, hview, hup, huncached⟩ :=
    Simulated.placed_halves hnull hfront
  obtain ⟨shown, _, -, hreturns⟩ :=
    Simulated.returns_mapPhysical_pointed hview huncached hup hphys placed.board.machine
  have hperform : Returns (Call.mapPhysical phys).perform placed.kernel placed.board.machine
      (.mapped (.ok shown)) _ _ := hreturns.bind (returns_pure _)
  obtain ⟨w, hmap⟩ := hperform.ok rfl rfl
  exact ⟨start, placed, shown, w, hboot, hplaced, hview, hmap,
    Simulated.advertises_of_mapped hup huncached hview hmap⟩

/-- A viewport of theirs that starts where a page does is where it is said to be. -/
theorem viewport_advertised_iff_aligned_halves :
    ∃ start placed addr w, boot ⟨0x90000⟩ (some ⟨0x108000⟩)
        ⟨{ config := .halves }, ⟨Simulated.new 2, .ready⟩, false⟩ = .ok (.forked 1) start ∧
      (Call.placeViewport ⟨0x108000⟩).perform start = .ok (.placed (.ok ())) placed ∧
      (Call.mapPhysical ⟨0xa0010⟩).perform placed = .ok (.mapped (.ok addr)) w ∧
      w.kernel.Advertises ⟨⟨0x108000⟩⟩ ⟨0xa0010⟩ addr ∧ addr = ⟨0x108010⟩ := by
  obtain ⟨start, placed, addr, w, hboot, hplaced, hview, hmap, -⟩ :=
    @Simulated.mapped_halves ⟨0x108000⟩ (by decide) (by decide) ⟨0xa0010⟩ (by decide)
  have hsession := Session.called .started hplaced
  have hadvertises := ((viewport_advertised_iff_aligned hboot hsession).2 _ hview).2 _ _ _ hmap
  have haddr := hadvertises.answer_eq
  refine ⟨start, placed, addr, w, hboot, hplaced, hmap, hadvertises, ?_⟩
  exact VirtAddr.mk.injEq _ _ ▸ UInt32.toNat_inj.mp haddr

/-- A viewport of theirs that was placed inside a page is not: a mapping answers with an address
below the base, and the last byte from the base on lies behind the pages. -/
theorem viewport_misadvertised_halves :
    ∃ start placed w, boot ⟨0x90000⟩ (some ⟨0x108000⟩)
        ⟨{ config := .halves }, ⟨Simulated.new 2, .ready⟩, false⟩ = .ok (.forked 1) start ∧
      (Call.placeViewport ⟨0x108123⟩).perform start = .ok (.placed (.ok ())) placed ∧
      placed.kernel.viewport = some ⟨⟨0x108123⟩⟩ ∧
      (Call.mapPhysical ⟨0xa0010⟩).perform placed = .ok (.mapped (.ok ⟨0x108010⟩)) w ∧
      w.kernel.viewport = some ⟨⟨0x108123⟩⟩ ∧
      (0x108010 : UInt32) ≠ 0x108123 + 0xa0010 % 4096 ∧
      VirtAddr.page ⟨0x108123 + 16383⟩ ∉ (Viewport.mk ⟨0x108123⟩).pages := by
  obtain ⟨start, placed, addr, w, hboot, hplaced, hview, hmap, hadvertises⟩ :=
    @Simulated.mapped_halves ⟨0x108123⟩ (by decide) (by decide) ⟨0xa0010⟩ (by decide)
  have haddr : addr = ⟨0x108010⟩ := by
    exact VirtAddr.mk.injEq _ _ ▸ UInt32.toNat_inj.mp hadvertises.answer_eq
  subst haddr
  refine ⟨start, placed, w, hboot, hplaced, hview, hmap, hadvertises.advertised, by decide, ?_⟩
  exact hadvertises.beyond 16383 (by decide) _ rfl

end SlotKernel

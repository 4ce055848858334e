import SlotKernel.Proofs.PageActions
import SlotKernel.Proofs.Placement
import SlotKernel.Proofs.Refusals
import SlotKernel.Services.Shell

/-!
Pointing the viewport. All four targets are found before the first entry is written, and then no
write is refused, so a mapping rewrites four entries or none, in any tables. In a session the pages
of the viewport always have entries: what decides is whether the four frames from the address on
exist. If they do, each byte of the four pages that is not in front of the address shows the byte of
physical memory at the same distance, and the pages stay writable and uncached.
-/

namespace SlotKernel

namespace Viewport

variable {s : PageTables} {view : Viewport} {phys : PhysAddr} {page : Page} {i : Nat}

/-! ### The four targets -/

theorem mem_pages {page : Page} : page ∈ view.pages ↔
    view.base.val.toNat / 4096 ≤ page.number.toNat ∧
      page.number.toNat < view.base.val.toNat / 4096 + 4 := by
  have hbase := view.base.number_page_lt
  have hcount : UInt32.toNat pageCount = 4 := rfl
  have hfits : view.base.page.number.toNat + pageCount.toNat ≤ UInt32.size := by
    simp only [UInt32.size]
    omega
  rw [pages, Page.mem_span hfits, hcount, view.base.number_page]

theorem toNat_number_add (view : Viewport) (hi : i < 4) :
    (view.base.page.number + UInt32.ofNat i).toNat = view.base.val.toNat / 4096 + i := by
  have hlt := view.base.number_page_lt
  rw [UInt32.toNat_add, UInt32.toNat_ofNat', ← view.base.number_page]
  omega

theorem mem_zipIdx_pages : (page, i) ∈ view.pages.zipIdx ↔
    i < 4 ∧ page.number.toNat = view.base.val.toNat / 4096 + i := by
  have hcount : UInt32.toNat pageCount = 4 := rfl
  rw [List.mk_mem_zipIdx_iff_getElem?, pages, Page.span, hcount, List.getElem?_map,
    Option.map_eq_some_iff]
  constructor
  · rintro ⟨j, hj, rfl⟩
    obtain ⟨hi, rfl⟩ := List.getElem?_eq_some_iff.mp hj
    rw [List.length_range] at hi
    rw [List.getElem_range]
    exact ⟨hi, view.toNat_number_add hi⟩
  · rintro ⟨hi, hpage⟩
    have hnumber := (view.toNat_number_add hi).trans hpage.symm
    exact ⟨i, List.getElem?_range hi, Page.eq_of_number_eq hnumber⟩

theorem exists_mem_zipIdx_pages (view : Viewport) (hi : i < 4) :
    ∃ page, (page, i) ∈ view.pages.zipIdx :=
  ⟨_, mem_zipIdx_pages.mpr ⟨hi, view.toNat_number_add hi⟩⟩

/-- The frame at a place from the address on, if it is one of the `2 ^ 20` that there are. -/
theorem add?_alignDown (phys : PhysAddr) (hi : i < 4) :
    phys.alignDown.add? (UInt32.ofNat i * pageSize) =
      if phys.val.toNat / 4096 + i < 2 ^ 20 then some (target phys.alignDown i) else none := by
  have hsize : UInt32.toNat pageSize = 4096 := rfl
  have hdown := phys.toNat_alignDown
  have hdistance : (UInt32.ofNat i * pageSize).toNat = 4096 * i := by
    rw [UInt32.toNat_mul, UInt32.toNat_ofNat', hsize]
    omega
  have hfits : phys.alignDown.val.toNat + (UInt32.ofNat i * pageSize).toNat < UInt32.size ↔
      phys.val.toNat / 4096 + i < 2 ^ 20 := by
    rw [hdown, hdistance]
    simp only [UInt32.size]
    omega
  rw [PhysAddr.add?, Word.add?]
  simp only [hfits]
  split_ifs <;> rfl

theorem number_frame_target (hfits : phys.val.toNat / 4096 + i < 2 ^ 20) :
    (target phys.alignDown i).frame.number.toNat = phys.val.toNat / 4096 + i := by
  have hsize : UInt32.toNat pageSize = 4096 := rfl
  have hdown := phys.toNat_alignDown
  rw [PhysAddr.number_frame, target, UInt32.toNat_add, UInt32.toNat_mul, UInt32.toNat_ofNat',
    hsize, hdown]
  omega

section Targets

variable (hmapped : ∀ page ∈ view.pages, ∃ entry, s.entry? page = some entry)

include hmapped

theorem findTarget_alignDown {item : Page × Nat} (hitem : item ∈ view.pages.zipIdx)
    (phys : PhysAddr) : findTarget s phys.alignDown item =
      if phys.val.toNat / 4096 + item.2 < 2 ^ 20 then .ok (item.1, target phys.alignDown item.2)
      else .error (.frameOutOfRange phys.alignDown) := by
  obtain ⟨entry, hentry⟩ := hmapped item.1 (List.fst_mem_of_mem_zipIdx hitem)
  have hadd := add?_alignDown phys (mem_zipIdx_pages.mp hitem).1
  split_ifs at hadd ⊢
  · rw [findTarget_of_some hadd, hentry]
    rfl
  · exact findTarget_of_none hadd

/-- Where the last of the four frames does not exist, no other reason comes before that. -/
theorem targets_of_beyond (hbeyond : 2 ^ 20 ≤ phys.val.toNat / 4096 + 3) :
    view.targets s phys.alignDown = .error (.frameOutOfRange phys.alignDown) := by
  rw [targets_eq_mapM]
  apply mapM_eq_error
  · intro item hitem
    rw [findTarget_alignDown hmapped hitem]
    split_ifs
    · exact Or.inl ⟨_, rfl⟩
    · exact Or.inr rfl
  · obtain ⟨page, hlast⟩ := view.exists_mem_zipIdx_pages (by decide : 3 < 4)
    exact ⟨_, hlast, (findTarget_alignDown hmapped hlast phys).trans (if_neg (by omega))⟩

end Targets

theorem exists_targets_iff : (∃ found, view.targets s phys.alignDown = .ok found) ↔
    (∀ page ∈ view.pages, ∃ entry, s.entry? page = some entry) ∧
      phys.val.toNat / 4096 + 3 < 2 ^ 20 := by
  constructor
  · rintro ⟨found, h⟩
    have hitems := (targets_eq_ok h).2
    constructor
    · intro page hpage
      obtain ⟨item, hitem, rfl⟩ := Viewport.exists_item hpage
      exact Option.isSome_iff_exists.mp (hitems item hitem).1
    · obtain ⟨page, hlast⟩ := view.exists_mem_zipIdx_pages (by decide : 3 < 4)
      have hadd := (add?_alignDown phys (by decide : 3 < 4)).symm.trans (hitems _ hlast).2
      by_contra hbeyond
      rw [if_neg hbeyond] at hadd
      cases hadd
  · rintro ⟨hmapped, hfits⟩
    rw [targets_eq_mapM]
    apply exists_mapM_eq_ok
    intro item hitem
    have hi := (mem_zipIdx_pages.mp hitem).1
    exact ⟨_, (findTarget_alignDown hmapped hitem phys).trans (if_pos (by omega))⟩

/-- Point a viewport in tables that are changed in place. -/
def mapInPlace (view : Viewport) (phys : PhysAddr) : EStateM MappingError PageTables PageRange := do
  let targets ← view.pages.zipIdx.mapM fun item =>
    PageTables.look (findTarget · phys.alignDown item)
  targets.forM fun item => PageTables.change (·.mapPhysicalPage item.1.start item.2)
  return view.range

/-- In place a mapping comes to the same end, and a refused one has changed nothing. -/
theorem mapInPlace_eq (hnull : ∀ page ∈ view.pages, page.number ≠ 0) (phys : PhysAddr)
    (s : PageTables) : mapInPlace view phys s =
      match view.map s phys with
      | .ok (s', range) => .ok range s'
      | .error error => .error error s := by
  change ((view.pages.zipIdx.mapM fun item =>
    PageTables.look (findTarget · phys.alignDown item)) >>= fun targets =>
      (targets.forM fun item => PageTables.change (·.mapPhysicalPage item.1.start item.2)) >>=
        fun _ => pure view.range) s = _
  rw [PageTables.mapM_look (findTarget · phys.alignDown)]
  cases htargets : view.targets s phys.alignDown with
  | error error =>
      rw [bind_of_error (PageTables.look_of_error htargets), map, htargets]
      rfl
  | ok found =>
      rw [bind_of_ok (PageTables.look_of_ok htargets),
        bind_of_ok (PageTables.forM_change (foldlM_mapPhysicalPage_eq_edit hnull htargets)),
        map_eq_ok hnull htargets]
      rfl

end Viewport

/-- The second structures are the first with the pages of a viewport present and writable, which are
the bits of `0x3`, and with the frames from that of an address on. No other word is changed. -/
structure PageTables.Repointed (s : PageTables) (view : Viewport) (phys : PhysAddr)
    (s' : PageTables) : Prop where
  inside : ∀ page i, (page, i) ∈ view.pages.zipIdx → ∃ before after : TableEntry,
    s.entry? page = some before ∧ s'.entry? page = some after ∧
      after.frame.number.toNat = phys.val.toNat / 4096 + i ∧
      after.raw &&& flagMask = (before.raw ||| 0x3) &&& flagMask
  outside : ∀ table index, pageAt table index ∉ view.pages →
    s'.entryAt table index = s.entryAt table index
  skeleton : s'.SameSkeleton s

namespace PageTables

variable {s s' : PageTables} {view : Viewport} {phys : PhysAddr}

theorem repointed_edit (hmapped : ∀ page ∈ view.pages, ∃ entry, s.entry? page = some entry)
    (hfits : phys.val.toNat / 4096 + 3 < 2 ^ 20) :
    s.Repointed view phys (s.edit (view.mapEdits phys)) where
  inside page i hitem := by
    obtain ⟨entry, hentry⟩ := hmapped page (List.fst_mem_of_mem_zipIdx hitem)
    have hi := (Viewport.mem_zipIdx_pages.mp hitem).1
    refine ⟨entry, _, hentry, (Viewport.entry?_edit_mapEdits hitem phys).trans
      (congrArg _ hentry), ?_, entry.flags_mapped _ _⟩
    rw [TableEntry.number_mapped, Viewport.number_frame_target (by omega)]
    omega
  outside table index hmem := by
    apply entryAt_edit_of_not_mem
    rwa [Viewport.pages_mapEdits]
  skeleton := s.sameSkeleton_edit _

theorem isPresent_of_flags {before after : TableEntry}
    (h : after.raw &&& flagMask = (before.raw ||| 0x3) &&& flagMask) : after.isPresent = true := by
  have hthree : UInt32.toNat 3 = 3 := rfl
  have hlow := congrArg UInt32.toNat h
  rw [toNat_and_flagMask, toNat_and_flagMask, UInt32.toNat_or, hthree] at hlow
  have hodd : (before.raw.toNat ||| 3) % 2 = 1 := Nat.or_mod_two_eq_one.mpr (Or.inr rfl)
  rw [TableEntry.isPresent_iff]
  omega

/-- From the address that was asked for to the end of the viewport, every byte is where it should
be. -/
theorem Repointed.resolve?_eq (h : s.Repointed view phys s') {addr : VirtAddr}
    (haddr : addr.val.toNat = 4096 * (view.base.val.toNat / 4096) + phys.val.toNat % 4096)
    {n : UInt32} (hn : phys.val.toNat % 4096 + n.toNat < 16384) :
    ∃ virt target, addr.add? n = some virt ∧ phys.add? n = some target ∧
      s'.resolve? virt = some target := by
  -- the page is that at the place of the byte, counted in pages from the start of the viewport
  obtain ⟨page, hitem⟩ := view.exists_mem_zipIdx_pages
    (by omega : (phys.val.toNat % 4096 + n.toNat) / 4096 < 4)
  have hpage := (Viewport.mem_zipIdx_pages.mp hitem).2
  obtain ⟨before, after, -, hafter, hframe, hflags⟩ := h.inside page _ hitem
  have hpageLt := number_lt_of_entry? hafter
  have hraw := after.raw.toNat_lt
  rw [after.number_frame] at hframe
  have hvirt : (addr.val + n).toNat = addr.val.toNat + n.toNat := by
    rw [UInt32.toNat_add]
    omega
  have htarget : (phys.val + n).toNat = phys.val.toNat + n.toNat := by
    rw [UInt32.toNat_add]
    omega
  refine ⟨⟨addr.val + n⟩, ⟨phys.val + n⟩, ?_, ?_, ?_⟩
  · rw [VirtAddr.add?, Word.add?, if_pos (by simp only [UInt32.size]; omega), Option.map_some]
  · rw [PhysAddr.add?, Word.add?, if_pos (by simp only [UInt32.size]; omega), Option.map_some]
  · have hsame : VirtAddr.page ⟨addr.val + n⟩ = page := by
      apply Page.eq_of_number_eq
      rw [VirtAddr.number_page, hvirt]
      omega
    rw [resolve?_of_present (by rw [hsame]; exact hafter) (isPresent_of_flags hflags)]
    have hoffset := toNat_and_flagMask (addr.val + n)
    rw [Option.some.injEq, PhysAddr.mk.injEq, ← UInt32.toNat_inj,
      toNat_frameMask_or (by rw [hoffset]; omega), hoffset, hvirt, htarget]
    omega

/-- A mapping changes all four entries of a viewport or none, also in other tables than those that
the viewport was placed in. -/
theorem repointed_or_same {placed placed' : PageTables} {addr : VirtAddr} {window : Window}
    (hplace : Viewport.place placed addr window = .ok (view, placed')) (s : PageTables)
    (phys : PhysAddr) :
    (∃ s', view.map s phys = .ok (s', view.range) ∧
      view.mapInPlace phys s = .ok view.range s' ∧ s.Repointed view phys s') ∨
    ∃ error, view.map s phys = .error error ∧ view.mapInPlace phys s = .error error s := by
  have hnull := Viewport.number_ne_zero_of_place hplace
  have hinPlace := Viewport.mapInPlace_eq hnull phys s
  cases htargets : view.targets s phys.alignDown with
  | error error =>
      have hmap : view.map s phys = .error error := by
        rw [Viewport.map, htargets]
        rfl
      rw [hmap] at hinPlace
      exact Or.inr ⟨error, hmap, hinPlace⟩
  | ok found =>
      obtain ⟨hmapped, hfits⟩ := Viewport.exists_targets_iff.mp ⟨found, htargets⟩
      have hmap := Viewport.map_eq_ok hnull htargets
      rw [hmap] at hinPlace
      exact Or.inl ⟨_, hmap, hinPlace, repointed_edit hmapped hfits⟩

end PageTables

/-! ### In a session -/

open KernelM

/-- With these tables the viewport of the kernel shows an address and what lies behind it, as far as
its four pages go. The answer is where the address can be seen. -/
structure Kernel.Pointed (k : Kernel) (view : Viewport) (phys : PhysAddr) (addr : VirtAddr)
    (paging : PageTables) : Prop where
  addr_eq : addr.val.toNat = 4096 * (view.base.val.toNat / 4096) + phys.val.toNat % 4096
  ne_zero : addr.val ≠ 0
  shows : ∀ n : UInt32, phys.val.toNat % 4096 + n.toNat < 16384 →
    ∃ virt target, addr.add? n = some virt ∧ phys.add? n = some target ∧
      paging.resolve? virt = some target
  attributes : ∀ page ∈ view.pages, ∃ entry, paging.entry? page = some entry ∧
    entry.flags.contains (.present ||| .writable ||| .cacheDisable) = true
  repointed : k.paging.Repointed view phys paging

/-- In front of this address there is room for the four frames of a viewport. -/
theorem number_add_lt_of_lt {phys : PhysAddr} (hphys : phys.val < 0xffffd000) :
    phys.val.toNat / 4096 + 3 < 2 ^ 20 := by
  have hlt := UInt32.lt_iff_toNat_lt.mp hphys
  change _ < 4096 * (2 ^ 20 - 3) at hlt
  omega

section Kernel

variable {k : Kernel} {view : Viewport} {phys : PhysAddr} (hview : k.viewport = some view)
  (huncached : k.ViewUncached)

include hview huncached

theorem Kernel.ViewUncached.mapped : ∀ page ∈ view.pages, ∃ entry,
    k.paging.entry? page = some entry := by
  intro page hpage
  obtain ⟨entry, hentry, -⟩ := huncached view hview page hpage
  exact ⟨entry, hentry⟩

theorem Simulated.returns_mapPhysical_beyond (hphys : 0xffffd000 ≤ phys.val) (m : Simulated) :
    Returns (mapPhysical phys) k m (.error (.frameOutOfRange phys.alignDown)) k m := by
  have hbeyond : 2 ^ 20 ≤ phys.val.toNat / 4096 + 3 := by
    have hle := UInt32.le_iff_toNat_le.mp hphys
    change 4096 * (2 ^ 20 - 3) ≤ _ at hle
    omega
  apply Simulated.returns_mapPhysical_refused hview
  rw [Viewport.map, Viewport.targets_of_beyond (huncached.mapped hview) hbeyond]
  rfl

theorem Simulated.returns_mapPhysical_within (hup : k.Up) (hphys : phys.val < 0xffffd000)
    (m : Simulated) :
    Returns (mapPhysical phys) k m
      (.ok ⟨view.range.first.start.val + (phys.val - phys.alignDown.val)⟩) (k.pointedAt view phys)
      (m.dropped view.pages) := by
  have hfits := number_add_lt_of_lt hphys
  obtain ⟨found, htargets⟩ := Viewport.exists_targets_iff.mpr ⟨huncached.mapped hview, hfits⟩
  have hnull : ∀ page ∈ view.pages, page.number ≠ 0 := fun page hpage =>
    (hup.viewport view hview page hpage).1
  exact Simulated.returns_mapPhysical hview (Viewport.map_eq_ok hnull htargets)

theorem Simulated.returns_mapPhysical_pointed (hup : k.Up) (hphys : phys.val < 0xffffd000)
    (m : Simulated) :
    ∃ addr paging, k.Pointed view phys addr paging ∧
      Returns (mapPhysical phys) k m (.ok addr)
        ((k.withPaging paging).pushEvent (.viewportMapped phys)) (m.dropped view.pages) := by
  have hrepointed :=
    PageTables.repointed_edit (huncached.mapped hview) (number_add_lt_of_lt hphys)
  have haddr := Word.toNat_of_add? (add?_viewport view phys)
  have hstart : view.range.first.start.val.toNat = 4096 * (view.base.val.toNat / 4096) := by
    change view.base.page.start.val.toNat = _
    rw [Page.toNat_start view.base.number_page_lt, view.base.number_page]
  rw [hstart, phys.toNat_sub_alignDown] at haddr
  refine ⟨_, _, ⟨haddr, ?_, fun n hn => hrepointed.resolve?_eq haddr hn, ?_, hrepointed⟩,
    Simulated.returns_mapPhysical_within hview huncached hup hphys m⟩
  · intro hzero
    obtain ⟨page, hitem⟩ := view.exists_mem_zipIdx_pages (by decide : 0 < 4)
    have hpage := (Viewport.mem_zipIdx_pages.mp hitem).2
    have hsum : _ = 0 := haddr.symm.trans (congrArg UInt32.toNat hzero)
    apply (hup.viewport view hview page (List.fst_mem_of_mem_zipIdx hitem)).1
    apply UInt32.toNat_inj.mp
    change _ = 0
    omega
  · intro page hpage
    obtain ⟨item, hitem, rfl⟩ := Viewport.exists_item hpage
    obtain ⟨entry, hentry, hcache⟩ :=
      huncached view hview item.1 (List.fst_mem_of_mem_zipIdx hitem)
    exact ⟨_, (Viewport.entry?_edit_mapEdits hitem phys).trans (congrArg _ hentry),
      TableEntry.contains_mapped hcache _⟩

end Kernel

theorem Session.viewUncached {start w : World Simulated} {turns : List Turn}
    (hup : start.kernel.Up) (hstart : start.kernel.ViewUncached)
    (hsession : Session start turns w) : w.kernel.ViewUncached := by
  apply hsession.invariant (fun _ w => w.kernel.ViewUncached) hup hstart
  · intro _ _ _ _ _ hup' ih heffect
    exact ih.step hup' heffect.step
  · intro _ _ ih
    exact ih

/-- After a boot and any calls the kernel is up, and the pages of its viewport are uncached. -/
theorem Session.viewUncached_of_boot {config : Config} {base : PhysAddr}
    {viewport : Option VirtAddr} {m : Simulated} {console : Console} {tracing : Bool}
    {outcome : ReplicateOutcome} {start w : World Simulated} {turns : List Turn}
    (hboot : boot base viewport ⟨{ config := config }, ⟨m, console⟩, tracing⟩ = .ok outcome start)
    (hsession : Session start turns w) : w.kernel.Up ∧ w.kernel.ViewUncached := by
  obtain ⟨_, _, k, pages, -, -, hprepared, heffect⟩ := Simulated.effect_of_boot hboot
  have hup := hprepared.up.step heffect.step
  exact ⟨hsession.up hup,
    hsession.viewUncached hup (hprepared.viewUncached.step hprepared.up heffect.step)⟩

/-- For the shell, a refused mapping is a zero. -/
theorem Shell.mapPhysical_of_returns {system : System Simulated} (hfree : system.locked = false)
    {k : Kernel} (hinstalled : system.installed = some k) {phys : PhysAddr}
    {answer : Except MappingError VirtAddr} {k' : Kernel} {m' : Simulated}
    (h : Returns (KernelM.mapPhysical phys) k system.board.machine answer k' m') :
    ∃ system', Shell.mapPhysical phys.val system =
      .ok (match answer with
        | .ok addr => addr.val
        | .error _ => 0) system' := by
  obtain ⟨w', hcall⟩ := h.ok (w := ⟨k, system.board, system.tracing⟩) rfl rfl
  have hlocked := SystemM.withKernel_free hfree hinstalled (KernelM.mapPhysical phys)
  rw [hcall] at hlocked
  have hservice : SystemM.mapPhysical phys system = .ok answer (system.withWorld w') :=
    bind_of_ok hlocked
  refine ⟨system.withWorld w', ?_⟩
  change EStateM.bind (SystemM.mapPhysical phys) _ system = _
  rw [EStateM.bind, hservice]
  cases answer <;> rfl

/-- So a zero tells the shell that nothing was mapped. -/
theorem Shell.mapPhysical_eq_zero_iff {k : Kernel} (hup : k.Up) (huncached : k.ViewUncached)
    {system : System Simulated} (hfree : system.locked = false)
    (hinstalled : system.installed = some k) (phys : PhysAddr) :
    ∃ word system', Shell.mapPhysical phys.val system = .ok word system' ∧
      (word = 0 ↔ k.viewport = none ∨ 0xffffd000 ≤ phys.val) := by
  cases hview : k.viewport with
  | none =>
      obtain ⟨system', hcall⟩ :=
        mapPhysical_of_returns hfree hinstalled (returns_mapPhysical_noViewport hview)
      exact ⟨0, system', hcall, by simp⟩
  | some view =>
      rcases UInt32.lt_or_le phys.val 0xffffd000 with hphys | hphys
      · obtain ⟨addr, paging, hpointed, hreturns⟩ := Simulated.returns_mapPhysical_pointed hview
          huncached hup hphys system.board.machine
        obtain ⟨system', hcall⟩ := mapPhysical_of_returns hfree hinstalled hreturns
        exact ⟨addr.val, system', hcall, by simp [hpointed.ne_zero, hphys]⟩
      · obtain ⟨system', hcall⟩ := mapPhysical_of_returns hfree hinstalled
          (Simulated.returns_mapPhysical_beyond hview huncached hphys _)
        exact ⟨0, system', hcall, by simp [hphys]⟩

/-- A viewport either shows an address and what follows it, or nothing changes. In any tables a
mapping rewrites the four entries of a viewport or none of them, wherever that viewport was placed.
After a boot and any calls it is done exactly when the four frames from the address on exist, and
then the answer is not zero; else a missing viewport or the address is to blame. -/
theorem viewport_shows_or_stays {config : Config} {base : PhysAddr} {viewport : Option VirtAddr}
    {m : Simulated} {console : Console} {tracing : Bool} {outcome : ReplicateOutcome}
    {start : World Simulated}
    (hboot : boot base viewport ⟨{ config := config }, ⟨m, console⟩, tracing⟩ = .ok outcome start)
    {turns : List Turn} {w : World Simulated} (hsession : Session start turns w)
    (phys : PhysAddr) :
    (w.kernel.viewport = none →
      Returns (mapPhysical phys) w.kernel w.board.machine (.error .noViewport) w.kernel
        w.board.machine) ∧
    (∀ view, w.kernel.viewport = some view →
      (phys.val < 0xffffd000 → ∃ addr paging, w.kernel.Pointed view phys addr paging ∧
        Returns (mapPhysical phys) w.kernel w.board.machine (.ok addr)
          ((w.kernel.withPaging paging).pushEvent (.viewportMapped phys))
          (w.board.machine.dropped view.pages)) ∧
      (0xffffd000 ≤ phys.val →
        Returns (mapPhysical phys) w.kernel w.board.machine
          (.error (.frameOutOfRange phys.alignDown)) w.kernel w.board.machine)) ∧
    (∀ system : System Simulated, system.locked = false → system.installed = some w.kernel →
      ∃ word system', Shell.mapPhysical phys.val system = .ok word system' ∧
        (word = 0 ↔ w.kernel.viewport = none ∨ 0xffffd000 ≤ phys.val)) ∧
    ∀ (placed placed' s : PageTables) (addr : VirtAddr) (window : Window) (view : Viewport),
      Viewport.place placed addr window = .ok (view, placed') →
        (∃ s', view.map s phys = .ok (s', view.range) ∧
          view.mapInPlace phys s = .ok view.range s' ∧ s.Repointed view phys s') ∨
        ∃ error, view.map s phys = .error error ∧ view.mapInPlace phys s = .error error s := by
  obtain ⟨_, _, k, pages, -, -, hprepared, heffect⟩ := Simulated.effect_of_boot hboot
  have hup := hprepared.up.step heffect.step
  have hup' := hsession.up hup
  have huncached := hsession.viewUncached hup
    (hprepared.viewUncached.step hprepared.up heffect.step)
  refine ⟨returns_mapPhysical_noViewport, fun view hview => ⟨?_, ?_⟩, ?_, ?_⟩
  · intro hphys
    exact Simulated.returns_mapPhysical_pointed hview huncached hup' hphys _
  · intro hphys
    exact Simulated.returns_mapPhysical_beyond hview huncached hphys _
  · intro system hfree hinstalled
    exact Shell.mapPhysical_eq_zero_iff hup' huncached hfree hinstalled phys
  · intro placed placed' s addr window view hplace
    exact PageTables.repointed_or_same hplace s phys

/-- Two processes boot, and a viewport can be placed anywhere in front of their window. -/
theorem Simulated.placed_halves {addr : VirtAddr} (hnull : 0 < addr.val.toNat / 4096)
    (hfront : addr.val.toNat / 4096 + 4 ≤ 0x180) :
    ∃ start placed, boot ⟨0x90000⟩ (some ⟨0x108000⟩)
        ⟨{ config := .halves }, ⟨Simulated.new 2, .ready⟩, false⟩ = .ok (.forked 1) start ∧
      (Call.placeViewport addr).perform start = .ok (.placed (.ok ())) placed ∧
      placed.kernel.viewport = some ⟨addr⟩ ∧ placed.kernel.Up ∧ placed.kernel.ViewUncached := by
  obtain ⟨start, hboot⟩ := Simulated.boot_halves
  obtain ⟨_, _, k, _, -, -, hprepared, heffect⟩ := Simulated.effect_of_boot hboot
  obtain ⟨seed, events, -, hseeded, -⟩ := heffect.forks
  have hup := hprepared.up.step heffect.step
  have hconfig : start.kernel.config = .halves := heffect.step.config_eq.trans hprepared.config_eq
  have hadmits : ∀ page ∈ (Viewport.mk addr).pages,
      Viewport.Admits start.kernel.paging start.kernel.config.window page := by
    intro page hpage
    have hnumber : addr.val.toNat / 4096 ≤ page.number.toNat ∧
        page.number.toNat < addr.val.toNat / 4096 + 4 := Viewport.mem_pages.mp hpage
    rw [hconfig, hseeded]
    exact hprepared.admits (by omega) (by change _ < 0x180; omega)
  obtain ⟨placed, hplaced, hview⟩ := Simulated.places_of_admits hup.pagingEnabled hadmits
  obtain ⟨hup', huncached⟩ := Session.viewUncached_of_boot hboot (.called .started hplaced)
  exact ⟨start, placed, hboot, hplaced, hview, hup', huncached⟩

/-- Two processes with a viewport in front of their window: it can be pointed at the display memory,
and not at the last frame but one. -/
theorem viewport_shows_or_stays_halves :
    ∃ start turns w, boot ⟨0x90000⟩ (some ⟨0x108000⟩)
        ⟨{ config := .halves }, ⟨Simulated.new 2, .ready⟩, false⟩ = .ok (.forked 1) start ∧
      Session start turns w ∧ w.kernel.viewport = some ⟨⟨0x108000⟩⟩ ∧
      (∃ addr paging, w.kernel.Pointed ⟨⟨0x108000⟩⟩ ⟨0xa0010⟩ addr paging ∧
        Returns (mapPhysical ⟨0xa0010⟩) w.kernel w.board.machine (.ok addr)
          ((w.kernel.withPaging paging).pushEvent (.viewportMapped ⟨0xa0010⟩))
          (w.board.machine.dropped (Viewport.pages ⟨⟨0x108000⟩⟩))) ∧
      Returns (mapPhysical ⟨0xffffe000⟩) w.kernel w.board.machine
        (.error (.frameOutOfRange ⟨0xffffe000⟩)) w.kernel w.board.machine := by
  obtain ⟨start, w, hboot, hplaced, hview, -⟩ :=
    @Simulated.placed_halves ⟨0x108000⟩ (by decide) (by decide)
  have hsession := Session.called .started hplaced
  have hscreen := (viewport_shows_or_stays hboot hsession ⟨0xa0010⟩).2.1 _ hview
  have hlast := (viewport_shows_or_stays hboot hsession ⟨0xffffe000⟩).2.1 _ hview
  exact ⟨start, _, w, hboot, hsession, hview, hscreen.1 (by decide), hlast.2 (by decide)⟩

end SlotKernel

import SlotKernel.Config
import SlotKernel.Paging.Viewport
import SlotKernel.Proofs.Entries
import Mathlib.Data.List.Nodup

/-!
Where pages and slots lie, in natural numbers. The window of an accepted configuration is a run of
whole pages inside the second MiB, a viewport is a run of four pages, and the frame of a window page
in slot `k` lies `256 * k` above the page's own number. None of the word arithmetic behind this
wraps, for any accepted configuration.
-/

namespace SlotKernel

/-- Reading the rows of a table in order reads its numbers in order. -/
theorem flatMap_range_rows {α : Type} (word : Nat → α) (width rows : Nat) :
    ((List.range rows).flatMap fun row => (List.range width).map fun i => word (width * row + i)) =
      (List.range (width * rows)).map word := by
  induction rows with
  | zero => rfl
  | succ rows ih =>
      rw [List.range_succ, List.flatMap_append, ih, Nat.mul_succ, List.range_add, List.map_append]
      simp only [List.flatMap_cons, List.flatMap_nil, List.append_nil, List.map_map]
      rfl

namespace Page

/-- A span that does not wrap numbers its pages one by one. -/
theorem numbers_span {first : Page} {count : Nat}
    (hfits : first.number.toNat + count ≤ UInt32.size) :
    (first.span count).map (·.number.toNat) = List.range' first.number.toNat count := by
  rw [Page.span, List.map_map, List.range'_eq_map_range]
  apply List.map_congr_left
  intro i hi
  have hlt : i < count := List.mem_range.mp hi
  have hfirst := first.number.toNat_lt
  simp only [UInt32.size] at hfits
  simp only [Function.comp_apply, UInt32.toNat_add, UInt32.toNat_ofNat']
  omega

theorem eq_of_number_eq {p q : Page} (h : p.number.toNat = q.number.toNat) : p = q := by
  cases p
  cases q
  simpa only [Page.mk.injEq] using UInt32.toNat_inj.mp h

theorem mem_span {first page : Page} {count : Nat}
    (hfits : first.number.toNat + count ≤ UInt32.size) :
    page ∈ first.span count ↔
      first.number.toNat ≤ page.number.toNat ∧ page.number.toNat < first.number.toNat + count := by
  rw [← List.mem_range'_1, ← numbers_span hfits, List.mem_map]
  constructor
  · intro hmem
    exact ⟨page, hmem, rfl⟩
  · rintro ⟨other, hmem, heq⟩
    rwa [← eq_of_number_eq heq]

theorem nodup_span {first : Page} {count : Nat}
    (hfits : first.number.toNat + count ≤ UInt32.size) : (first.span count).Nodup := by
  apply List.Nodup.of_map (·.number.toNat)
  rw [numbers_span hfits]
  exact List.nodup_range'

theorem toNat_start {page : Page} (h : page.number.toNat < 2 ^ 20) :
    page.start.val.toNat = 4096 * page.number.toNat := by
  have hshift : UInt32.toNat 12 % 32 = 12 := rfl
  simp only [Page.start, pageShift, UInt32.toNat_shiftLeft, hshift, Nat.shiftLeft_eq]
  omega

end Page

namespace VirtAddr

theorem number_page (addr : VirtAddr) : addr.page.number.toNat = addr.val.toNat / 4096 := by
  have hshift : UInt32.toNat 12 % 32 = 12 := rfl
  simp only [VirtAddr.page, pageShift, UInt32.toNat_shiftRight, hshift, Nat.shiftRight_eq_div_pow]

theorem number_page_lt (addr : VirtAddr) : addr.page.number.toNat < 2 ^ 20 := by
  have hlt := addr.val.toNat_lt
  rw [number_page]
  omega

end VirtAddr

theorem and_offsetMask_beq_zero_iff (word : UInt32) :
    (word &&& (pageSize - 1) == 0) = true ↔ word.toNat % 4096 = 0 := by
  have hmask : UInt32.toNat (pageSize - 1) = 2 ^ 12 - 1 := rfl
  have hzero : UInt32.toNat 0 = 0 := rfl
  rw [beq_iff_eq, ← UInt32.toNat_inj, UInt32.toNat_and, hmask, Nat.and_two_pow_sub_one_eq_mod,
    hzero]

theorem VirtAddr.isPageAligned_iff (addr : VirtAddr) :
    addr.isPageAligned = true ↔ addr.val.toNat % 4096 = 0 :=
  and_offsetMask_beq_zero_iff addr.val

theorem PhysAddr.isPageAligned_iff (addr : PhysAddr) :
    addr.isPageAligned = true ↔ addr.val.toNat % 4096 = 0 :=
  and_offsetMask_beq_zero_iff addr.val

theorem PhysAddr.number_frame (addr : PhysAddr) :
    addr.frame.number.toNat = addr.val.toNat / 4096 := by
  have hshift : UInt32.toNat 12 % 32 = 12 := rfl
  simp only [PhysAddr.frame, pageShift, UInt32.toNat_shiftRight, hshift, Nat.shiftRight_eq_div_pow]

/-- The check in front of a mapping by address never refuses. -/
theorem Frame.ofNumber?_frame (phys : PhysAddr) :
    Frame.ofNumber? phys.frame.number = some phys.frame := by
  have hmax : UInt32.toNat maxFrameNumber = 2 ^ 20 - 1 := rfl
  have hlt := phys.val.toNat_lt
  apply if_neg
  rw [gt_iff_lt, UInt32.lt_iff_toNat_lt, hmax, phys.number_frame]
  omega

theorem PhysAddr.toNat_alignDown (addr : PhysAddr) :
    addr.alignDown.val.toNat = 4096 * (addr.val.toNat / 4096) := by
  have hmask : ~~~(pageSize - 1) = frameMask := by decide
  rw [alignDown, hmask, toNat_and_frameMask]

theorem PhysAddr.toNat_sub_alignDown (addr : PhysAddr) :
    (addr.val - addr.alignDown.val).toNat = addr.val.toNat % 4096 := by
  have hdown := addr.toNat_alignDown
  rw [UInt32.toNat_sub_of_le _ _ (by rw [UInt32.le_iff_toNat_le]; omega), hdown]
  omega

theorem Page.page_start {page : Page} (h : page.number.toNat < 2 ^ 20) :
    page.start.page = page := by
  apply Page.eq_of_number_eq
  rw [VirtAddr.number_page, Page.toNat_start h]
  omega

theorem Viewport.nodup_pages (view : Viewport) : view.pages.Nodup := by
  have hbase := view.base.number_page_lt
  have hcount : UInt32.toNat Viewport.pageCount = 4 := rfl
  exact Page.nodup_span (by rw [hcount]; simp only [UInt32.size]; omega)

namespace Window

variable (window : Window)

/-- Wherever it starts, a window has at most the 512 pages below the ceiling. -/
theorem pageCount_le : window.pageCount.toNat ≤ 512 := by
  have hceiling : UInt32.toNat windowCeiling = 0x200000 := rfl
  have hsize : UInt32.toNat pageSize = 4096 := rfl
  have hbytes : window.byteCount.toNat ≤ 0x200000 := by
    rw [byteCount, Word.monus]
    cases hsub : Word.sub? windowCeiling window.start.val with
    | none => exact Nat.zero_le _
    | some bytes =>
        have hbytes := Word.toNat_of_sub? hsub
        rw [Option.getD_some]
        omega
  rw [pageCount, UInt32.toNat_div, hsize]
  omega

theorem firstPage_add_pageCount_le :
    window.firstPage.number.toNat + window.pageCount.toNat ≤ UInt32.size := by
  have hfirst : window.firstPage.number.toNat < 2 ^ 20 := window.start.number_page_lt
  have hcount := window.pageCount_le
  simp only [UInt32.size]
  omega

theorem numbers_pages :
    window.pages.map (·.number.toNat) =
      List.range' window.firstPage.number.toNat window.pageCount.toNat :=
  Page.numbers_span window.firstPage_add_pageCount_le

theorem nodup_pages : window.pages.Nodup :=
  Page.nodup_span window.firstPage_add_pageCount_le

/-- The pages come in ascending order. -/
theorem pairwise_pages : window.pages.Pairwise (·.number < ·.number) := by
  have hnumbers := window.numbers_pages ▸ List.pairwise_lt_range'
  refine (List.pairwise_map.mp hnumbers).imp ?_
  intro page other hlt
  exact UInt32.lt_iff_toNat_lt.mpr hlt

/-! ### Whole pages below the ceiling -/

section Whole

variable {window} (haligned : window.start.isPageAligned = true)
  (hbelow : window.start.val < windowCeiling)

include haligned in
theorem toNat_start : window.start.val.toNat = 4096 * window.firstPage.number.toNat := by
  have hstart := window.start.isPageAligned_iff.mp haligned
  rw [firstPage, VirtAddr.number_page]
  omega

include hbelow in
theorem start_add_byteCount : window.start.val.toNat + window.byteCount.toNat = 0x200000 := by
  have hceiling : UInt32.toNat windowCeiling = 0x200000 := rfl
  have hle : window.start.val ≤ windowCeiling := UInt32.le_of_lt hbelow
  have hle' := UInt32.le_iff_toNat_le.mp hle
  have hmonus : Word.monus windowCeiling window.start.val = windowCeiling - window.start.val := by
    rw [Word.monus, Word.sub?, if_pos hle', Option.getD_some]
  rw [byteCount, hmonus, UInt32.toNat_sub_of_le _ _ hle]
  omega

include haligned hbelow

theorem toNat_byteCount : window.byteCount.toNat = 4096 * window.pageCount.toNat := by
  have hstart := toNat_start haligned
  have hbytes := start_add_byteCount hbelow
  have hsize : UInt32.toNat pageSize = 4096 := rfl
  rw [pageCount, UInt32.toNat_div, hsize]
  omega

theorem firstPage_add_pageCount :
    window.firstPage.number.toNat + window.pageCount.toNat = 512 := by
  have hstart := toNat_start haligned
  have hbytes := start_add_byteCount hbelow
  have hcount := toNat_byteCount haligned hbelow
  omega

theorem mem_pages_iff {page : Page} : page ∈ window.pages ↔
    window.firstPage.number.toNat ≤ page.number.toNat ∧ page.number.toNat < 512 := by
  rw [← firstPage_add_pageCount haligned hbelow]
  exact Page.mem_span window.firstPage_add_pageCount_le

/-- An address lies in the window when its page does. -/
theorem contains_iff_page_mem (addr : VirtAddr) :
    window.contains addr = true ↔ addr.page ∈ window.pages := by
  have hceiling : UInt32.toNat windowCeiling = 4096 * 512 := rfl
  rw [mem_pages_iff haligned hbelow, contains, Bool.and_eq_true, decide_eq_true_iff,
    decide_eq_true_iff, UInt32.le_iff_toNat_le, UInt32.lt_iff_toNat_lt, addr.number_page,
    toNat_start haligned, hceiling]
  omega

theorem contains_start_iff_mem {page : Page} (h : page.number.toNat < 2 ^ 20) :
    window.contains page.start = true ↔ page ∈ window.pages := by
  rw [contains_iff_page_mem haligned hbelow, Page.page_start h]

end Whole

end Window

namespace Config

variable (config : Config)

theorem toNat_windowStart :
    config.window.start.val.toNat = 4096 * config.window.firstPage.number.toNat :=
  Window.toNat_start config.window_aligned

theorem firstPage_bounds :
    256 ≤ config.window.firstPage.number.toNat ∧ config.window.firstPage.number.toNat < 512 := by
  have hlow := UInt32.le_iff_toNat_le.mp config.slotStride_le_start
  have hhigh := UInt32.lt_iff_toNat_lt.mp config.start_lt_ceiling
  have hstride : UInt32.toNat slotStride = 4096 * 256 := rfl
  have hceiling : UInt32.toNat windowCeiling = 4096 * 512 := rfl
  rw [config.toNat_windowStart] at hlow hhigh
  omega

theorem start_add_byteCount :
    config.window.start.val.toNat + config.window.byteCount.toNat = 0x200000 :=
  Window.start_add_byteCount config.start_lt_ceiling

/-- The stack of a made-up context lies at the top of the window. -/
theorem start_lt_stack : config.window.start.val < windowCeiling - 0x40 := by
  have hstart := config.toNat_windowStart
  have hfirst := config.firstPage_bounds
  have hstack : (windowCeiling - 0x40).toNat = 0x1fffc0 := rfl
  rw [UInt32.lt_iff_toNat_lt, hstack]
  omega

theorem firstPage_add_pageCount :
    config.window.firstPage.number.toNat + config.window.pageCount.toNat = 512 :=
  Window.firstPage_add_pageCount config.window_aligned config.start_lt_ceiling

/-- The pages of the window are all those from its start up to the ceiling, in ascending order. -/
theorem numbers_pages_eq :
    config.window.pages.map (·.number.toNat) =
      List.range' (config.window.start.val.toNat / 4096)
        (512 - config.window.start.val.toNat / 4096) := by
  have hstart := config.toNat_windowStart
  have hfirst : config.window.start.val.toNat / 4096 = config.window.firstPage.number.toNat := by
    omega
  have hcount := config.firstPage_add_pageCount
  rw [config.window.numbers_pages, hfirst]
  congr 1
  omega

theorem mem_pages {page : Page} :
    page ∈ config.window.pages ↔
      config.window.firstPage.number.toNat ≤ page.number.toNat ∧ page.number.toNat < 512 :=
  Window.mem_pages_iff config.window_aligned config.start_lt_ceiling

theorem contains_start_iff {page : Page} (h : page.number.toNat < 2 ^ 20) :
    config.window.contains page.start = true ↔ page ∈ config.window.pages :=
  Window.contains_start_iff_mem config.window_aligned config.start_lt_ceiling h

end Config

/-! ### Slots -/

/-- The frame that a page of the window shows while a slot is active. -/
def slotFrame (slot : Nat) (page : Page) : Frame :=
  ⟨UInt32.ofNat (256 * slot) + page.number⟩

theorem slotFrame_zero (page : Page) : slotFrame 0 page = ⟨page.number⟩ := by
  rw [slotFrame, Nat.mul_zero, Frame.mk.injEq]
  exact UInt32.zero_add _

theorem number_slotFrame {slot : Nat} {page : Page} (hslot : slot < 2 ^ 20)
    (hpage : page.number.toNat < 2 ^ 20) :
    (slotFrame slot page).number.toNat = 256 * slot + page.number.toNat := by
  simp only [slotFrame, UInt32.toNat_add, UInt32.toNat_ofNat']
  omega

theorem mul?_pagesPerMib {n : Nat} (h : n < 2 ^ 24) :
    Word.mul? (UInt32.ofNat n) pagesPerMib = some (UInt32.ofNat (256 * n)) := by
  have hscale : UInt32.toNat pagesPerMib = 256 := rfl
  have hn : (UInt32.ofNat n).toNat = n :=
    UInt32.toNat_ofNat_of_lt' (by simp only [UInt32.size]; omega)
  rw [Word.mul?, hn, hscale, if_pos (by simp only [UInt32.size]; omega), Option.some.injEq,
    ← UInt32.toNat_inj, UInt32.toNat_mul, hn, hscale, UInt32.toNat_ofNat', Nat.mul_comm]

theorem slotBase_eq {slot : Nat} (h : slot < 2 ^ 24) :
    slotBase slot = .ok ⟨UInt32.ofNat (256 * slot)⟩ := by
  rw [slotBase, mul?_pagesPerMib h]
  rfl

theorem identityMappedPages_eq {count : Nat} (h : count + 1 < 2 ^ 24) :
    identityMappedPages count = .ok (UInt32.ofNat (256 * (count + 1))) := by
  have hcount : (UInt32.ofNat count).toNat = count :=
    UInt32.toNat_ofNat_of_lt' (by simp only [UInt32.size]; omega)
  have hone : UInt32.toNat 1 = 1 := rfl
  have hadd : Word.add? (UInt32.ofNat count) 1 = some (UInt32.ofNat (count + 1)) := by
    rw [Word.add?, hcount, hone, if_pos (by simp only [UInt32.size]; omega), Option.some.injEq,
      ← UInt32.toNat_inj, UInt32.toNat_add, hcount, hone, UInt32.toNat_ofNat']
  rw [identityMappedPages, hadd]
  change orPanic .multiplyOverflow (Word.mul? (UInt32.ofNat (count + 1)) pagesPerMib) = _
  rw [mul?_pagesPerMib h]
  rfl

theorem pageTablesNeeded_eq {count : Nat} (h : count + 1 < 2 ^ 24) :
    pageTablesNeeded count = .ok (max 1 ((256 * (count + 1) + 1023) / 1024)) := by
  have hpages : (UInt32.ofNat (256 * (count + 1))).toNat = 256 * (count + 1) :=
    UInt32.toNat_ofNat_of_lt' (by simp only [UInt32.size]; omega)
  rw [pageTablesNeeded, identityMappedPages_eq h]
  show Except.ok (max 1 (((UInt32.ofNat (256 * (count + 1))).toNat + 1023) / 1024)) = _
  rw [hpages]

/-- The mapped part of an accepted configuration is the boot MiB and one MiB for each process. -/
theorem Config.identityMappedPages_eq (config : Config) :
    ∃ pages, identityMappedPages config.processCount = .ok pages ∧
      pages.toNat = 256 * (config.processCount + 1) := by
  have hcount : config.processCount ≤ 8 := config.processCount_le
  refine ⟨_, SlotKernel.identityMappedPages_eq (by omega), ?_⟩
  exact UInt32.toNat_ofNat_of_lt' (by simp only [UInt32.size]; omega)

end SlotKernel

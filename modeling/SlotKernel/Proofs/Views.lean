import SlotKernel.Proofs.Placement

/-!
The many views of the process window. It is a stretch of addresses from its start up to the ceiling,
a run of page numbers, a first page with a count, and the place where a stack has to lie, with the
end of the last page outside for an address and allowed for a stack pointer. For every start on a
page boundary below the ceiling these all mean the same bytes. It does not matter in which terms an
operation asks: moving and dropping pages, refusing a viewport and checking a context agree.
-/

namespace SlotKernel

/-- The addresses of the bytes of a page. -/
def Page.bytes (page : Page) : List Nat :=
  List.range' page.start.val.toNat pageSize.toNat

namespace Window

variable {window : Window}

/-- The views of a window fit together. -/
structure ViewsAgree (window : Window) : Prop where
  contains_iff : ∀ addr, window.contains addr = true ↔ addr.page ∈ window.pages
  ascending : window.pages.Pairwise (·.number < ·.number)
  length_eq : window.pages.length = window.pageCount.toNat
  /-- The bytes of the pages, one page after the other, are so many bytes from the start on. -/
  bytes_eq : window.pages.flatMap Page.bytes =
    List.range' window.start.val.toNat window.byteCount.toNat
  last_eq : window.pages.getLast? = some (VirtAddr.page ⟨windowCeiling - 1⟩)
  /-- A run of pages meets the window if one of its pages starts there. -/
  meets_iff : ∀ (first : Page) (count : Nat), first.number.toNat + count ≤ 2 ^ 20 →
    ((∃ page ∈ first.span count, page ∈ window.pages) ↔
      ∃ page ∈ first.span count, window.contains page.start = true)
  /-- This is what keeps a viewport clear of the window. -/
  refused_iff : ∀ (s : PageTables) (page : Page), page.number.toNat < 2 ^ 20 →
    (Viewport.checkPage s window page = .error (.overlapsWindow page) ↔
      page.number ≠ 0 ∧ page ∈ window.pages)
  /-- A stack pointer is the address above the last byte of the stack. -/
  validate_iff : ∀ ctx : Context, ctx.validate window = .ok () ↔
    ctx.eip ≠ 0 ∧ window.contains ⟨ctx.esp - 1⟩ = true
  range_eq : (PageRange.mk window.firstPage window.pageCount).pages = window.pages
  /-- A move of the window answers with the same pages, to have them dropped. -/
  moved_eq : ∀ (move : WindowMove) (s s' : PageTables) (range : PageRange),
    move.window = window → move.apply s = .ok (s', range) → range.pages = window.pages
  /-- The number behind that of the last page is the page number of the ceiling. -/
  bound_eq : Word.add? window.firstPage.number window.pageCount =
    some (windowCeiling >>> pageShift)

theorem validate_eq_ok_iff_contains (ctx : Context) (window : Window) :
    ctx.validate window = .ok () ↔ ctx.eip ≠ 0 ∧ window.contains ⟨ctx.esp - 1⟩ = true := by
  have hceiling : UInt32.toNat windowCeiling = 0x200000 := rfl
  have hone : UInt32.toNat 1 = 1 := rfl
  have hesp := ctx.esp.toNat_lt
  rw [Context.validate_eq_ok_iff]
  refine and_congr_right fun _ => ?_
  rw [contains, Bool.and_eq_true, decide_eq_true_iff, decide_eq_true_iff, UInt32.lt_iff_toNat_lt,
    UInt32.le_iff_toNat_le, UInt32.le_iff_toNat_le, UInt32.lt_iff_toNat_lt, UInt32.toNat_sub,
    hceiling, hone]
  -- A stack pointer of zero has no byte below it: the difference wraps to above the ceiling.
  omega

theorem length_pages (window : Window) : window.pages.length = window.pageCount.toNat := by
  have hlength := congrArg List.length window.numbers_pages
  rwa [List.length_map, List.length_range'] at hlength

section Whole

variable (haligned : window.start.isPageAligned = true) (hbelow : window.start.val < windowCeiling)

include haligned hbelow

theorem flatMap_bytes_pages : window.pages.flatMap Page.bytes =
    List.range' window.start.val.toNat window.byteCount.toNat := by
  have hsize : pageSize.toNat = 4096 := rfl
  have hstart := toNat_start haligned
  have hend := firstPage_add_pageCount haligned hbelow
  have hrow : ∀ row ∈ List.range window.pageCount.toNat,
      Page.bytes ⟨window.firstPage.number + UInt32.ofNat row⟩ =
        (List.range 4096).map fun i => window.start.val.toNat + (4096 * row + i) := by
    intro row hmem
    have hlt := List.mem_range.mp hmem
    have hnumber : (window.firstPage.number + UInt32.ofNat row).toNat =
        window.firstPage.number.toNat + row := by
      rw [UInt32.toNat_add, UInt32.toNat_ofNat']
      omega
    rw [Page.bytes, Page.toNat_start (by rw [hnumber]; omega), hnumber, hsize,
      List.range'_eq_map_range]
    apply List.map_congr_left
    intro i _
    omega
  rw [toNat_byteCount haligned hbelow, List.range'_eq_map_range,
    ← flatMap_range_rows (window.start.val.toNat + ·)]
  change (List.map _ (List.range window.pageCount.toNat)).flatMap Page.bytes = _
  rw [List.flatMap_map]
  exact List.flatMap_congr hrow

theorem getLast?_pages :
    window.pages.getLast? = some (VirtAddr.page ⟨windowCeiling - 1⟩) := by
  have hend := firstPage_add_pageCount haligned hbelow
  have hstart := toNat_start haligned
  have hceiling : UInt32.toNat windowCeiling = 4096 * 512 := rfl
  have hlast : (VirtAddr.page ⟨windowCeiling - 1⟩).number.toNat = 511 := rfl
  have hlt := UInt32.lt_iff_toNat_lt.mp hbelow
  obtain ⟨n, hcount⟩ : ∃ n, window.pageCount.toNat = n + 1 :=
    Nat.exists_eq_add_one.mpr (by omega)
  change (window.firstPage.span window.pageCount.toNat).getLast? = _
  rw [hcount, Page.span, List.range_succ, List.map_append, List.map_singleton,
    List.getLast?_concat, Option.some.injEq]
  apply Page.eq_of_number_eq
  rw [hlast, UInt32.toNat_add, UInt32.toNat_ofNat']
  omega

theorem checkPage_eq_overlaps_iff (s : PageTables) {page : Page}
    (hpage : page.number.toNat < 2 ^ 20) :
    Viewport.checkPage s window page = .error (.overlapsWindow page) ↔
      page.number ≠ 0 ∧ page ∈ window.pages := by
  rw [← contains_start_iff_mem haligned hbelow hpage, Viewport.contains_start_eq_true_iff,
    ← Viewport.refuses_iff]
  constructor
  · intro h
    cases h with
    | overlaps hnull hinside => exact ⟨hnull, hinside⟩
  · rintro ⟨hnull, hinside⟩
    exact .overlaps hnull hinside

theorem bound_pages : Word.add? window.firstPage.number window.pageCount =
    some (windowCeiling >>> pageShift) := by
  have hend := firstPage_add_pageCount haligned hbelow
  have hceiling : (windowCeiling >>> pageShift).toNat = 512 := rfl
  rw [Word.add?, hend, if_pos (by decide), Option.some.injEq, ← UInt32.toNat_inj, UInt32.toNat_add,
    hend, hceiling]

/-- Every start on a page boundary below the ceiling is as good as any other. -/
theorem views_agree : window.ViewsAgree where
  contains_iff := contains_iff_page_mem haligned hbelow
  ascending := window.pairwise_pages
  length_eq := window.length_pages
  bytes_eq := flatMap_bytes_pages haligned hbelow
  last_eq := getLast?_pages haligned hbelow
  meets_iff first count hfits := by
    have hwraps : first.number.toNat + count ≤ UInt32.size :=
      Nat.le_trans hfits (by decide)
    constructor
    · rintro ⟨page, hmem, hpage⟩
      have hrange := (Page.mem_span hwraps).mp hmem
      exact ⟨page, hmem, (contains_start_iff_mem haligned hbelow (by omega)).mpr hpage⟩
    · rintro ⟨page, hmem, hpage⟩
      have hrange := (Page.mem_span hwraps).mp hmem
      exact ⟨page, hmem, (contains_start_iff_mem haligned hbelow (by omega)).mp hpage⟩
  refused_iff s _ hpage := checkPage_eq_overlaps_iff haligned hbelow s hpage
  validate_iff ctx := validate_eq_ok_iff_contains ctx window
  range_eq := rfl
  moved_eq move s s' range hwindow hmove := by
    cases WindowMove.eq_edit_of_apply hmove
    exact congrArg pages hwindow
  bound_eq := bound_pages haligned hbelow

end Whole

/-- The window from the lowest address on, which has page 0 in it. -/
theorem views_agree_lowest :
    (Window.mk ⟨0⟩).start.isPageAligned = true ∧ (Window.mk ⟨0⟩).start.val < windowCeiling ∧
      (Window.mk ⟨0⟩).ViewsAgree :=
  ⟨rfl, by decide, views_agree rfl (by decide)⟩

end Window

end SlotKernel

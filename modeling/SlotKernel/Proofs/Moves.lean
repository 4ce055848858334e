import SlotKernel.Proofs.Edits

/-!
What the operations on page tables do once their checks pass. A window that shows one slot on all of
its pages moves to another slot by one edit a page, and a viewport is placed and pointed by four; a
refused placement or mapping gives no new tables at all.
-/

namespace SlotKernel

theorem bind_lift_ok {ε α β : Type} (a : α) (next : α → Except (Failure ε) β) :
    (liftM (Except.ok a : Except Panic α) : Except (Failure ε) α) >>= next = next a :=
  rfl

namespace Frame

theorem add?_eq {f : Frame} {count : UInt32} (h : f.number.toNat + count.toNat < 2 ^ 20) :
    f.add? count = some ⟨f.number + count⟩ := by
  have hmax : UInt32.toNat maxFrameNumber = 2 ^ 20 - 1 := rfl
  have hadd : Word.add? f.number count = some (f.number + count) := by
    rw [Word.add?, if_pos (by simp only [UInt32.size]; omega)]
  have hle : ¬ f.number + count > maxFrameNumber := by
    rw [gt_iff_lt, UInt32.lt_iff_toNat_lt, UInt32.toNat_add, hmax]
    omega
  rw [Frame.add?, hadd, Option.bind_some, ofNumber?, if_neg hle]

theorem add?_eq_none {f : Frame} {count : UInt32}
    (h : 2 ^ 20 ≤ f.number.toNat + count.toNat) : f.add? count = none := by
  have hmax : UInt32.toNat maxFrameNumber = 2 ^ 20 - 1 := rfl
  rw [Frame.add?, Word.add?]
  split
  · next hfits =>
    simp only [UInt32.size] at hfits
    rw [Option.bind_some, ofNumber?, if_pos]
    rw [gt_iff_lt, UInt32.lt_iff_toNat_lt, UInt32.toNat_add, hmax]
    omega
  · rfl

/-- A frame so far above `source` goes as far above `target`, if there is a frame there. -/
theorem rebase?_eq_add? {source : Frame} {count : UInt32}
    (hsource : source.number.toNat + count.toNat < 2 ^ 20) (target : Frame) :
    rebase? ⟨source.number + count⟩ source target = target.add? count := by
  have hle : source.number.toNat ≤ (source.number + count).toNat := by
    rw [UInt32.toNat_add]
    omega
  have hcancel : source.number + count - source.number = count := by
    rw [UInt32.add_comm, UInt32.add_sub_cancel]
  rw [Frame.rebase?, Word.sub?, if_pos hle, hcancel, Option.bind_some]

end Frame

theorem toNat_slotBase {slot : Nat} (h : slot < 2 ^ 24) :
    (UInt32.ofNat (256 * slot)).toNat = 256 * slot :=
  UInt32.toNat_ofNat_of_lt' (by simp only [UInt32.size]; omega)

/-- A page has a frame in a slot as long as 20 bits hold its number. -/
theorem add?_slotBase {slot : Nat} (h : slot < 2 ^ 24) (page : Page) :
    Frame.add? ⟨UInt32.ofNat (256 * slot)⟩ page.number =
      if 256 * slot + page.number.toNat ≤ 0xfffff then some (slotFrame slot page) else none := by
  have hbase := toNat_slotBase h
  split
  · exact Frame.add?_eq (by rw [hbase]; omega)
  · exact Frame.add?_eq_none (by rw [hbase]; omega)

/-- What moving the window to a slot does to its pages. -/
def Window.moveEdits (window : Window) (slot : Nat) : List Edit :=
  window.pages.map fun page => (page, (·.setFrame (slotFrame slot page)))

theorem Window.pages_moveEdits (window : Window) (slot : Nat) :
    (window.moveEdits slot).map (·.1) = window.pages := by
  rw [moveEdits, List.map_map]
  exact List.map_id _

theorem PageTables.entry?_edit_moveEdits {s : PageTables} {window : Window} {page : Page}
    (hpage : page ∈ window.pages) (slot : Nat) :
    PageTables.entry? (s.edit (window.moveEdits slot)) page =
      (s.entry? page).map (·.setFrame (slotFrame slot page)) := by
  have hmem : (page, (·.setFrame (slotFrame slot page))) ∈ window.moveEdits slot :=
    List.mem_map_of_mem hpage
  have hnodup : ((window.moveEdits slot).map (·.1)).Nodup := by
    rw [window.pages_moveEdits]
    exact window.nodup_pages
  rw [entry?_edit_of_mem hnodup hmem]

namespace WindowMove

variable {move : WindowMove} {s : PageTables}

section TargetFrame

variable (hsource : move.source < 2 ^ 24) {page : Page}

include hsource

/-- There is no frame above the source slot that the page could show. -/
theorem targetFrame_of_beyond (hbeyond : 0xfffff < 256 * move.source + page.number.toNat)
    (current : Frame) : move.targetFrame page current = .error (.refused (.outOfRange page)) := by
  have hexpected := add?_slotBase hsource page
  rw [if_neg (Nat.not_le.mpr hbeyond)] at hexpected
  rw [targetFrame, slotBase_eq hsource]
  simp only [bind_lift_ok, hexpected]
  rfl

variable (hfits : 256 * move.source + page.number.toNat ≤ 0xfffff)

include hfits

theorem targetFrame_of_ne {current : Frame} (hne : current ≠ slotFrame move.source page) :
    move.targetFrame page current =
      .error (.refused (.frameMismatch page current (slotFrame move.source page))) := by
  have hexpected := add?_slotBase hsource page
  rw [if_pos hfits] at hexpected
  rw [targetFrame, slotBase_eq hsource]
  simp only [bind_lift_ok, hexpected, if_pos hne]
  rfl

/-- A page that shows its frame in the source slot goes to its frame in the target slot, if that is
one of the mapped frames. -/
theorem targetFrame_slotFrame (htarget : move.target < 2 ^ 24) :
    move.targetFrame page (slotFrame move.source page) =
      if 256 * move.target + page.number.toNat ≤ 0xfffff ∧
          256 * move.target + page.number.toNat < move.frameLimit.toNat then
        .ok (slotFrame move.target page)
      else
        .error (.refused (.outOfRange page)) := by
  have hexpected := add?_slotBase hsource page
  rw [if_pos hfits] at hexpected
  have hmoved : (slotFrame move.source page).rebase? ⟨UInt32.ofNat (256 * move.source)⟩
      ⟨UInt32.ofNat (256 * move.target)⟩ = _ :=
    (@Frame.rebase?_eq_add? ⟨UInt32.ofNat (256 * move.source)⟩ page.number
      (by rw [toNat_slotBase hsource]; omega) _).trans (add?_slotBase htarget page)
  rw [targetFrame, slotBase_eq hsource, slotBase_eq htarget]
  simp only [bind_lift_ok, hexpected, hmoved, ne_eq, not_true_eq_false, if_false]
  by_cases hroom : 256 * move.target + page.number.toNat ≤ 0xfffff
  · have hlimit : move.frameLimit ≤ (slotFrame move.target page).number ↔
        ¬ 256 * move.target + page.number.toNat < move.frameLimit.toNat := by
      rw [UInt32.le_iff_toNat_le, number_slotFrame (by omega) (by omega), Nat.not_lt]
    simp only [hroom, hlimit, true_and, if_true]
    split_ifs <;> rfl
  · simp only [hroom, false_and, if_false]
    rfl

end TargetFrame

theorem targetFrame_eq {page : Page} (hsource : 256 * move.source + page.number.toNat < 2 ^ 20)
    (htarget : 256 * move.target + page.number.toNat < 2 ^ 20)
    (hlimit : 256 * move.target + page.number.toNat < move.frameLimit.toNat) :
    move.targetFrame page (slotFrame move.source page) = .ok (slotFrame move.target page) := by
  rw [targetFrame_slotFrame (by omega) (by omega) (by omega), if_pos ⟨by omega, hlimit⟩]

theorem checkPage_eq_ok {page : Page} {entry : TableEntry} (hentry : s.entry? page = some entry)
    (hpresent : entry.isPresent = true) {moved : Frame}
    (hmoved : move.targetFrame page entry.frame = .ok moved) : move.checkPage s page = .ok () := by
  simp only [checkPage, hentry, hpresent, if_true, hmoved]
  rfl

theorem repointPage_eq_ok {page : Page} {entry : TableEntry} (hentry : s.entry? page = some entry)
    {moved : Frame} (hmoved : move.targetFrame page entry.frame = .ok moved) :
    move.repointPage s page = .ok ((s.modify? page (·.setFrame moved)).getD s) := by
  simp only [repointPage, hentry, hmoved]
  rfl

/-- The frame that a page is to show after a move that the checks let through. -/
def movedFrame (move : WindowMove) (s : PageTables) (page : Page) : Frame :=
  ((s.entry? page).bind fun entry => (move.targetFrame page entry.frame).toOption).getD default

theorem movedFrame_eq {page : Page} {entry : TableEntry} {moved : Frame}
    (hentry : s.entry? page = some entry) (hmoved : move.targetFrame page entry.frame = .ok moved) :
    move.movedFrame s page = moved := by
  rw [movedFrame, hentry, Option.bind_some, hmoved]
  rfl

theorem of_checkPage_eq_ok {page : Page} (h : move.checkPage s page = .ok ()) :
    ∃ entry, s.entry? page = some entry ∧ entry.isPresent = true ∧
      move.targetFrame page entry.frame = .ok (move.movedFrame s page) := by
  unfold checkPage at h
  cases hentry : s.entry? page with
  | none =>
      rw [hentry] at h
      cases h
  | some entry =>
      cases hpresent : entry.isPresent with
      | false =>
          simp only [hentry, hpresent] at h
          cases h
      | true =>
          simp only [hentry, hpresent, if_true] at h
          obtain ⟨moved, hmoved, -⟩ := exists_of_bind_eq_ok h
          exact ⟨entry, rfl, hpresent, movedFrame_eq hentry hmoved ▸ hmoved⟩

/-- Pages that all pass the check are pointed into the other slot, one after the other. -/
theorem foldlM_repointPage_eq_edit
    (h : ∀ page ∈ move.window.pages, move.checkPage s page = .ok ()) :
    move.window.pages.foldlM move.repointPage s =
      .ok (s.edit (move.window.pages.map fun page =>
        (page, (·.setFrame (move.movedFrame s page))))) := by
  apply PageTables.foldlM_eq_edit (fun page => (page, (·.setFrame (move.movedFrame s page))))
    (fun page entry => move.targetFrame page entry.frame = .ok (move.movedFrame s page))
  · intro t page entry hentry hmoved
    exact repointPage_eq_ok hentry hmoved
  · rw [List.map_id']
    exact move.window.nodup_pages
  · intro page hpage
    obtain ⟨entry, hentry, -, hmoved⟩ := of_checkPage_eq_ok (h page hpage)
    exact ⟨entry, hentry, hmoved⟩

/-- A window whose pages all pass the check is moved. -/
theorem apply_eq_edit (h : ∀ page ∈ move.window.pages, move.checkPage s page = .ok ()) :
    move.apply s = .ok (s.edit (move.window.pages.map fun page =>
      (page, (·.setFrame (move.movedFrame s page)))), move.window.range) := by
  rw [apply, forM_eq_ok_iff.mpr h]
  change (move.window.pages.foldlM move.repointPage s >>= fun moved => _) = _
  rw [foldlM_repointPage_eq_edit h]
  rfl

/-- A refused move was refused by its checks, before the first change. -/
theorem checks_of_apply_error {failure : Failure MoveError} (h : move.apply s = .error failure) :
    move.window.pages.forM (move.checkPage s) = .error failure := by
  cases hchecks : move.window.pages.forM (move.checkPage s) with
  | error other =>
      rw [apply, hchecks] at h
      cases h
      rfl
  | ok _ =>
      rw [apply_eq_edit (forM_eq_ok_iff.mp hchecks)] at h
      cases h

/-- A window whose pages are present and show the source slot moves to the target slot, if all its
frames there lie below the limit. -/
theorem apply_eq_ok
    (hshows : ∀ page ∈ move.window.pages, ∃ entry, s.entry? page = some entry ∧
      entry.isPresent = true ∧ entry.frame = slotFrame move.source page)
    (hroom : ∀ page ∈ move.window.pages,
      move.targetFrame page (slotFrame move.source page) = .ok (slotFrame move.target page)) :
    move.apply s = .ok (s.edit (move.window.moveEdits move.target), move.window.range) := by
  have hpass : ∀ page ∈ move.window.pages, move.checkPage s page = .ok () ∧
      move.movedFrame s page = slotFrame move.target page := by
    intro page hpage
    obtain ⟨entry, hentry, hpresent, hframe⟩ := hshows page hpage
    have hmoved := hframe ▸ hroom page hpage
    exact ⟨checkPage_eq_ok hentry hpresent hmoved, movedFrame_eq hentry hmoved⟩
  have hedits : move.window.pages.map (fun page =>
      (page, fun entry : TableEntry => entry.setFrame (move.movedFrame s page))) =
      move.window.moveEdits move.target := by
    apply List.map_congr_left
    intro page hpage
    rw [(hpass page hpage).2]
  rw [apply_eq_edit fun page hpage => (hpass page hpage).1, hedits]

end WindowMove

/-! ### The viewport -/

namespace PageTables

variable {s : PageTables} {page : Page} {entry : TableEntry}

theorem modify?_eq_some (h : s.entry? page = some entry) (change : TableEntry → TableEntry) :
    s.modify? page change = some ((s.modify? page change).getD s) := by
  obtain ⟨table, htable, -⟩ := Option.map_eq_some_iff.mp h
  simp only [modify?, htable, Option.map_some, Option.getD_some]

theorem disableCacheForPage_start (h : s.entry? page = some entry) :
    s.disableCacheForPage page.start =
      .ok ((s.modify? page (·.insertFlags .cacheDisable)).getD s) := by
  have hpage := Page.page_start (PageTables.number_lt_of_entry? h)
  rw [disableCacheForPage, apply, hpage, modify?_eq_some h]
  rfl

/-- Mapping by address is mapping the frame of the address, present and writable. -/
theorem mapPhysicalPage_eq_apply (s : PageTables) (virt : VirtAddr) (phys : PhysAddr) :
    s.mapPhysicalPage virt phys =
      s.apply (.map virt.page phys.frame (.present ||| .writable)) := by
  rw [mapPhysicalPage, Frame.ofNumber?_frame]

theorem mapPhysicalPage_start (h : s.entry? page = some entry) (hnull : page.number ≠ 0)
    (phys : PhysAddr) :
    s.mapPhysicalPage page.start phys = .ok ((s.modify? page fun entry =>
      (entry.setFrame phys.frame).insertFlags (.present ||| .writable)).getD s) := by
  rw [mapPhysicalPage_eq_apply, Page.page_start (PageTables.number_lt_of_entry? h),
    PageTables.apply, if_neg (by rwa [beq_iff_eq]), modify?_eq_some h]
  rfl

end PageTables

theorem PhysAddr.eq_of_add? {addr next : PhysAddr} {bytes : UInt32}
    (h : addr.add? bytes = some next) :
    next = ⟨addr.val + bytes⟩ := by
  obtain ⟨sum, hsum, rfl⟩ := Option.map_eq_some_iff.mp h
  unfold Word.add? at hsum
  split at hsum
  · cases hsum
    rfl
  · cases hsum

namespace Viewport

variable {s : PageTables} {window : Window}

def placeEdits (view : Viewport) : List Edit :=
  view.pages.map fun page => (page, (·.insertFlags .cacheDisable))

theorem pages_placeEdits (view : Viewport) : view.placeEdits.map (·.1) = view.pages := by
  rw [placeEdits, List.map_map]
  exact List.map_id _

/-- A page of the viewport has its entry changed. -/
theorem entry?_edit_placeEdits {view : Viewport} {page : Page} (hpage : page ∈ view.pages) :
    PageTables.entry? (s.edit view.placeEdits) page =
      (s.entry? page).map (·.insertFlags .cacheDisable) := by
  have hmem : (page, (·.insertFlags .cacheDisable)) ∈ view.placeEdits :=
    List.mem_map.mpr ⟨page, hpage, rfl⟩
  have hnodup : (view.placeEdits.map (·.1)).Nodup := by
    rw [pages_placeEdits]
    exact view.nodup_pages
  rw [PageTables.entry?_edit_of_mem hnodup hmem]

theorem checkPage_eq_ok_iff {page : Page} :
    checkPage s window page = .ok () ↔ page.number ≠ 0 ∧ window.contains page.start = false ∧
      (s.entry? page).isSome = true := by
  unfold checkPage
  by_cases hnull : page.number = 0
  · simp [hnull]
  · by_cases hwindow : window.contains page.start = true
    · simp [hnull, hwindow]
    · cases hentry : s.entry? page <;> simp [hnull, hwindow]

/-- Where each of its four pages passed the check, the second loop of a placement comes to its
end. -/
theorem foldlM_disableCache_eq_edit {base : VirtAddr}
    (hpass : ∀ page ∈ (Viewport.mk base).pages, checkPage s window page = .ok ()) :
    (Viewport.mk base).pages.foldlM
      (fun (t : PageTables) page => t.disableCacheForPage page.start) s =
      .ok (s.edit (Viewport.mk base).placeEdits) := by
  apply PageTables.foldlM_eq_edit (fun page => (page, (·.insertFlags .cacheDisable)))
    (fun _ _ => True)
  · intro t page entry hentry _
    exact PageTables.disableCacheForPage_start hentry
  · rw [List.map_id']
    exact nodup_pages _
  · intro page hpage
    obtain ⟨-, -, hsome⟩ := checkPage_eq_ok_iff.mp (hpass page hpage)
    obtain ⟨entry, hentry⟩ := Option.isSome_iff_exists.mp hsome
    exact ⟨entry, hentry, trivial⟩

/-- A viewport whose four pages pass the check is placed. -/
theorem place_eq_ok {base : VirtAddr}
    (hpass : ∀ page ∈ (Viewport.mk base).pages, checkPage s window page = .ok ()) :
    place s base window = .ok (⟨base⟩, s.edit (Viewport.mk base).placeEdits) := by
  rw [place, forM_eq_ok_iff.mpr hpass]
  change (_ >>= fun placed => _) = _
  rw [foldlM_disableCache_eq_edit hpass]
  rfl

/-- A refused placement was refused by its checks, before the first change. -/
theorem checks_of_place_error {base : VirtAddr} {error : MappingError}
    (h : place s base window = .error error) :
    (Viewport.mk base).pages.forM (checkPage s window) = .error error := by
  cases hchecks : (Viewport.mk base).pages.forM (checkPage s window) with
  | error other =>
      rw [place, hchecks] at h
      cases h
      rfl
  | ok _ =>
      rw [place_eq_ok (forM_eq_ok_iff.mp hchecks)] at h
      cases h

/-- Placing a viewport either is refused or edits its four pages, all of which passed the check. -/
theorem place_cases (s : PageTables) (base : VirtAddr) (window : Window) :
    (∃ error, place s base window = .error error) ∨
      (∀ page ∈ (Viewport.mk base).pages, checkPage s window page = .ok ()) ∧
        place s base window = .ok (⟨base⟩, s.edit (Viewport.mk base).placeEdits) := by
  cases hchecks : (Viewport.mk base).pages.forM (checkPage s window) with
  | error error =>
      refine Or.inl ⟨error, ?_⟩
      rw [place, hchecks]
      rfl
  | ok _ =>
      have hpass := forM_eq_ok_iff.mp hchecks
      exact Or.inr ⟨hpass, place_eq_ok hpass⟩

/-- No page of a placed viewport is page 0. -/
theorem number_ne_zero_of_place {base : VirtAddr} {view : Viewport} {placed : PageTables}
    (h : place s base window = .ok (view, placed)) :
    ∀ page ∈ view.pages, page.number ≠ 0 := by
  rcases place_cases s base window with ⟨error, hplace⟩ | ⟨hpass, hplace⟩
  · rw [hplace] at h
    cases h
  · rw [hplace] at h
    cases h
    intro page hpage
    exact (checkPage_eq_ok_iff.mp (hpass page hpage)).1

/-- The address that the page at some place of a viewport is to show. -/
def target (phys : PhysAddr) (i : Nat) : PhysAddr :=
  ⟨phys.val + UInt32.ofNat i * pageSize⟩

/-- What pointing a viewport at an address does to the page at some place. -/
def mapEdit (phys : PhysAddr) (item : Page × Nat) : Edit :=
  (item.1, fun entry =>
    (entry.setFrame (target phys.alignDown item.2).frame).insertFlags (.present ||| .writable))

def mapEdits (view : Viewport) (phys : PhysAddr) : List Edit :=
  view.pages.zipIdx.map (mapEdit phys)

theorem pages_mapEdits (view : Viewport) (phys : PhysAddr) :
    (view.mapEdits phys).map (·.1) = view.pages := by
  rw [mapEdits, List.map_map]
  exact List.zipIdx_map_fst 0 view.pages

theorem exists_item {view : Viewport} {page : Page} (hpage : page ∈ view.pages) :
    ∃ item ∈ view.pages.zipIdx, item.1 = page := by
  rw [← List.zipIdx_map_fst 0 view.pages] at hpage
  exact List.mem_map.mp hpage

theorem entry?_edit_mapEdits {view : Viewport} {item : Page × Nat}
    (hitem : item ∈ view.pages.zipIdx) (phys : PhysAddr) :
    PageTables.entry? (s.edit (view.mapEdits phys)) item.1 =
      (s.entry? item.1).map fun entry =>
        (entry.setFrame (target phys.alignDown item.2).frame).insertFlags
          (.present ||| .writable) := by
  have hmem : mapEdit phys item ∈ view.mapEdits phys := List.mem_map_of_mem hitem
  have hnodup : ((view.mapEdits phys).map (·.1)).Nodup := by
    rw [pages_mapEdits]
    exact view.nodup_pages
  have hedited := PageTables.entry?_edit_of_mem (s := s) hnodup hmem
  rw [mapEdit] at hedited
  exact hedited

/-- The target of the page at some place of a viewport. -/
def findTarget (s : PageTables) (phys : PhysAddr) (item : Page × Nat) :
    Except MappingError (Page × PhysAddr) := do
  let some target := phys.add? (UInt32.ofNat item.2 * pageSize) | throw (.frameOutOfRange phys)
  if (s.entry? item.1).isNone then
    throw (.notMapped item.1)
  return (item.1, target)

theorem targets_eq_mapM (view : Viewport) (s : PageTables) (phys : PhysAddr) :
    view.targets s phys = view.pages.zipIdx.mapM (findTarget s phys) :=
  rfl

theorem findTarget_of_none {phys : PhysAddr} {item : Page × Nat}
    (h : phys.add? (UInt32.ofNat item.2 * pageSize) = none) :
    findTarget s phys item = .error (.frameOutOfRange phys) := by
  rw [findTarget, h]
  rfl

theorem findTarget_of_some {phys : PhysAddr} {item : Page × Nat}
    (h : phys.add? (UInt32.ofNat item.2 * pageSize) = some (target phys item.2)) :
    findTarget s phys item =
      if (s.entry? item.1).isSome then .ok (item.1, target phys item.2)
      else .error (.notMapped item.1) := by
  rw [findTarget, h]
  cases s.entry? item.1 <;> rfl

theorem findTarget_eq_ok {phys : PhysAddr} {item : Page × Nat} {found : Page × PhysAddr}
    (h : findTarget s phys item = .ok found) :
    found = (item.1, target phys item.2) ∧ (s.entry? item.1).isSome = true ∧
      phys.add? (UInt32.ofNat item.2 * pageSize) = some (target phys item.2) := by
  cases hadd : phys.add? (UInt32.ofNat item.2 * pageSize) with
  | none => cases (findTarget_of_none hadd).symm.trans h
  | some sum =>
      cases PhysAddr.eq_of_add? hadd
      rw [findTarget_of_some hadd] at h
      split_ifs at h with hentry
      cases h
      exact ⟨rfl, hentry, rfl⟩

/-- The targets of a viewport are the four frames from the address on, and they are only found where
each of its pages has an entry. -/
theorem targets_eq_ok {view : Viewport} {phys : PhysAddr} {targets : List (Page × PhysAddr)}
    (h : view.targets s phys = .ok targets) :
    targets = view.pages.zipIdx.map (fun item => (item.1, target phys item.2)) ∧
      ∀ item ∈ view.pages.zipIdx, (s.entry? item.1).isSome = true ∧
        phys.add? (UInt32.ofNat item.2 * pageSize) = some (target phys item.2) := by
  rw [targets_eq_mapM] at h
  obtain ⟨htargets, hfound⟩ := mapM_eq_ok (fun _ _ hitem => (findTarget_eq_ok hitem).1) h
  exact ⟨htargets, fun item hitem => (findTarget_eq_ok (hfound item hitem)).2⟩

/-- Where the targets were found, the second loop of a mapping comes to its end. -/
theorem foldlM_mapPhysicalPage_eq_edit {view : Viewport} {phys : PhysAddr}
    {found : List (Page × PhysAddr)} (hnull : ∀ page ∈ view.pages, page.number ≠ 0)
    (h : view.targets s phys.alignDown = .ok found) :
    found.foldlM (fun (t : PageTables) item => t.mapPhysicalPage item.1.start item.2) s =
      .ok (s.edit (view.mapEdits phys)) := by
  obtain ⟨heq, hsome⟩ := targets_eq_ok h
  rw [heq, List.foldlM_map]
  apply PageTables.foldlM_eq_edit (mapEdit phys) (fun item _ => item.1.number ≠ 0)
  · intro t item entry hentry hitem
    exact PageTables.mapPhysicalPage_start hentry hitem _
  · change (view.pages.zipIdx.map Prod.fst).Nodup
    rw [List.zipIdx_map_fst 0 view.pages]
    exact view.nodup_pages
  · intro item hitem
    have hpage := List.fst_mem_of_mem_zipIdx hitem
    obtain ⟨entry, hentry⟩ := Option.isSome_iff_exists.mp (hsome item hitem).1
    exact ⟨entry, hentry, hnull item.1 hpage⟩

/-- A viewport that finds its targets is pointed there. -/
theorem map_eq_ok {view : Viewport} {phys : PhysAddr} {found : List (Page × PhysAddr)}
    (hnull : ∀ page ∈ view.pages, page.number ≠ 0)
    (h : view.targets s phys.alignDown = .ok found) :
    view.map s phys = .ok (s.edit (view.mapEdits phys), view.range) := by
  rw [map, h]
  change ((found.foldlM (fun (t : PageTables) item =>
      t.mapPhysicalPage item.1.start item.2) s : Except MappingError PageTables) >>= _) = _
  rw [foldlM_mapPhysicalPage_eq_edit hnull h]
  rfl

/-- A refused mapping was refused before the first change, for want of a frame or an entry. -/
theorem targets_of_map_error {view : Viewport} {phys : PhysAddr} {error : MappingError}
    (hnull : ∀ page ∈ view.pages, page.number ≠ 0) (h : view.map s phys = .error error) :
    view.targets s phys.alignDown = .error error := by
  cases htargets : view.targets s phys.alignDown with
  | error other =>
      rw [map, htargets] at h
      cases h
      rfl
  | ok found =>
      rw [map_eq_ok hnull htargets] at h
      cases h

/-- Pointing a viewport either is refused or edits its four pages. -/
theorem map_cases {view : Viewport} (s : PageTables) (phys : PhysAddr)
    (hnull : ∀ page ∈ view.pages, page.number ≠ 0) :
    (∃ error, view.map s phys = .error error) ∨
      view.map s phys = .ok (s.edit (view.mapEdits phys), view.range) := by
  cases htargets : view.targets s phys.alignDown with
  | error error =>
      refine Or.inl ⟨error, ?_⟩
      rw [map, htargets]
      rfl
  | ok found => exact Or.inr (map_eq_ok hnull htargets)

end Viewport

end SlotKernel

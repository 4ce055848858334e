import SlotKernel.Proofs.Acceptance
import SlotKernel.Proofs.InPlace
import SlotKernel.Proofs.Sessions

/-!
Moving the window is all or nothing. What keeps a page from being moved is said in natural numbers,
for any tables and any window; a move succeeds when no page of the window has such an obstacle, and
else it is refused for the first page that has one. The tables are also changed in place here, entry
by entry, and there too a refused move leaves every entry as it was: the pages are different, so the
second pass finds each of them as the first pass left it.
-/

namespace SlotKernel

namespace WindowMove

/-- A page that can be moved: it is present, it shows its frame in the source slot, and it has a
mapped frame in the target slot. -/
structure Movable (move : WindowMove) (s : PageTables) (page : Page) (entry : TableEntry) :
    Prop where
  entry?_eq : s.entry? page = some entry
  isPresent : entry.isPresent = true
  frame : entry.frame.number.toNat = 256 * move.source + page.number.toNat
  source : 256 * move.source + page.number.toNat ≤ 0xfffff
  target : 256 * move.target + page.number.toNat ≤ 0xfffff
  mapped : 256 * move.target + page.number.toNat < move.frameLimit.toNat

/-- What is wrong with the frame that a page shows, or with the one that it is to show. -/
def frameObstacle? (move : WindowMove) (page : Page) (current : Frame) : Option MoveError :=
  if 0xfffff < 256 * move.source + page.number.toNat then
    some (.outOfRange page)
  else if current ≠ slotFrame move.source page then
    some (.frameMismatch page current (slotFrame move.source page))
  else if 256 * move.target + page.number.toNat ≤ 0xfffff ∧
      256 * move.target + page.number.toNat < move.frameLimit.toNat then
    none
  else
    some (.outOfRange page)

/-- What keeps a page from being moved, the first thing where there are several. -/
def obstacle? (move : WindowMove) (s : PageTables) (page : Page) : Option MoveError :=
  match s.entry? page with
  | none => some (.notMapped page)
  | some entry =>
      if entry.isPresent then move.frameObstacle? page entry.frame else some (.notMapped page)

variable {move : WindowMove} {s : PageTables} {page : Page}

theorem obstacle?_eq_none_iff :
    move.obstacle? s page = none ↔ ∃ entry, move.Movable s page entry := by
  have hnumber (hfits : 256 * move.source + page.number.toNat ≤ 0xfffff) :
      (slotFrame move.source page).number.toNat = 256 * move.source + page.number.toNat :=
    number_slotFrame (by omega) (by omega)
  unfold obstacle? frameObstacle?
  constructor
  · intro h
    cases hentry : s.entry? page with
    | none => simp [hentry] at h
    | some entry =>
        simp only [hentry] at h
        split_ifs at h with hpresent hsource hframe htarget
        have hframe := Classical.not_not.mp hframe
        exact ⟨entry, hentry, hpresent, hframe ▸ hnumber (by omega), by omega, htarget.1, htarget.2⟩
  · rintro ⟨entry, hentry, hpresent, hframe, hsource, htarget, hmapped⟩
    have hshows : entry.frame = slotFrame move.source page :=
      Frame.eq_of_number_eq (hframe.trans (hnumber hsource).symm)
    simp only [hentry, hpresent, hshows, if_true, Nat.not_lt.mpr hsource, htarget, hmapped, ne_eq,
      not_true_eq_false, and_self, if_false]

section Bounds

variable (hsource : move.source < 2 ^ 24) (htarget : move.target < 2 ^ 24)

include hsource htarget

theorem targetFrame_eq_elim (page : Page) (current : Frame) :
    move.targetFrame page current = (move.frameObstacle? page current).elim
      (.ok (slotFrame move.target page)) fun error => .error (.refused error) := by
  unfold frameObstacle?
  split_ifs with hbeyond hne hroom
  · exact targetFrame_of_beyond hsource hbeyond current
  · exact targetFrame_of_ne hsource (by omega) hne
  all_goals
    rw [Classical.not_not.mp hne, targetFrame_slotFrame hsource (by omega) htarget]
  · exact if_pos hroom
  · exact if_neg hroom

theorem checkPage_eq_elim (s : PageTables) (page : Page) :
    move.checkPage s page =
      (move.obstacle? s page).elim (.ok ()) fun error => .error (.refused error) := by
  unfold checkPage obstacle?
  cases s.entry? page with
  | none => rfl
  | some entry =>
      cases hpresent : entry.isPresent with
      | false =>
          simp only [hpresent]
          rfl
      | true =>
          simp only [hpresent, if_true, targetFrame_eq_elim hsource htarget]
          cases move.frameObstacle? page entry.frame <;> rfl

theorem forM_checkPage_eq_elim (s : PageTables) (pages : List Page) :
    pages.forM (move.checkPage s) =
      (pages.findSome? (move.obstacle? s)).elim (.ok ()) fun error => .error (.refused error) := by
  induction pages with
  | nil => rfl
  | cons page pages ih =>
      change (move.checkPage s page >>= fun _ => pages.forM (move.checkPage s)) = _
      rw [checkPage_eq_elim hsource htarget, ih, List.findSome?_cons]
      cases move.obstacle? s page <;> rfl

/-- A window moves unless a page of it has an obstacle, and the first of these is the answer. -/
theorem apply_eq_elim (s : PageTables) :
    move.apply s = (move.window.pages.findSome? (move.obstacle? s)).elim
      (.ok (s.edit (move.window.moveEdits move.target), move.window.range))
      fun error => .error (.refused error) := by
  have hchecks := forM_checkPage_eq_elim hsource htarget s move.window.pages
  cases hfirst : move.window.pages.findSome? (move.obstacle? s) with
  | some error =>
      rw [apply, hchecks, hfirst]
      rfl
  | none =>
      have hmovable (page) (hpage : page ∈ move.window.pages) :=
        obstacle?_eq_none_iff.mp (List.findSome?_eq_none_iff.mp hfirst page hpage)
      apply apply_eq_ok
      · intro page hpage
        obtain ⟨entry, hentry, hpresent, hframe, hsource', -⟩ := hmovable page hpage
        have hnumber : (slotFrame move.source page).number.toNat = _ :=
          number_slotFrame (by omega) (by omega)
        exact ⟨entry, hentry, hpresent, Frame.eq_of_number_eq (hframe.trans hnumber.symm)⟩
      · intro page hpage
        obtain ⟨entry, -, -, -, hsource', htarget', hmapped⟩ := hmovable page hpage
        exact targetFrame_eq (by omega) (by omega) hmapped

theorem apply_eq_ok_iff {moved : PageTables} {range : PageRange} :
    move.apply s = .ok (moved, range) ↔
      (∀ page ∈ move.window.pages, ∃ entry, move.Movable s page entry) ∧
        moved = s.edit (move.window.moveEdits move.target) ∧ range = move.window.range := by
  have hmovable : move.window.pages.findSome? (move.obstacle? s) = none ↔
      ∀ page ∈ move.window.pages, ∃ entry, move.Movable s page entry := by
    simp only [List.findSome?_eq_none_iff, obstacle?_eq_none_iff]
  rw [← hmovable, apply_eq_elim hsource htarget]
  cases move.window.pages.findSome? (move.obstacle? s) with
  | some error =>
      constructor
      · intro h
        cases h
      · rintro ⟨h, -⟩
        cases h
  | none =>
      constructor
      · rintro ⟨⟩
        exact ⟨rfl, rfl, rfl⟩
      · rintro ⟨-, rfl, rfl⟩
        rfl

end Bounds

/-! ### In place -/

/-- Check a page of tables that are changed in place. -/
def checkInPlace (move : WindowMove) (page : Page) : EStateM (Failure MoveError) PageTables Unit
  | s =>
      match move.checkPage s page with
      | .ok _ => .ok () s
      | .error failure => .error failure s

/-- Point a page into the other slot in place. -/
def repointInPlace (move : WindowMove) (page : Page) : EStateM (Failure MoveError) PageTables Unit
  | s =>
      match move.repointPage s page with
      | .ok s' => .ok () s'
      | .error failure => .error failure s

/-- Both passes over the window in place. A second pass that was refused would leave the pages
before the refused one changed. -/
def applyInPlace (move : WindowMove) : EStateM (Failure MoveError) PageTables PageRange := do
  move.window.pages.forM move.checkInPlace
  move.window.pages.forM move.repointInPlace
  return move.window.range

theorem checkInPlace_eq_look (move : WindowMove) :
    move.checkInPlace = fun page => PageTables.look (move.checkPage · page) := by
  funext page s
  simp only [checkInPlace, PageTables.look]
  cases move.checkPage s page <;> rfl

theorem repointInPlace_eq_change (move : WindowMove) :
    move.repointInPlace = fun page => PageTables.change (move.repointPage · page) := by
  funext page s
  simp only [repointInPlace, PageTables.change]
  cases move.repointPage s page <;> rfl

/-- The first pass changes nothing, whatever it finds. -/
theorem forM_checkInPlace (s : PageTables) (pages : List Page) :
    pages.forM move.checkInPlace s =
      match pages.forM (move.checkPage s) with
      | .ok _ => .ok () s
      | .error failure => .error failure s := by
  rw [checkInPlace_eq_look, PageTables.forM_look, PageTables.look]
  cases pages.forM (move.checkPage s) <;> rfl

theorem forM_repointInPlace {s s' : PageTables} {pages : List Page}
    (h : pages.foldlM move.repointPage s = .ok s') :
    pages.forM move.repointInPlace s = .ok () s' := by
  rw [repointInPlace_eq_change]
  exact PageTables.forM_change h

/-- In place a move comes to the same end, and a refused one has changed nothing. -/
theorem applyInPlace_eq (s : PageTables) :
    move.applyInPlace s =
      match move.apply s with
      | .ok (s', range) => .ok range s'
      | .error failure => .error failure s := by
  have hfirst := @forM_checkInPlace move s move.window.pages
  change (move.window.pages.forM move.checkInPlace >>= fun _ =>
    move.window.pages.forM move.repointInPlace >>= fun _ => pure move.window.range) s = _
  cases hchecks : move.window.pages.forM (move.checkPage s) with
  | error failure =>
      rw [hchecks] at hfirst
      rw [bind_of_error hfirst, apply, hchecks]
      rfl
  | ok _ =>
      have hpass := forM_eq_ok_iff.mp hchecks
      have hsecond := forM_repointInPlace (foldlM_repointPage_eq_edit hpass)
      rw [hchecks] at hfirst
      rw [bind_of_ok hfirst, bind_of_ok hsecond, apply_eq_edit hpass]
      rfl

end WindowMove

/-- Searching the pages of a window finds the lowest of them that has something to be found. -/
theorem Window.findSome?_pages_eq_some_iff {α : Type} {window : Window} {find : Page → Option α}
    {found : α} :
    window.pages.findSome? find = some found ↔ ∃ page ∈ window.pages, find page = some found ∧
      ∀ other ∈ window.pages, other.number < page.number → find other = none := by
  have hascending := window.pairwise_pages
  rw [List.findSome?_eq_some_iff]
  constructor
  · rintro ⟨before, page, after, hpages, hfound, hbefore⟩
    rw [hpages] at hascending ⊢
    refine ⟨page, by simp, hfound, fun other hother hlower => ?_⟩
    rcases List.mem_append.mp hother with hmem | hmem
    · exact hbefore other hmem
    · have hafter := (List.pairwise_cons.mp (List.pairwise_append.mp hascending).2.1).1
      rcases List.mem_cons.mp hmem with rfl | hmem
      · exact absurd hlower (UInt32.lt_irrefl _)
      · exact absurd hlower (UInt32.lt_asymm (hafter other hmem))
  · rintro ⟨page, hpage, hfound, hlowest⟩
    obtain ⟨before, after, hpages⟩ := List.append_of_mem hpage
    rw [hpages] at hascending hlowest
    refine ⟨before, page, after, hpages, hfound, fun other hother => ?_⟩
    apply hlowest other (List.mem_append_left _ hother)
    exact (List.pairwise_append.mp hascending).2.2 other hother page List.mem_cons_self

namespace PageTables

/-- The second tables are the first with a window moved to a slot, and with nothing else changed in
any place of any table. -/
structure MovedTo (s : PageTables) (window : Window) (slot : Nat) (s' : PageTables) : Prop where
  /-- A page of the window shows its frame in the slot, under the same attribute bits. -/
  inside : ∀ page ∈ window.pages, ∃ entry entry' : TableEntry, s.entry? page = some entry ∧
    s'.entry? page = some entry' ∧
      entry'.raw.toNat = 4096 * (256 * slot + page.number.toNat) + entry.raw.toNat % 4096
  outside : ∀ table index, pageAt table index ∉ window.pages →
    s'.entryAt table index = s.entryAt table index
  directory : s'.directory = s.directory
  tableCount : s'.tableCount = s.tableCount
  base : s'.base = s.base

theorem movedTo_edit {s : PageTables} {window : Window} {slot : Nat}
    (hentries : ∀ page ∈ window.pages, ∃ entry, s.entry? page = some entry)
    (hroom : ∀ page ∈ window.pages, 256 * slot + page.number.toNat ≤ 0xfffff) :
    s.MovedTo window slot (s.edit (window.moveEdits slot)) where
  inside page hpage := by
    obtain ⟨entry, hentry⟩ := hentries page hpage
    have hfits := hroom page hpage
    have hnumber : (slotFrame slot page).number.toNat = 256 * slot + page.number.toNat :=
      number_slotFrame (by omega) (by omega)
    refine ⟨entry, entry.setFrame (slotFrame slot page), hentry, ?_, ?_⟩
    · rw [entry?_edit_moveEdits hpage, hentry, Option.map_some]
    · rw [TableEntry.toNat_setFrame, hnumber]
      omega
  outside table index hmem := by
    apply entryAt_edit_of_not_mem
    rwa [window.pages_moveEdits]
  directory := directory_edit s _
  tableCount := tableCount_edit s _
  base := base_edit s _

end PageTables

/-! ### On the board -/

namespace Simulated

/-- Whether or not interrupts are on, exactly the pages of the range are dropped. -/
theorem exists_invalidate (m : Simulated) (console : Console) (range : PageRange)
    (invalidation : Invalidation) :
    ∃ unmasked, Board.invalidate range invalidation ⟨m, console⟩ =
      .ok () ⟨{ m.droppedBy range.pages invalidation with unmasked := unmasked }, console⟩ := by
  have hnote (m : Simulated) : ∃ unmasked, m.noteMutation = { m with unmasked := unmasked } := by
    unfold noteMutation
    split
    · exact ⟨_, rfl⟩
    · exact ⟨m.unmasked, rfl⟩
  cases invalidation with
  | fullFlush =>
      obtain ⟨unmasked, hnoted⟩ := hnote m
      refine ⟨unmasked, ?_⟩
      change EStateM.Result.ok () (Board.mk { m.noteMutation with
        flushes := m.noteMutation.flushes + 1 } console) = _
      rw [hnoted]
      rfl
  | perPage =>
      change ∃ unmasked, (range.pages.forM fun page =>
        (liftM (Machine.invalidatePage (μ := Simulated) page) : Run (Board Simulated) Unit))
          ⟨m, console⟩ = .ok () ⟨{ m.dropped range.pages with unmasked := unmasked }, console⟩
      induction range.pages generalizing m with
      | nil => exact ⟨m.unmasked, by rw [dropped_nil]; rfl⟩
      | cons page pages ih =>
          obtain ⟨first, hnoted⟩ := hnote m
          obtain ⟨unmasked, hrest⟩ := ih { m.dropped [page] with unmasked := first }
          have hpage : (liftM (Machine.invalidatePage (μ := Simulated) page) :
              Run (Board Simulated) Unit) ⟨m, console⟩ =
              .ok () ⟨{ m.dropped [page] with unmasked := first }, console⟩ := by
            change EStateM.Result.ok () (Board.mk { m.noteMutation with
              invalidated := m.noteMutation.invalidated.push page } console) = _
            rw [hnoted, Array.push_eq_append]
            rfl
          refine ⟨unmasked, (bind_of_ok hpage).trans (hrest.trans ?_)⟩
          rw [← dropped_dropped m page pages]
          rfl

end Simulated

namespace WindowMove

section Board

variable {μ : Type} [Machine μ] {move : WindowMove} {s moved : PageTables} {range : PageRange}

/-- A move that is done drops the cached mappings of the range that it reports, and that is all. -/
theorem moveWindow_of_ok (h : move.apply s = .ok (moved, range)) (invalidation : Invalidation) :
    Board.moveWindow (μ := μ) move invalidation s = do
      Board.invalidate range invalidation
      return (moved, range) := by
  rw [Board.moveWindow, Board.movedTables, h]
  rfl

/-- A refused move panics before the machine has done anything. -/
theorem moveWindow_of_refused {error : MoveError} (h : move.apply s = .error (.refused error))
    (invalidation : Invalidation) (machine : μ) (console : Console) :
    ∃ console', Board.moveWindow move invalidation s ⟨machine, console⟩ =
      .error (.panicked (.windowMove error)) ⟨machine, console'⟩ := by
  rw [Board.moveWindow, Board.movedTables, h]
  exact ⟨_, rfl⟩

end Board

/-- A move of the window is done on all of its pages or on none. -/
structure AllOrNothing (move : WindowMove) (s : PageTables) : Prop where
  panicFree : PanicFree (move.apply s)
  ok_iff : (∃ moved range, move.apply s = .ok (moved, range)) ↔
    ∀ page ∈ move.window.pages, ∃ entry, move.Movable s page entry
  moved : ∀ moved range, move.apply s = .ok (moved, range) →
    s.MovedTo move.window move.target moved ∧ move.applyInPlace s = .ok range moved ∧
      range = ⟨move.window.firstPage, move.window.pageCount⟩
  /-- The answer is the first obstacle of the lowest page that has any. -/
  refused_iff : ∀ error, move.apply s = .error (.refused error) ↔
    ∃ page ∈ move.window.pages, move.obstacle? s page = some error ∧
      ∀ other ∈ move.window.pages, other.number < page.number → move.obstacle? s other = none
  unmoved : ∀ failure, move.apply s = .error failure → move.applyInPlace s = .error failure s
  secondPass : move.window.pages.forM move.checkInPlace s = .ok () s →
    ∃ moved, move.window.pages.forM move.repointInPlace s = .ok () moved
  /-- On every machine the cached mappings of the reported range are dropped after a move. -/
  committed : ∀ (μ : Type) [Machine μ] (invalidation : Invalidation) moved range,
    move.apply s = .ok (moved, range) → Board.moveWindow (μ := μ) move invalidation s = do
      Board.invalidate range invalidation
      return (moved, range)
  dropped : ∀ (m : Simulated) console invalidation moved range,
    move.apply s = .ok (moved, range) →
      ∃ unmasked, Board.moveWindow move invalidation s ⟨m, console⟩ = .ok (moved, range)
        ⟨{ m.droppedBy range.pages invalidation with unmasked := unmasked }, console⟩
  stopped : ∀ (μ : Type) [Machine μ] (machine : μ) console invalidation error,
    move.apply s = .error (.refused error) →
      ∃ console', Board.moveWindow move invalidation s ⟨machine, console⟩ =
        .error (.panicked (.windowMove error)) ⟨machine, console'⟩

/-- Whatever the tables look like and wherever the window lies, a move between slots whose frames
can be counted is done in full, exactly when each page can be moved, or it changes nothing. -/
theorem apply_all_or_nothing {move : WindowMove} (hsource : move.source < 2 ^ 24)
    (htarget : move.target < 2 ^ 24) (s : PageTables) : move.AllOrNothing s := by
  have hdone {moved : PageTables} {range : PageRange} :=
    @apply_eq_ok_iff move s hsource htarget moved range
  constructor
  case panicFree => exact panicFree_apply hsource htarget s
  case ok_iff =>
    constructor
    · rintro ⟨moved, range, h⟩
      exact (hdone.mp h).1
    · intro h
      exact ⟨_, _, hdone.mpr ⟨h, rfl, rfl⟩⟩
  case moved =>
    intro moved range h
    obtain ⟨hpages, rfl, rfl⟩ := hdone.mp h
    refine ⟨PageTables.movedTo_edit ?_ ?_, ?_, rfl⟩
    · intro page hpage
      obtain ⟨entry, hentry⟩ := hpages page hpage
      exact ⟨entry, hentry.entry?_eq⟩
    · intro page hpage
      obtain ⟨entry, hentry⟩ := hpages page hpage
      exact hentry.target
    · rw [applyInPlace_eq, h]
  case refused_iff =>
    intro error
    rw [← Window.findSome?_pages_eq_some_iff, apply_eq_elim hsource htarget]
    cases move.window.pages.findSome? (move.obstacle? s) <;> simp
  case unmoved =>
    intro failure h
    rw [applyInPlace_eq, h]
  case secondPass =>
    intro hfirst
    rw [forM_checkInPlace] at hfirst
    cases hchecks : move.window.pages.forM (move.checkPage s) with
    | error failure =>
        rw [hchecks] at hfirst
        cases hfirst
    | ok _ =>
        exact ⟨_, forM_repointInPlace (foldlM_repointPage_eq_edit (forM_eq_ok_iff.mp hchecks))⟩
  case committed =>
    intro μ _ invalidation moved range h
    exact moveWindow_of_ok h invalidation
  case dropped =>
    intro m console invalidation moved range h
    obtain ⟨unmasked, hinvalidate⟩ := m.exists_invalidate console range invalidation
    refine ⟨unmasked, ?_⟩
    rw [moveWindow_of_ok h, bind_of_ok hinvalidate]
    rfl
  case stopped =>
    intro μ _ machine console invalidation error h
    exact moveWindow_of_refused h invalidation machine console

/-- In tables as they are built, the window can be moved from its own place to any slot. -/
theorem movable_of_build {config : Config} {base : PhysAddr} {built : PageTables}
    {summary : BuildSummary}
    (hbuild : PageTables.build base config.processCount = .ok (built, summary)) {target : Nat}
    (htarget : target < config.processCount) {limit : UInt32}
    (hlimit : limit.toNat = 256 * (config.processCount + 1)) :
    ∀ page ∈ config.window.pages, ∃ entry,
      Movable ⟨config.window, 0, target, limit⟩ built page entry := by
  obtain ⟨_, _, hother, -, hentries⟩ :=
    PageTables.build_eq_ok config (PageTables.of_build_eq_ok hbuild).1
  cases hbuild.symm.trans hother
  have hcount : config.processCount ≤ 8 := config.processCount_le
  have hfirst := config.firstPage_bounds
  intro page hpage
  obtain ⟨hlow, hhigh⟩ := config.mem_pages.mp hpage
  have hentry := hentries page (by omega)
  rw [PageTables.initialEntry_of_ne_zero (by omega)] at hentry
  refine ⟨_, hentry, TableEntry.isPresent_new_initial _, ?_, ?_, ?_, ?_⟩
  · rw [TableEntry.frame_new _ (by change page.number.toNat < _; omega)]
    exact (Nat.zero_add _).symm
  all_goals
    simp only
    omega

/-- Two processes that were just set up: the window moves from slot 0 to slot 1. -/
theorem apply_all_or_nothing_halves :
    0 < 2 ^ 24 ∧ 1 < 2 ^ 24 ∧ ∃ built summary moved,
      PageTables.build ⟨0x90000⟩ Config.halves.processCount = .ok (built, summary) ∧
        WindowMove.apply ⟨Config.halves.window, 0, 1, 768⟩ built =
          .ok (moved, Config.halves.window.range) ∧
        built.MovedTo Config.halves.window 1 moved := by
  obtain ⟨built, summary, hbuild, -⟩ := @PageTables.build_eq_ok .halves ⟨0x90000⟩ (by decide)
  have hall := @apply_all_or_nothing ⟨Config.halves.window, 0, 1, 768⟩ (by decide) (by decide) built
  obtain ⟨moved, range, hmove⟩ := hall.ok_iff.mpr (movable_of_build hbuild (by decide) (by decide))
  obtain ⟨hmoved, -, rfl⟩ := hall.moved moved range hmove
  exact ⟨by decide, by decide, built, summary, moved, hbuild, hmove, hmoved⟩

end WindowMove

end SlotKernel

import SlotKernel.Proofs.Atomicity

/-!
Slots and process counts of any size. A number is cut to its low 32 bits before it is scaled to
frames, without a word, and the product panics where it does not fit. So each slot counts as the
slot of its low 32 bits: a window moves by the distance between the slots that the two numbers count
as, and that is the distance between the numbers only if the same was cut off both of them. A move
panics on the first page of the window or not at all.
-/

namespace SlotKernel

/-! ### Scaling -/

/-- A number is scaled as its low 32 bits are, if there is room for the result. So the result is the
one for the whole number only if nothing was cut off. -/
structure Narrows (scaled : Except Panic UInt32) (law : Nat → Nat) (n : Nat) : Prop where
  ok_iff : ∀ value, scaled = .ok value ↔
    law (n % 2 ^ 32) < 2 ^ 32 ∧ value.toNat = law (n % 2 ^ 32)
  exact_iff : ∀ value, scaled = .ok value → (value.toNat = law n ↔ n < 2 ^ 32)

theorem narrows_of_cases {scaled : Except Panic UInt32} {law : Nat → Nat} {n : Nat}
    (hlaw : Function.Injective law)
    (hroom : law (n % 2 ^ 32) < 2 ^ 32 → scaled = .ok (UInt32.ofNat (law (n % 2 ^ 32))))
    (hover : 2 ^ 32 ≤ law (n % 2 ^ 32) → ∃ cause, scaled = .error cause) :
    Narrows scaled law n := by
  have hok (value : UInt32) : scaled = .ok value ↔
      law (n % 2 ^ 32) < 2 ^ 32 ∧ value.toNat = law (n % 2 ^ 32) := by
    rcases Nat.lt_or_ge (law (n % 2 ^ 32)) (2 ^ 32) with hlt | hge
    · have hvalue : (UInt32.ofNat (law (n % 2 ^ 32))).toNat = law (n % 2 ^ 32) :=
        UInt32.toNat_ofNat_of_lt' hlt
      rw [hroom hlt, Except.ok.injEq, ← UInt32.toNat_inj, hvalue, eq_comm, and_iff_right hlt]
    · obtain ⟨cause, hcause⟩ := hover hge
      rw [hcause]
      constructor
      · intro h
        cases h
      · intro h
        omega
  refine ⟨hok, fun value h => ?_⟩
  rw [((hok value).mp h).2, hlaw.eq_iff]
  omega

theorem mul?_pagesPerMib_eq_none {word : UInt32} (h : 2 ^ 24 ≤ word.toNat) :
    Word.mul? word pagesPerMib = none := by
  have hscale : UInt32.toNat pagesPerMib = 256 := rfl
  rw [Word.mul?, hscale, if_neg (by simp only [UInt32.size]; omega)]

theorem slotBase_mod (slot : Nat) : slotBase (slot % 2 ^ 32) = slotBase slot := by
  rw [slotBase, slotBase, UInt32.ofNat_mod_size]

theorem slotBase_eq_error {slot : Nat} (hlow : 2 ^ 24 ≤ slot) (hhigh : slot < 2 ^ 32) :
    slotBase slot = .error .multiplyOverflow := by
  have hslot : (UInt32.ofNat slot).toNat = slot := UInt32.toNat_ofNat_of_lt' hhigh
  rw [slotBase, mul?_pagesPerMib_eq_none (by omega)]
  rfl

theorem identityMappedPages_mod (count : Nat) :
    identityMappedPages (count % 2 ^ 32) = identityMappedPages count := by
  rw [identityMappedPages, identityMappedPages, UInt32.ofNat_mod_size]

theorem identityMappedPages_eq_error {count : Nat} (hlow : 2 ^ 24 ≤ count + 1)
    (hhigh : count < 2 ^ 32) : ∃ cause, identityMappedPages count = .error cause := by
  have hcount : (UInt32.ofNat count).toNat = count := UInt32.toNat_ofNat_of_lt' hhigh
  have hone : UInt32.toNat 1 = 1 := rfl
  rw [identityMappedPages]
  cases hsum : Word.add? (UInt32.ofNat count) 1 with
  | none => exact ⟨.addOverflow, rfl⟩
  | some sum =>
      have hvalue := Word.toNat_of_add? hsum
      refine ⟨.multiplyOverflow, ?_⟩
      change orPanic .multiplyOverflow (Word.mul? sum pagesPerMib) = _
      rw [mul?_pagesPerMib_eq_none (by omega)]
      rfl

theorem narrows_slotBase (slot : Nat) :
    Narrows ((slotBase slot).map Frame.number) (256 * ·) slot := by
  rw [← slotBase_mod]
  apply narrows_of_cases
  · intro m n h
    simp only at h
    omega
  · intro hroom
    rw [slotBase_eq (by omega)]
    rfl
  · intro hover
    refine ⟨.multiplyOverflow, ?_⟩
    rw [slotBase_eq_error (by omega) (by omega)]
    rfl

theorem narrows_identityMappedPages (count : Nat) :
    Narrows (identityMappedPages count) (fun n => 256 * (n + 1)) count := by
  rw [← identityMappedPages_mod]
  apply narrows_of_cases
  · intro m n h
    simp only at h
    omega
  · intro hroom
    exact identityMappedPages_eq (by omega)
  · intro hover
    exact identityMappedPages_eq_error (by omega) (by omega)

/-! ### Moves -/

/-- The one frame lies above the base of the target slot as far as the other does above the base of
the source slot, in the integers. -/
def Frame.ShiftedTo (new old : Frame) (source target : Nat) : Prop :=
  (new.number.toNat : Int) = old.number.toNat - 256 * source + 256 * target

instance (new old : Frame) (source target : Nat) : Decidable (new.ShiftedTo old source target) :=
  inferInstanceAs (Decidable (_ = _))

namespace WindowMove

/-- The move between the slots that the numbers count as. -/
def narrowed (move : WindowMove) : WindowMove :=
  { move with source := move.source % 2 ^ 32, target := move.target % 2 ^ 32 }

variable {move : WindowMove} {s : PageTables} {page : Page}

theorem targetFrame_narrowed (move : WindowMove) :
    move.narrowed.targetFrame = move.targetFrame := by
  have hsource : slotBase move.narrowed.source = slotBase move.source := slotBase_mod move.source
  have htarget : slotBase move.narrowed.target = slotBase move.target := slotBase_mod move.target
  funext page current
  rw [targetFrame, hsource, htarget]
  rfl

/-- A move looks at nothing but the low 32 bits of its slots. -/
theorem apply_narrowed (move : WindowMove) (s : PageTables) :
    move.narrowed.apply s = move.apply s := by
  have hcheck : move.narrowed.checkPage s = move.checkPage s := by
    funext page
    rw [checkPage, checkPage, targetFrame_narrowed]
  have hrepoint : move.narrowed.repointPage = move.repointPage := by
    funext t page
    rw [repointPage, repointPage, targetFrame_narrowed]
  rw [apply, apply, hcheck, hrepoint, narrowed]

/-- A slot is asked for that cannot be scaled: the source for any frame, the target for the frame of
the page in the source slot. -/
def Unscaled (move : WindowMove) (page : Page) (current : Frame) : Prop :=
  2 ^ 24 ≤ move.source ∨ 2 ^ 24 ≤ move.target ∧
    256 * move.source + page.number.toNat ≤ 0xfffff ∧ current = slotFrame move.source page

section Words

variable (hsource : move.source < 2 ^ 32) (htarget : move.target < 2 ^ 32)

include hsource htarget

theorem targetFrame_of_unscaled {current : Frame} (h : move.Unscaled page current) :
    move.targetFrame page current = .error (.panicked .multiplyOverflow) := by
  rcases Nat.lt_or_ge move.source (2 ^ 24) with hlow | hhigh
  · obtain hhigh | ⟨hhigh, hfits, rfl⟩ := h
    · omega
    · have hexpected := add?_slotBase hlow page
      rw [if_pos hfits] at hexpected
      rw [targetFrame, slotBase_eq hlow, slotBase_eq_error hhigh htarget]
      simp only [bind_lift_ok, hexpected]
      simp only [slotFrame, ne_eq, not_true_eq_false, if_false]
      rfl
  · rw [targetFrame, slotBase_eq_error hhigh hsource]
    rfl

omit hsource htarget in
theorem targetFrame_of_scaled {current : Frame} (h : ¬ move.Unscaled page current)
    (hhigh : 2 ^ 24 ≤ move.source ∨ 2 ^ 24 ≤ move.target) :
    ∃ error, move.targetFrame page current = .error (.refused error) := by
  rw [Unscaled, not_or] at h
  obtain ⟨hlow, hother⟩ := h
  have hlow : move.source < 2 ^ 24 := Nat.lt_of_not_le hlow
  rcases Nat.lt_or_ge 0xfffff (256 * move.source + page.number.toNat) with hbeyond | hfits
  · exact ⟨_, targetFrame_of_beyond hlow hbeyond current⟩
  · exact ⟨_, targetFrame_of_ne hlow hfits fun hshows => hother ⟨by omega, hfits, hshows⟩⟩

theorem targetFrame_eq_panicked_iff {current : Frame} {cause : Panic} :
    move.targetFrame page current = .error (.panicked cause) ↔
      cause = .multiplyOverflow ∧ move.Unscaled page current := by
  constructor
  · intro h
    by_cases hunscaled : move.Unscaled page current
    · rw [targetFrame_of_unscaled hsource htarget hunscaled] at h
      cases h
      exact ⟨rfl, hunscaled⟩
    · by_cases hhigh : 2 ^ 24 ≤ move.source ∨ 2 ^ 24 ≤ move.target
      · obtain ⟨error, hrefused⟩ := targetFrame_of_scaled hunscaled hhigh
        cases hrefused.symm.trans h
      · exact absurd h (panicFree_targetFrame (by omega) (by omega) page current cause)
  · rintro ⟨rfl, hunscaled⟩
    exact targetFrame_of_unscaled hsource htarget hunscaled

theorem lt_of_targetFrame_eq_ok {current moved : Frame}
    (h : move.targetFrame page current = .ok moved) :
    move.source < 2 ^ 24 ∧ move.target < 2 ^ 24 := by
  by_contra hhigh
  by_cases hunscaled : move.Unscaled page current
  · cases (targetFrame_of_unscaled hsource htarget hunscaled).symm.trans h
  · obtain ⟨error, hrefused⟩ := targetFrame_of_scaled hunscaled (by omega)
    cases hrefused.symm.trans h

/-- A page that passes the check has both slots scaled. -/
theorem lt_of_checkPage_eq_ok (h : move.checkPage s page = .ok ()) :
    move.source < 2 ^ 24 ∧ move.target < 2 ^ 24 := by
  obtain ⟨entry, -, -, hmoved⟩ := of_checkPage_eq_ok h
  exact lt_of_targetFrame_eq_ok hsource htarget hmoved

theorem checkPage_eq_panicked_iff {cause : Panic} :
    move.checkPage s page = .error (.panicked cause) ↔ cause = .multiplyOverflow ∧
      ∃ entry, s.entry? page = some entry ∧ entry.isPresent = true ∧
        move.Unscaled page entry.frame := by
  unfold checkPage
  cases s.entry? page with
  | none =>
      constructor
      · intro h
        cases h
      · rintro ⟨-, entry, hentry, -⟩
        cases hentry
  | some entry =>
      cases hpresent : entry.isPresent with
      | false =>
          simp only [hpresent]
          constructor
          · intro h
            cases h
          · rintro ⟨-, other, hother, habsent, -⟩
            cases hother
            cases hpresent.symm.trans habsent
      | true =>
          have hiff := @targetFrame_eq_panicked_iff move page hsource htarget entry.frame cause
          simp only [hpresent, if_true, Option.some.injEq, exists_eq_left', true_and, ← hiff]
          cases move.targetFrame page entry.frame with
          | ok moved =>
              constructor
              · intro h
                cases h
              · intro h
                cases h
          | error failure =>
              constructor
              · rintro ⟨⟩
                rfl
              · rintro ⟨⟩
                rfl

theorem apply_eq_panicked_iff {cause : Panic} :
    move.apply s = .error (.panicked cause) ↔ cause = .multiplyOverflow ∧
      ∃ page entry, move.window.pages.head? = some page ∧ s.entry? page = some entry ∧
        entry.isPresent = true ∧ move.Unscaled page entry.frame := by
  constructor
  · intro h
    have hchecks := checks_of_apply_error h
    cases hpages : move.window.pages with
    | nil =>
        rw [hpages] at hchecks
        cases hchecks
    | cons page pages =>
        rw [hpages] at hchecks
        change (move.checkPage s page >>= fun _ => pages.forM (move.checkPage s)) = _ at hchecks
        cases hfirst : move.checkPage s page with
        | ok _ =>
            obtain ⟨hsource', htarget'⟩ := lt_of_checkPage_eq_ok hsource htarget hfirst
            exact absurd h (panicFree_apply hsource' htarget' s cause)
        | error failure =>
            rw [hfirst] at hchecks
            cases hchecks
            obtain ⟨hcause, entry, hentry⟩ :=
              (checkPage_eq_panicked_iff hsource htarget).mp hfirst
            exact ⟨hcause, page, entry, rfl, hentry⟩
  · rintro ⟨hcause, page, entry, hhead, hentry⟩
    have hfirst := (checkPage_eq_panicked_iff hsource htarget).mpr ⟨hcause, entry, hentry⟩
    obtain ⟨pages, hpages⟩ := List.head?_eq_some_iff.mp hhead
    rw [apply, hpages]
    change (move.checkPage s page >>= fun _ => pages.forM (move.checkPage s)) >>= _ = _
    rw [hfirst]
    rfl

theorem shiftedTo_of_apply_eq_ok {moved : PageTables} {range : PageRange}
    (h : move.apply s = .ok (moved, range)) (hpage : page ∈ move.window.pages) :
    ∃ entry entry', s.entry? page = some entry ∧ moved.entry? page = some entry' ∧
      entry'.frame.ShiftedTo entry.frame move.source move.target := by
  have hchecks : move.window.pages.forM (move.checkPage s) = .ok () := by
    obtain ⟨_, hchecks, -⟩ := exists_of_bind_eq_ok h
    exact hchecks
  obtain ⟨hsource', htarget'⟩ :=
    lt_of_checkPage_eq_ok hsource htarget (forM_eq_ok_iff.mp hchecks page hpage)
  obtain ⟨hmovable, rfl, -⟩ := (apply_eq_ok_iff hsource' htarget').mp h
  obtain ⟨entry, hentry, -, hframe, -, hroom, -⟩ := hmovable page hpage
  have hnumber : (slotFrame move.target page).number.toNat = _ :=
    number_slotFrame (by omega) (by omega)
  refine ⟨entry, entry.setFrame (slotFrame move.target page), hentry, ?_, ?_⟩
  · rw [PageTables.entry?_edit_moveEdits hpage, hentry, Option.map_some]
  · rw [Frame.ShiftedTo, entry.frame_setFrame (by rw [hnumber]; omega), hnumber, hframe]
    omega

end Words

/-- What a move comes to, whatever numbers its slots have. -/
structure Narrowed (move : WindowMove) (s : PageTables) : Prop where
  apply_eq : move.apply s = move.narrowed.apply s
  /-- Where both slots are scaled, the window is moved or refused for its first obstacle. -/
  scaled : move.source % 2 ^ 32 < 2 ^ 24 → move.target % 2 ^ 32 < 2 ^ 24 →
    move.apply s = (move.window.pages.findSome? (move.narrowed.obstacle? s)).elim
      (.ok (s.edit (move.window.moveEdits (move.target % 2 ^ 32)), move.window.range))
      fun error => .error (.refused error)
  /-- Each page moves by the distance of the slots that the numbers count as. -/
  moved : ∀ moved range, move.apply s = .ok (moved, range) → ∀ page ∈ move.window.pages,
    ∃ entry entry', s.entry? page = some entry ∧ moved.entry? page = some entry' ∧
      entry'.frame.ShiftedTo entry.frame (move.source % 2 ^ 32) (move.target % 2 ^ 32) ∧
      (entry'.frame.ShiftedTo entry.frame move.source move.target ↔
        move.source / 2 ^ 32 = move.target / 2 ^ 32)
  panicked_iff : ∀ cause, move.apply s = .error (.panicked cause) ↔
    cause = .multiplyOverflow ∧ ∃ page entry, move.window.pages.head? = some page ∧
      s.entry? page = some entry ∧ entry.isPresent = true ∧
        move.narrowed.Unscaled page entry.frame

theorem narrowed_apply (move : WindowMove) (s : PageTables) : move.Narrowed s := by
  have hsource : move.narrowed.source < 2 ^ 32 := Nat.mod_lt _ (by decide)
  have htarget : move.narrowed.target < 2 ^ 32 := Nat.mod_lt _ (by decide)
  constructor
  case apply_eq => exact (move.apply_narrowed s).symm
  case scaled =>
    intro hsource' htarget'
    rw [← move.apply_narrowed]
    exact move.narrowed.apply_eq_elim hsource' htarget' s
  case moved =>
    intro moved range h page hpage
    rw [← move.apply_narrowed] at h
    obtain ⟨entry, entry', hentry, hentry', hshifted⟩ :=
      shiftedTo_of_apply_eq_ok hsource htarget h hpage
    have hshifted : entry'.frame.ShiftedTo entry.frame (move.source % 2 ^ 32)
      (move.target % 2 ^ 32) := hshifted
    refine ⟨entry, entry', hentry, hentry', hshifted, ?_⟩
    rw [Frame.ShiftedTo] at hshifted ⊢
    omega
  case panicked_iff =>
    intro cause
    rw [← move.apply_narrowed]
    exact apply_eq_panicked_iff hsource htarget

end WindowMove

/-- Slot arithmetic for every move in all tables, and for every slot and every process count: it is
that of the numbers cut to 32 bits. -/
theorem slot_arithmetic_narrows (move : WindowMove) (s : PageTables) (n : Nat) :
    move.Narrowed s ∧ Narrows ((slotBase n).map Frame.number) (256 * ·) n ∧
      Narrows (identityMappedPages n) (fun count => 256 * (count + 1)) n :=
  ⟨move.narrowed_apply s, narrows_slotBase n, narrows_identityMappedPages n⟩

/-- In tables for two processes the window moves from slot 0 to slot `2 ^ 32 + 1`, as if that were
slot 1. On the way to slot `2 ^ 24` it panics. -/
theorem slot_arithmetic_miscalculates_halves :
    ∃ built summary, PageTables.build ⟨0x90000⟩ Config.halves.processCount = .ok (built, summary) ∧
      (∃ moved entry entry', WindowMove.apply ⟨Config.halves.window, 0, 2 ^ 32 + 1, 768⟩ built =
          .ok (moved, Config.halves.window.range) ∧
        built.entry? ⟨0x180⟩ = some entry ∧ moved.entry? ⟨0x180⟩ = some entry' ∧
        entry.frame = ⟨0x180⟩ ∧ entry'.frame = ⟨0x280⟩ ∧
        ¬ entry'.frame.ShiftedTo entry.frame 0 (2 ^ 32 + 1)) ∧
      WindowMove.apply ⟨Config.halves.window, 0, 2 ^ 24, 768⟩ built =
        .error (.panicked .multiplyOverflow) ∧
      slotBase (2 ^ 32) = .ok ⟨0⟩ ∧ identityMappedPages (2 ^ 32) = .ok 256 := by
  obtain ⟨built, summary, hbuild, -⟩ := @PageTables.build_eq_ok .halves ⟨0x90000⟩ (by decide)
  have hmovable : ∀ page ∈ Config.halves.window.pages, ∃ entry,
      WindowMove.Movable ⟨Config.halves.window, 0, 1, 768⟩ built page entry :=
    WindowMove.movable_of_build hbuild (by decide) (by decide)
  have hfirst : ⟨0x180⟩ ∈ Config.halves.window.pages := by decide
  have hmove := (@WindowMove.apply_eq_ok_iff ⟨Config.halves.window, 0, 1, 768⟩ built (by decide)
    (by decide) _ _).mpr ⟨hmovable, rfl, rfl⟩
  obtain ⟨entry, hentry⟩ := hmovable ⟨0x180⟩ hfirst
  have hframe : entry.frame = ⟨0x180⟩ := Frame.eq_of_number_eq hentry.frame
  obtain ⟨_, entry', hother, hentry', hshifted⟩ :=
    WindowMove.shiftedTo_of_apply_eq_ok (by decide) (by decide) hmove hfirst
  have hshifted : entry'.frame.ShiftedTo _ 0 1 := hshifted
  cases hother.symm.trans hentry.entry?_eq
  have hframe' : entry'.frame = ⟨0x280⟩ := by
    have hold : UInt32.toNat 0x180 = 0x180 := rfl
    have hnew : UInt32.toNat 0x280 = 0x280 := rfl
    apply Frame.eq_of_number_eq
    rw [Frame.ShiftedTo, hframe, hold] at hshifted
    rw [hnew]
    omega
  refine ⟨built, summary, hbuild, ⟨_, entry, entry', ?_, hentry.entry?_eq, hentry', hframe, hframe',
    ?_⟩, ?_, rfl, rfl⟩
  · rw [← WindowMove.apply_narrowed]
    exact hmove
  · rw [hframe, hframe']
    decide
  · exact (WindowMove.apply_eq_panicked_iff (by decide) (by decide)).mpr ⟨rfl, ⟨0x180⟩, entry, rfl,
      hentry.entry?_eq, hentry.isPresent, Or.inr ⟨by decide, by decide, hframe⟩⟩

end SlotKernel

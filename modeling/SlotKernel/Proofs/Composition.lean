import SlotKernel.Proofs.Atomicity

/-!
Moves of the window compose and can be taken back. A move overwrites the frames of the window's
pages and keeps everything else, so of two moves in a row only the second leaves its mark, and a
move to the slot that the window shows leaves no mark at all. A window that went from slot to slot
looks as if it had gone to the last one at once.
-/

namespace SlotKernel

namespace PageTables

/-- The later of two moves leaves nothing of the earlier one. -/
theorem edit_moveEdits_moveEdits (s : PageTables) (window : Window) (first second : Nat) :
    PageTables.edit (s.edit (window.moveEdits first)) (window.moveEdits second) =
      s.edit (window.moveEdits second) := by
  rw [← edit_append]
  apply edit_ext
  intro page
  rw [edit_append]
  by_cases hpage : page ∈ window.pages
  · rw [entry?_edit_moveEdits hpage, entry?_edit_moveEdits hpage, entry?_edit_moveEdits hpage,
      Option.map_map]
    congr 1
    funext entry
    exact entry.setFrame_setFrame _ _
  · have hmoved : ∀ slot, page ∉ (window.moveEdits slot).map (·.1) := by
      intro slot
      rwa [window.pages_moveEdits]
    rw [entry?_edit_of_not_mem (hmoved second), entry?_edit_of_not_mem (hmoved first),
      entry?_edit_of_not_mem (hmoved second)]

/-- A window that shows a slot already is not changed by a move there. -/
theorem edit_moveEdits_self {s : PageTables} {window : Window} {slot : Nat}
    (h : ∀ page ∈ window.pages, ∃ entry, s.entry? page = some entry ∧
      entry.frame = slotFrame slot page) :
    s.edit (window.moveEdits slot) = s := by
  change _ = s.edit []
  apply edit_ext
  intro page
  change _ = s.entry? page
  by_cases hpage : page ∈ window.pages
  · obtain ⟨entry, hentry, hframe⟩ := h page hpage
    rw [entry?_edit_moveEdits hpage, hentry, Option.map_some, ← hframe, entry.setFrame_frame]
  · apply entry?_edit_of_not_mem
    rwa [window.pages_moveEdits]

end PageTables

namespace WindowMove

/-- The move between two slots takes the first tables to the second. -/
def Takes (window : Window) (limit : UInt32) (source target : Nat) (s moved : PageTables) : Prop :=
  WindowMove.apply ⟨window, source, target, limit⟩ s = .ok (moved, window.range)

/-- Move the window from a slot through others, one after the other. -/
def applyAll (window : Window) (limit : UInt32) :
    Nat → List Nat → PageTables → Except (Failure MoveError) PageTables
  | _, [], s => .ok s
  | source, target :: targets, s => do
      let (moved, _) ← WindowMove.apply ⟨window, source, target, limit⟩ s
      applyAll window limit target targets moved

theorem applyAll_cons {window : Window} {limit : UInt32} {source target : Nat} {s moved : PageTables}
    (h : Takes window limit source target s moved) (targets : List Nat) :
    applyAll window limit source (target :: targets) s =
      applyAll window limit target targets moved := by
  rw [applyAll, h]
  rfl

section Slots

variable {window : Window} {limit : UInt32} {a b c : Nat} {s s₁ s₂ : PageTables}
  {page : Page} {entry : TableEntry}

theorem Movable.frame_eq (h : Movable ⟨window, a, b, limit⟩ s page entry) :
    entry.frame = slotFrame a page := by
  have hsource : 256 * a + page.number.toNat ≤ 0xfffff := h.source
  have hnumber : (slotFrame a page).number.toNat = 256 * a + page.number.toNat :=
    number_slotFrame (by omega) (by omega)
  exact Frame.eq_of_number_eq (h.frame.trans hnumber.symm)

/-- After a move a page can be moved on to every slot that has a mapped frame for it. -/
theorem Movable.moved (h : Movable ⟨window, a, b, limit⟩ s page entry) (hpage : page ∈ window.pages)
    (htarget : 256 * c + page.number.toNat ≤ 0xfffff)
    (hmapped : 256 * c + page.number.toNat < limit.toNat) :
    ∃ entry', Movable ⟨window, b, c, limit⟩ (s.edit (window.moveEdits b)) page entry' := by
  have hroom : 256 * b + page.number.toNat ≤ 0xfffff := h.target
  have hnumber : (slotFrame b page).number.toNat = 256 * b + page.number.toNat :=
    number_slotFrame (by omega) (by omega)
  refine ⟨entry.setFrame (slotFrame b page), ?_, ?_, ?_, hroom, htarget, hmapped⟩
  · rw [PageTables.entry?_edit_moveEdits hpage, h.entry?_eq, Option.map_some]
  · rw [TableEntry.isPresent_setFrame]
    exact h.isPresent
  · rw [TableEntry.frame_setFrame _ (by omega)]
    exact hnumber

theorem takes_iff (ha : a < 2 ^ 24) (hb : b < 2 ^ 24) :
    Takes window limit a b s s₁ ↔
      (∀ page ∈ window.pages, ∃ entry, Movable ⟨window, a, b, limit⟩ s page entry) ∧
        s₁ = s.edit (window.moveEdits b) := by
  rw [Takes, @apply_eq_ok_iff ⟨window, a, b, limit⟩ s ha hb]
  simp only [and_true]

theorem Takes.trans (ha : a < 2 ^ 24) (hb : b < 2 ^ 24) (hc : c < 2 ^ 24)
    (hfirst : Takes window limit a b s s₁) (hsecond : Takes window limit b c s₁ s₂) :
    Takes window limit a c s s₂ := by
  obtain ⟨hpages, rfl⟩ := (takes_iff ha hb).mp hfirst
  obtain ⟨hmoved, rfl⟩ := (takes_iff hb hc).mp hsecond
  refine (takes_iff ha hc).mpr ⟨?_, PageTables.edit_moveEdits_moveEdits s window b c⟩
  intro page hpage
  obtain ⟨entry, hentry⟩ := hpages page hpage
  obtain ⟨_, hentry'⟩ := hmoved page hpage
  exact ⟨entry, hentry.entry?_eq, hentry.isPresent, hentry.frame, hentry.source, hentry'.target,
    hentry'.mapped⟩

/-- The frames that the window shows are mapped. -/
def WindowMapped (window : Window) (limit : UInt32) (s : PageTables) : Prop :=
  ∀ page ∈ window.pages, ∀ entry, s.entry? page = some entry → entry.frame.number < limit

/-- A window that shows a slot can be moved there, and nothing comes of it. -/
theorem Takes.refl (ha : a < 2 ^ 24) (hb : b < 2 ^ 24) (h : Takes window limit a b s s₁)
    (hmapped : WindowMapped window limit s) : Takes window limit a a s s := by
  obtain ⟨hpages, -⟩ := (takes_iff ha hb).mp h
  refine (takes_iff ha ha).mpr ⟨?_, (PageTables.edit_moveEdits_self ?_).symm⟩
  · intro page hpage
    obtain ⟨entry, hentry⟩ := hpages page hpage
    have hlimit := UInt32.lt_iff_toNat_lt.mp (hmapped page hpage entry hentry.entry?_eq)
    exact ⟨entry, hentry.entry?_eq, hentry.isPresent, hentry.frame, hentry.source, hentry.source,
      hentry.frame ▸ hlimit⟩
  · intro page hpage
    obtain ⟨entry, hentry⟩ := hpages page hpage
    exact ⟨entry, hentry.entry?_eq, hentry.frame_eq⟩

/-- The way back from a move leads to the tables that it started from. -/
theorem Takes.symm (ha : a < 2 ^ 24) (hb : b < 2 ^ 24) (h : Takes window limit a b s s₁)
    (hmapped : WindowMapped window limit s) : Takes window limit b a s₁ s := by
  obtain ⟨hself, hsame⟩ := (takes_iff ha ha).mp (h.refl ha hb hmapped)
  obtain ⟨hpages, rfl⟩ := (takes_iff ha hb).mp h
  refine (takes_iff hb ha).mpr ⟨?_, ?_⟩
  · intro page hpage
    obtain ⟨entry, hentry⟩ := hpages page hpage
    obtain ⟨_, hentry'⟩ := hself page hpage
    exact hentry.moved hpage hentry'.target hentry'.mapped
  · rw [PageTables.edit_moveEdits_moveEdits]
    exact hsame

end Slots

/-- Where a window can go from slot to slot, it can go to the last of them at once, with the same
tables in the end. -/
theorem takes_of_applyAll {window : Window} {limit : UInt32} {a last : Nat} {slots : List Nat}
    (ha : a < 2 ^ 24) (hlast : last < 2 ^ 24) (hslots : ∀ slot ∈ slots, slot < 2 ^ 24)
    {s moved : PageTables} (h : applyAll window limit a (slots ++ [last]) s = .ok moved) :
    Takes window limit a last s moved := by
  induction slots generalizing a s with
  | nil =>
      obtain ⟨⟨next, range⟩, hnext, hrest⟩ := exists_of_bind_eq_ok h
      cases hrest
      obtain ⟨-, -, rfl⟩ := (@apply_eq_ok_iff ⟨window, a, last, limit⟩ s ha hlast _ _).mp hnext
      exact hnext
  | cons b slots ih =>
      obtain ⟨hb, hslots⟩ := List.forall_mem_cons.mp hslots
      obtain ⟨⟨next, range⟩, hnext, hrest⟩ := exists_of_bind_eq_ok h
      obtain ⟨-, -, rfl⟩ := (@apply_eq_ok_iff ⟨window, a, b, limit⟩ s ha hb _ _).mp hnext
      exact Takes.trans ha hb hlast hnext (ih hb hslots hrest)

/-- Whatever the tables look like, moves of a window compose, they are taken back by the move the
other way, and a chain of them is as good as its last one. -/
theorem moves_compose_and_invert (window : Window) (limit : UInt32) (s : PageTables) {a : Nat}
    (ha : a < 2 ^ 24) :
    (∀ b < 2 ^ 24, ∀ c < 2 ^ 24, ∀ s₁ s₂, Takes window limit a b s s₁ →
        Takes window limit b c s₁ s₂ → Takes window limit a c s s₂) ∧
      (WindowMapped window limit s → ∀ b < 2 ^ 24, ∀ s₁, Takes window limit a b s s₁ →
        Takes window limit b a s₁ s ∧ Takes window limit a a s s) ∧
      ∀ slots : List Nat, (∀ slot ∈ slots, slot < 2 ^ 24) → ∀ last < 2 ^ 24, ∀ moved,
        applyAll window limit a (slots ++ [last]) s = .ok moved →
          Takes window limit a last s moved := by
  refine ⟨?_, ?_, ?_⟩
  · intro b hb c hc s₁ s₂ hfirst hsecond
    exact hfirst.trans ha hb hc hsecond
  · intro hmapped b hb s₁ hmove
    exact ⟨hmove.symm ha hb hmapped, hmove.refl ha hb hmapped⟩
  · intro slots hslots last hlast moved hall
    exact takes_of_applyAll ha hlast hslots hall

/-- Two processes that were just set up: the window goes from slot 0 to slot 1, back, and to slot 1
again. -/
theorem moves_compose_and_invert_halves :
    0 < 2 ^ 24 ∧ ∃ built summary moved,
      PageTables.build ⟨0x90000⟩ Config.halves.processCount = .ok (built, summary) ∧
        WindowMapped Config.halves.window 768 built ∧
        Takes Config.halves.window 768 0 1 built moved ∧
        Takes Config.halves.window 768 1 0 moved built ∧
        applyAll Config.halves.window 768 0 [1, 0, 1] built = .ok moved := by
  obtain ⟨built, summary, hbuild, -⟩ := @PageTables.build_eq_ok .halves ⟨0x90000⟩ (by decide)
  have hlimit : UInt32.toNat 768 = 256 * (Config.halves.processCount + 1) := rfl
  have hmapped : WindowMapped Config.halves.window 768 built := by
    intro page hpage entry hentry
    obtain ⟨_, hshows⟩ := movable_of_build hbuild (by decide : 0 < 2) hlimit page hpage
    cases hentry.symm.trans hshows.entry?_eq
    exact UInt32.lt_iff_toNat_lt.mpr (hshows.frame ▸ hshows.mapped)
  have hmovable := movable_of_build hbuild (by decide : 1 < 2) hlimit
  have hmove := (takes_iff (by decide) (by decide)).mpr ⟨hmovable, rfl⟩
  obtain ⟨hback, -⟩ := (moves_compose_and_invert Config.halves.window 768 built
    (by decide : 0 < 2 ^ 24)).2.1 hmapped 1 (by decide) _ hmove
  refine ⟨by decide, built, summary, _, hbuild, hmapped, hmove, hback, ?_⟩
  rw [applyAll_cons hmove, applyAll_cons hback, applyAll_cons hmove]
  rfl

end WindowMove

end SlotKernel

import SlotKernel.Proofs.Walks

/-!
Page 0 is never mapped. Edits leave it to page 0 whether it is present, a build clears the flag, and
in empty structures the page has no entry. So no sequence of calls gives an address below 4096 a
meaning, and a page number of more than 20 bits is no other name of a low page.
-/

namespace SlotKernel

namespace PageTables

/-- Page 0 has no entry, or one that is not present. -/
def NullAbsent (s : PageTables) : Prop :=
  ∀ entry, s.entry? ⟨0⟩ = some entry → entry.isPresent = false

theorem nullAbsent_empty : empty.NullAbsent := by
  intro entry hentry
  cases hentry

theorem isPresent_initialTables_null (mapped : Nat) {table : Fin maxPageTables}
    (htable : table.val = 0) :
    (Vector.ofFn fun index : Fin maxPageTables =>
      initialTable mapped index)[table][Page.tableIndex ⟨0⟩].isPresent = false := by
  simp only [initialTable, Fin.getElem_fin, Vector.getElem_ofFn, htable]
  split_ifs
  · exact TableEntry.isPresent_initialEntry_zero
  · rfl

theorem nullAbsent_of_build {base : PhysAddr} {processCount : Nat} {built : PageTables}
    {summary : BuildSummary} (h : build base processCount = .ok (built, summary)) :
    built.NullAbsent := by
  intro entry hentry
  obtain ⟨-, count, mapped, rfl⟩ := of_build_eq_ok h
  obtain ⟨table, htable, rfl⟩ := Option.map_eq_some_iff.mp hentry
  exact isPresent_initialTables_null mapped (tableOf?_val htable)

theorem NullAbsent.edit {s : PageTables} (h : s.NullAbsent) {edits : List Edit}
    (hsafe : NullSafe edits) : (s.edit edits).NullAbsent := by
  induction edits generalizing s with
  | nil => exact h
  | cons change edits ih =>
      rw [edit_cons]
      refine ih ?_ fun other hmem => hsafe other (List.mem_cons_of_mem change hmem)
      intro entry hentry
      by_cases hnull : (⟨0⟩ : Page) = change.1
      · have hkeeps := hsafe change List.mem_cons_self (by rw [← hnull])
        rw [hnull, entry?_modify_self] at hentry
        obtain ⟨before, hbefore, rfl⟩ := Option.map_eq_some_iff.mp hentry
        rw [hkeeps before]
        exact h before (hnull ▸ hbefore)
      · rw [entry?_modify_ne s _ _ hnull] at hentry
        exact h entry hentry

/-- No call makes page 0 present. -/
theorem NullAbsent.perform {s : PageTables} (h : s.NullAbsent) (call : TableCall) :
    (call.perform s).NullAbsent := by
  apply TableCall.perform_keeps h nullAbsent_empty
  · intro base processCount built summary _ hbuild
    exact nullAbsent_of_build hbuild
  · intro edits hsafe
    exact h.edit hsafe

theorem nullAbsent_afterCalls (calls : List TableCall) : (afterCalls calls).NullAbsent :=
  List.foldlRecOn calls TableCall.perform nullAbsent_empty fun _ h call _ => h.perform call

theorem NullAbsent.resolve?_eq_none {s : PageTables} (h : s.NullAbsent) {addr : VirtAddr}
    (hlow : addr.val.toNat < 4096) : s.resolve? addr = none := by
  have hpage : addr.page = ⟨0⟩ := by
    apply Page.eq_of_number_eq
    rw [addr.number_page]
    show addr.val.toNat / 4096 = 0
    omega
  cases hentry : s.entry? addr.page with
  | none =>
      rw [resolve?, hentry]
      rfl
  | some entry => exact resolve?_of_absent hentry (h entry (hpage ▸ hentry))

/-- A call that does not replace the structures leaves alone the entries of all pages but those that
it works on. -/
theorem entry?_perform (s : PageTables) {call : TableCall} (hkeeps : call.replaces = false)
    {page : Page} (hpage : page ∉ call.pages) :
    PageTables.entry? (call.perform s) page = s.entry? page := by
  unfold TableCall.perform
  cases hchanged : call.changed? s with
  | none => rfl
  | some s' =>
      obtain ⟨edits, rfl, hpages, -⟩ := TableCall.changed?_eq_edit hkeeps hchanged
      exact entry?_edit_of_not_mem (hpages ▸ hpage)

theorem entry?_eq_none_of_le {page : Page} (h : 2 ^ 20 ≤ page.number.toNat) (s : PageTables) :
    s.entry? page = none := by
  cases hentry : s.entry? page with
  | none => rfl
  | some entry =>
      have hlt := number_lt_of_entry? hentry
      exact absurd hlt (Nat.not_lt.mpr h)

theorem apply_of_le {page : Page} (h : 2 ^ 20 ≤ page.number.toNat) (s : PageTables) :
    (∀ frame flags, s.apply (.map page frame flags) = .error (.notMapped page)) ∧
      s.apply (.disableCache page) = .error (.notMapped page) := by
  have hmodify := modify?_eq_none (entry?_eq_none_of_le h s)
  have hnull : ¬ (page.number == 0) = true := by
    rw [beq_iff_eq, ← UInt32.toNat_inj]
    show ¬ page.number.toNat = 0
    omega
  refine ⟨fun frame flags => ?_, ?_⟩
  · simp only [PageTables.apply, hnull, hmodify]
    rfl
  · simp only [PageTables.apply, hmodify]
    rfl

/-- Whatever calls have been made of new structures, no address in page 0 stands for anything, no
call changes the entry of a page that it does not work on, and a number of more than 20 bits names
no page that could be changed. A refusal comes before the first change, so it leaves everything as
it was. -/
theorem null_never_mapped (calls : List TableCall) :
    (∀ addr : VirtAddr, addr.val.toNat < 4096 → (afterCalls calls).resolve? addr = none) ∧
    (∀ call : TableCall, call.replaces = false → ∀ page ∉ call.pages,
      PageTables.entry? (call.perform (afterCalls calls)) page =
        PageTables.entry? (afterCalls calls) page) ∧
    (∀ page : Page, 2 ^ 20 ≤ page.number.toNat →
      (∀ frame flags, (afterCalls calls).apply (.map page frame flags) =
        .error (.notMapped page)) ∧
      (afterCalls calls).apply (.disableCache page) = .error (.notMapped page)) ∧
    (∀ base window error, Viewport.place (afterCalls calls) base window = .error error →
      (Viewport.mk base).pages.forM (Viewport.checkPage (afterCalls calls) window) =
        .error error) ∧
    (∀ s base window view placed, Viewport.place s base window = .ok (view, placed) →
      ∀ phys error, view.map (afterCalls calls) phys = .error error →
        view.targets (afterCalls calls) phys.alignDown = .error error) ∧
    ∀ (move : WindowMove) failure, move.apply (afterCalls calls) = .error failure →
      move.window.pages.forM (move.checkPage (afterCalls calls)) = .error failure := by
  refine ⟨?_, ?_, ?_, ?_, ?_, ?_⟩
  · intro addr hlow
    exact (nullAbsent_afterCalls calls).resolve?_eq_none hlow
  · intro call hkeeps page hpage
    exact entry?_perform _ hkeeps hpage
  · intro page hhigh
    exact apply_of_le hhigh _
  · intro base window error herror
    exact Viewport.checks_of_place_error herror
  · intro s base window view placed hplace phys error herror
    exact Viewport.targets_of_map_error (Viewport.number_ne_zero_of_place hplace) herror
  · intro move failure hfailure
    exact move.checks_of_apply_error hfailure

end PageTables

end SlotKernel

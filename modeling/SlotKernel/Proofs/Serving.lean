import SlotKernel.Machine.Processor
import SlotKernel.Proofs.Sessions

/-!
Machines that serve the kernel. `Machine.Serves` is the contract: the steps of the machine end
without a panic, a handed-over request comes back as it was, and a capture saves a context that went
on somewhere with its stack in the window. On such a machine every call of a kernel that is up ends
as one step of the kernel and without a panic. The contract asks for captures only while the machine
is ready for them, since a machine may run out of labels or find its stack elsewhere.
-/

namespace SlotKernel

open KernelM

/-- What the kernel relies on in a machine. -/
structure Machine.Serves (μ : Type) [Machine μ] (window : Window) (ready : μ → Prop) : Prop where
  activatePaging : ∀ directory (m m' : μ), Machine.activatePaging directory m = .ok () m' →
    ready m → ready m'
  mask : ∀ m : μ, ∃ was m', Machine.mask m = .ok was m' ∧ (ready m → ready m')
  unmask : ∀ was (m : μ), ∃ m', Machine.unmask was m = .ok () m' ∧ (ready m → ready m')
  invalidatePage : ∀ page (m : μ), ∃ m', Machine.invalidatePage page m = .ok () m' ∧
    (ready m → ready m')
  flushMappings : ∀ m : μ, ∃ m', Machine.flushMappings m = .ok () m'
  handOver : ∀ request (m : μ), ∃ m', Machine.handOver request m = .ok request m'
  capture : ∀ m : μ, ready m → (∃ m', Machine.capture m = .ok .resumed m') ∨
    ∃ ctx m', Machine.capture m = .ok (.saved ctx) m' ∧
      ctx.eip ≠ 0 ∧ window.start.val < ctx.esp ∧ ctx.esp ≤ windowCeiling
  restore : ∀ ctx (m : μ) cause m', Machine.restore ctx m ≠ .error (.panicked cause) m'

namespace Machine.Serves

variable {μ : Type} [Machine μ] {window : Window} {ready : μ → Prop}
  (hserves : Machine.Serves μ window ready) {k : Kernel}

include hserves

theorem returns_invalidatePages (m : μ) (pages : List Page) :
    ∃ m', (∀ k, Returns (invalidatePages pages) k m () k m') ∧ (ready m → ready m') := by
  induction pages generalizing m with
  | nil => exact ⟨m, fun k => returns_pure _, id⟩
  | cons page pages ih =>
      obtain ⟨m₁, hpage, hready₁⟩ := hserves.invalidatePage page m
      obtain ⟨m₂, hpages, hready₂⟩ := ih m₁
      refine ⟨m₂, fun k => ?_, hready₂ ∘ hready₁⟩
      refine Ends.forM_cons ?_ (hpages k)
      exact returns_machine hpage

theorem returns_invalidate (m : μ) (range : PageRange) (invalidation : Invalidation) :
    ∃ m', ∀ k, Returns (liftM (Board.invalidate (μ := μ) range invalidation)) k m () k m' := by
  cases invalidation with
  | fullFlush =>
      obtain ⟨m', hflush⟩ := hserves.flushMappings m
      exact ⟨m', fun k => returns_machine hflush⟩
  | perPage =>
      obtain ⟨m', hpages, -⟩ := hserves.returns_invalidatePages m range.pages
      exact ⟨m', fun k => by rw [invalidate_perPage]; exact hpages k⟩

/-! ### Calls -/

theorem ends_switchTo (hup : k.Up) (hreplicated : k.replicated = true) {m : μ} (hready : ready m)
    (hwindow : k.config.window = window) {target : Nat} (htarget : target < k.config.processCount) :
    ∃ outcome k' m', Ends (switchTo target) k m outcome k' m' ∧ k.Step k' ∧
      ∀ cause, outcome ≠ .error (.panicked cause) := by
  by_cases hskip : (!k.config.isMultiprocess || target == k.active) = true
  · exact ⟨_, k, m, returns_switchTo_unchanged hskip, .idle k, fun _ h => by cases h⟩
  have hne : target ≠ k.active := by
    intro heq
    simp [heq] at hskip
  have hdeparts := hup.departs htarget hne hreplicated
  obtain ⟨was, m₁, hmask, hready₁⟩ := hserves.mask m
  rcases hserves.capture m₁ (hready₁ hready) with ⟨m₂, hcapture⟩ | ⟨ctx, m₂, hcapture, hctx⟩
  · obtain ⟨m₃, hunmask, -⟩ := hserves.unmask was m₂
    exact ⟨_, _, m₃, returns_switchTo_back hdeparts.toLeaves hmask hcapture hunmask,
      .noted k _, fun _ h => by cases h⟩
  obtain ⟨limit, hlimit, -⟩ := k.config.identityMappedPages_eq
  obtain ⟨m₃, hand⟩ := hserves.handOver
    ⟨k.moveTo target limit, k.config.invalidation, k.context target⟩ m₂
  obtain ⟨m₄, hdrop⟩ := hserves.returns_invalidate m₃ k.config.window.range k.config.invalidation
  have hvalid : ctx.validate k.config.window = .ok () := by
    rw [hwindow]
    exact Context.validate_eq_ok_iff.mpr hctx
  have hstep := Kernel.Step.switched k ctx target hvalid htarget hreplicated
  cases hrestore : Machine.restore (k.context target) m₄ with
  | ok _ m₅ =>
      obtain ⟨m₆, hunmask, -⟩ := hserves.unmask was m₅
      exact ⟨_, _, m₆, returns_switchTo_of_departs hdeparts hlimit hmask hcapture hand
        (ends_leave (hdrop _) (returns_machine hrestore)) hunmask, hstep, fun _ h => by cases h⟩
  | error stop m₅ =>
      refine ⟨_, _, m₅, stops_switchTo_of_departs hdeparts hlimit hmask hcapture hand
        (ends_leave (hdrop _) (stops_machine hrestore)), hstep, ?_⟩
      rintro cause ⟨⟩
      exact hserves.restore _ _ _ _ hrestore

theorem returns_placeViewport (hup : k.Up) (m : μ) (base : VirtAddr) :
    ∃ answer k' m', Returns (placeViewport base) k m answer k' m' ∧ k.Places base k' ∧
      (ready m → ready m') := by
  rcases Viewport.place_cases k.paging base k.config.window with ⟨error, hplace⟩ | ⟨hchecks, hplace⟩
  · exact ⟨_, k, m, returns_placeViewport_refused hplace, Or.inl rfl, id⟩
  · obtain ⟨was, m₁, hmask, hready₁⟩ := hserves.mask m
    obtain ⟨m₂, hdrop, hready₂⟩ := hserves.returns_invalidatePages m₁ (Viewport.mk base).pages
    obtain ⟨m₃, hunmask, hready₃⟩ := hserves.unmask was m₂
    exact ⟨_, _, m₃, KernelM.returns_placeViewport hup.pagingEnabled hplace hmask (hdrop _) hunmask,
      Or.inr ⟨hchecks, rfl⟩, hready₃ ∘ hready₂ ∘ hready₁⟩

theorem returns_mapPhysical (hup : k.Up) (m : μ) (phys : PhysAddr) :
    ∃ answer k' m', Returns (mapPhysical phys) k m answer k' m' ∧ k.Step k' := by
  cases hview : k.viewport with
  | none => exact ⟨_, k, m, returns_mapPhysical_noViewport hview, .idle k⟩
  | some view =>
      obtain ⟨was, m₁, hmask, -⟩ := hserves.mask m
      have hnull : ∀ page ∈ view.pages, page.number ≠ 0 := fun page hpage =>
        (hup.viewport view hview page hpage).1
      rcases view.map_cases k.paging phys hnull with ⟨error, hmap⟩ | hmap
      · obtain ⟨m₂, hunmask, -⟩ := hserves.unmask was m₁
        exact ⟨_, k, m₂, returns_mapPhysical_refused hview hmap hmask hunmask, .idle k⟩
      · obtain ⟨m₂, hdrop, -⟩ := hserves.returns_invalidatePages m₁ view.pages
        obtain ⟨m₃, hunmask, -⟩ := hserves.unmask was m₂
        exact ⟨_, _, m₃, KernelM.returns_mapPhysical hview hmap hmask (hdrop _) hunmask,
          .mapped k view phys hview⟩

/-- Every call of a replicated kernel ends as one step of it. -/
theorem ends_perform (hup : k.Up) (hreplicated : k.replicated = true) {m : μ} (hready : ready m)
    (hwindow : k.config.window = window) (call : Call) :
    ∃ outcome k' m', Ends call.perform k m outcome k' m' ∧ k.Step k' := by
  cases call with
  | switchTo target =>
      by_cases htarget : target < k.config.processCount
      · obtain ⟨outcome, k', m', hends, hstep, -⟩ :=
          hserves.ends_switchTo hup hreplicated hready hwindow htarget
        cases outcome with
        | ok outcome => exact ⟨_, k', m', hends.bind (returns_pure _), hstep⟩
        | error stop => exact ⟨_, k', m', hends.bind_stop, hstep⟩
      · by_cases hskip : (!k.config.isMultiprocess || target == k.active) = true
        · exact ⟨_, k, m, (returns_switchTo_unchanged hskip).bind (returns_pure _), .idle k⟩
        · rw [Bool.not_eq_true] at hskip
          have hnot : (decide (k.config.processCount ≤ target) || !k.replicated) = true := by
            simp [Nat.not_lt.mp htarget]
          exact ⟨_, k, m, (stops_switchTo_notRunnable hskip hnot).bind_stop, .idle k⟩
  | mapPhysical phys =>
      obtain ⟨_, k', m', hreturns, hstep⟩ := hserves.returns_mapPhysical hup m phys
      exact ⟨_, k', m', hreturns.bind (returns_pure _), hstep⟩
  | placeViewport base =>
      obtain ⟨_, k', m', hreturns, hplaces, -⟩ := hserves.returns_placeViewport hup m base
      exact ⟨_, k', m', hreturns.bind (returns_pure _), hplaces.step⟩
  | enablePaging =>
      have hreturns := @returns_enablePaging_again μ k m _ hup.tablesBuilt hup.pagingEnabled
      exact ⟨_, k, m, hreturns.bind (returns_pure _), .idle k⟩
  | replicate =>
      rcases Bool.eq_false_or_eq_true k.config.isMultiprocess with hmulti | hmulti
      · exact ⟨_, k, m, (returns_replicate_alreadyDone hmulti hreplicated).bind (returns_pure _),
          .idle k⟩
      · exact ⟨_, k, m, (returns_replicate_skipped hmulti).bind (returns_pure _), .idle k⟩

end Machine.Serves

end SlotKernel

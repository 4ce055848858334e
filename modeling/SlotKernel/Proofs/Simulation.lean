import SlotKernel.Proofs.Calls
import SlotKernel.Proofs.Images

/-!
The simulated machine under a kernel that is up. Every step of this machine is known in full, so
what a call does to kernel and machine together is one of a few cases, listed once in
`Simulated.Effect`. A call that does not return panics and leaves the kernel as it was but for its
events, and a switch to one of the configured processes does so only when no further capture has a
number.
-/

namespace SlotKernel

namespace Simulated

/-- The machine after the cached mappings of some pages were dropped one by one. -/
def dropped (m : Simulated) (pages : List Page) : Simulated :=
  { m with invalidated := m.invalidated ++ pages.toArray }

/-- The machine after the cached mappings of some pages were dropped in the configured way. -/
def droppedBy (m : Simulated) (pages : List Page) : Invalidation → Simulated
  | .perPage => m.dropped pages
  | .fullFlush => { m with flushes := m.flushes + 1 }

def captured (m : Simulated) : Simulated :=
  { m with captures := m.captures + 1 }

def restoring (m : Simulated) (ctx : Context) : Simulated :=
  { m with restored := m.restored.push ctx }

/-- The machine after a capture that answered `resumed`. -/
def woken (m : Simulated) : Simulated :=
  { m with resumeNext := false }

def masked (m : Simulated) : Simulated :=
  { m with interrupts := false }

/-! ### Captured contexts -/

/-- The first captures have numbers. -/
theorem capturedContext_eq_ok {label : Nat} (h : label ≤ 2 ^ 27) :
    ∃ ctx, capturedContext label = .ok ctx := by
  have hlabel : (UInt32.ofNat label).toNat = label :=
    UInt32.toNat_ofNat_of_lt' (by simp only [UInt32.size]; omega)
  have hsixteen : UInt32.toNat 16 = 16 := rfl
  have hcode : codeBase.toNat = 0x102000 := rfl
  obtain ⟨distance, hmul⟩ : ∃ distance, Word.mul? (UInt32.ofNat label) 16 = some distance := by
    refine ⟨_, if_pos ?_⟩
    rw [hlabel, hsixteen]
    simp only [UInt32.size]
    omega
  have hdistance := Word.toNat_of_mul? hmul
  rw [hlabel, hsixteen] at hdistance
  obtain ⟨address, hadd⟩ : ∃ address, Word.add? codeBase distance = some address := by
    refine ⟨_, if_pos ?_⟩
    rw [hdistance, hcode]
    simp only [UInt32.size]
    omega
  rw [capturedContext, hmul]
  change ∃ ctx, (orPanic .addOverflow (Word.add? codeBase distance) >>= fun address => _) = _
  rw [hadd]
  exact ⟨_, rfl⟩

/-- What a capture saves can be restored under every accepted configuration. -/
theorem validate_capturedContext (config : Config) {label : Nat} {ctx : Context}
    (h : capturedContext label = .ok ctx) : ctx.validate config.window = .ok () := by
  have hcode : codeBase.toNat = 0x102000 := rfl
  cases hmul : Word.mul? (UInt32.ofNat label) 16 with
  | none =>
      rw [capturedContext, hmul] at h
      cases h
  | some distance =>
      rw [capturedContext, hmul] at h
      change (orPanic .addOverflow (Word.add? codeBase distance) >>= fun address => _) = _ at h
      cases hadd : Word.add? codeBase distance with
      | none =>
          rw [hadd] at h
          cases h
      | some address =>
          rw [hadd] at h
          cases h
          have haddress := Word.toNat_of_add? hadd
          refine Context.validate_eq_ok_iff.mpr ⟨?_, config.start_lt_stack, ?_⟩
          · intro hzero
            have hnumber := congrArg UInt32.toNat hzero
            change address.toNat = 0 at hnumber
            omega
          · change windowCeiling - 0x40 ≤ windowCeiling
            decide

/-! ### The steps of the machine -/

section Steps

variable {m : Simulated}

theorem mask_eq (m : Simulated) : Machine.mask m = .ok m.interrupts m.masked :=
  rfl

theorem capture_resumed (hresume : m.resumeNext = true) :
    Machine.capture m = .ok .resumed m.woken := by
  change (if m.resumeNext = true then _ else _ : Run Simulated Capture) m = _
  rw [if_pos hresume]
  rfl

/-- A capture that is not resumed counts itself before it makes up a context. -/
theorem capture_eq (hresume : m.resumeNext = false) :
    Machine.capture m = (liftM (capturedContext (m.captures + 1)) >>= fun ctx =>
      pure (.saved ctx) : Run Simulated Capture) m.captured := by
  change (if m.resumeNext = true then _ else _ : Run Simulated Capture) m = _
  rw [if_neg (by rw [hresume]; exact Bool.false_ne_true)]
  rfl

theorem capture_saved (hresume : m.resumeNext = false) {ctx : Context}
    (hctx : capturedContext (m.captures + 1) = .ok ctx) :
    Machine.capture m = .ok (.saved ctx) m.captured := by
  rw [capture_eq hresume, hctx]
  rfl

theorem capture_panicked (hresume : m.resumeNext = false) {cause : Panic}
    (hctx : capturedContext (m.captures + 1) = .error cause) :
    Machine.capture m = .error (.panicked cause) m.captured := by
  rw [capture_eq hresume, hctx]
  rfl

theorem noteMutation_eq (hmasked : m.interrupts = false) : m.noteMutation = m := by
  rw [noteMutation, if_neg (by rw [hmasked]; exact Bool.false_ne_true)]

theorem handOver_eq (hmasked : m.interrupts = false) (request : SwitchRequest) :
    Machine.handOver request m = .ok request m := by
  change EStateM.Result.ok request m.noteMutation = _
  rw [noteMutation_eq hmasked]

theorem restore_eq (m : Simulated) (ctx : Context) :
    Machine.restore ctx m = .ok () (m.restoring ctx) :=
  rfl

theorem invalidatePage_eq (hmasked : m.interrupts = false) (page : Page) :
    Machine.invalidatePage page m = .ok () (m.dropped [page]) := by
  change EStateM.Result.ok () { m.noteMutation with
    invalidated := m.noteMutation.invalidated.push page } = _
  rw [noteMutation_eq hmasked, Array.push_eq_append]
  rfl

theorem flushMappings_eq (hmasked : m.interrupts = false) :
    Machine.flushMappings m = .ok () { m with flushes := m.flushes + 1 } := by
  change EStateM.Result.ok () { m.noteMutation with flushes := m.noteMutation.flushes + 1 } = _
  rw [noteMutation_eq hmasked]

@[simp]
theorem dropped_nil (m : Simulated) : m.dropped [] = m := by
  rw [dropped, Array.append_empty]

theorem dropped_dropped (m : Simulated) (page : Page) (pages : List Page) :
    (m.dropped [page]).dropped pages = m.dropped (page :: pages) := by
  simp [dropped]

variable {k : Kernel}

theorem returns_invalidatePages (hmasked : m.interrupts = false) (pages : List Page) :
    KernelM.Returns (KernelM.invalidatePages pages) k m () k (m.dropped pages) := by
  induction pages generalizing m with
  | nil =>
      rw [dropped_nil]
      exact KernelM.returns_pure _
  | cons page pages ih =>
      rw [← dropped_dropped]
      refine KernelM.Ends.forM_cons ?_ (ih (m := m.dropped [page]) hmasked)
      exact KernelM.returns_machine (invalidatePage_eq hmasked page)

/-- Dropping the cached mappings of a range the configured way under the mask. -/
theorem returns_invalidate (hmasked : m.interrupts = false) (range : PageRange)
    (invalidation : Invalidation) :
    KernelM.Returns (liftM (Board.invalidate (μ := Simulated) range invalidation)) k m () k
      (m.droppedBy range.pages invalidation) := by
  cases invalidation with
  | fullFlush => exact KernelM.returns_machine (flushMappings_eq hmasked)
  | perPage =>
      rw [KernelM.invalidate_perPage]
      exact returns_invalidatePages hmasked range.pages

end Steps

/-! ### The calls -/

/-- The machine after a switch that restored a context. -/
def transferred (m : Simulated) (window : Window) (invalidation : Invalidation) (ctx : Context) :
    Simulated :=
  (m.captured.droppedBy window.pages invalidation).restoring ctx

@[simp]
theorem captures_transferred (m : Simulated) (window : Window) (invalidation : Invalidation)
    (ctx : Context) : (m.transferred window invalidation ctx).captures = m.captures + 1 := by
  cases invalidation <;> rfl

@[simp]
theorem restored_transferred (m : Simulated) (window : Window) (invalidation : Invalidation)
    (ctx : Context) :
    (m.transferred window invalidation ctx).restored = m.restored.push ctx := by
  cases invalidation <;> rfl

/-- What was done under the mask is what remains once interrupts are back. -/
theorem unmask_transferred (m : Simulated) (window : Window) (invalidation : Invalidation)
    (ctx : Context) :
    Machine.unmask m.interrupts
        ((m.masked.captured.droppedBy window.pages invalidation).restoring ctx) =
      .ok () (m.transferred window invalidation ctx) := by
  cases invalidation <;> rfl

/-- What a call that returns does to the kernel and the machine. -/
inductive Effect (k : Kernel) (m : Simulated) : Call → Answer → Kernel → Simulated → Prop where
  /-- The target is active already, or there is no other process. -/
  | unchanged (target : Nat) (hskip : (!k.config.isMultiprocess || target == k.active) = true) :
      Effect k m (.switchTo target) (.switched .unchanged) k m
  | back (target : Nat) (hresume : m.resumeNext = true)
      (htarget : target < k.config.processCount) (hne : target ≠ k.active)
      (hreplicated : k.replicated = true) :
      Effect k m (.switchTo target) (.switched .resumed) (k.pushEvent (.taskResumed k.active))
        m.woken
  | transferred (target : Nat) (ctx : Context) (hresume : m.resumeNext = false)
      (hctx : capturedContext (m.captures + 1) = .ok ctx)
      (htarget : target < k.config.processCount) (hne : target ≠ k.active)
      (hreplicated : k.replicated = true) :
      Effect k m (.switchTo target) (.switched .transferred) (k.switchedTo ctx target)
        (m.transferred k.config.window k.config.invalidation (k.context target))
  | mapRefused (phys : PhysAddr) (error : MappingError)
      (hmap : ∀ view, k.viewport = some view → view.map k.paging phys = .error error) :
      Effect k m (.mapPhysical phys) (.mapped (.error error)) k m
  | mapped (phys : PhysAddr) (view : Viewport) (hview : k.viewport = some view)
      (hmap : view.map k.paging phys = .ok (k.paging.edit (view.mapEdits phys), view.range)) :
      Effect k m (.mapPhysical phys)
        (.mapped (.ok ⟨view.range.first.start.val + (phys.val - phys.alignDown.val)⟩))
        (k.pointedAt view phys) (m.dropped view.pages)
  | placeRefused (base : VirtAddr) (error : MappingError)
      (hplace : Viewport.place k.paging base k.config.window = .error error) :
      Effect k m (.placeViewport base) (.placed (.error error)) k m
  | placed (base : VirtAddr)
      (hchecks : ∀ page ∈ (Viewport.mk base).pages,
        Viewport.checkPage k.paging k.config.window page = .ok ())
      (hplace : Viewport.place k.paging base k.config.window =
        .ok (⟨base⟩, k.paging.edit (Viewport.mk base).placeEdits)) :
      Effect k m (.placeViewport base) (.placed (.ok ())) (k.withViewport ⟨base⟩)
        (m.dropped (Viewport.mk base).pages)
  | pagingEnabled : Effect k m .enablePaging .pagingEnabled k m
  | skipped (hsingle : k.config.isMultiprocess = false) :
      Effect k m .replicate (.replicated .skipped) k m
  | alreadyDone (hdone : k.replicated = true) :
      Effect k m .replicate (.replicated .alreadyDone) k m
  | forkResumed (hresume : m.resumeNext = true) :
      Effect k m .replicate (.replicated .resumed) k m.woken
  | forked (seed : Context) (events : EventLog) (memory : Memory) (copies : Array CopyRecord)
      (hmulti : k.config.isMultiprocess = true) (hresume : m.resumeNext = false)
      (hseed : capturedContext (m.captures + 1) = .ok seed) (hfirst : k.replicated = false)
      (hcopies : CopiesOf k.config m.captured k.config.processCount
        { m.captured with memory := memory, copies := copies }) :
      Effect k m .replicate (.replicated (.forked (k.config.processCount - 1)))
        (k.seeded seed events) { m.captured with memory := memory, copies := copies }

open KernelM

section Viewport

variable {k : Kernel} {m : Simulated} {view : Viewport} {phys : PhysAddr} {paging : PageTables}

theorem returns_mapPhysical_refused {error : MappingError} (hview : k.viewport = some view)
    (hmap : view.map k.paging phys = .error error) :
    Returns (mapPhysical phys) k m (.error error) k m :=
  KernelM.returns_mapPhysical_refused hview hmap (mask_eq m) rfl

theorem returns_mapPhysical (hview : k.viewport = some view)
    (hmap : view.map k.paging phys = .ok (paging, view.range)) :
    Returns (mapPhysical phys) k m
      (.ok ⟨view.range.first.start.val + (phys.val - phys.alignDown.val)⟩)
      ((k.withPaging paging).pushEvent (.viewportMapped phys)) (m.dropped view.pages) :=
  KernelM.returns_mapPhysical hview hmap (mask_eq m) (returns_invalidatePages rfl _) rfl

theorem returns_placeViewport {base : VirtAddr} (henabled : k.pagingEnabled = true)
    (hplace : Viewport.place k.paging base k.config.window = .ok (view, paging)) :
    Returns (placeViewport base) k m (.ok ()) { k.withPaging paging with viewport := some view }
      (m.dropped view.pages) :=
  KernelM.returns_placeViewport henabled hplace (mask_eq m) (returns_invalidatePages rfl _) rfl

end Viewport

section Switch

variable {k : Kernel} {m : Simulated} {target : Nat}

theorem returns_switchTo_resumed (h : k.Leaves target) (hresume : m.resumeNext = true) :
    Returns (switchTo target) k m .resumed (k.pushEvent (.taskResumed k.active)) m.woken :=
  returns_switchTo_back h (mask_eq m) (capture_resumed (m := m.masked) hresume) rfl

theorem stops_switchTo_captured (h : k.Leaves target) (hresume : m.resumeNext = false)
    {cause : Panic} (hctx : capturedContext (m.captures + 1) = .error cause) :
    Stops (switchTo target) k m (.panicked cause) k m.masked.captured :=
  stops_switchTo_capture h (mask_eq m) (capture_panicked (m := m.masked) hresume hctx)

theorem returns_switchTo_transferred (h : k.Departs target) (hresume : m.resumeNext = false)
    {ctx : Context} (hctx : capturedContext (m.captures + 1) = .ok ctx) :
    Returns (switchTo target) k m .transferred (k.switchedTo ctx target)
      (m.transferred k.config.window k.config.invalidation (k.context target)) := by
  obtain ⟨limit, hlimit, -⟩ := k.config.identityMappedPages_eq
  exact returns_switchTo_of_departs h hlimit (mask_eq m)
    (capture_saved (m := m.masked) hresume hctx) (handOver_eq rfl _)
    (ends_leave (returns_invalidate rfl _ _) (returns_machine (restore_eq _ _)))
    (unmask_transferred m _ _ _)

end Switch

section Calls

variable {k : Kernel} (hup : k.Up) (m : Simulated)

include hup

/-- A switch returns with one of its effects. It panics only for a target that cannot run, or when
no further capture has a number. -/
theorem ends_switchTo (target : Nat) :
    (∃ outcome k' m', Returns (switchTo target) k m outcome k' m' ∧
      Effect k m (.switchTo target) (.switched outcome) k' m') ∨
    ∃ cause m', Stops (switchTo target) k m (.panicked cause) k m' ∧ m'.memory = m.memory ∧
      ((k.config.processCount ≤ target ∨ k.replicated = false) ∨
        capturedContext (m.captures + 1) = .error cause) := by
  by_cases hskip : (!k.config.isMultiprocess || target == k.active) = true
  · exact Or.inl ⟨_, k, m, returns_switchTo_unchanged hskip, .unchanged target hskip⟩
  rw [Bool.not_eq_true] at hskip
  by_cases hnot : (decide (k.config.processCount ≤ target) || !k.replicated) = true
  · refine Or.inr ⟨_, m, stops_switchTo_notRunnable hskip hnot, rfl, Or.inl ?_⟩
    simpa using hnot
  simp only [Bool.or_eq_true, decide_eq_true_iff, Bool.not_eq_true', not_or, Nat.not_le,
    Bool.not_eq_false] at hnot
  obtain ⟨htarget, hreplicated⟩ := hnot
  have hne : target ≠ k.active := by
    rw [Bool.or_eq_false_iff, beq_eq_false_iff_ne] at hskip
    exact hskip.2
  have hdeparts := hup.departs htarget hne hreplicated
  cases hresume : m.resumeNext with
  | true =>
      exact Or.inl ⟨_, _, m.woken, returns_switchTo_resumed hdeparts.toLeaves hresume,
        .back target hresume htarget hne hreplicated⟩
  | false =>
      cases hctx : capturedContext (m.captures + 1) with
      | error cause =>
          exact Or.inr ⟨cause, m.masked.captured,
            stops_switchTo_captured hdeparts.toLeaves hresume hctx, rfl, Or.inr rfl⟩
      | ok ctx =>
          exact Or.inl ⟨_, _, _, returns_switchTo_transferred hdeparts hresume hctx,
            .transferred target ctx hresume hctx htarget hne hreplicated⟩

theorem ends_mapPhysical (phys : PhysAddr) :
    ∃ answer k' m', Returns (mapPhysical phys) k m answer k' m' ∧
      Effect k m (.mapPhysical phys) (.mapped answer) k' m' := by
  cases hview : k.viewport with
  | none =>
      refine ⟨_, k, m, returns_mapPhysical_noViewport hview, .mapRefused phys _ ?_⟩
      intro view hsome
      cases hview.symm.trans hsome
  | some view =>
      have hnull : ∀ page ∈ view.pages, page.number ≠ 0 := fun page hpage =>
        (hup.viewport view hview page hpage).1
      rcases view.map_cases k.paging phys hnull with ⟨error, hmap⟩ | hmap
      · have hrefused : ∀ other, k.viewport = some other →
            other.map k.paging phys = .error error := by
          intro other hother
          cases hview.symm.trans hother
          exact hmap
        exact ⟨_, k, m, returns_mapPhysical_refused hview hmap, .mapRefused phys error hrefused⟩
      · exact ⟨_, _, _, returns_mapPhysical hview hmap, .mapped phys view hview hmap⟩

theorem ends_placeViewport (base : VirtAddr) :
    ∃ answer k' m', Returns (placeViewport base) k m answer k' m' ∧
      Effect k m (.placeViewport base) (.placed answer) k' m' := by
  rcases Viewport.place_cases k.paging base k.config.window with ⟨error, hplace⟩ | ⟨hchecks, hplace⟩
  · exact ⟨_, k, m, returns_placeViewport_refused hplace, .placeRefused base error hplace⟩
  · exact ⟨_, _, _, returns_placeViewport hup.pagingEnabled hplace, .placed base hchecks hplace⟩

theorem returns_enablePaging : Returns enablePaging k m () k m :=
  returns_enablePaging_again hup.tablesBuilt hup.pagingEnabled

end Calls

end Simulated

end SlotKernel

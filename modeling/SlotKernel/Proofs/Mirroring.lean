import SlotKernel.Proofs.Hardware

/-!
The simulated machine as a stand-in for the bare processor. The instructions of an operation are
decoded into what the simulated machine records: the pages whose cached mappings are dropped one by
one, how often all of them are, and the contexts that are restored. Each step of the two machines is
decoded by itself; the operations follow, since the kernel asks both machines for the same steps. A
switch that comes back from the simulated machine ends on the processor with the context of the
target restored.
-/

namespace SlotKernel

open KernelM

/-! ### Instructions -/

namespace Instruction

/-- The interrupt flag after an instruction. -/
def flagAfter (flag : Bool) : Instruction → Bool
  | .disableInterrupts => false
  | .enableInterrupts => true
  | _ => flag

/-- The page whose cached mapping an instruction drops. -/
def droppedPage? : Instruction → Option Page
  | .invalidate addr => some addr.page
  | _ => none

/-- Any load of a page directory drops all cached mappings. -/
def loadsRoot : Instruction → Bool
  | .loadRoot _ => true
  | _ => false

def drops (instruction : Instruction) : Bool :=
  instruction.droppedPage?.isSome || instruction.loadsRoot

def restored? : Instruction → Option Context
  | .restore ctx => some ctx
  | _ => none

end Instruction

/-- The interrupt flag after some instructions. -/
def flagAfter (flag : Bool) (trace : List Instruction) : Bool :=
  trace.foldl Instruction.flagAfter flag

/-- Instructions that drop cached mappings are executed with interrupts off. -/
def DropsMasked (flag : Bool) : List Instruction → Prop
  | [] => True
  | instruction :: trace =>
      (instruction.drops = true → flag = false) ∧ DropsMasked (instruction.flagAfter flag) trace

theorem dropsMasked_append {flag : Bool} {trace trace' : List Instruction} :
    DropsMasked flag (trace ++ trace') ↔
      DropsMasked flag trace ∧ DropsMasked (flagAfter flag trace) trace' := by
  induction trace generalizing flag with
  | nil => exact ⟨fun h => ⟨trivial, h⟩, And.right⟩
  | cons instruction trace ih =>
      rw [List.cons_append, DropsMasked, DropsMasked, ih, and_assoc]
      rfl

/-! ### One step on both machines -/

/-- The processor executed these instructions, and decoded they are what the simulated machine
recorded meanwhile. -/
structure Mirrors (m : Simulated) (p : Processor) (trace : List Instruction) (m' : Simulated)
    (p' : Processor) : Prop where
  executed : p'.executed = p.executed ++ trace.toArray
  interrupts : p'.interrupts = flagAfter p.interrupts trace
  /-- Only the directory that is loaded already is loaded. -/
  reloads : p'.root = p.root ∧ ∀ value, .loadRoot value ∈ trace → value = p.root
  invalidated : m'.invalidated = m.invalidated ++ (trace.filterMap (·.droppedPage?)).toArray
  flushes : m'.flushes = m.flushes + trace.countP (·.loadsRoot)
  dropsMasked : DropsMasked p.interrupts trace
  restored : m'.restored = m.restored ++ (trace.filterMap (·.restored?)).toArray

namespace Mirrors

variable {m m₁ m₂ : Simulated} {p p₁ p₂ : Processor} {trace trace' : List Instruction}

/-- The simulated machine recorded nothing and the processor executed nothing. -/
theorem of_same
    (hm : m₁.invalidated = m.invalidated ∧ m₁.flushes = m.flushes ∧ m₁.restored = m.restored)
    (hp : p₁.executed = p.executed ∧ p₁.interrupts = p.interrupts ∧ p₁.root = p.root) :
    Mirrors m p [] m₁ p₁ where
  executed := hp.1.trans (Array.append_empty).symm
  interrupts := hp.2.1
  reloads := ⟨hp.2.2, fun _ hmem => nomatch hmem⟩
  invalidated := hm.1.trans (Array.append_empty).symm
  flushes := hm.2.1
  dropsMasked := trivial
  restored := hm.2.2.trans (Array.append_empty).symm

/-- The simulated machine recorded nothing of this instruction. -/
theorem of_quiet {instruction : Instruction} (hdrops : instruction.drops = false)
    (hrestored : instruction.restored? = none)
    (hm : m₁.invalidated = m.invalidated ∧ m₁.flushes = m.flushes ∧ m₁.restored = m.restored)
    (hp : p₁.executed = p.executed.push instruction ∧
      p₁.interrupts = instruction.flagAfter p.interrupts ∧ p₁.root = p.root) :
    Mirrors m p [instruction] m₁ p₁ := by
  obtain ⟨hdropped, hloads⟩ := Bool.or_eq_false_iff.mp hdrops
  rw [Option.isSome_eq_false_iff, Option.isNone_iff_eq_none] at hdropped
  refine ⟨hp.1.trans Array.push_eq_append, hp.2.1, ⟨hp.2.2, ?_⟩, ?_, ?_, ?_, ?_⟩
  · rintro value hmem
    cases List.mem_singleton.mp hmem
    cases hloads
  · rw [hm.1, List.filterMap_cons_none hdropped]
    exact (Array.append_empty).symm
  · rw [hm.2.1, List.countP_cons_of_neg (ne_true_of_eq_false hloads)]
    rfl
  · exact ⟨fun hdrop => absurd hdrop (ne_true_of_eq_false hdrops), trivial⟩
  · rw [hm.2.2, List.filterMap_cons_none hrestored]
    exact (Array.append_empty).symm

theorem trans (h : Mirrors m p trace m₁ p₁) (h' : Mirrors m₁ p₁ trace' m₂ p₂) :
    Mirrors m p (trace ++ trace') m₂ p₂ where
  executed := by
    rw [h'.executed, h.executed, Array.append_assoc, List.append_toArray trace trace']
  interrupts := by
    rw [h'.interrupts, h.interrupts, flagAfter, flagAfter, flagAfter, List.foldl_append]
  reloads := by
    obtain ⟨hroot, hreloads⟩ := h.reloads
    obtain ⟨hroot', hreloads'⟩ := h'.reloads
    refine ⟨hroot'.trans hroot, fun value hmem => ?_⟩
    rcases List.mem_append.mp hmem with hmem | hmem
    · exact hreloads value hmem
    · exact (hreloads' value hmem).trans hroot
  invalidated := by
    rw [h'.invalidated, h.invalidated, Array.append_assoc, List.filterMap_append,
      List.append_toArray (trace.filterMap _)]
  flushes := by
    rw [h'.flushes, h.flushes, List.countP_append, Nat.add_assoc]
  dropsMasked := by
    rw [dropsMasked_append, ← h.interrupts]
    exact ⟨h.dropsMasked, h'.dropsMasked⟩
  restored := by
    rw [h'.restored, h.restored, Array.append_assoc, List.filterMap_append,
      List.append_toArray (trace.filterMap _)]

/-! ### The steps one by one -/

variable (m p)

/-- The flag of the simulated machine is not among what it records. -/
theorem masked : Mirrors m p (if p.interrupts then [.disableInterrupts] else []) m p.masked := by
  unfold Processor.masked
  split
  · exact of_quiet rfl rfl ⟨rfl, rfl, rfl⟩ ⟨rfl, rfl, rfl⟩
  · exact of_same ⟨rfl, rfl, rfl⟩ ⟨rfl, rfl, rfl⟩

theorem unmasked (was : Bool) :
    Mirrors m p (if was then [.enableInterrupts] else []) m (p.unmasked was) := by
  cases was with
  | true => exact of_quiet rfl rfl ⟨rfl, rfl, rfl⟩ ⟨rfl, rfl, rfl⟩
  | false => exact of_same ⟨rfl, rfl, rfl⟩ ⟨rfl, rfl, rfl⟩

theorem captured : Mirrors m p [.capture p.nextContext] m.captured p.captured :=
  of_quiet rfl rfl ⟨rfl, rfl, rfl⟩ ⟨rfl, rfl, rfl⟩

theorem woken : Mirrors m p [.resume] m.woken p.woken :=
  of_quiet rfl rfl ⟨rfl, rfl, rfl⟩ ⟨rfl, rfl, rfl⟩

theorem onStack : Mirrors m p [] m p.onStack :=
  of_same ⟨rfl, rfl, rfl⟩ ⟨rfl, rfl, rfl⟩

theorem restoring (ctx : Context) :
    Mirrors m p [.restore ctx] (m.restoring ctx) (p.executing (.restore ctx)) where
  executed := Array.push_eq_append
  interrupts := rfl
  reloads := ⟨rfl, fun _ hmem => nomatch List.mem_singleton.mp hmem⟩
  invalidated := (Array.append_empty).symm
  flushes := rfl
  dropsMasked := ⟨fun hdrops => absurd hdrops Bool.false_ne_true, trivial⟩
  restored := Array.push_eq_append

variable {p}

theorem flushed (hoff : p.interrupts = false) :
    Mirrors m p [.loadRoot p.root] { m with flushes := m.flushes + 1 }
      (p.executing (.loadRoot p.root)) where
  executed := Array.push_eq_append
  interrupts := rfl
  reloads := ⟨rfl, fun value hmem => by cases List.mem_singleton.mp hmem; rfl⟩
  invalidated := (Array.append_empty).symm
  flushes := rfl
  dropsMasked := ⟨fun _ => hoff, trivial⟩
  restored := (Array.append_empty).symm

/-- The address that is dropped is decoded to the page that starts there. -/
theorem droppedOne (hoff : p.interrupts = false) {page : Page}
    (hpage : page.number.toNat < 2 ^ 20) :
    Mirrors m p [.invalidate page.start] (m.dropped [page])
      (p.executing (.invalidate page.start)) where
  executed := Array.push_eq_append
  interrupts := rfl
  reloads := ⟨rfl, fun _ hmem => nomatch List.mem_singleton.mp hmem⟩
  invalidated := by
    change m.invalidated ++ #[page] = m.invalidated ++ #[page.start.page]
    rw [Page.page_start hpage]
  flushes := rfl
  dropsMasked := ⟨fun _ => hoff, trivial⟩
  restored := (Array.append_empty).symm

theorem dropped (hoff : p.interrupts = false) {pages : List Page}
    (hpages : ∀ page ∈ pages, page.number.toNat < 2 ^ 20) :
    Mirrors m p (pages.map fun page => .invalidate page.start) (m.dropped pages)
      (p.dropped pages) := by
  induction pages generalizing m p with
  | nil => exact of_same ⟨Array.append_empty, rfl, rfl⟩ ⟨Array.append_empty, rfl, rfl⟩
  | cons page pages ih =>
      obtain ⟨hpage, hpages⟩ := List.forall_mem_cons.mp hpages
      have hfirst := droppedOne m hoff hpage
      have hrest := ih (m.dropped [page]) (p := p.executing (.invalidate page.start)) hoff hpages
      rw [Simulated.dropped_dropped, ← Processor.dropped_cons] at hrest
      exact hfirst.trans hrest

theorem droppedBy (hoff : p.interrupts = false) {pages : List Page}
    (hpages : ∀ page ∈ pages, page.number.toNat < 2 ^ 20) (invalidation : Invalidation) :
    ∃ trace, Mirrors m p trace (m.droppedBy pages invalidation)
      (p.droppedBy pages invalidation) := by
  cases invalidation with
  | perPage => exact ⟨_, dropped m hoff hpages⟩
  | fullFlush => exact ⟨_, flushed m hoff⟩

end Mirrors

/-! ### The operations -/

/-- Every page that a viewport can be pointed with is one of the address space. -/
theorem Viewport.number_lt_of_map {view : Viewport} {s : PageTables} {phys : PhysAddr}
    {result : PageTables × PageRange} (h : view.map s phys = .ok result) :
    ∀ page ∈ view.pages, page.number.toNat < 2 ^ 20 := by
  intro page hpage
  cases htargets : view.targets s phys.alignDown with
  | error error =>
      rw [Viewport.map, htargets] at h
      cases h
  | ok targets =>
      obtain ⟨item, hitem, rfl⟩ := Viewport.exists_item hpage
      obtain ⟨entry, hentry⟩ :=
        Option.isSome_iff_exists.mp ((Viewport.targets_eq_ok htargets).2 _ hitem).1
      exact PageTables.number_lt_of_entry? hentry

/-- Both machines return the same answer and leave the same kernel and the same interrupt flag. -/
def AnswerAlike {α : Type} (simulated : KernelM Simulated α) (bare : KernelM Processor α)
    (k : Kernel) (m : Simulated) (p : Processor) (answer : α) : Prop :=
  ∃ k' m' p' trace, Returns simulated k m answer k' m' ∧ Returns bare k p answer k' p' ∧
    Mirrors m p trace m' p' ∧ p'.interrupts = m'.interrupts ∧ p'.parked = p.parked

/-- The switch returns from the simulated machine and ends on the processor where the context of the
target is restored. What remains is the same kernel, but for what either capture saved. -/
def TransferAlike (target : Nat) (k : Kernel) (m : Simulated) (p : Processor) : Prop :=
  ∃ ctx k₁ k₂ m' p' trace, Returns (switchTo target) k m .transferred k₁ m' ∧
    Stops (switchTo target) k p .restored k₂ p' ∧
    k₂.paging = k₁.paging ∧ k₂.active = k₁.active ∧ k₂.events = k₁.events ∧
    (∀ saved m₁ p₁, Machine.capture m = .ok (.saved saved) m₁ →
      Machine.capture p = .ok (.saved saved) p₁ → k₂.contexts = k₁.contexts) ∧
    m'.restored = m.restored.push ctx ∧ Mirrors m p (trace ++ [.restore ctx]) m' p' ∧
    p'.interrupts = false ∧ p'.parked = none

section Operations

variable {k : Kernel} {m : Simulated} {p : Processor} (hup : k.Up)

section Switch

variable {target : Nat}

theorem answerAlike_switchTo_unchanged
    (hskip : (!k.config.isMultiprocess || target == k.active) = true)
    (hinterrupts : p.interrupts = m.interrupts) :
    AnswerAlike (switchTo target) (switchTo target) k m p .unchanged :=
  ⟨k, m, p, [], returns_switchTo_unchanged hskip, returns_switchTo_unchanged hskip,
    .of_same ⟨rfl, rfl, rfl⟩ ⟨rfl, rfl, rfl⟩, hinterrupts, rfl⟩

variable (htarget : target < k.config.processCount) (hne : target ≠ k.active)
  (hreplicated : k.replicated = true) (hresume : p.resumeNext = m.resumeNext)

include hup htarget hne hreplicated hresume

theorem answerAlike_switchTo_back (hresumed : m.resumeNext = true)
    (hinterrupts : p.interrupts = m.interrupts) :
    AnswerAlike (switchTo target) (switchTo target) k m p .resumed := by
  have hdeparts := hup.departs htarget hne hreplicated
  have hresumed' : p.masked.resumeNext = true := by
    rw [Processor.resumeNext_masked, hresume, hresumed]
  have hoff : p.masked.woken.interrupts = false := p.interrupts_masked
  have hsimulated := Simulated.returns_switchTo_resumed hdeparts.toLeaves (m := m) hresumed
  have hbare := returns_switchTo_back hdeparts.toLeaves p.mask_eq_masked
    (Processor.capture_resumed hresumed') (Processor.unmask_eq_unmasked _ _)
  have hmirrors := ((Mirrors.masked m p).trans (.woken m p.masked)).trans
    (.unmasked m.woken p.masked.woken p.interrupts)
  refine ⟨_, _, _, _, hsimulated, hbare, hmirrors, ?_, ?_⟩
  · rw [Processor.interrupts_unmasked hoff]
    exact hinterrupts
  · rw [Processor.parked_unmasked]
    exact p.parked_masked

theorem transferAlike_switchTo (hfresh : m.resumeNext = false) {ctx : Context}
    (hctx : Simulated.capturedContext (m.captures + 1) = .ok ctx) : TransferAlike target k m p := by
  have hdeparts := hup.departs htarget hne hreplicated
  obtain ⟨limit, hlimit, -⟩ := k.config.identityMappedPages_eq
  have hfresh' : p.masked.resumeNext = false := by
    rw [Processor.resumeNext_masked, hresume, hfresh]
  have hoff : p.masked.captured.onStack.interrupts = false := p.interrupts_masked
  have hsimulated := Simulated.returns_switchTo_transferred hdeparts hfresh hctx
  have hrestore : ∀ q : Processor, Machine.restore (k.context target) q =
      .error .restored (q.executing (.restore (k.context target))) := fun _ => rfl
  have hbare := stops_switchTo_of_departs hdeparts hlimit p.mask_eq_masked
    (Processor.capture_saved hfresh') (Processor.handOver_eq_onStack _ _)
    (ends_leave (Processor.returns_invalidate_dropped _ _ _) (stops_machine (hrestore _)))
  have hpages : ∀ page ∈ k.config.window.range.pages, page.number.toNat < 2 ^ 20 := by
    intro page hpage
    have hrange := k.config.mem_pages.mp hpage
    omega
  obtain ⟨drops, hdrops⟩ := Mirrors.droppedBy m.captured hoff hpages k.config.invalidation
  -- the simulated machine unmasks behind the restore, where the processor executes nothing more
  have hmirrors := ((((Mirrors.masked m p).trans (.captured m p.masked)).trans
    (.onStack m.captured p.masked.captured)).trans hdrops).trans (.restoring _ _ (k.context target))
  refine ⟨k.context target, _, _, _, _, _, hsimulated, hbare, rfl, rfl, rfl, ?_,
    Simulated.restored_transferred _ _ _ _, hmirrors, ?_, ?_⟩
  · intro saved m₁ p₁ hsaved hsaved'
    cases (Simulated.capture_saved hfresh hctx).symm.trans hsaved
    cases (Processor.capture_saved (hresume.trans hfresh)).symm.trans hsaved'
    rw [Processor.nextContext_masked]
  · cases k.config.invalidation with
    | perPage => exact hoff
    | fullFlush => exact hoff
  · cases k.config.invalidation with
    | perPage => rfl
    | fullFlush => rfl

end Switch

variable (hinterrupts : p.interrupts = m.interrupts)

include hinterrupts

/-- An operation that masks interrupts and finds nothing to change. -/
theorem answerAlike_of_refused {α : Type} {simulated : KernelM Simulated α}
    {bare : KernelM Processor α} {answer : α} (hsimulated : Returns simulated k m answer k m)
    (hbare : Returns bare k p answer k (p.masked.unmasked p.interrupts)) :
    AnswerAlike simulated bare k m p answer :=
  ⟨k, m, _, _, hsimulated, hbare, (Mirrors.masked m p).trans (.unmasked m p.masked p.interrupts),
    (Processor.interrupts_unmasked p.interrupts_masked _).trans hinterrupts,
    (Processor.parked_unmasked _ _).trans p.parked_masked⟩

/-- An operation that changes the entries of some pages and drops their cached mappings. -/
theorem answerAlike_of_dropped {α : Type} {simulated : KernelM Simulated α}
    {bare : KernelM Processor α} {answer : α} {k' : Kernel} {pages : List Page}
    (hpages : ∀ page ∈ pages, page.number.toNat < 2 ^ 20)
    (hsimulated : Returns simulated k m answer k' (m.dropped pages))
    (hbare : Returns bare k p answer k' ((p.masked.dropped pages).unmasked p.interrupts)) :
    AnswerAlike simulated bare k m p answer := by
  have hoff : (p.masked.dropped pages).interrupts = false := p.interrupts_masked
  have hdrops := Mirrors.dropped m p.interrupts_masked hpages
  exact ⟨k', _, _, _, hsimulated, hbare,
    ((Mirrors.masked m p).trans hdrops).trans (.unmasked _ _ p.interrupts),
    (Processor.interrupts_unmasked hoff _).trans hinterrupts,
    (Processor.parked_unmasked _ _).trans p.parked_masked⟩

variable (hup : k.Up)

include hup

theorem answerAlike_mapPhysical (phys : PhysAddr) :
    ∃ answer, AnswerAlike (mapPhysical phys) (mapPhysical phys) k m p answer := by
  cases hview : k.viewport with
  | none =>
      exact ⟨_, k, m, p, [], returns_mapPhysical_noViewport hview,
        returns_mapPhysical_noViewport hview, .of_same ⟨rfl, rfl, rfl⟩ ⟨rfl, rfl, rfl⟩,
        hinterrupts, rfl⟩
  | some view =>
      have hnull : ∀ page ∈ view.pages, page.number ≠ 0 := fun page hpage =>
        (hup.viewport view hview page hpage).1
      rcases view.map_cases k.paging phys hnull with ⟨error, hmap⟩ | hmap
      · have hbare := returns_mapPhysical_refused hview hmap p.mask_eq_masked
          (Processor.unmask_eq_unmasked _ _)
        exact ⟨_, answerAlike_of_refused hinterrupts
          (Simulated.returns_mapPhysical_refused hview hmap) hbare⟩
      · have hbare := returns_mapPhysical hview hmap p.mask_eq_masked
          (p.masked.returns_invalidatePages_dropped _) (Processor.unmask_eq_unmasked _ _)
        exact ⟨_, answerAlike_of_dropped hinterrupts (Viewport.number_lt_of_map hmap)
          (Simulated.returns_mapPhysical hview hmap) hbare⟩

theorem answerAlike_placeViewport (base : VirtAddr) :
    ∃ answer, AnswerAlike (placeViewport base) (placeViewport base) k m p answer := by
  rcases Viewport.place_cases k.paging base k.config.window with ⟨error, hplace⟩ | ⟨hchecks, hplace⟩
  · exact ⟨_, k, m, p, [], returns_placeViewport_refused hplace,
      returns_placeViewport_refused hplace, .of_same ⟨rfl, rfl, rfl⟩ ⟨rfl, rfl, rfl⟩,
      hinterrupts, rfl⟩
  · have hpages : ∀ page ∈ (Viewport.mk base).pages, page.number.toNat < 2 ^ 20 := by
      intro page hpage
      obtain ⟨-, -, hsome⟩ := Viewport.checkPage_eq_ok_iff.mp (hchecks page hpage)
      obtain ⟨entry, hentry⟩ := Option.isSome_iff_exists.mp hsome
      exact PageTables.number_lt_of_entry? hentry
    have hbare := returns_placeViewport hup.pagingEnabled hplace p.mask_eq_masked
      (p.masked.returns_invalidatePages_dropped _) (Processor.unmask_eq_unmasked _ _)
    exact ⟨_, answerAlike_of_dropped hinterrupts hpages
      (Simulated.returns_placeViewport hup.pagingEnabled hplace) hbare⟩

end Operations

/-! ### Every call -/

/-- What the simulated machine says of a switch to any process, and of pointing and placing the
viewport, is what the processor does. Its next capture has to have a number. -/
structure StandsIn (k : Kernel) (m : Simulated) (p : Processor) : Prop where
  unchanged : AnswerAlike (switchTo k.active) (switchTo k.active) k m p .unchanged
  refused : ∀ target, target < k.config.processCount → target ≠ k.active → k.replicated = false →
    Stops (switchTo target) k m (.panicked (.notRunnable target)) k m ∧
      Stops (switchTo target) k p (.panicked (.notRunnable target)) k p
  resumed : ∀ target, target < k.config.processCount → target ≠ k.active → k.replicated = true →
    m.resumeNext = true → AnswerAlike (switchTo target) (switchTo target) k m p .resumed
  transferred : ∀ target, target < k.config.processCount → target ≠ k.active →
    k.replicated = true → m.resumeNext = false →
    (∃ ctx, Simulated.capturedContext (m.captures + 1) = .ok ctx) → TransferAlike target k m p
  mapPhysical : ∀ phys, ∃ answer, AnswerAlike (mapPhysical phys) (mapPhysical phys) k m p answer
  placeViewport : ∀ base, ∃ answer,
    AnswerAlike (placeViewport base) (placeViewport base) k m p answer

theorem standsIn_of_up {k : Kernel} (hup : k.Up) {m : Simulated} {p : Processor}
    (hinterrupts : p.interrupts = m.interrupts) (hresume : p.resumeNext = m.resumeNext) :
    StandsIn k m p where
  unchanged := by
    refine answerAlike_switchTo_unchanged ?_ hinterrupts
    rw [beq_self_eq_true, Bool.or_true]
  refused := by
    intro target htarget hne hnot
    have hskip := Kernel.switch_not_skipped hup.active_lt htarget hne
    have hrefused : (decide (k.config.processCount ≤ target) || !k.replicated) = true := by
      rw [hnot, Bool.not_false, Bool.or_true]
    exact ⟨stops_switchTo_notRunnable hskip hrefused, stops_switchTo_notRunnable hskip hrefused⟩
  resumed := fun _ htarget hne hreplicated hresumed =>
    answerAlike_switchTo_back hup htarget hne hreplicated hresume hresumed hinterrupts
  transferred := fun _ htarget hne hreplicated hfresh ⟨_, hctx⟩ =>
    transferAlike_switchTo hup htarget hne hreplicated hresume hfresh hctx
  mapPhysical := answerAlike_mapPhysical hup hinterrupts
  placeViewport := answerAlike_placeViewport hup hinterrupts

/-- Whatever was called after a boot of either machine, the other machine with the same interrupt
flag, and with the same next capture pending, agrees with it on every further call. The captures of
the processor have to find the stack in the window. -/
theorem standsIn_of_boot (config : Config) :
    (∀ base viewport (m : Simulated) console tracing outcome start,
      boot base viewport ⟨{ config := config }, ⟨m, console⟩, tracing⟩ = .ok outcome start →
      ∀ turns w, Session start turns w → ∀ p : Processor,
      p.interrupts = w.board.machine.interrupts → p.resumeNext = w.board.machine.resumeNext →
      w.kernel.config = config ∧ StandsIn w.kernel w.board.machine p) ∧
    (∀ base viewport (p : Processor) console tracing copies start,
      p.nextContext.validate config.window = .ok () →
      boot base viewport ⟨{ config := config }, ⟨p, console⟩, tracing⟩ =
        .ok (.forked copies) start →
      ∀ w, Reached (fun p : Processor => p.nextContext.validate config.window = .ok ()) start w →
      ∀ m : Simulated,
      m.interrupts = w.board.machine.interrupts → m.resumeNext = w.board.machine.resumeNext →
      w.kernel.config = config ∧ StandsIn w.kernel m w.board.machine) := by
  constructor
  · intro base viewport m console tracing outcome start hboot turns w hsession p hinterrupts hresume
    obtain ⟨_, _, _, _, -, -, hprepared, hforked⟩ := Simulated.effect_of_boot hboot
    have hstart := hprepared.up.step hforked.step
    have hconfig : w.kernel.config = config :=
      (hsession.config_eq hstart).trans (hforked.step.config_eq.trans hprepared.config_eq)
    exact ⟨hconfig, standsIn_of_up (hsession.up hstart) hinterrupts hresume⟩
  · intro base viewport p console tracing copies start hready hboot w hreached m hinterrupts hresume
    have hserves := Processor.serves config.window
    have hforked := hreached.forked hserves (forked_of_boot hserves hready hboot).1
    exact ⟨hforked.config_eq, standsIn_of_up hforked.up hinterrupts.symm hresume.symm⟩

/-- The first switch of two processes, with the boot on the simulated machine. The registers of the
processor are what the simulated capture saves, so the contexts agree as well. -/
theorem transferAlike_halves :
    ∃ start ctx m₁, boot ⟨0x90000⟩ (some ⟨0x108000⟩)
        ⟨{ config := .halves }, ⟨Simulated.new 2, .ready⟩, false⟩ = .ok (.forked 1) start ∧
      Session start [] start ∧ Machine.capture start.board.machine = .ok (.saved ctx) m₁ ∧
      ∃ p p₁ : Processor, Machine.capture p = .ok (.saved ctx) p₁ ∧
        p.interrupts = start.board.machine.interrupts ∧
        p.resumeNext = start.board.machine.resumeNext ∧
        TransferAlike 1 start.kernel start.board.machine p ∧
        ∃ k₁ k₂ m' p', Returns (switchTo 1) start.kernel start.board.machine .transferred k₁ m' ∧
          Stops (switchTo 1) start.kernel p .restored k₂ p' ∧ k₂.contexts = k₁.contexts := by
  obtain ⟨start, hboot⟩ := Simulated.boot_halves
  obtain ⟨hforked, hcaptures, -, hresume, hactive, -⟩ := Simulated.seed_of_boot hboot
  obtain ⟨_, _, _, _, -, -, -, heffect⟩ := Simulated.effect_of_boot hboot
  obtain ⟨htarget, hne⟩ := hforked.second_halves hactive
  have hroom : start.board.machine.captures + 1 ≤ 2 ^ 27 := by
    rw [hcaptures]
    exact (by decide : 2 ≤ 2 ^ 27)
  obtain ⟨ctx, hctx⟩ := Simulated.capturedContext_eq_ok hroom
  have hcapture := Simulated.capture_saved hresume hctx
  let p : Processor := { Processor.new with registers := fun _ => ctx }
  have hcapture' : Machine.capture p = .ok (.saved ctx) p.captured := Processor.capture_saved rfl
  have hinterrupts : p.interrupts = start.board.machine.interrupts := heffect.interrupts_eq.symm
  obtain ⟨hsimulated, -⟩ := standsIn_of_boot .halves
  obtain ⟨-, hstands⟩ :=
    hsimulated _ _ _ _ _ _ start hboot [] start .started p hinterrupts hresume.symm
  have halike := hstands.transferred 1 htarget hne hforked.replicated hresume ⟨ctx, hctx⟩
  have ⟨_, k₁, k₂, m', p', _, hreturns, hstops, _, _, _, hcontexts, _⟩ := halike
  exact ⟨start, ctx, _, hboot, .started, hcapture, p, _, hcapture', hinterrupts, hresume.symm, halike,
    k₁, k₂, m', p', hreturns, hstops, hcontexts ctx _ _ hcapture hcapture'⟩

end SlotKernel

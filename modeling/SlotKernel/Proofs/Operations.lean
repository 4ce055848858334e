import SlotKernel.Proofs.Evaluation
import SlotKernel.Proofs.Moves

/-!
What each operation of the kernel does, on any machine, as one statement for each way through it.
The machine's own part is given by how its steps end; everything else is determined.
-/

namespace SlotKernel

namespace Kernel

/-- The kernel with a context saved for its active process. -/
def saved (k : Kernel) (ctx : Context) : Kernel :=
  { k with contexts := k.contexts.setIfInBounds k.active ctx }

/-- The kernel after its window moved to the slot of another process. -/
def movedTo (k : Kernel) (target : Nat) (paging : PageTables) : Kernel :=
  { k with
    active := target
    paging := paging
    events := (k.events.push (.taskSwitched k.active target)).push
      (.windowMoved k.active target k.config.window.pageCount) }

def withPaging (k : Kernel) (paging : PageTables) : Kernel :=
  { k with paging := paging }

def context (k : Kernel) (process : Nat) : Context :=
  k.contexts[process]?.getD .empty

/-- The move of the window from the active slot to another one. -/
def moveTo (k : Kernel) (target : Nat) (limit : UInt32) : WindowMove :=
  ⟨k.config.window, k.active, target, limit⟩

/-- The slot that the window shows on all of its pages. -/
def Shows (k : Kernel) (slot : Nat) : Prop :=
  slot < k.config.processCount ∧ ∀ page ∈ k.config.window.pages, ∃ entry,
    k.paging.entry? page = some entry ∧ entry.isPresent = true ∧ entry.frame = slotFrame slot page

end Kernel

namespace KernelM

variable {μ : Type} {k k' : Kernel} {m m' m₁ m₂ m₃ m₄ : μ}

/-! ### Switching -/

theorem returns_checkedContext {target : Nat}
    (hvalid : (k.context target).validate k.config.window = .ok ()) :
    Returns (checkedContext target) k m (k.context target) k m := by
  rw [Kernel.context] at hvalid
  refine returns_kernel.bind ?_
  simp only [hvalid]
  exact returns_pure _

theorem returns_movedTables {move : WindowMove} {s paging : PageTables} {range : PageRange}
    (hmove : move.apply s = .ok (paging, range)) :
    Returns (liftM (Board.movedTables (μ := μ) move s)) k m (paging, range) k m := by
  apply returns_board
  intro console
  rw [Board.movedTables, hmove]
  rfl

/-- The process that gives up the machine, if a context can be saved for it. -/
def outgoing : KernelM μ Nat := do
  let source := (← kernel).active
  unless source < maxProcesses do
    Run.panic (.noContextSlot source)
  return source

theorem returns_outgoing (hactive : k.active < maxProcesses) :
    Returns outgoing k m k.active k m := by
  refine returns_kernel.bind ?_
  simp only [hactive, if_true]
  exact returns_pure _

section Transfer

variable [Machine μ] {target : Nat} {limit : UInt32} {ctx : Context} {paging : PageTables}
  {range : PageRange}

theorem invalidate_perPage (range : PageRange) :
    (liftM (Board.invalidate (μ := μ) range .perPage) : KernelM μ Unit) =
      invalidatePages range.pages :=
  onBoard_forM _ _

/-- What is left of a transfer once the window has moved. -/
def leave (range : PageRange) (invalidation : Invalidation) (ctx : Context) :
    KernelM μ SwitchOutcome := do
  Board.invalidate (μ := μ) range invalidation
  Machine.restore (μ := μ) ctx
  return .transferred

/-- Once the cached mappings of the window are dropped, the restored context ends the transfer. -/
theorem ends_leave {invalidation : Invalidation} {ending : Except Stop Unit}
    (hdrop : Returns (liftM (Board.invalidate (μ := μ) range invalidation)) k m () k m₁)
    (hrestore : Ends (liftM (Machine.restore ctx : Run μ Unit)) k m₁ ending k m₂) :
    Ends (leave range invalidation ctx) k m (ending.map fun _ => .transferred) k m₂ :=
  hdrop.bind (hrestore.bind_pure _)

/-- The part of a transfer in which the window moves. -/
def moveOver (source target : Nat) (limit : UInt32) (ctx : Context) :
    KernelM μ (PageRange × SwitchRequest) := do
  let config := (← kernel).config
  modifyKernel fun k => { k with active := target }
  pushEvent (.taskSwitched source target)
  pushEvent (.windowMoved source target config.window.pageCount)
  trace (.switchMoving source target)
  let move : WindowMove := ⟨config.window, source, target, limit⟩
  let request ← Machine.handOver (μ := μ) ⟨move, config.invalidation, ctx⟩
  let (paging, range) ← Board.movedTables (μ := μ) request.move (← kernel).paging
  modifyKernel fun k => { k with paging := paging }
  return (range, request)

theorem transfer_eq (source target : Nat) (limit : UInt32) (ctx : Context) :
    transfer (μ := μ) source target limit ctx = (do
      let (range, request) ← moveOver source target limit ctx
      leave range request.invalidation request.context) := by
  simp only [transfer, moveOver, leave, bind_assoc, pure_bind]

/-- The last steps of it, when the machine has handed the request over. -/
def storeMoved (request : SwitchRequest) : KernelM μ (PageRange × SwitchRequest) := do
  let (paging, range) ← Board.movedTables (μ := μ) request.move (← kernel).paging
  modifyKernel fun k => { k with paging := paging }
  return (range, request)

section MoveOver

variable (hand : Machine.handOver ⟨k.moveTo target limit, k.config.invalidation, ctx⟩ m =
  .ok ⟨k.moveTo target limit, k.config.invalidation, ctx⟩ m₁)

include hand

theorem ends_moveOver {ending : Except Stop (PageRange × SwitchRequest)}
    (hstore : Ends (storeMoved ⟨k.moveTo target limit, k.config.invalidation, ctx⟩)
      (k.movedTo target k.paging) m₁ ending k' m₂) :
    Ends (moveOver k.active target limit ctx) k m ending k' m₂ := by
  refine returns_kernel.bind ?_
  refine (returns_modifyKernel _).bind ?_
  refine (returns_pushEvent _).bind ?_
  refine (returns_pushEvent _).bind ?_
  refine (returns_trace _).bind ?_
  exact (returns_machine hand).bind hstore

theorem returns_moveOver (hmove : (k.moveTo target limit).apply k.paging = .ok (paging, range)) :
    Returns (moveOver k.active target limit ctx) k m
      (range, ⟨k.moveTo target limit, k.config.invalidation, ctx⟩) (k.movedTo target paging)
      m₁ := by
  apply ends_moveOver hand
  refine returns_kernel.bind ?_
  refine (returns_movedTables hmove).bind ?_
  exact (returns_modifyKernel _).bind (returns_pure _)

end MoveOver

end Transfer

section Depart

variable [Machine μ] {target : Nat} {limit : UInt32} {ctx : Context} {stop : Stop}
  {outcome : Except Stop SwitchOutcome}

/-- Save the captured context and move the window to the slot of the target. -/
def arrive (source target : Nat) (limit : UInt32) (ctx : Context) :
    KernelM μ (PageRange × SwitchRequest) := do
  saveContext source ctx
  trace (.switchCaptured source)
  moveOver source target limit (← checkedContext target)

/-- A departure is made of the capture and the restoring, with one step before, between and after
them. -/
theorem depart_eq (target : Nat) (limit : UInt32) :
    depart (μ := μ) target limit = (do
      let source ← outgoing
      match ← (liftM (Machine.capture (μ := μ)) : KernelM μ Capture) with
      | .resumed => return .resumed
      | .saved ctx =>
          let (range, request) ← arrive source target limit ctx
          leave range request.invalidation request.context) := by
  simp only [depart, outgoing, arrive, transfer_eq, bind_assoc]
  congr 1
  funext k
  split
  · rfl
  · simp only [bind_assoc]
    rfl

/-- The outgoing context is saved before the target's is looked at. -/
theorem returns_arrive {paging : PageTables} {range : PageRange}
    (hvalid : ((k.saved ctx).context target).validate k.config.window = .ok ())
    (hand : Machine.handOver ⟨k.moveTo target limit, k.config.invalidation,
        (k.saved ctx).context target⟩ m =
      .ok ⟨k.moveTo target limit, k.config.invalidation, (k.saved ctx).context target⟩ m₁)
    (hmove : (k.moveTo target limit).apply k.paging = .ok (paging, range)) :
    Returns (arrive k.active target limit ctx) k m
      (range, ⟨k.moveTo target limit, k.config.invalidation, (k.saved ctx).context target⟩)
      ((k.saved ctx).movedTo target paging) m₁ := by
  refine (returns_modifyKernel _).bind ?_
  refine (returns_trace _).bind ?_
  refine (returns_checkedContext hvalid).bind ?_
  exact @returns_moveOver μ (k.saved ctx) m m₁ _ target limit _ paging range hand hmove

theorem returns_depart_resumed (hactive : k.active < maxProcesses)
    (hcapture : Machine.capture m = .ok .resumed m') :
    Returns (depart target limit) k m .resumed k m' := by
  rw [depart_eq]
  refine (returns_outgoing hactive).bind ?_
  exact (returns_machine hcapture).bind (returns_pure _)

theorem stops_depart_capture (hactive : k.active < maxProcesses)
    (hcapture : Machine.capture m = .error stop m') :
    Stops (depart target limit) k m stop k m' := by
  rw [depart_eq]
  refine (returns_outgoing hactive).bind ?_
  exact (stops_machine hcapture).bind_stop

/-- After a capture the window moves, and the departure ends as what is left of it does. -/
theorem ends_depart {range : PageRange} {request : SwitchRequest}
    (hactive : k.active < maxProcesses) (hcapture : Machine.capture m = .ok (.saved ctx) m₁)
    (harrive : Returns (arrive k.active target limit ctx) k m₁ (range, request) k' m₂)
    (hleave : Ends (leave range request.invalidation request.context) k' m₂ outcome k' m₃) :
    Ends (depart target limit) k m outcome k' m₃ := by
  rw [depart_eq]
  refine (returns_outgoing hactive).bind ?_
  refine (returns_machine hcapture).bind ?_
  exact harrive.bind hleave

end Depart

section Approach

variable {target : Nat}

/-- Look at a switch before anything is done: whether there is anything to switch, and up to which
frame the window may show. -/
def approach (target : Nat) : KernelM μ (Option UInt32) := do
  let k ← kernel
  if !k.config.isMultiprocess || target == k.active then
    trace (.switchSkipped target)
    return none
  if k.config.processCount ≤ target || !k.replicated then
    Report.error "sched: switch_task target has no replicated slot"
    Report.number " target" target
    Run.panic (.notRunnable target)
  return some (← k.frameLimit)

/-- The two cases in which there is nothing to switch. -/
theorem returns_approach_none (h : (!k.config.isMultiprocess || target == k.active) = true) :
    Returns (approach target) k m none k m := by
  refine returns_kernel.bind ?_
  rw [if_pos h]
  exact (returns_trace _).bind (returns_pure _)

theorem returns_approach_some {limit : UInt32}
    (h : (!k.config.isMultiprocess || target == k.active) = false)
    (hrunnable : (decide (k.config.processCount ≤ target) || !k.replicated) = false)
    (hlimit : k.frameLimit = .ok limit) : Returns (approach target) k m (some limit) k m := by
  refine returns_kernel.bind ?_
  simp only [h, hrunnable, Bool.false_eq_true, if_false]
  exact (returns_checked hlimit).bind (returns_pure _)

theorem stops_approach (h : (!k.config.isMultiprocess || target == k.active) = false)
    (hnot : (decide (k.config.processCount ≤ target) || !k.replicated) = true) :
    Stops (approach target) k m (.panicked (.notRunnable target)) k m := by
  refine returns_kernel.bind ?_
  simp only [h, hnot, Bool.false_eq_true, if_false, if_true]
  refine (returns_log _).bind ?_
  refine (returns_log _).bind ?_
  exact (stops_panic _).bind_stop

theorem returns_settle_resumed :
    Returns (settle .resumed) k m .resumed (k.pushEvent (.taskResumed k.active)) m := by
  refine returns_kernel.bind ?_
  refine (returns_trace _).bind ?_
  exact (returns_pushEvent _).bind (returns_pure _)

end Approach

section SwitchTo

variable [Machine μ] {target : Nat} {limit : UInt32} {stop : Stop}

theorem switchTo_eq (target : Nat) :
    switchTo (μ := μ) target = (do
      match ← approach target with
      | none => return .unchanged
      | some limit => settle (← withoutInterrupts (depart target limit))) := by
  simp only [switchTo, approach, bind_assoc]
  congr 1
  funext k
  split
  · simp only [bind_assoc, pure_bind]
  · split <;> simp only [bind_assoc, pure_bind]

theorem returns_switchTo_unchanged
    (h : (!k.config.isMultiprocess || target == k.active) = true) :
    Returns (switchTo target) k m .unchanged k m := by
  rw [switchTo_eq]
  exact (returns_approach_none h).bind (returns_pure _)

theorem stops_switchTo_notRunnable
    (h : (!k.config.isMultiprocess || target == k.active) = false)
    (hnot : (decide (k.config.processCount ≤ target) || !k.replicated) = true) :
    Stops (switchTo target) k m (.panicked (.notRunnable target)) k m := by
  rw [switchTo_eq]
  exact (stops_approach h hnot).bind_stop

variable (h : (!k.config.isMultiprocess || target == k.active) = false)
  (hrunnable : (decide (k.config.processCount ≤ target) || !k.replicated) = false)
  (hlimit : k.frameLimit = .ok limit)

include h hrunnable hlimit

theorem returns_switchTo_transferred
    (hdepart : Returns (withoutInterrupts (depart target limit)) k m .transferred k' m') :
    Returns (switchTo target) k m .transferred k' m' := by
  rw [switchTo_eq]
  refine (returns_approach_some h hrunnable hlimit).bind ?_
  exact hdepart.bind (returns_pure _)

theorem returns_switchTo_resumed
    (hdepart : Returns (withoutInterrupts (depart target limit)) k m .resumed k' m') :
    Returns (switchTo target) k m .resumed (k'.pushEvent (.taskResumed k'.active)) m' := by
  rw [switchTo_eq]
  refine (returns_approach_some h hrunnable hlimit).bind ?_
  exact hdepart.bind returns_settle_resumed

theorem stops_switchTo
    (hdepart : Stops (withoutInterrupts (depart target limit)) k m stop k' m') :
    Stops (switchTo target) k m stop k' m' := by
  rw [switchTo_eq]
  refine (returns_approach_some h hrunnable hlimit).bind ?_
  exact hdepart.bind_stop

end SwitchTo

/-! ### The viewport -/

section Viewport

variable [Machine μ] {was : Bool} {view : Viewport} {phys : PhysAddr} {base : VirtAddr}
  {paging : PageTables} {error : MappingError}

theorem returns_mapPhysical_noViewport (hview : k.viewport = none) :
    Returns (mapPhysical phys) k m (.error .noViewport) k m := by
  refine returns_kernel.bind ?_
  rw [hview]
  exact returns_pure _

theorem returns_mapPhysical_refused (hview : k.viewport = some view)
    (hmap : view.map k.paging phys = .error error) (hmask : Machine.mask m = .ok was m₁)
    (hunmask : Machine.unmask was m₁ = .ok () m₂) :
    Returns (mapPhysical phys) k m (.error error) k m₂ := by
  have hpoint : Returns (pointViewport view phys) k m₁ (.error error) k m₁ := by
    refine returns_kernel.bind ?_
    rw [hmap]
    exact returns_pure _
  refine returns_kernel.bind ?_
  rw [hview]
  exact (returns_withoutInterrupts hmask hpoint hunmask).bind (returns_pure _)

/-- The offset of an address in its frame does not carry out of the viewport's first page. -/
theorem add?_viewport (view : Viewport) (phys : PhysAddr) :
    Word.add? view.range.first.start.val (phys.val - phys.alignDown.val) =
      some (view.range.first.start.val + (phys.val - phys.alignDown.val)) := by
  have hpage := view.base.number_page_lt
  have hstart := Page.toNat_start hpage
  have hoffset : (phys.val - phys.alignDown.val).toNat < 4096 := by
    rw [PhysAddr.toNat_sub_alignDown]
    exact Nat.mod_lt _ (by decide)
  rw [Word.add?, if_pos]
  change view.base.page.start.val.toNat + _ < _
  simp only [UInt32.size]
  omega

theorem returns_mapPhysical (hview : k.viewport = some view)
    (hmap : view.map k.paging phys = .ok (paging, view.range)) (hmask : Machine.mask m = .ok was m₁)
    (hdrop : Returns (invalidatePages view.pages) (k.withPaging paging) m₁ () (k.withPaging paging)
      m₂)
    (hunmask : Machine.unmask was m₂ = .ok () m₃) :
    Returns (mapPhysical phys) k m
      (.ok ⟨view.range.first.start.val + (phys.val - phys.alignDown.val)⟩)
      ((k.withPaging paging).pushEvent (.viewportMapped phys)) m₃ := by
  have hpoint : Returns (pointViewport view phys) k m₁ (.ok view.range) (k.withPaging paging)
      m₂ := by
    refine returns_kernel.bind ?_
    rw [hmap]
    exact (returns_modifyKernel _).bind (hdrop.bind (returns_pure _))
  refine returns_kernel.bind ?_
  rw [hview]
  refine (returns_withoutInterrupts hmask hpoint hunmask).bind ?_
  refine (returns_pushEvent _).bind ?_
  exact (returns_checked (by rw [add?_viewport]; rfl)).bind (returns_pure _)

/-- A drop that stops finds the viewport pointed already. -/
theorem stops_mapPhysical {stop : Stop} (hview : k.viewport = some view)
    (hmap : view.map k.paging phys = .ok (paging, view.range)) (hmask : Machine.mask m = .ok was m₁)
    (hdrop : Stops (invalidatePages view.pages) (k.withPaging paging) m₁ stop (k.withPaging paging)
      m₂) :
    Stops (mapPhysical phys) k m stop (k.withPaging paging) m₂ := by
  have hpoint : Stops (pointViewport view phys) k m₁ stop (k.withPaging paging) m₂ := by
    refine returns_kernel.bind ?_
    rw [hmap]
    exact (returns_modifyKernel _).bind hdrop.bind_stop
  refine returns_kernel.bind ?_
  rw [hview]
  exact (stops_withoutInterrupts hmask hpoint).bind_stop

theorem returns_placeViewport_refused
    (hplace : Viewport.place k.paging base k.config.window = .error error) :
    Returns (placeViewport base) k m (.error error) k m := by
  refine returns_kernel.bind ?_
  rw [hplace]
  exact returns_pure _

theorem returns_placeViewport (henabled : k.pagingEnabled = true)
    (hplace : Viewport.place k.paging base k.config.window = .ok (view, paging))
    (hmask : Machine.mask m = .ok was m₁)
    (hdrop : Returns (invalidatePages view.pages) (k.withPaging paging) m₁ () (k.withPaging paging)
      m₂)
    (hunmask : Machine.unmask was m₂ = .ok () m₃) :
    Returns (placeViewport base) k m (.ok ())
      { k.withPaging paging with viewport := some view } m₃ := by
  refine returns_kernel.bind ?_
  rw [hplace]
  refine (returns_modifyKernel _).bind ?_
  simp only [if_pos henabled]
  refine (returns_withoutInterrupts hmask hdrop hunmask).bind ?_
  exact (returns_modifyKernel _).bind ((returns_log _).bind (returns_pure _))

/-- A drop that stops finds the pages of the viewport ready already. -/
theorem stops_placeViewport {stop : Stop} (henabled : k.pagingEnabled = true)
    (hplace : Viewport.place k.paging base k.config.window = .ok (view, paging))
    (hmask : Machine.mask m = .ok was m₁)
    (hdrop : Stops (invalidatePages view.pages) (k.withPaging paging) m₁ stop (k.withPaging paging)
      m₂) :
    Stops (placeViewport base) k m stop (k.withPaging paging) m₂ := by
  refine returns_kernel.bind ?_
  rw [hplace]
  refine (returns_modifyKernel _).bind ?_
  simp only [if_pos henabled]
  exact (stops_withoutInterrupts hmask hdrop).bind_stop

end Viewport

end KernelM

end SlotKernel

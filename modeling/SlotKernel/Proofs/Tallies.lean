import SlotKernel.Proofs.Hardware
import SlotKernel.Proofs.Inversion

/-!
Machines that can tell how many captures are still to answer `resumed`. No step of such a machine
adds to them, a capture that answers so uses one up, and the machine stops neither for a lock nor
for a hook. What the kernel does on such a machine is of the same kind: a switch that comes back as
`resumed` has left fewer resumes than there were, so switches out of hooks nest only so deep.
-/

namespace SlotKernel

namespace Run

variable {σ α β : Type}

/-- A good end with `post`, or a stop for neither a lock nor a hook, in a state that is `stopped`. -/
def EndsIn (stopped : σ → Prop) (post : α → σ → Prop) : EStateM.Result Stop σ α → Prop
  | .ok a s => post a s
  | .error stop s => (stop ≠ .deadlocked ∧ stop ≠ .hooksNested) ∧ stopped s

/-- Wherever the computation starts with `pre`, it ends so. -/
def Leads (stopped pre : σ → Prop) (act : Run σ α) (post : α → σ → Prop) : Prop :=
  ∀ s, pre s → EndsIn stopped post (act s)

section Leads

variable {stopped pre pre' : σ → Prop} {post post' : α → σ → Prop} {act : Run σ α}

theorem leads_pure {a : α} (h : ∀ s, pre s → post a s) : Leads stopped pre (pure a) post :=
  h

theorem Leads.imp (h : Leads stopped pre act post) (hpre : ∀ s, pre' s → pre s)
    (hpost : ∀ a s, post a s → post' a s) : Leads stopped pre' act post' := by
  intro s hs
  have hact := h s (hpre s hs)
  cases hrun : act s with
  | ok a s' =>
      rw [hrun] at hact
      exact hpost a s' hact
  | error stop s' =>
      rw [hrun] at hact
      exact hact

theorem Leads.bind {next : α → Run σ β} {post : β → σ → Prop} {mid : α → σ → Prop}
    (h : Leads stopped pre act mid) (hnext : ∀ a, Leads stopped (mid a) (next a) post) :
    Leads stopped pre (act >>= next) post := by
  intro s hs
  have hact := h s hs
  change EndsIn stopped post (EStateM.bind act next s)
  rw [EStateM.bind]
  cases hrun : act s with
  | ok a s' =>
      rw [hrun] at hact
      exact hnext a s' hact
  | error stop s' =>
      rw [hrun] at hact
      exact hact

/-- A loop whose steps all keep an invariant keeps it. -/
theorem leads_forM {step : β → Run σ Unit}
    (h : ∀ item, Leads stopped pre (step item) fun _ => pre) (items : List β) :
    Leads stopped pre (items.forM step) fun _ => pre := by
  induction items with
  | nil => exact leads_pure fun _ hs => hs
  | cons item items ih => exact (h item).bind fun _ => ih

theorem Leads.of_ok (h : Leads stopped pre act post) {s s' : σ} (hs : pre s) {a : α}
    (hrun : act s = .ok a s') : post a s' := by
  have hact := h s hs
  rw [hrun] at hact
  exact hact

end Leads

/-- The computation does not enlarge the state. -/
def Steady (size : σ → Nat) (act : Run σ α) : Prop :=
  ∀ bound, Leads (fun _ => True) (size · ≤ bound) act fun _ s => size s ≤ bound

section Steady

variable {size : σ → Nat}

theorem steady_pure (a : α) : Steady size (pure a : Run σ α) :=
  fun _ => leads_pure fun _ h => h

theorem steady_get : Steady size (get : Run σ σ) :=
  fun _ _ h => h

theorem steady_modify {change : σ → σ} (h : ∀ s, size (change s) ≤ size s) :
    Steady size (modify change : Run σ PUnit) :=
  fun _ s hs => Nat.le_trans (h s) hs

/-- A computation that always returns and leaves the size as it is. -/
theorem steady_of_eq {act : Run σ α}
    (h : ∀ s, ∃ a s', act s = .ok a s' ∧ size s' = size s) : Steady size act := by
  intro bound s hs
  obtain ⟨a, s', hrun, hsize⟩ := h s
  rw [hrun]
  exact Nat.le_trans (Nat.le_of_eq hsize) hs

theorem steady_panic (cause : Panic) : Steady size (panic cause : Run σ α) :=
  fun _ _ _ => ⟨⟨nofun, nofun⟩, trivial⟩

theorem Steady.bind {act : Run σ α} {next : α → Run σ β} (h : Steady size act)
    (hnext : ∀ a, Steady size (next a)) : Steady size (act >>= next) :=
  fun bound => (h bound).bind fun a => hnext a bound

theorem steady_forM {step : α → Run σ Unit} (h : ∀ item, Steady size (step item))
    (items : List α) : Steady size (items.forM step) :=
  fun bound => leads_forM (fun item => h item bound) items

theorem steady_checked (check : Except Panic α) : Steady size (liftM check : Run σ α) := by
  cases check with
  | ok a => exact steady_pure a
  | error cause => exact steady_panic cause

theorem Steady.le {act : Run σ α} (h : Steady size act) {s s' : σ} {a : α}
    (hrun : act s = .ok a s') : size s' ≤ size s :=
  (h (size s)).of_ok (Nat.le_refl _) hrun

end Steady

end Run

open Run

/-- The machine counts its pending resumes and knows of neither locks nor hooks. -/
structure Machine.Tallies (μ : Type) [Machine μ] : Prop where
  mask : Steady Machine.pendingResumes (Machine.mask (μ := μ))
  unmask : ∀ was, Steady Machine.pendingResumes (Machine.unmask (μ := μ) was)
  invalidatePage : ∀ page, Steady Machine.pendingResumes (Machine.invalidatePage (μ := μ) page)
  flushMappings : Steady Machine.pendingResumes (Machine.flushMappings (μ := μ))
  handOver : ∀ request, Steady Machine.pendingResumes (Machine.handOver (μ := μ) request)
  restore : ∀ ctx, Steady Machine.pendingResumes (Machine.restore (μ := μ) ctx)
  capture : Steady Machine.pendingResumes (Machine.capture (μ := μ))
  /-- A capture that answers `resumed` was one of the pending ones. -/
  resumed : ∀ m m' : μ, Machine.capture m = .ok .resumed m' →
    Machine.pendingResumes m' < Machine.pendingResumes m

namespace KernelM

variable {μ α : Type} [Machine μ]

/-- The computation leaves no more pending resumes than it finds. -/
abbrev Steady (act : KernelM μ α) : Prop :=
  Run.Steady (fun w : World μ => Machine.pendingResumes w.board.machine) act

theorem steady_board {act : Run (Board μ) α}
    (h : Run.Steady (fun board : Board μ => Machine.pendingResumes board.machine) act) :
    Steady (liftM act : KernelM μ α) := by
  rintro bound ⟨k, board, tracing⟩ hbound
  have hact := h bound board hbound
  change EndsIn _ _ (onBoard act ⟨k, board, tracing⟩)
  cases hrun : act board <;> rw [hrun] at hact <;> simp only [onBoard, hrun] <;> exact hact

theorem steady_onMachine {act : Run μ α} (h : Run.Steady Machine.pendingResumes act) :
    Run.Steady (fun board : Board μ => Machine.pendingResumes board.machine)
      (liftM act : Run (Board μ) α) := by
  rintro bound ⟨m, console⟩ hbound
  have hact := h bound m hbound
  change EndsIn _ _ (Board.onMachine act ⟨m, console⟩)
  cases hrun : act m <;> rw [hrun] at hact <;> simp only [Board.onMachine, hrun] <;> exact hact

theorem steady_machine {act : Run μ α} (h : Run.Steady Machine.pendingResumes act) :
    Steady (liftM act : KernelM μ α) :=
  steady_board (steady_onMachine h)

theorem steady_kernel : Steady (kernel : KernelM μ Kernel) :=
  steady_get.bind fun _ => steady_pure _

theorem steady_modifyKernel (change : Kernel → Kernel) :
    Steady (modifyKernel change : KernelM μ Unit) :=
  steady_modify fun _ => Nat.le_refl _

theorem steady_log (change : Console → Console) :
    Steady (HasConsole.onConsole change : KernelM μ Unit) :=
  fun _ _ h => h

/-- A computation that always returns and has nothing to do with the machine. -/
theorem steady_of_returns {act : KernelM μ α}
    (h : ∀ k m, ∃ a k', Returns act k m a k' m) : Steady act := by
  apply steady_of_eq
  rintro ⟨k, ⟨m, console⟩, tracing⟩
  obtain ⟨a, k', hreturns⟩ := h k m
  obtain ⟨console', hrun⟩ := hreturns console tracing
  exact ⟨a, _, hrun, rfl⟩

theorem steady_trace (point : TracePoint) : Steady (trace point : KernelM μ Unit) :=
  steady_of_returns fun k _ => ⟨(), k, returns_trace point⟩

theorem steady_pushEvent (event : Event) : Steady (pushEvent event : KernelM μ Unit) :=
  steady_modifyKernel _

theorem steady_movedTables (move : WindowMove) (s : PageTables) :
    Steady (liftM (Board.movedTables (μ := μ) move s) : KernelM μ (PageTables × PageRange)) := by
  have hlog (change : Console → Console) :
      Run.Steady (fun board : Board μ => Machine.pendingResumes board.machine)
        (HasConsole.onConsole change : Run (Board μ) Unit) := fun _ _ h => h
  apply steady_board
  unfold Board.movedTables
  cases move.apply s with
  | ok moved => exact steady_pure moved
  | error failure =>
      cases failure with
      | panicked cause => exact steady_panic cause
      | refused error =>
          exact (hlog _).bind fun _ => (hlog _).bind fun _ => (hlog _).bind fun _ => steady_panic _

/-! ### Switching and mapping -/

theorem steady_checkedContext (target : Nat) :
    Steady (checkedContext target : KernelM μ Context) := by
  refine steady_kernel.bind fun k => ?_
  cases hvalid : (k.contexts[target]?.getD .empty).validate k.config.window with
  | ok _ =>
      simp only [hvalid]
      exact steady_pure _
  | error error =>
      simp only [hvalid]
      exact (steady_log _).bind fun _ => (steady_log _).bind fun _ => steady_panic _

theorem steady_outgoing : Steady (outgoing : KernelM μ Nat) := by
  refine steady_kernel.bind fun k => ?_
  by_cases hactive : k.active < maxProcesses
  · simp only [hactive, if_true]
    exact steady_pure _
  · simp only [hactive, if_false]
    exact (steady_panic _).bind fun _ => steady_pure _

theorem steady_approach (target : Nat) : Steady (approach target : KernelM μ (Option UInt32)) := by
  refine steady_kernel.bind fun k => ?_
  by_cases hskip : (!k.config.isMultiprocess || target == k.active) = true
  · rw [if_pos hskip]
    exact (steady_trace _).bind fun _ => steady_pure _
  rw [if_neg hskip]
  by_cases hnot : (decide (k.config.processCount ≤ target) || !k.replicated) = true
  · rw [if_pos hnot]
    refine (steady_log _).bind fun _ => (steady_log _).bind fun _ => ?_
    exact (steady_panic _).bind fun _ => (steady_checked _).bind fun _ => steady_pure _
  · rw [if_neg hnot]
    exact (steady_checked _).bind fun _ => steady_pure _

theorem steady_settle (outcome : SwitchOutcome) :
    Steady (settle outcome : KernelM μ SwitchOutcome) := by
  by_cases hresumed : outcome = .resumed
  · subst hresumed
    exact steady_kernel.bind fun k => (steady_trace _).bind fun _ =>
      (steady_pushEvent _).bind fun _ => steady_pure _
  · unfold settle
    rw [if_neg hresumed]
    exact steady_pure _

section Tallies

variable (h : Machine.Tallies μ)

include h

theorem steady_withoutInterrupts {act : KernelM μ α} (hact : Steady act) :
    Steady (withoutInterrupts act) := by
  refine (steady_machine h.mask).bind fun was => hact.bind fun a => ?_
  exact (steady_machine (h.unmask was)).bind fun _ => steady_pure a

theorem steady_invalidatePages (pages : List Page) :
    Steady (invalidatePages pages : KernelM μ Unit) :=
  steady_forM (fun page => steady_machine (h.invalidatePage page)) pages

theorem steady_invalidate (range : PageRange) (invalidation : Invalidation) :
    Steady (liftM (Board.invalidate (μ := μ) range invalidation) : KernelM μ Unit) := by
  cases invalidation with
  | fullFlush => exact steady_board (steady_onMachine h.flushMappings)
  | perPage =>
      rw [invalidate_perPage]
      exact steady_invalidatePages h range.pages

theorem steady_moveOver (source target : Nat) (limit : UInt32) (ctx : Context) :
    Steady (moveOver source target limit ctx : KernelM μ (PageRange × SwitchRequest)) := by
  refine steady_kernel.bind fun k => ?_
  refine (steady_modifyKernel _).bind fun _ => ?_
  refine (steady_pushEvent _).bind fun _ => ?_
  refine (steady_pushEvent _).bind fun _ => ?_
  refine (steady_trace _).bind fun _ => ?_
  refine (steady_machine (h.handOver _)).bind fun request => ?_
  refine steady_kernel.bind fun k' => ?_
  refine (steady_movedTables _ _).bind fun moved => ?_
  exact (steady_modifyKernel _).bind fun _ => steady_pure _

theorem steady_arrive (source target : Nat) (limit : UInt32) (ctx : Context) :
    Steady (arrive source target limit ctx : KernelM μ (PageRange × SwitchRequest)) := by
  refine (steady_modifyKernel _).bind fun _ => ?_
  refine (steady_trace _).bind fun _ => ?_
  exact (steady_checkedContext target).bind fun _ => steady_moveOver h _ _ _ _

theorem steady_leave (range : PageRange) (invalidation : Invalidation) (ctx : Context) :
    Steady (leave range invalidation ctx : KernelM μ SwitchOutcome) := by
  refine (steady_invalidate h _ _).bind fun _ => ?_
  exact (steady_machine (h.restore _)).bind fun _ => steady_pure _

theorem steady_depart (target : Nat) (limit : UInt32) :
    Steady (depart target limit : KernelM μ SwitchOutcome) := by
  rw [depart_eq]
  refine steady_outgoing.bind fun source => ?_
  refine (steady_machine h.capture).bind fun answer => ?_
  cases answer with
  | resumed => exact steady_pure _
  | saved ctx =>
      refine (steady_arrive h source target limit ctx).bind fun moved => ?_
      exact steady_leave h _ _ _

theorem steady_switchTo (target : Nat) : Steady (switchTo target : KernelM μ SwitchOutcome) := by
  rw [switchTo_eq]
  refine (steady_approach target).bind fun answer => ?_
  cases answer with
  | none => exact steady_pure _
  | some limit =>
      refine (steady_withoutInterrupts h (steady_depart h target limit)).bind fun outcome => ?_
      exact steady_settle outcome

theorem steady_pointViewport (view : Viewport) (phys : PhysAddr) :
    Steady (pointViewport view phys : KernelM μ (Except MappingError PageRange)) := by
  refine steady_kernel.bind fun k => ?_
  cases view.map k.paging phys with
  | error error => exact steady_pure _
  | ok pointed =>
      refine (steady_modifyKernel _).bind fun _ => ?_
      exact (steady_invalidatePages h _).bind fun _ => steady_pure _

theorem steady_mapPhysical (phys : PhysAddr) :
    Steady (mapPhysical phys : KernelM μ (Except MappingError VirtAddr)) := by
  refine steady_kernel.bind fun k => ?_
  cases k.viewport with
  | none => exact steady_pure _
  | some view =>
      refine (steady_withoutInterrupts h (steady_pointViewport h view phys)).bind fun answer => ?_
      cases answer with
      | error error => exact steady_pure _
      | ok range =>
          refine (steady_pushEvent _).bind fun _ => ?_
          exact (steady_checked _).bind fun _ => steady_pure _

/-- A switch that comes back as `resumed` has used up a pending resume. -/
theorem pendingResumes_lt_of_switchTo {target : Nat} {w w' : World μ}
    (hswitch : switchTo target w = .ok .resumed w') :
    Machine.pendingResumes w'.board.machine < Machine.pendingResumes w.board.machine := by
  obtain ⟨was, m₁, m₂, hmask, hcapture, hunmask, -⟩ := of_switchTo_eq_resumed hswitch
  calc Machine.pendingResumes w'.board.machine
    _ ≤ Machine.pendingResumes m₂ := (h.unmask was).le hunmask
    _ < Machine.pendingResumes m₁ := h.resumed m₁ m₂ hcapture
    _ ≤ Machine.pendingResumes w.board.machine := h.mask.le hmask

end Tallies

end KernelM

/-! ### The machines -/

namespace Simulated

theorem pendingResumes_noteMutation (m : Simulated) :
    Machine.pendingResumes m.noteMutation = Machine.pendingResumes m := by
  unfold noteMutation
  split <;> rfl

theorem steady_capture : Run.Steady Machine.pendingResumes (Machine.capture (μ := Simulated)) := by
  intro bound m hbound
  cases hresume : m.resumeNext with
  | true =>
      rw [capture_resumed hresume]
      exact Nat.zero_le _
  | false =>
      cases hctx : capturedContext (m.captures + 1) with
      | ok ctx =>
          rw [capture_saved hresume hctx]
          exact hbound
      | error cause =>
          rw [capture_panicked hresume hctx]
          exact ⟨⟨nofun, nofun⟩, trivial⟩

theorem tallies : Machine.Tallies Simulated where
  mask := steady_of_eq fun m => ⟨m.interrupts, m.masked, mask_eq m, rfl⟩
  unmask was := steady_of_eq fun m => ⟨(), { m with interrupts := was }, rfl, rfl⟩
  invalidatePage page := steady_of_eq fun m => ⟨(), _, rfl, m.pendingResumes_noteMutation⟩
  flushMappings := steady_of_eq fun m => ⟨(), _, rfl, m.pendingResumes_noteMutation⟩
  handOver request := steady_of_eq fun m => ⟨request, _, rfl, m.pendingResumes_noteMutation⟩
  restore ctx := steady_of_eq fun m => ⟨(), _, restore_eq m ctx, rfl⟩
  capture := steady_capture
  resumed m m' h := by
    cases hresume : m.resumeNext with
    | true =>
        cases (capture_resumed hresume).symm.trans h
        change 0 < if m.resumeNext = true then 1 else 0
        rw [hresume]
        decide
    | false =>
        cases hctx : capturedContext (m.captures + 1) with
        | ok ctx => cases (capture_saved hresume hctx).symm.trans h
        | error cause => cases (capture_panicked hresume hctx).symm.trans h

end Simulated

/-- A simulated machine that is armed again and again, by hooks or between calls: the plan says of
each capture to come whether it is armed before it is made. -/
structure Rearmed where
  machine : Simulated
  plan : List Bool := []

namespace Rearmed

variable {α : Type}

def onMachine (act : Run Simulated α) : Run Rearmed α := fun m =>
  match act m.machine with
  | .ok a machine => .ok a { m with machine := machine }
  | .error stop machine => .error stop { m with machine := machine }

/-- Make ready for the next capture. -/
def arm (m : Rearmed) : Rearmed :=
  match m.plan with
  | [] => m
  | armed :: plan => ⟨{ m.machine with resumeNext := m.machine.resumeNext || armed }, plan⟩

instance : Machine Rearmed where
  activatePaging directory := onMachine (Machine.activatePaging directory)
  invalidatePage page := onMachine (Machine.invalidatePage page)
  flushMappings := onMachine Machine.flushMappings
  mask := onMachine Machine.mask
  unmask was := onMachine (Machine.unmask was)
  disableInterrupts := onMachine Machine.disableInterrupts
  copyToPhysical target source count := onMachine (Machine.copyToPhysical target source count)
  capture := fun m => onMachine Machine.capture m.arm
  handOver request := onMachine (Machine.handOver request)
  restore ctx := onMachine (Machine.restore ctx)
  halt := onMachine Machine.halt
  pendingResumes m := Machine.pendingResumes m.machine + m.plan.count true

theorem pendingResumes_arm (m : Rearmed) :
    Machine.pendingResumes m.arm ≤ Machine.pendingResumes m := by
  obtain ⟨machine, plan⟩ := m
  cases plan with
  | nil => exact Nat.le_refl _
  | cons armed plan =>
      change (if machine.resumeNext || armed then 1 else 0) + plan.count true ≤
        (if machine.resumeNext then 1 else 0) + (armed :: plan).count true
      rw [List.count_cons]
      cases machine.resumeNext <;> cases armed <;> simp [Nat.add_comm]

theorem steady_onMachine {act : Run Simulated α} (h : Run.Steady Machine.pendingResumes act) :
    Run.Steady Machine.pendingResumes (onMachine act) := by
  rintro bound ⟨machine, plan⟩ hbound
  have hact := h _ machine (Nat.le_refl _)
  rw [onMachine]
  cases hrun : act machine with
  | ok a after =>
      simp only [hrun] at hact ⊢
      exact Nat.le_trans (Nat.add_le_add_right hact _) hbound
  | error stop after =>
      simp only [hrun] at hact ⊢
      exact hact

theorem tallies : Machine.Tallies Rearmed where
  mask := steady_onMachine Simulated.tallies.mask
  unmask was := steady_onMachine (Simulated.tallies.unmask was)
  invalidatePage page := steady_onMachine (Simulated.tallies.invalidatePage page)
  flushMappings := steady_onMachine Simulated.tallies.flushMappings
  handOver request := steady_onMachine (Simulated.tallies.handOver request)
  restore ctx := steady_onMachine (Simulated.tallies.restore ctx)
  capture bound m hbound :=
    steady_onMachine Simulated.tallies.capture bound m.arm (Nat.le_trans m.pendingResumes_arm hbound)
  resumed m m' h := by
    change onMachine Machine.capture m.arm = _ at h
    rw [onMachine] at h
    cases hcapture : Machine.capture m.arm.machine with
    | error stop after =>
        rw [hcapture] at h
        cases h
    | ok answer after =>
        rw [hcapture] at h
        cases h
        have hless := Simulated.tallies.resumed _ _ hcapture
        exact Nat.lt_of_lt_of_le (Nat.add_lt_add_right hless _) m.pendingResumes_arm

end Rearmed

namespace Processor

theorem pendingResumes_masked (p : Processor) :
    Machine.pendingResumes p.masked = Machine.pendingResumes p := by
  change (if p.masked.resumeNext then 1 else 0) = _
  rw [p.resumeNext_masked]
  rfl

theorem pendingResumes_unmasked (p : Processor) (was : Bool) :
    Machine.pendingResumes (p.unmasked was) = Machine.pendingResumes p := by
  cases was <;> rfl

theorem tallies : Machine.Tallies Processor where
  mask := steady_of_eq fun p => ⟨_, _, p.mask_eq_masked, p.pendingResumes_masked⟩
  unmask was := steady_of_eq fun p => ⟨_, _, unmask_eq_unmasked was p, p.pendingResumes_unmasked was⟩
  invalidatePage page := steady_of_eq fun p => ⟨(), _, rfl, rfl⟩
  flushMappings := steady_of_eq fun p => ⟨(), _, rfl, rfl⟩
  handOver request := steady_of_eq fun p => ⟨_, _, handOver_eq_onStack request p, rfl⟩
  restore _ _ _ _ := ⟨⟨nofun, nofun⟩, trivial⟩
  capture bound p hbound := by
    cases hresume : p.resumeNext with
    | true =>
        rw [capture_resumed hresume]
        exact Nat.zero_le _
    | false =>
        rw [capture_saved hresume]
        exact hbound
  resumed p p' h := by
    cases hresume : p.resumeNext with
    | true =>
        cases (capture_resumed hresume).symm.trans h
        change 0 < if p.resumeNext = true then 1 else 0
        rw [hresume]
        decide
    | false => cases (capture_saved hresume).symm.trans h

end Processor

end SlotKernel

import SlotKernel.Proofs.Hardware
import SlotKernel.Proofs.Scenes

/-!
What each process is in the middle of. A ledger keeps, for every process, the last call that it made,
and for every slot what its frame promises: the context by which it is known and the call that goes on
from it. The protocol `waking` asks a course to keep the ledger true, and what it asks of a capture is
that the captured call goes on properly whenever its own process is switched to, in whatever state
that process finds the system.
-/

namespace SlotKernel

open KernelM

/-! ### Calls and their answers -/

/-- The services that leave the hook and the machine as they are. -/
def Service.IsPlain : Service → Prop
  | .setRefreshHook _ | .registerShellHook _ | .reboot => False
  | _ => True

/-- The call is a switch to another process. -/
def Invocation.Departs (call : Invocation) (config : Config) : Prop :=
  ∃ number, call.service = .switchTo number ∧ number < config.processCount ∧ number ≠ call.process

/-- What process `p` is back with, by the last call that it made, if it made one. A process that
called a switch to another one, or that was never in its own slot before, is `woken` first. -/
def Return.Answers (r : Return) (config : Config) (p : Nat) (woken : Prop) :
    Option Invocation → Prop
  | none =>
      if p = 0 then r = .booted (.forked (config.processCount - 1))
      else r = .booted .resumed ∧ woken
  | some call =>
      match call.service with
      | .switchTo number =>
          if config.processCount ≤ number then r = .switched none
          else if number = p then r = .switched (some .unchanged)
          else r = .switched (some .resumed) ∧ woken
      | .activeProcess => r = .active (some p)
      | .processCount => r = .count (some config.processCount)
      | .viewportBase => ∃ base, r = .base base
      | .mapPhysical _ => ∃ answer, r = .mapped answer
      | _ => False

/-- What a process is back with that was switched to. -/
def Return.ofWakeUp : Option Invocation → Return
  | none => .booted .resumed
  | some _ => .switched (some .resumed)

theorem Return.Answers.imp {r : Return} {config : Config} {p : Nat} {woken woken' : Prop}
    {call? : Option Invocation} (h : r.Answers config p woken call?) (hwoken : woken → woken') :
    r.Answers config p woken' call? := by
  cases call? with
  | none =>
      simp only [Answers] at h ⊢
      split
      · rwa [if_pos ‹_›] at h
      · rw [if_neg ‹_›] at h
        exact ⟨h.1, hwoken h.2⟩
  | some call =>
      obtain ⟨process, service, interrupts⟩ := call
      cases service with
      | switchTo number =>
          simp only [Answers] at h ⊢
          split
          · rwa [if_pos ‹_›] at h
          · rw [if_neg ‹_›] at h
            split
            · rwa [if_pos ‹_›] at h
            · rw [if_neg ‹_›] at h
              exact ⟨h.1, hwoken h.2⟩
      | _ => exact h

/-- A process that left for another one, or has yet to come to its own slot, can only be back as one
that was switched to. -/
theorem Return.Answers.eq_ofWakeUp {r : Return} {config : Config} {p : Nat} {woken : Prop}
    {call? : Option Invocation} (h : r.Answers config p woken call?)
    (hfirst : call? = none → p ≠ 0)
    (hdeparts : ∀ call, call? = some call → call.process = p ∧ call.Departs config) :
    r = .ofWakeUp call? := by
  cases call? with
  | none =>
      simp only [Answers, if_neg (hfirst rfl)] at h
      exact h.1
  | some call =>
      obtain ⟨rfl, number, hservice, hlow, hother⟩ := hdeparts call rfl
      simp only [Answers, hservice, if_neg (Nat.not_le.mpr hlow), if_neg hother] at h
      exact h.1

/-- The kernel that process `p` leaves when it was switched to. It notes that the process is back if
it comes back to a call. -/
def Kernel.backTo (k : Kernel) (p : Nat) : Option Invocation → Kernel
  | none => k
  | some _ => k.pushEvent (.taskResumed p)

/-- The interrupt flag that process `p` is back with. The first process has the flag of the boot, a
process that is entered for the first time has interrupts off, and every call gives back the flag
that it was made with. -/
def flagBack (flag : Bool) (p : Nat) : Option Invocation → Bool
  | none => p == 0 && flag
  | some call => call.interrupts

/-! ### Ledgers -/

/-- What the frame in a slot promises. -/
structure Pledge where
  context : Context
  /-- The last call that its process had made when it was captured. -/
  call : Option Invocation

/-- How far the running process is with coming back. -/
inductive Stage where
  | working
  /-- It was just switched to, and found this kernel. -/
  | arrived (k : Kernel)
  /-- It has released the lock. -/
  | woken
  /-- It has called its hook. -/
  | shown

structure Ledger where
  running : Nat
  calls : Nat → Option Invocation
  pledges : Nat → Option Pledge
  stage : Stage

namespace Ledger

/-- The frame of the running process was captured with this context. -/
def captured (i : Ledger) (ctx : Context) : Ledger :=
  { i with pledges := Function.update i.pledges i.running (some ⟨ctx, i.calls i.running⟩) }

/-- The frame of the running process was copied to a slot. -/
def copied (i : Ledger) (slot : Nat) : Ledger :=
  { i with pledges := Function.update i.pledges slot (i.pledges i.running) }

/-- Another process was switched to and found this kernel. -/
def arrivedAt (i : Ledger) (q : Nat) (k : Kernel) : Ledger :=
  { i with running := q, stage := .arrived k }

/-- The ledger and the kernel agree. -/
structure Stands (i : Ledger) (config : Config) (k : Kernel) : Prop where
  forked : k.Forked config
  active_eq : k.active = i.running
  hook_eq : k.refreshHook = some .redraw
  /-- The frame of a waiting process is that of its context and of its last call. -/
  waiting : ∀ q, q < config.processCount → q ≠ i.running →
    i.pledges q = some ⟨k.context q, i.calls q⟩
  /-- A waiting process that has made a call has called a switch to another process. -/
  suspended : ∀ q call, q ≠ i.running → i.calls q = some call → call.Departs config
  caller : ∀ q call, i.calls q = some call → call.process = q
  first : i.running = 0 ∨ (i.calls 0).isSome = true

/-- The kernel that the running process leaves when it was switched to. -/
def noted (i : Ledger) (k : Kernel) : Kernel :=
  k.backTo i.running (i.calls i.running)

end Ledger

/-- The installed kernel, the machine and the lock of a system. -/
structure System.Has {μ : Type} (s : System μ) (k : Kernel) (m : μ) (locked : Bool) : Prop where
  installed_eq : s.installed = some k
  machine_eq : s.board.machine = m
  locked_eq : s.locked = locked

namespace Ledger

/-- The running process was just switched to. It has the lock, and interrupts are off. -/
def Arrived (i : Ledger) (config : Config) (fresh : Processor) (s : System Processor) : Prop :=
  ∃ k p, s.Has k p true ∧ fresh.KeptWith false p ∧ i.Stands config k ∧ (i.calls 0).isSome = true ∧
    i.stage = .arrived k

/-- The running process is out of the kernel with the answer to its last call. -/
def Home (config : Config) (fresh : Processor) (r : Return) (s : System Processor) (i : Ledger) :
    Prop :=
  ∃ k p, s.Has k p false ∧ i.Stands config k ∧ (i.stage = .working ∨ i.stage = .shown) ∧
    r.Answers config i.running (i.stage = .shown) (i.calls i.running) ∧
    fresh.KeptWith (flagBack fresh.interrupts i.running (i.calls i.running)) p

/-- What a course may do with this ledger, after a boot on the processor `fresh`. -/
def waking (config : Config) (fresh : Processor) : Protocol (System Processor) Ledger where
  asks
    | .lock, s, i, goal => s.locked = false ∧ i.stage = .working ∧
        goal () { s with locked := true } i
    | .unlock, s, i, goal => s.locked = true ∧
        (i.stage = .working ∧ goal () { s with locked := false } i ∨
          ∃ k, i.stage = .arrived k ∧ s.installed = some (i.noted k) ∧
            goal () { s with locked := false } { i with stage := .woken })
    | .hook, s, i, goal => i.stage = .woken ∧ goal () s { i with stage := .shown }
    | .copy target source count, s, i, goal => i.stage = .working ∧ ∃ k slot processor,
        s.installed = some k ∧ k.Shows i.running ∧ slot < k.config.processCount ∧
        slotStart k.config.window slot = .ok target ∧ source = k.config.window.start ∧
        count = k.config.window.byteCount ∧
        Machine.copyToPhysical target source count s.board.machine = .ok () processor ∧
        goal () (s.withProcessor processor) (i.copied slot)
    | .capture, s, i, goal => i.stage = .working ∧
        (∃ flag, fresh.KeptWith flag s.board.machine ∧
          (i.calls i.running = none → flag = fresh.interrupts)) ∧
        ∃ k, s.installed = some k ∧ k.config = config ∧ k.Shows i.running ∧
        (∀ ctx, ctx.validate k.config.window = .ok () →
          goal (.saved ctx) (s.withProcessor (s.board.machine.saving ctx)) (i.captured ctx)) ∧
        ∀ s' i', i'.Arrived config fresh s' → i'.calls i'.running = i.calls i.running →
          goal .resumed s' i'
    | .restore ctx, s, i, _ => i.stage = .working ∧ ∃ q k call, q ≠ i.running ∧
        s.installed = some k ∧ i.calls i.running = some call ∧ call.service = .switchTo q ∧
        i.pledges q = some ⟨ctx, i.calls q⟩ ∧
        (∀ call, i.calls q = some call → call.Departs config) ∧
        (i.arrivedAt q k).Arrived config fresh
          (s.withProcessor (s.board.machine.wakingUp ctx))
  stops := fun _ => False
  asks_mono := by
    intro point s i goal goal' hgoal hasks
    cases point with
    | lock => exact ⟨hasks.1, hasks.2.1, hgoal _ _ _ hasks.2.2⟩
    | unlock =>
        obtain ⟨hlocked, ⟨hstage, hnext⟩ | ⟨k, hstage, hkernel, hnext⟩⟩ := hasks
        · exact ⟨hlocked, Or.inl ⟨hstage, hgoal _ _ _ hnext⟩⟩
        · exact ⟨hlocked, Or.inr ⟨k, hstage, hkernel, hgoal _ _ _ hnext⟩⟩
    | hook => exact ⟨hasks.1, hgoal _ _ _ hasks.2⟩
    | copy target source count =>
        obtain ⟨hstage, k, slot, processor, hkernel, hshows, hslot, hstart, hsource, hcount, hcopy,
          hnext⟩ := hasks
        exact ⟨hstage, k, slot, processor, hkernel, hshows, hslot, hstart, hsource, hcount, hcopy,
          hgoal _ _ _ hnext⟩
    | capture =>
        obtain ⟨hstage, hkept, k, hkernel, hconfig, hshows, hsaved, hresumed⟩ := hasks
        exact ⟨hstage, hkept, k, hkernel, hconfig, hshows,
          fun ctx hctx => hgoal _ _ _ (hsaved ctx hctx),
          fun s' i' harrived hcall => hgoal _ _ _ (hresumed s' i' harrived hcall)⟩
    | restore ctx => exact hasks

end Ledger

/-- A window shows one slot at most. -/
theorem Kernel.Shows.eq {k : Kernel} {slot other : Nat} (h : k.Shows slot) (h' : k.Shows other) :
    slot = other := by
  have hcount : k.config.processCount ≤ 8 := k.config.processCount_le
  have hslot := h.1
  have hother := h'.1
  have hfirst := k.config.firstPage_bounds
  have hpage : k.config.window.firstPage ∈ k.config.window.pages :=
    k.config.mem_pages.mpr ⟨Nat.le_refl _, by omega⟩
  obtain ⟨entry, hentry, -, hframe⟩ := h.2 _ hpage
  obtain ⟨_, hentry', -, hframe'⟩ := h'.2 _ hpage
  cases hentry.symm.trans hentry'
  have hnumber := congrArg (·.number.toNat) (hframe.symm.trans hframe')
  rw [number_slotFrame (by omega) (by omega), number_slotFrame (by omega) (by omega)] at hnumber
  omega

namespace Ledger.Stands

variable {i : Ledger} {config : Config} {k k' : Kernel}

theorem running_lt (h : i.Stands config k) : i.running < config.processCount := by
  rw [← h.active_eq, ← h.forked.config_eq]
  exact h.forked.up.active_lt

theorem shows (h : i.Stands config k) : k.Shows i.running := by
  rw [← h.active_eq]
  exact h.forked.up.shows

/-- Nothing is lost in a kernel with the same active process, hook and contexts. -/
theorem of_eq (h : i.Stands config k) (hforked : k'.Forked config) (hactive : k'.active = k.active)
    (hhook : k'.refreshHook = k.refreshHook) (hcontexts : k'.contexts = k.contexts) :
    i.Stands config k' := by
  refine ⟨hforked, hactive.trans h.active_eq, hhook.trans h.hook_eq, ?_, h.suspended, h.caller,
    h.first⟩
  intro q hq hne
  rw [Kernel.context, hcontexts]
  exact h.waiting q hq hne

theorem noted (h : i.Stands config k) : i.Stands config (i.noted k) := by
  rw [Ledger.noted]
  cases i.calls i.running with
  | none => exact h
  | some call => exact h.of_eq (h.forked.step (.noted k _)) rfl rfl rfl

/-- The first process to make a call is process 0. -/
theorem isSome_first (h : i.Stands config k) {call : Invocation}
    (hcall : i.calls i.running = some call) : (i.calls 0).isSome = true := by
  rcases h.first with hzero | hsome
  · rw [hzero] at hcall
    exact Option.isSome_of_eq_some hcall
  · exact hsome

/-- Another process runs once the first one has left for it, with its context saved. -/
theorem switchedTo (h : i.Stands config k) {ctx : Context}
    (hctx : ctx.validate k.config.window = .ok ()) {target : Nat}
    (htarget : target < config.processCount) (hne : target ≠ i.running) {call : Invocation}
    (hcall : i.calls i.running = some call) (hservice : call.service = .switchTo target) :
    ((i.captured ctx).arrivedAt target (k.switchedTo ctx target)).Stands config
      (k.switchedTo ctx target) := by
  have hconfig := h.forked.config_eq
  have hactive := h.active_eq
  have hbound := Nat.lt_of_lt_of_le h.forked.up.active_lt k.config.processCount_le
  refine ⟨?_, rfl, h.hook_eq, ?_, ?_, h.caller, Or.inr (h.isSome_first hcall)⟩
  · exact h.forked.step (.switched k ctx target hctx (by rwa [hconfig]) h.forked.replicated)
  · intro q hq hother
    change Function.update i.pledges i.running _ q = some ⟨(k.saved ctx).context q, i.calls q⟩
    by_cases hsource : q = i.running
    · subst hsource
      rw [Function.update_self, ← hactive, Kernel.context_saved_self hbound]
    · rw [Function.update_of_ne hsource, Kernel.context_saved_ne (by rwa [hactive])]
      exact h.waiting q hq hsource
  · intro q call' hother hcall'
    by_cases hsource : q = i.running
    · subst hsource
      cases hcall.symm.trans hcall'
      refine ⟨target, hservice, htarget, ?_⟩
      rwa [h.caller _ _ hcall]
    · exact h.suspended q call' hsource hcall'

end Ledger.Stands

end SlotKernel

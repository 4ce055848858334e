import SlotKernel.Proofs.Acceptance
import SlotKernel.Proofs.Wakeups

/-!
Calls of the services as the bare processor performs them. A computation on the processor is over
when a context is restored, so it is one stretch of what happens in the scenes: from the call to the
return, or to the transfer to another process. The scenes leave open what a capture saves, as long as
its stack is in the window; the registers of the processor are one choice if they are of that kind.
So a call comes to what the scenes allow it to come to: the process is back with the answer to its
call, the flag that it made it with and the lock free, or it hands the processor to the process that
the call names, with the lock held and interrupts off.
-/

namespace SlotKernel

/-- Captures save the registers, and the stack that these name is in the window. -/
structure Processor.CanCapture (p : Processor) (window : Window) : Prop where
  resumeNext_eq : p.resumeNext = false
  validate_eq : ∀ capture, (p.registers capture).validate window = .ok ()

theorem Processor.CanCapture.kept {fresh p : Processor} {window : Window} {flag : Bool}
    (h : fresh.CanCapture window) (hkept : fresh.KeptWith flag p) : p.CanCapture window where
  resumeNext_eq := hkept.resumeNext_eq.trans h.resumeNext_eq
  validate_eq := by
    rw [hkept.registers_eq]
    exact h.validate_eq

theorem Processor.CanCapture.nextContext {p : Processor} {window : Window}
    (h : p.CanCapture window) : p.nextContext.validate window = .ok () :=
  h.validate_eq p.captures

/-! ### The answers of the processor -/

section Answers

variable {s : System Processor}

theorem Point.perform_lock (hfree : s.locked = false) :
    Point.perform .lock s = .ok () { s with locked := true } := by
  obtain ⟨board, installed, locked, shellHook, shellLocked, journal, tracing⟩ := s
  cases hfree
  rfl

theorem Point.perform_copy {target : PhysAddr} {source : VirtAddr} {count : UInt32}
    {p : Processor} (hcopy : Machine.copyToPhysical target source count s.board.machine = .ok () p) :
    Point.perform (.copy target source count) s = .ok () (s.withProcessor p) := by
  change SystemM.onBoard (Board.onMachine (Machine.copyToPhysical target source count)) s = _
  rw [SystemM.onBoard, Board.onMachine, hcopy]
  rfl

theorem Point.perform_capture (hresume : s.board.machine.resumeNext = false) :
    Point.perform .capture s = .ok (.saved s.board.machine.nextContext)
      (s.withProcessor (s.board.machine.saving s.board.machine.nextContext)) := by
  change SystemM.onBoard (Board.onMachine Machine.capture) s = _
  rw [SystemM.onBoard, Board.onMachine, Processor.capture_saved hresume]
  rfl

end Answers

namespace Scene

open Ledger

variable {config : Config} {fresh : Processor} {depth : Nat} {history : List Happening} {scene : Scene}
  {i : Ledger}

/-- Where a computation on the processor is over. -/
def AtEdge (scene : Scene) : Prop :=
  match scene.course with
  | .returned _ _ => True
  | .reached (.restore _) _ _ => True
  | _ => False

/-- Scenes that follow the computation of the running process to its edge. -/
structure Follows (config : Config) (fresh : Processor) (depth : Nat) (start : Scene)
    (history : List Happening) (scene : Scene) (history' : List Happening) (scene' : Scene)
    (i' : Ledger) : Prop where
  run : Run Service.IsPlain depth start history' scene'
  recorded : scene'.Recorded config fresh history' i'
  working : i'.stage = .working
  running_eq : scene'.running = scene.running
  lastCall_eq : ∀ q, lastCall history' q = lastCall history q
  run_eq : scene.course.run Point.perform = scene'.course.run Point.perform
  edge : scene'.AtEdge

theorem Recorded.follows (hmany : 2 ≤ config.processCount) (hcan : fresh.CanCapture config.window)
    {start : Scene} (h : scene.Recorded config fresh history i) (hstage : i.stage = .working)
    (hrun : Run Service.IsPlain depth start history scene) :
    ∃ history' scene' i', Follows config fresh depth start history scene history' scene' i' := by
  obtain ⟨running, course, frames⟩ := scene
  induction course generalizing history frames i with
  | returned r s => exact ⟨_, _, i, hrun, h, hstage, rfl, fun _ => rfl, rfl, trivial⟩
  | stopped stop s => exact h.course.elim
  | reached point s next ih =>
      -- a step that the processor answers, after which it is followed to its edge
      have hwithin : ∀ {happening : Happening} {answer : point.Answer} {s' : System Processor}
          {frames' : Nat → Option StackFrame}, Point.perform point s = .ok answer s' →
          Step Service.IsPlain depth happening ⟨running, .reached point s next, frames⟩
            ⟨running, next answer s', frames'⟩ →
          (∀ p q, happening ≠ .transferred p q) →
          (∀ q, lastCall (happening :: history) q = lastCall history q) →
          ∃ history' scene' i', Follows config fresh depth start history
            ⟨running, .reached point s next, frames⟩ history' scene' i' := by
        intro happening answer s' frames' hperform hstep hstays hlast
        obtain ⟨i₁, hrecorded, hworking⟩ := h.step hmany hstep
        obtain ⟨history', scene', i', hrest⟩ :=
          ih answer s' (hworking hstage hstays) frames' hrecorded (hrun.stepped hstep)
        refine ⟨history', scene', i', hrest.run, hrest.recorded, hrest.working, hrest.running_eq,
          fun q => (hrest.lastCall_eq q).trans (hlast q), ?_, hrest.edge⟩
        rw [Course.run, hperform]
        exact hrest.run_eq
      have hrunning : i.running = running := h.running_eq
      cases point with
      | lock =>
          have hfree := h.course.1
          exact hwithin (Point.perform_lock hfree) (.acquired hfree)
            (fun _ _ => Happening.noConfusion) fun _ => rfl
      | unlock => exact hwithin rfl .released (fun _ _ => Happening.noConfusion) fun _ => rfl
      | hook => exact hwithin rfl .hooked (fun _ _ => Happening.noConfusion) fun _ => rfl
      | copy target source count =>
          obtain ⟨-, k, slot, processor, hkernel, hshows, hslot, hstart, rfl, rfl, hcopy, -⟩ :=
            h.course
          rw [hrunning] at hshows
          exact hwithin (Point.perform_copy hcopy) (.copied hkernel hshows hslot hstart hcopy)
            (fun _ _ => Happening.noConfusion) fun _ => rfl
      | capture =>
          obtain ⟨-, ⟨flag, hkept, -⟩, k, hkernel, hconfig, hshows, -⟩ := h.course
          rw [hrunning] at hshows
          have hcan' := hcan.kept hkept
          rw [← hconfig] at hcan'
          exact hwithin (Point.perform_capture hcan'.resumeNext_eq)
            (.captured hkernel hshows hcan'.nextContext) (fun _ _ => Happening.noConfusion)
            fun _ => rfl
      | restore ctx => exact ⟨_, _, i, hrun, h, hstage, rfl, fun _ => rfl, rfl, trivial⟩

/-- Process `p` is out of the kernel with the answer to its last call, in its own slot. -/
structure CameBack (config : Config) (flag : Bool) (p : Nat) (call? : Option Invocation) (r : Return)
    (s : System Processor) : Prop where
  answers : r.Answers config p False call?
  unlocked : s.locked = false
  flag_eq : s.board.machine.interrupts = flagBack flag p call?
  shows : ∃ k, s.installed = some k ∧ k.active = p ∧ k.Shows p

/-- The context that is restored is one of process `q`, which is to release the lock. -/
structure HandsOver (q : Nat) (s : System Processor) : Prop where
  locked : s.locked = true
  masked : s.board.machine.interrupts = false
  shows : ∃ k, s.installed = some k ∧ k.active = q ∧ k.Shows q

/-- At its edge the process is back, or it hands over to the process of its call. -/
theorem Recorded.edge_cases (h : scene.Recorded config fresh history i) (hstage : i.stage = .working)
    (hedge : scene.AtEdge) :
    (∃ r s, scene.course = .returned r s ∧ CameBack config fresh.interrupts scene.running
      (lastCall history scene.running) r s) ∨
    ∃ ctx s next q call, scene.course = .reached (.restore ctx) s next ∧
      lastCall history scene.running = some call ∧ call.service = .switchTo q ∧
      q ≠ scene.running ∧ HandsOver q s := by
  obtain ⟨running, course, frames⟩ := scene
  obtain ⟨hrunning, hcalls, hcourse, -, -⟩ := h
  change i.running = running at hrunning
  subst hrunning
  cases course with
  | returned r s =>
      obtain ⟨k, p, hs, hstands, -, hanswers, hkept⟩ := hcourse
      rw [hcalls] at hanswers hkept
      refine Or.inl ⟨r, s, rfl, hanswers.imp fun hshown => ?_, hs.locked_eq, ?_, k, hs.installed_eq,
        hstands.active_eq, hstands.shows⟩
      · cases hstage.symm.trans hshown
      · rw [hs.machine_eq]
        exact hkept.interrupts_eq
  | stopped stop s => exact hcourse.elim
  | reached point s next =>
      cases point with
      | restore ctx =>
          obtain ⟨-, q, k, call, hne, hkernel, hcall, hservice, -, -, k', p, hs, hmasked, hstands, -,
            ⟨⟩⟩ := hcourse
          rw [hcalls] at hcall
          rw [← hs.machine_eq] at hmasked
          exact Or.inr ⟨ctx, s, next, q, call, rfl, hcall, hservice, hne, hs.locked_eq,
            hmasked.interrupts_eq, k, hkernel, hstands.active_eq, hstands.shows⟩
      | lock | unlock | hook | copy | capture => exact hedge.elim

section Launch

variable {base : PhysAddr} {viewport : Option VirtAddr} {s : System Processor}

/-- Whatever plain service a process calls that is back, the processor performs the call as the
scenes go on from there. -/
theorem perform_of_run (hmany : 2 ≤ config.processCount) (hbase : base.isPageAligned = true)
    (hvacant : s.installed = none) (hfree : s.locked = false)
    (hroom : s.board.machine.HasRoom config) (hcan : s.board.machine.CanCapture config.window)
    {p : Nat} {r₀ : Return} {s₀ : System Processor} {frames : Nat → Option StackFrame}
    (hrun : Run Service.IsPlain depth (opening depth config base viewport s) history
      ⟨p, .returned r₀ s₀, frames⟩)
    {service : Service} (hplain : service.IsPlain) (interrupts : Bool) :
    ∃ history' scene', Run Service.IsPlain depth (opening depth config base viewport s) history'
        scene' ∧ scene'.running = p ∧ lastCall history' p = some ⟨p, service, interrupts⟩ ∧
      ((∃ r s', scene'.course = .returned r s' ∧
          service.perform depth (s₀.withInterrupts interrupts) = .ok r s' ∧
          CameBack config s.board.machine.interrupts p (some ⟨p, service, interrupts⟩) r s') ∨
        ∃ ctx s' next q, scene'.course = .reached (.restore ctx) s' next ∧
          service.perform depth (s₀.withInterrupts interrupts) = .error .restored
            (s'.withProcessor (s'.board.machine.executing (.restore ctx))) ∧
          service = .switchTo q ∧ q ≠ p ∧ HandsOver q s') := by
  obtain ⟨i, hrecorded⟩ := recorded_of_run hmany hbase hvacant hfree hroom hrun
  have hstep : Step Service.IsPlain depth (.called ⟨p, service, interrupts⟩)
      ⟨p, .returned r₀ s₀, frames⟩
      ⟨p, service.script depth (s₀.withInterrupts interrupts), frames⟩ := .called hplain interrupts
  obtain ⟨history', scene', i', hfollows⟩ :=
    (hrecorded.called hmany hstep).follows hmany hcan rfl (hrun.stepped hstep)
  have hperform : service.perform depth (s₀.withInterrupts interrupts) =
      scene'.course.run Point.perform := by
    rw [← Service.run_script]
    exact hfollows.run_eq
  have hrunning : scene'.running = p := hfollows.running_eq
  have hcall : lastCall history' p = some ⟨p, service, interrupts⟩ := by
    rw [hfollows.lastCall_eq, lastCall_called, if_pos rfl]
  refine ⟨history', scene', hfollows.run, hrunning, hcall, ?_⟩
  have hcases := hfollows.recorded.edge_cases hfollows.working hfollows.edge
  rw [hrunning, hcall] at hcases
  rcases hcases with ⟨r, s', hcourse, hback⟩ | ⟨ctx, s', next, q, _, hcourse, ⟨⟩, hservice, hne, hhands⟩
  · rw [hcourse] at hperform
    exact Or.inl ⟨r, s', hcourse, hperform, hback⟩
  · rw [hcourse] at hperform
    exact Or.inr ⟨ctx, s', next, q, hcourse, hperform, hservice, hne, hhands⟩

/-- The processor performs a launch as the scenes go on from its opening, and process 0 is back with
every other process forked. -/
theorem launch_of_room (depth : Nat) (hmany : 2 ≤ config.processCount)
    (hbase : base.isPageAligned = true) (hvacant : s.installed = none) (hfree : s.locked = false)
    (hroom : s.board.machine.HasRoom config) (hcan : s.board.machine.CanCapture config.window) :
    ∃ history scene s', Run Service.IsPlain depth (opening depth config base viewport s) history
        scene ∧ scene.running = 0 ∧
      scene.course = .returned (.booted (.forked (config.processCount - 1))) s' ∧
      SystemM.launch (SystemM.switchWithin depth) config base viewport s =
        .ok (.forked (config.processCount - 1)) s' ∧
      CameBack config s.board.machine.interrupts 0 none
        (.booted (.forked (config.processCount - 1))) s' := by
  have hopened : Run Service.IsPlain depth (opening depth config base viewport s) []
      (opening depth config base viewport s) := .opened
  obtain ⟨i, hrecorded⟩ := recorded_of_run hmany hbase hvacant hfree hroom hopened
  obtain ⟨history, scene, i', hfollows⟩ :=
    hrecorded.follows hmany hcan hrecorded.working_of_nil hopened
  have hlaunch : (do
      return .booted (← SystemM.launch (SystemM.switchWithin depth) config base viewport) :
        SystemM Processor Return) s = scene.course.run Point.perform := by
    rw [← Script.run_launch]
    exact hfollows.run_eq
  have hrunning : scene.running = 0 := hfollows.running_eq
  have hcall : lastCall history 0 = none := hfollows.lastCall_eq 0
  have hcases := hfollows.recorded.edge_cases hfollows.working hfollows.edge
  rw [hrunning, hcall] at hcases
  obtain ⟨r, s', hcourse, hback⟩ | ⟨_, _, _, _, _, -, ⟨⟩, -⟩ := hcases
  obtain rfl : r = .booted (.forked (config.processCount - 1)) := hback.answers
  rw [hcourse] at hlaunch
  obtain ⟨outcome, _, hrun, hreturn⟩ := SlotKernel.Run.exists_of_bind_eq_ok hlaunch
  cases hreturn
  exact ⟨history, scene, s', hfollows.run, hrunning, hcourse, hrun, hback⟩

end Launch

end Scene

/-! ### The boot image -/

namespace SystemM

variable {μ : Type} [Machine μ] {config : Config} {base : PhysAddr} {viewport : Option VirtAddr}
  {s s' : System μ} {outcome : ReplicateOutcome}

/-- Only a launch that comes back as a resumed process has asked for a switch. -/
theorem launch_of_ne {switch switch' : Nat → SystemM μ (Option SwitchOutcome)}
    (h : launch switch config base viewport s = .ok outcome s') (hne : outcome ≠ .resumed) :
    launch switch' config base viewport s = .ok outcome s' := by
  obtain ⟨boot, hboot⟩ : ∃ boot, ∀ switch : Nat → SystemM μ (Option SwitchOutcome),
      launch switch config base viewport = boot >>= enter switch := by
    refine ⟨do
      unless ← install config do
        refuseSecond
      withKernel (KernelM.bootForHook base viewport), fun switch => ?_⟩
    simp only [launch, bind_assoc]
    refine bind_congr fun vacant => ?_
    cases vacant <;> simp only [Bool.false_eq_true, if_true, if_false, bind_assoc]
  rw [hboot] at h ⊢
  obtain ⟨answer, s₁, hprefix, henter⟩ := SlotKernel.Run.exists_of_bind_eq_ok h
  change EStateM.bind boot _ s = _
  rw [EStateM.bind, hprefix]
  obtain _ | ⟨outcome', hook⟩ := answer
  · exact henter
  · cases outcome' with
    | resumed =>
        obtain ⟨_, _, -, h₂⟩ := SlotKernel.Run.exists_of_bind_eq_ok henter
        cases hook with
        | none =>
            cases h₂
            exact absurd rfl hne
        | some hook =>
            obtain ⟨_, _, -, h₃⟩ := SlotKernel.Run.exists_of_bind_eq_ok h₂
            cases h₃
            exact absurd rfl hne
    | _ => exact henter

/-- The image is started by the launch of its configuration. -/
theorem start_of_launch {image : Image}
    (hcheck : Config.check defaultProcessCount image.dataStart image.memory .standard = .ok config)
    (s : System μ) :
    ∃ s₁, s₁.installed = s.installed ∧ s₁.locked = s.locked ∧ s₁.board.machine = s.board.machine ∧
      ∀ outcome s', launch switchTo config image.pagingBase (some image.viewport) s₁ =
        .ok outcome s' → start image s = .ok () s' := by
  have hlog : ∀ (change : Console → Console) (s : System μ), HasConsole.onConsole change s =
      .ok () { s with board := { s.board with console := change s.board.console } } :=
    fun _ _ => rfl
  have hconfig : ∀ s : System μ, imageConfig image s = .ok config s := by
    intro s
    rw [imageConfig, hcheck]
    rfl
  let console := s.board.console.init.info "kernel::start()"
  refine ⟨{ s with board := { s.board with console := console } }, rfl, rfl, rfl, ?_⟩
  intro outcome s' hlaunch
  rw [start_eq]
  change EStateM.bind (HasConsole.onConsole Console.init) _ s = _
  rw [EStateM.bind, hlog]
  change EStateM.bind (HasConsole.onConsole _) _ _ = _
  rw [EStateM.bind, hlog]
  change EStateM.bind (imageConfig image) _ _ = _
  rw [EStateM.bind, hconfig]
  change EStateM.bind (launch _ _ _ _) _ _ = _
  rw [EStateM.bind, hlaunch]
  rfl

end SystemM

/-- The boot image comes to the shell as the first process, by what the scenes do after its opening:
it is back from the boot with the others forked, the lock free and the interrupt flag as it was. -/
theorem Scene.start_of_room {config : Config} {image : Image}
    (hcheck : Config.check defaultProcessCount image.dataStart image.memory .standard = .ok config)
    (hbase : image.pagingBase.isPageAligned = true) (depth : Nat) {s : System Processor}
    (hvacant : s.installed = none) (hfree : s.locked = false)
    (hroom : s.board.machine.HasRoom config) (hcan : s.board.machine.CanCapture config.window) :
    ∃ s₁ history scene s', s₁.board.machine = s.board.machine ∧
      Run Service.IsPlain depth (opening depth config image.pagingBase (some image.viewport) s₁)
        history scene ∧ scene.running = 0 ∧
      scene.course = .returned (.booted (.forked (config.processCount - 1))) s' ∧
      SystemM.start image s = .ok () s' ∧
      CameBack config s.board.machine.interrupts 0 none
        (.booted (.forked (config.processCount - 1))) s' := by
  have hmany : 2 ≤ config.processCount := by
    have hcases := Config.check_cases defaultProcessCount image.dataStart image.memory .standard
    split at hcases
    · cases hcheck.symm.trans hcases
    · obtain ⟨_, hchecked, hcount, -⟩ := hcases
      cases hcheck.symm.trans hchecked
      exact Nat.le_of_eq hcount.symm
  obtain ⟨s₁, hinstalled, hlocked, hmachine, hstart⟩ := SystemM.start_of_launch hcheck s
  rw [← hmachine] at hroom hcan ⊢
  obtain ⟨history, scene, s', hrun, hrunning, hcourse, hlaunch, hback⟩ :=
    launch_of_room depth hmany hbase (hinstalled.trans hvacant) (hlocked.trans hfree) hroom hcan
  have hswitch : SystemM.launch SystemM.switchTo config image.pagingBase (some image.viewport) s₁ =
      .ok (.forked (config.processCount - 1)) s' := SystemM.launch_of_ne hlaunch nofun
  exact ⟨s₁, history, scene, s', rfl, hrun, hrunning, hcourse, hstart _ _ hswitch, hback⟩

end SlotKernel

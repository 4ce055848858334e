import SlotKernel.Proofs.Keeping

/-!
Processes on the bare processor wake up as themselves. A scene is recorded by a ledger if the running
process keeps to it from here on and every frame keeps the promise that the ledger has of it. Each
step leads to a recorded scene, so in every scene there is a next step, a process is only switched to
by a call that names it, and it goes on from there with the answer that its own call asks for.
-/

namespace SlotKernel

open Ledger

/-! ### Last calls -/

theorem lastCall_called (invocation : Invocation) (history : List Happening) (p : Nat) :
    lastCall (.called invocation :: history) p =
      if invocation.process = p then some invocation else lastCall history p := by
  rw [lastCall, List.findSome?_cons]
  by_cases hcaller : invocation.process = p
  · simp only [hcaller, if_true]
  · simp only [hcaller, if_false]
    rfl

/-- The process was switched to, left the kernel and had its hook called, and did nothing since. -/
def WokenUp (history : List Happening) (p : Nat) : Prop :=
  ∃ q earlier, history = .hooked p :: .released p :: .transferred q p :: earlier

/-- The stage says how much of a wake-up has happened. -/
def Stage.Fits (history : List Happening) (p : Nat) : Stage → Prop
  | .working => True
  | .arrived _ => ∃ q earlier, history = .transferred q p :: earlier
  | .woken => ∃ q earlier, history = .released p :: .transferred q p :: earlier
  | .shown => WokenUp history p

namespace Ledger

/-- The running process makes a call. -/
def called (i : Ledger) (service : Service) (interrupts : Bool) : Ledger :=
  { i with
    calls := Function.update i.calls i.running (some ⟨i.running, service, interrupts⟩)
    stage := .working }

theorem Stands.called {i : Ledger} {config : Config} {k : Kernel} (h : i.Stands config k)
    (service : Service) (interrupts : Bool) :
    (i.called service interrupts).Stands config k := by
  have hcalls : ∀ q, q ≠ i.running → (i.called service interrupts).calls q = i.calls q :=
    fun q hne => Function.update_of_ne hne _ _
  refine ⟨h.forked, h.active_eq, h.hook_eq, ?_, ?_, ?_, ?_⟩
  · intro q hq hne
    rw [hcalls q hne]
    exact h.waiting q hq hne
  · intro q call hne hcall
    rw [hcalls q hne] at hcall
    exact h.suspended q call hne hcall
  · intro q call hcall
    by_cases hself : q = i.running
    · subst hself
      change Function.update i.calls i.running _ i.running = _ at hcall
      rw [Function.update_self] at hcall
      cases hcall
      rfl
    · rw [hcalls q hself] at hcall
      exact h.caller q call hcall
  · rcases Nat.decEq i.running 0 with hother | hzero
    · refine Or.inr ?_
      rw [hcalls 0 (Ne.symm hother)]
      exact h.first.resolve_left hother
    · exact Or.inl hzero

end Ledger

namespace Scene

/-- The frame in a slot keeps a promise: whenever its process is switched to in the middle of the
promised call, it goes on as it must. -/
def Fulfils (config : Config) (fresh : Processor) (pledge? : Option Pledge)
    (frame? : Option StackFrame) : Prop :=
  ∀ pledge, pledge? = some pledge → ∃ frame, frame? = some frame ∧
    frame.context = pledge.context ∧ ∀ s i, i.Arrived config fresh s →
      i.calls i.running = pledge.call →
        (frame.goOn s).Meets (waking config fresh) (Home config fresh) i

/-- Promise and frame may be replaced together. -/
theorem fulfils_update {config : Config} {fresh : Processor} {pledges : Nat → Option Pledge}
    {frames : Nat → Option StackFrame} (h : ∀ slot, Fulfils config fresh (pledges slot) (frames slot))
    (slot : Nat) {pledge? : Option Pledge} {frame? : Option StackFrame}
    (hnew : Fulfils config fresh pledge? frame?) (other : Nat) :
    Fulfils config fresh (Function.update pledges slot pledge? other)
      (Function.update frames slot frame? other) := by
  by_cases hself : other = slot
  · subst hself
    rw [Function.update_self, Function.update_self]
    exact hnew
  · rw [Function.update_of_ne hself, Function.update_of_ne hself]
    exact h other

/-- The ledger is true of the scene and of what has happened before it. -/
structure Recorded (config : Config) (fresh : Processor) (history : List Happening) (scene : Scene)
    (i : Ledger) : Prop where
  running_eq : i.running = scene.running
  calls_eq : ∀ p, i.calls p = lastCall history p
  course : scene.course.Meets (waking config fresh) (Home config fresh) i
  frames : ∀ slot, Fulfils config fresh (i.pledges slot) (scene.frames slot)
  stage_fits : i.stage.Fits history scene.running

variable {config : Config} {fresh : Processor} {depth : Nat} {history : List Happening}
  {happening : Happening} {scene scene' : Scene} {i : Ledger}

/-- What is known of a scene in which process `p` hands the processor to process `q`. -/
structure Departure (config : Config) (scene : Scene) (i : Ledger) (p q : Nat) (k : Kernel) :
    Prop where
  course_eq : ∃ ctx s next, scene.course = .reached (.restore ctx) s next ∧ s.installed = some k
  ne : q ≠ p
  called : ∃ call, i.calls p = some call ∧ call.service = .switchTo q
  departs : ∀ call, i.calls q = some call → call.Departs config
  first : (i.calls 0).isSome = true
  stands : (i.arrivedAt q k).Stands config k

/-- A process is switched to only by a call that names it, and finds itself active. -/
theorem Recorded.transferred (h : scene.Recorded config fresh history i) {p q : Nat}
    (hstep : Step Service.IsPlain depth (.transferred p q) scene scene') :
    ∃ k, Departure config scene i p q k ∧ scene'.running = q ∧ scene'.frames = scene.frames ∧
      scene'.Recorded config fresh (.transferred p q :: history) (i.arrivedAt q k) := by
  obtain ⟨hrunning, hcalls, hcourse, hframes, -⟩ := h
  cases hstep with
  | @transferred _ _ s frames next k frame hkernel hshows hframe =>
      obtain ⟨-, target, k', call, hne, hkernel', hcall, hservice, hpledge, hdeparts, harrived⟩ :=
        hcourse
      cases hkernel.symm.trans hkernel'
      change i.running = p at hrunning
      rw [hrunning] at hne hcall
      obtain ⟨_, _, -, -, hstands, hfirst, ⟨⟩⟩ := id harrived
      -- the window shows the target, so the target is the one that goes on
      obtain rfl : q = target := hshows.eq hstands.shows
      obtain ⟨frame', hframe', hcontext, hgoOn⟩ := hframes q _ hpledge
      cases hframe.symm.trans hframe'
      exact ⟨k, ⟨⟨_, s, next, rfl, hkernel⟩, hne, ⟨call, hcall, hservice⟩, hdeparts, hfirst, hstands⟩,
        rfl, rfl, rfl, hcalls, hgoOn _ _ harrived rfl, hframes, p, history, rfl⟩

/-- A call is entered in the ledger, and its service keeps to it. -/
theorem Recorded.called (hmany : 2 ≤ config.processCount)
    (h : scene.Recorded config fresh history i) {invocation : Invocation}
    (hstep : Step Service.IsPlain depth (.called invocation) scene scene') :
    scene'.Recorded config fresh (.called invocation :: history)
      (i.called invocation.service invocation.interrupts) := by
  obtain ⟨hrunning, hcalls, hcourse, hframes, -⟩ := h
  cases hstep with
  | @called p r s frames service hallowed interrupts =>
      change i.running = p at hrunning
      subst hrunning
      obtain ⟨k, processor, hs, hi, -, -, hkept⟩ := hcourse
      refine ⟨rfl, ?_, ?_, hframes, trivial⟩
      · intro q
        rw [lastCall_called]
        change Function.update i.calls i.running (some ⟨i.running, service, interrupts⟩) q = _
        by_cases hself : q = i.running
        · subst hself
          rw [Function.update_self, if_pos rfl]
        · rw [Function.update_of_ne hself, if_neg (Ne.symm hself)]
          exact hcalls q
      · have hs' : (s.withInterrupts interrupts).Has k { processor with interrupts := interrupts }
            false := ⟨hs.installed_eq,
              congrArg (fun p : Processor => { p with interrupts := interrupts }) hs.machine_eq,
              hs.locked_eq⟩
        have hcall : (i.called service interrupts).calls (i.called service interrupts).running =
            some ⟨i.running, service, interrupts⟩ := Function.update_self _ _ _
        have hkept' : fresh.KeptWith interrupts { processor with interrupts := interrupts } :=
          ⟨rfl, hkept.registers_eq, hkept.resumeNext_eq⟩
        exact Script.meets_service hs' rfl hcall hkept' (hi.called service interrupts) hmany depth
          hallowed

/-- The copy of the running process's frame keeps the copy of its promise. -/
theorem Recorded.copied (h : scene.Recorded config fresh history i) {p slot : Nat}
    (hstep : Step Service.IsPlain depth (.copied p slot) scene scene') :
    scene'.Recorded config fresh (.copied p slot :: history) (i.copied slot) := by
  obtain ⟨hrunning, hcalls, hcourse, hframes, -⟩ := h
  cases hstep with
  | @copied _ _ s frames next k start processor hkernel hshows hslot hstart hcopy =>
      change i.running = p at hrunning
      subst hrunning
      obtain ⟨hstage, k', slot', processor', hkernel', -, hslot', hstart', -, -, hcopy', hnext⟩ :=
        hcourse
      cases hkernel.symm.trans hkernel'
      cases hcopy.symm.trans hcopy'
      obtain rfl : slot = slot' := by
        obtain ⟨_, hplace, hnumber⟩ := KernelM.slotStart_eq_ok k.config hslot
        obtain ⟨_, hplace', hnumber'⟩ := KernelM.slotStart_eq_ok k.config hslot'
        cases hplace.symm.trans hstart
        cases hplace'.symm.trans hstart'
        omega
      refine ⟨rfl, hcalls, hnext, fulfils_update hframes slot (hframes i.running), ?_⟩
      change i.stage.Fits _ _
      rw [hstage]
      trivial

/-- A captured course makes the promise that it goes on as it is on now. -/
theorem Recorded.captured (h : scene.Recorded config fresh history i) {p : Nat}
    (hstep : Step Service.IsPlain depth (.captured p) scene scene') :
    ∃ ctx, scene'.Recorded config fresh (.captured p :: history) (i.captured ctx) := by
  obtain ⟨hrunning, hcalls, hcourse, hframes, -⟩ := h
  cases hstep with
  | @captured _ s frames next k ctx hkernel hshows hctx =>
      change i.running = p at hrunning
      subst hrunning
      obtain ⟨hstage, -, k', hkernel', -, -, hsaved, hresumed⟩ := hcourse
      cases hkernel.symm.trans hkernel'
      have hcaptured : Fulfils config fresh (some ⟨ctx, i.calls i.running⟩)
          (some ⟨ctx, next .resumed⟩) := by
        rintro _ ⟨⟩
        exact ⟨_, rfl, rfl, hresumed⟩
      refine ⟨ctx, rfl, hcalls, hsaved ctx hctx, fulfils_update hframes i.running hcaptured, ?_⟩
      change i.stage.Fits _ _
      rw [hstage]
      trivial

/-- Before anything has happened nobody is on the way back. -/
theorem Recorded.working_of_nil (h : scene.Recorded config fresh [] i) : i.stage = .working := by
  have hfits := h.stage_fits
  cases hstage : i.stage with
  | working => rfl
  | _ =>
      rw [hstage] at hfits
      obtain ⟨_, _, ⟨⟩⟩ := hfits

/-- Each step leads to a recorded scene. -/
theorem Recorded.step (hmany : 2 ≤ config.processCount)
    (h : scene.Recorded config fresh history i)
    (hstep : Step Service.IsPlain depth happening scene scene') :
    ∃ i', scene'.Recorded config fresh (happening :: history) i' ∧
      (i.stage = .working → (∀ p q, happening ≠ .transferred p q) → i'.stage = .working) := by
  cases happening with
  | called invocation => exact ⟨_, h.called hmany hstep, fun _ _ => rfl⟩
  | copied p slot => exact ⟨_, h.copied hstep, fun hworking _ => hworking⟩
  | captured p =>
      obtain ⟨ctx, hrecorded⟩ := h.captured hstep
      exact ⟨_, hrecorded, fun hworking _ => hworking⟩
  | transferred p q =>
      obtain ⟨k, -, -, -, hrecorded⟩ := h.transferred hstep
      exact ⟨_, hrecorded, fun _ hnot => absurd rfl (hnot p q)⟩
  | acquired p =>
      obtain ⟨hrunning, hcalls, hcourse, hframes, -⟩ := h
      cases hstep with
      | acquired =>
          obtain ⟨-, hstage, hnext⟩ := hcourse
          refine ⟨i, ⟨hrunning, hcalls, hnext, hframes, ?_⟩, fun hworking _ => hworking⟩
          rw [hstage]
          trivial
  | released p =>
      obtain ⟨hrunning, hcalls, hcourse, hframes, hfits⟩ := h
      cases hstep with
      | released =>
          obtain ⟨-, ⟨hstage, hnext⟩ | ⟨k, hstage, -, hnext⟩⟩ := hcourse
          · refine ⟨i, ⟨hrunning, hcalls, hnext, hframes, ?_⟩, fun hworking _ => hworking⟩
            rw [hstage]
            trivial
          · rw [hstage] at hfits
            obtain ⟨q, earlier, rfl⟩ := hfits
            exact ⟨{ i with stage := .woken }, ⟨hrunning, hcalls, hnext, hframes, q, earlier, rfl⟩,
              fun hworking => nomatch hstage.symm.trans hworking⟩
  | hooked p =>
      obtain ⟨hrunning, hcalls, hcourse, hframes, hfits⟩ := h
      cases hstep with
      | hooked =>
          obtain ⟨hstage, hnext⟩ := hcourse
          rw [hstage] at hfits
          obtain ⟨q, earlier, rfl⟩ := hfits
          exact ⟨{ i with stage := .shown }, ⟨hrunning, hcalls, hnext, hframes, q, earlier, rfl⟩,
            fun hworking => nomatch hstage.symm.trans hworking⟩

/-! ### What comes next -/

/-- Every accepted window has room for a stack. -/
theorem exists_validate (config : Config) : ∃ ctx, Context.validate ctx config.window = .ok () := by
  refine ⟨Processor.labels 0, Context.validate_eq_ok_iff.mpr ⟨?_, config.start_lt_stack, ?_⟩⟩
  · decide
  · change windowCeiling - 0x40 ≤ windowCeiling
    decide

/-- The system never gets stuck. -/
theorem Recorded.exists_step (h : scene.Recorded config fresh history i) :
    ∃ happening scene', Step Service.IsPlain depth happening scene scene' := by
  obtain ⟨running, course, frames⟩ := scene
  obtain ⟨hrunning, -, hcourse, hframes, -⟩ := h
  change i.running = running at hrunning
  subst hrunning
  cases course with
  | returned r s => exact ⟨_, _, @Step.called _ _ _ _ _ _ .activeProcess trivial true⟩
  | stopped stop s => exact hcourse.elim
  | reached point s next =>
      cases point with
      | lock => exact ⟨_, _, .acquired hcourse.1⟩
      | unlock => exact ⟨_, _, .released⟩
      | hook => exact ⟨_, _, .hooked⟩
      | copy target source count =>
          obtain ⟨-, k, slot, processor, hkernel, hshows, hslot, hstart, rfl, rfl, hcopy, -⟩ :=
            hcourse
          exact ⟨_, _, .copied hkernel hshows hslot hstart hcopy⟩
      | capture =>
          obtain ⟨-, -, k, hkernel, -, hshows, -⟩ := hcourse
          obtain ⟨ctx, hctx⟩ := exists_validate k.config
          exact ⟨_, _, .captured hkernel hshows hctx⟩
      | restore ctx =>
          obtain ⟨-, q, k, _, -, hkernel, -, -, hpledge, -, _, _, -, -, hstands, -, ⟨⟩⟩ := hcourse
          obtain ⟨⟨_, goOn⟩, hframe, rfl, -⟩ := hframes q _ hpledge
          exact ⟨_, _, .transferred hkernel hstands.shows hframe⟩

/-- A process that is not done with a wake-up is about to leave the kernel, to call its hook or to
return. -/
theorem meets_cases {course : Course (System Processor) Return}
    (h : course.Meets (waking config fresh) (Home config fresh) i) (hstage : i.stage ≠ .working) :
    (∃ k s next, i.stage = .arrived k ∧ course = .reached .unlock s next ∧
        s.installed = some (i.noted k) ∧ Course.Meets (waking config fresh) (Home config fresh)
          (next () { s with locked := false }) { i with stage := .woken }) ∨
      (∃ s next, i.stage = .woken ∧ course = .reached .hook s next ∧
        Course.Meets (waking config fresh) (Home config fresh) (next () s)
          { i with stage := .shown }) ∨
      ∃ r s, i.stage = .shown ∧ course = .returned r s ∧ Home config fresh r s i := by
  cases course with
  | returned r s =>
      have hshown := h.choose_spec.choose_spec.2.2.1
      exact Or.inr (Or.inr ⟨r, s, hshown.resolve_left hstage, rfl, h⟩)
  | stopped stop s => exact h.elim
  | reached point s next =>
      cases point with
      | unlock =>
          obtain ⟨-, ⟨hworking, -⟩ | ⟨k, harrived, hkernel, hnext⟩⟩ := h
          · exact absurd hworking hstage
          · exact Or.inl ⟨k, s, next, harrived, rfl, hkernel, hnext⟩
      | hook => exact Or.inr (Or.inl ⟨s, next, h.1, rfl, h.2⟩)
      | lock => exact absurd h.2.1 hstage
      | copy | capture | restore => exact absurd h.1 hstage

/-- A process that was switched to leaves the kernel, has its hook called and returns. -/
theorem Recorded.wakes {k : Kernel} (h : scene.Recorded config fresh history i)
    (hstage : i.stage = .arrived k) :
    ∃ s next scene₁ r s', scene.course = .reached .unlock s next ∧
      s.installed = some (i.noted k) ∧
      Step Service.IsPlain depth (.released scene.running) scene scene₁ ∧
      Step Service.IsPlain depth (.hooked scene.running) scene₁
        ⟨scene.running, .returned r s', scene.frames⟩ ∧
      Recorded config fresh (.hooked scene.running :: .released scene.running :: history)
        ⟨scene.running, .returned r s', scene.frames⟩ { i with stage := .shown } := by
  obtain ⟨running, course, frames⟩ := scene
  obtain ⟨hrunning, hcalls, hcourse, hframes, hfits⟩ := h
  rw [hstage] at hfits
  obtain ⟨q, earlier, rfl⟩ := hfits
  obtain ⟨k', s, next, harrived, rfl, hkernel, hnext⟩ | ⟨_, _, hwoken, -⟩ | ⟨_, _, hshown, -⟩ :=
    meets_cases hcourse (by rw [hstage]; exact Stage.noConfusion)
  · cases hstage.symm.trans harrived
    obtain ⟨_, _, _, ⟨⟩, -⟩ | ⟨s₁, next₁, -, hcourse₁, hnext₁⟩ | ⟨_, _, ⟨⟩, -⟩ :=
      meets_cases hnext Stage.noConfusion
    obtain ⟨_, _, _, ⟨⟩, -⟩ | ⟨_, _, ⟨⟩, -⟩ | ⟨r, s', -, hcourse', hhome⟩ :=
      meets_cases hnext₁ Stage.noConfusion
    refine ⟨s, next, ⟨running, .reached .hook s₁ next₁, frames⟩, r, s', rfl, hkernel, ?_, ?_,
      hrunning, hcalls, hhome, hframes, q, earlier, rfl⟩
    · rw [← hcourse₁]
      exact .released
    · rw [← hcourse']
      exact .hooked
  · cases hstage.symm.trans hwoken
  · cases hstage.symm.trans hshown

/-- What process `p` is in the middle of comes to an end without another call: it returns, or the
process that its last call names does. -/
def Concludes (config : Config) (fresh : Processor) (depth : Nat) (start : Scene)
    (history : List Happening) (p : Nat) : Prop :=
  ∃ history' scene' i' r s', Run Service.IsPlain depth start history' scene' ∧
    scene'.Recorded config fresh history' i' ∧ scene'.course = .returned r s' ∧
    (∀ q, lastCall history' q = lastCall history q) ∧
    (i'.stage = .working ∧ scene'.running = p ∨ i'.stage = .shown ∧
      ∃ call, lastCall history p = some call ∧ call.service = .switchTo scene'.running)

theorem Concludes.of_cons {start : Scene} {p : Nat}
    (h : Concludes config fresh depth start (happening :: history) p)
    (hlast : ∀ q, lastCall (happening :: history) q = lastCall history q) :
    Concludes config fresh depth start history p := by
  obtain ⟨history', scene', i', r, s', hrun, hrecorded, hcourse, hlast', hend⟩ := h
  rw [hlast] at hend
  exact ⟨history', scene', i', r, s', hrun, hrecorded, hcourse,
    fun q => (hlast' q).trans (hlast q), hend⟩

theorem Recorded.concludes (hmany : 2 ≤ config.processCount) {start : Scene}
    (h : scene.Recorded config fresh history i) (hstage : i.stage = .working)
    (hrun : Run Service.IsPlain depth start history scene) :
    Concludes config fresh depth start history scene.running := by
  obtain ⟨running, course, frames⟩ := scene
  induction course generalizing history frames i with
  | returned r s =>
      exact ⟨history, _, i, r, s, hrun, h, rfl, fun _ => rfl, Or.inl ⟨hstage, rfl⟩⟩
  | stopped stop s => exact h.course.elim
  | reached point s next ih =>
      -- a step within the course, after which the rest of it comes to an end
      have hwithin : ∀ {happening : Happening} {answer : point.Answer} {s' : System Processor}
          {frames' : Nat → Option StackFrame},
          Step Service.IsPlain depth happening ⟨running, .reached point s next, frames⟩
            ⟨running, next answer s', frames'⟩ →
          (∀ p q, happening ≠ .transferred p q) →
          (∀ q, lastCall (happening :: history) q = lastCall history q) →
          Concludes config fresh depth start history running := by
        intro happening answer s' frames' hstep hstays hlast
        obtain ⟨i₁, hrecorded, hworking⟩ := h.step hmany hstep
        have hrest := ih answer s' (hworking hstage hstays) frames' hrecorded (hrun.stepped hstep)
        exact hrest.of_cons hlast
      obtain ⟨happening, scene₁, hstep⟩ := @Recorded.exists_step config fresh depth _ _ _ h
      cases hstep with
      | acquired hfree =>
          exact hwithin (.acquired hfree) (fun _ _ => Happening.noConfusion) fun _ => rfl
      | released => exact hwithin .released (fun _ _ => Happening.noConfusion) fun _ => rfl
      | hooked => exact hwithin .hooked (fun _ _ => Happening.noConfusion) fun _ => rfl
      | copied hkernel hshows hslot hstart hcopy =>
          exact hwithin (.copied hkernel hshows hslot hstart hcopy)
            (fun _ _ => Happening.noConfusion) fun _ => rfl
      | captured hkernel hshows hctx =>
          exact hwithin (.captured hkernel hshows hctx) (fun _ _ => Happening.noConfusion)
            fun _ => rfl
      | @transferred _ q _ _ _ _ frame hkernel hshows hframe =>
          obtain ⟨k, hdeparture, -, -, hrecorded⟩ := @Recorded.transferred config fresh depth _ _ _ _
            h running q (.transferred hkernel hshows hframe)
          obtain ⟨call, hcall, hservice⟩ := hdeparture.called
          obtain ⟨_, _, scene₂, r, s₂, -, -, hreleased, hhooked, hrecorded₂⟩ := hrecorded.wakes rfl
          have hrun₁ := hrun.stepped (.transferred hkernel hshows hframe)
          refine ⟨_, _, _, r, s₂, (hrun₁.stepped hreleased).stepped hhooked, hrecorded₂, rfl,
            fun _ => rfl, Or.inr ⟨rfl, call, ?_, hservice⟩⟩
          rw [← h.calls_eq]
          exact hcall

/-! ### Launches -/

theorem recorded_of_run (hmany : 2 ≤ config.processCount) {base : PhysAddr}
    (hbase : base.isPageAligned = true) {viewport : Option VirtAddr} {s : System Processor}
    (hvacant : s.installed = none) (hfree : s.locked = false)
    (hroom : s.board.machine.HasRoom config)
    (hrun : Run Service.IsPlain depth (opening depth config base viewport s) history scene) :
    ∃ i, scene.Recorded config s.board.machine history i := by
  induction hrun with
  | opened =>
      refine ⟨⟨0, fun _ => none, fun _ => none, .working⟩, rfl, fun _ => rfl, ?_, ?_, trivial⟩
      · exact Script.meets_launch hmany hbase viewport _ hvacant hfree hroom rfl rfl fun _ => rfl
      · rintro slot pledge ⟨⟩
  | stepped hrun hstep ih =>
      obtain ⟨i, hrecorded⟩ := ih
      obtain ⟨i', hrecorded', -⟩ := hrecorded.step hmany hstep
      exact ⟨i', hrecorded'⟩

/-! ### Two processes -/

theorem hasRoom_halves : Processor.new.HasRoom .halves := by
  have hmemory : Processor.new.memory = .zeroed 0x100000 9 := rfl
  have hbase : (Memory.zeroed 0x100000 9).base = 0x100000 := rfl
  have hcount : Config.halves.processCount = 2 := rfl
  rw [Processor.HasRoom, hmemory, hbase, Memory.size_zeroed, hcount]
  decide

/-- The launch of two processes on a processor with interrupts on. -/
def openingHalves : Scene :=
  opening 0 .halves ⟨0x90000⟩ (some ⟨0x108000⟩) { board := ⟨.new, .ready⟩ }

theorem recorded_of_run_halves (hrun : Run Service.IsPlain 0 openingHalves history scene) :
    ∃ i, scene.Recorded .halves .new history i :=
  @recorded_of_run .halves 0 history scene (Nat.le_refl 2) ⟨0x90000⟩ (by decide)
    (some ⟨0x108000⟩) { board := ⟨.new, .ready⟩ } rfl rfl hasRoom_halves hrun

/-- Process 0 can switch to process 1, which has not made a call until then. -/
theorem exists_run_halves :
    ∃ history scene r s, Run Service.IsPlain 0 openingHalves history scene ∧ scene.running = 1 ∧
      lastCall history 1 = none ∧ WokenUp history 1 ∧ scene.course = .returned r s := by
  have hmany : 2 ≤ Config.halves.processCount := Nat.le_refl 2
  have hopened : Run Service.IsPlain 0 openingHalves [] openingHalves := .opened
  obtain ⟨i, hrecorded⟩ := recorded_of_run_halves hopened
  have hstage := hrecorded.working_of_nil
  obtain ⟨history₁, ⟨running₁, _, frames₁⟩, i₁, r₁, s₁, hrun₁, hrecorded₁, rfl, hlast₁,
    ⟨hstage₁, hzero⟩ | ⟨-, _, ⟨⟩, -⟩⟩ := hrecorded.concludes hmany hstage hopened
  change running₁ = 0 at hzero
  subst hzero
  -- process 0 is back from the boot and calls the switch
  have hstep : Step Service.IsPlain 0 (.called ⟨0, .switchTo 1, true⟩) ⟨0, .returned r₁ s₁, frames₁⟩
      ⟨0, Service.script 0 (.switchTo 1) (s₁.withInterrupts true), frames₁⟩ :=
    .called trivial true
  obtain ⟨i₂, hrecorded₂, hworking⟩ := hrecorded₁.step hmany hstep
  have hstage₂ := hworking hstage₁ fun _ _ => Happening.noConfusion
  have hcall : lastCall (.called ⟨0, .switchTo 1, true⟩ :: history₁) 0 =
      some ⟨0, .switchTo 1, true⟩ := by
    rw [lastCall_called, if_pos rfl]
  obtain ⟨history₃, scene₃, i₃, r₃, s₃, hrun₃, hrecorded₃, hcourse₃, hlast₃, hend⟩ :=
    hrecorded₂.concludes hmany hstage₂ (hrun₁.stepped hstep)
  have hrest : lastCall history₃ 1 = none := by
    rw [hlast₃, lastCall_called, if_neg (by decide), hlast₁]
    rfl
  rcases hend with ⟨hstage₃, hzero⟩ | ⟨hshown, call, hcall', hservice⟩
  · -- it cannot return from this call as long as nobody switches to it
    have hmeets := hrecorded₃.course
    rw [hcourse₃] at hmeets
    obtain ⟨k, p, -, -, -, hanswers, -⟩ := hmeets
    rw [hrecorded₃.running_eq, hzero, hrecorded₃.calls_eq, hlast₃, hcall] at hanswers
    cases hstage₃.symm.trans hanswers.2
  · cases hcall.symm.trans hcall'
    have hone : scene₃.running = 1 := (Service.switchTo.inj hservice).symm
    have hfits := hrecorded₃.stage_fits
    rw [hshown, hone] at hfits
    exact ⟨history₃, scene₃, r₃, s₃, hrun₃, hone, hrest, hfits, hcourse₃⟩

/-! ### Every launch -/

/-- Processes that share the processor after a launch and call the plain services as they like never
get stuck, and only the running one does anything. A process returns from the boot or from a call
with the answer that this call asks for, active and with its own slot in the window; from a switch to
another process, and from the boot in its own slot, it returns right after it was switched to. It is
switched to only by another process that calls a switch to it. Then it finds itself active and its
slot in the window, it notes that it is back if it comes back to a call, and it returns from there as
one that was resumed. -/
theorem wakes_up_as_itself (config : Config) (hmany : 2 ≤ config.processCount) {base : PhysAddr}
    (hbase : base.isPageAligned = true) (viewport : Option VirtAddr) (depth : Nat)
    {s : System Processor} (hvacant : s.installed = none) (hfree : s.locked = false)
    (hroom : s.board.machine.HasRoom config) {history : List Happening} {scene : Scene}
    (hrun : Run Service.IsPlain depth (opening depth config base viewport s) history scene) :
    (∃ happening scene', Step Service.IsPlain depth happening scene scene') ∧
    (∀ happening scene', Step Service.IsPlain depth happening scene scene' →
      happening.process = scene.running ∧ (scene'.running = scene.running ∨
        happening = .transferred scene.running scene'.running)) ∧
    (∀ r s', scene.course = .returned r s' →
      r.Answers config scene.running (WokenUp history scene.running)
        (lastCall history scene.running) ∧
      ∃ k, s'.installed = some k ∧ k.active = scene.running ∧ k.Shows scene.running) ∧
    ∀ p q scene', Step Service.IsPlain depth (.transferred p q) scene scene' →
      q ≠ p ∧ (∃ call, lastCall history p = some call ∧ call.service = .switchTo q) ∧
      (∀ call, lastCall history q = some call → call.Departs config) ∧
      ∃ ctx s₀ rest k, scene.course = .reached (.restore ctx) s₀ rest ∧ s₀.installed = some k ∧
        k.active = q ∧ k.Shows q ∧
        ∃ s₁ next s₂, scene'.course = .reached .unlock s₁ next ∧
          s₁.installed = some (k.backTo q (lastCall history q)) ∧
          Run Service.IsPlain depth (opening depth config base viewport s)
            (.hooked q :: .released q :: .transferred p q :: history)
            ⟨q, .returned (.ofWakeUp (lastCall history q)) s₂, scene.frames⟩ := by
  obtain ⟨i, hrecorded⟩ := recorded_of_run hmany hbase hvacant hfree hroom hrun
  refine ⟨hrecorded.exists_step, fun _ _ hstep => hstep.process_eq, ?_, ?_⟩
  · intro r s' hcourse
    obtain ⟨running, course, frames⟩ := scene
    obtain ⟨hrunning, hcalls, hmeets, -, hfits⟩ := hrecorded
    change i.running = running at hrunning
    subst hrunning hcourse
    obtain ⟨k, p, hs, hi, -, hanswers, -⟩ := hmeets
    rw [hcalls] at hanswers
    refine ⟨hanswers.imp fun hshown => ?_, k, hs.installed_eq, hi.active_eq, hi.shows⟩
    rwa [hshown] at hfits
  · intro p q scene' hstep
    obtain ⟨k, hdeparture, hrunning, hframes, hrecorded₁⟩ := hrecorded.transferred hstep
    obtain ⟨s₁, next, scene₁, r, s₂, hcourse₁, hkernel₁, hreleased, hhooked, hrecorded₂⟩ :=
      hrecorded₁.wakes rfl
    rw [hrunning] at hreleased hhooked hrecorded₂
    obtain ⟨⟨ctx, s₀, rest, hcourse, hkernel⟩, hne, ⟨call, hcall, hservice⟩, hdeparts, hfirst,
      hstands⟩ := hdeparture
    have hreturn : r = .ofWakeUp (i.calls q) := by
      obtain ⟨k', p', -, -, -, hanswers, -⟩ := hrecorded₂.course
      change r.Answers config q _ (i.calls q) at hanswers
      refine hanswers.eq_ofWakeUp ?_ fun call hcall' =>
        ⟨hstands.caller q call hcall', hdeparts call hcall'⟩
      rintro hnone rfl
      exact absurd hfirst (by rw [hnone]; exact Bool.false_ne_true)
    simp only [← hrecorded.calls_eq]
    refine ⟨hne, ⟨call, hcall, hservice⟩, hdeparts, ctx, s₀, rest, k, hcourse, hkernel,
      hstands.active_eq, hstands.shows, s₁, next, s₂, hcourse₁, hkernel₁, ?_⟩
    rw [← hreturn, ← hframes]
    exact ((hrun.stepped hstep).stepped hreleased).stepped hhooked

/-- Process 1, switched to for the first time, is back from the boot, and it is the active one. -/
theorem wakes_up_as_itself_halves :
    2 ≤ Config.halves.processCount ∧ (PhysAddr.mk 0x90000).isPageAligned = true ∧
      Processor.new.HasRoom .halves ∧ ∃ history scene s,
        Run Service.IsPlain 0 openingHalves history scene ∧ scene.running = 1 ∧
        scene.course = .returned (.booted .resumed) s ∧ WokenUp history 1 ∧
        ∃ k, s.installed = some k ∧ k.active = 1 ∧ k.Shows 1 := by
  obtain ⟨history, scene, r, s, hrun, hrunning, hnone, -, hcourse⟩ := exists_run_halves
  have hback := (wakes_up_as_itself .halves (Nat.le_refl 2) (by decide) (some ⟨0x108000⟩) 0 rfl rfl
    hasRoom_halves hrun).2.2.1 r s hcourse
  rw [hrunning, hnone] at hback
  obtain ⟨⟨rfl, hwoken⟩, hactive⟩ := hback
  exact ⟨Nat.le_refl 2, by decide, hasRoom_halves, history, scene, s, hrun, hrunning, hcourse, hwoken,
    hactive⟩

end Scene

end SlotKernel

import SlotKernel.Proofs.Ledgers

/-!
The boot and the plain services keep to the ledger. Each statement follows one script to its points:
what the steps between two points do is known from the operations, and what is asked at a point is
read off from the ledger. A script that was captured is followed twice, once as it goes on with the
saved context, and once as it is resumed with the ledger and the system of another time.
-/

namespace SlotKernel

open KernelM Ledger

namespace Script

variable {α β ι : Type}

/-! ### Steps of the kernel -/

section Steps

variable {μ : Type} {protocol : Protocol (System μ) ι} {s : System μ} {i : ι} {k k' : Kernel}
  {m m' : μ} {locked : Bool} {act : KernelM μ α} {a : α}

theorem meets_step {post : α → System μ → ι → Prop} (hs : s.Has k m locked)
    (hact : Returns act k m a k' m') (hpost : ∀ s', s'.Has k' m' locked → post a s' i) :
    Meets protocol (step act) post s i := by
  obtain ⟨hkernel, rfl, rfl⟩ := hs
  obtain ⟨console', hrun⟩ := hact s.board.console s.tracing
  have hstep : SystemM.inKernel act s = .ok a (s.withWorld ⟨k', ⟨m', console'⟩, s.tracing⟩) := by
    simp only [SystemM.inKernel, hkernel, hrun]
  rw [Meets, step, lift, hstep]
  exact hpost _ ⟨rfl, rfl, rfl⟩

theorem meets_step_bind [Machine μ] {next : α → Script (System μ) β}
    {post : β → System μ → ι → Prop} (hs : s.Has k m locked) (hact : Returns act k m a k' m')
    (hnext : ∀ s', s'.Has k' m' locked → (next a).Meets protocol post s' i) :
    Meets protocol (step act >>= next) post s i :=
  meets_bind (meets_step hs hact hnext)

theorem meets_onKernel {post : Option α → System μ → ι → Prop} (hs : s.Has k m locked)
    (hact : Returns act k m a k' m') (hpost : ∀ s', s'.Has k' m' locked → post (some a) s' i) :
    Meets protocol (lift (SystemM.onKernel act)) post s i := by
  obtain ⟨hkernel, rfl, rfl⟩ := hs
  obtain ⟨console', hrun⟩ := hact s.board.console s.tracing
  have hstep : SystemM.onKernel act s =
      .ok (some a) (s.withWorld ⟨k', ⟨m', console'⟩, s.tracing⟩) := by
    simp only [SystemM.onKernel, hkernel, hrun]
  rw [Meets, lift, hstep]
  exact hpost _ ⟨rfl, rfl, rfl⟩

theorem meets_log {change : Console → Console} {post : Unit → System μ → ι → Prop}
    (hs : s.Has k m locked) (hpost : ∀ s', s'.Has k m locked → post () s' i) :
    Meets protocol (lift (HasConsole.onConsole change)) post s i :=
  hpost _ ⟨hs.installed_eq, hs.machine_eq, hs.locked_eq⟩

theorem meets_ifInstalled {script : Script (System μ) α} {post : Option α → System μ → ι → Prop}
    (hs : s.Has k m locked) (h : script.Meets protocol (fun a => post (some a)) s i) :
    Meets protocol (ifInstalled script) post s i := by
  rw [Meets, ifInstalled, hs.installed_eq]
  exact meets_bind h

end Steps

variable {config : Config} {fresh : Processor} {s : System Processor} {i : Ledger} {k k' : Kernel}
  {p p' : Processor} {a : α}

/-! ### The lock and the hook -/

theorem meets_unlock {post : α → System Processor → Ledger → Prop} (hs : s.Has k p true)
    (hstage : i.stage = .working) (hpost : ∀ s', s'.Has k p false → post a s' i) :
    Meets (waking config fresh) (visit .unlock >>= fun _ => pure a) post s i :=
  meets_bind (meets_visit ⟨hs.locked_eq, Or.inl ⟨hstage, hpost _ ⟨hs.installed_eq, hs.machine_eq,
    rfl⟩⟩⟩)

/-- A process that was switched to leaves the kernel once it has noted that it is back. -/
theorem meets_unlock_arrived {post : α → System Processor → Ledger → Prop}
    (hs : s.Has (i.noted k) p true) (hstage : i.stage = .arrived k)
    (hpost : ∀ s', s'.Has (i.noted k) p false → post a s' { i with stage := .woken }) :
    Meets (waking config fresh) (visit .unlock >>= fun _ => pure a) post s i :=
  meets_bind (meets_visit ⟨hs.locked_eq, Or.inr ⟨k, hstage, hs.installed_eq, hpost _
    ⟨hs.installed_eq, hs.machine_eq, rfl⟩⟩⟩)

theorem meets_locked {script : Script (System Processor) α}
    {post : α → System Processor → Ledger → Prop} (hs : s.Has k p false)
    (hstage : i.stage = .working)
    (h : ∀ s', s'.Has k p true → script.Meets (waking config fresh)
      (fun a => (visit .unlock >>= fun _ => pure a).Meets (waking config fresh) post) s' i) :
    Meets (waking config fresh) (locked script) post s i := by
  refine meets_bind (meets_visit ⟨hs.locked_eq, hstage, ?_⟩)
  exact meets_bind (h _ ⟨hs.installed_eq, hs.machine_eq, rfl⟩)

theorem meets_look {act : KernelM Processor α}
    {post : Option α → System Processor → Ledger → Prop} (hs : s.Has k p false)
    (hstage : i.stage = .working) (hact : Returns act k p a k' p')
    (hpost : ∀ s', s'.Has k' p' false → post (some a) s' i) :
    Meets (waking config fresh) (look act) post s i := by
  refine meets_locked hs hstage fun s' hs' => ?_
  exact meets_onKernel hs' hact fun s' hs' => meets_unlock hs' hstage hpost

theorem meets_redraw {switch : Nat → Script (System Processor) (Option SwitchOutcome)}
    {post : Unit → System Processor → Ledger → Prop} (hs : s.Has k p false)
    (hstage : i.stage = .woken)
    (hpost : ∀ s', s'.Has k p false → post () s' { i with stage := .shown }) :
    Meets (waking config fresh) (callHook switch .redraw) post s i :=
  meets_bind (meets_visit ⟨hstage, meets_log hs hpost⟩)

/-! ### Switching -/

theorem returns_lookUp_none {μ : Type} {m : μ} {number : Nat}
    (hnumber : k.config.processCount ≤ number) : Returns (lookUp number) k m none k m := by
  refine returns_kernel.bind ?_
  rw [Kernel.process?, if_neg (Nat.not_lt.mpr hnumber)]
  refine (returns_log _).bind ?_
  refine (returns_log _).bind ?_
  exact (returns_log _).bind (returns_pure _)

theorem returns_lookUp_some {μ : Type} {m : μ} {number : Nat}
    (hnumber : number < k.config.processCount) :
    Returns (lookUp number) k m (some number) k m := by
  refine returns_kernel.bind ?_
  rw [Kernel.process?, if_pos hnumber]
  exact returns_pure _

section Switch

variable {call : Invocation} {target : Nat} (hs : s.Has k p true) (hi : i.Stands config k)
  (hstage : i.stage = .working) (hcall : i.calls i.running = some call)
  (hservice : call.service = .switchTo target) (htarget : target < config.processCount)

include hs hi hstage hcall hservice htarget

/-- The process leaves for the target with its own context saved, and goes on when it is switched
to. -/
theorem meets_depart {limit : UInt32} {post : SwitchOutcome → System Processor → Ledger → Prop}
    (hoff : fresh.KeptWith false p) (hne : target ≠ i.running) (hlimit : k.frameLimit = .ok limit)
    (hresumed : ∀ s' i', i'.Arrived config fresh s' → i'.calls i'.running = i.calls i.running →
      post .resumed s' i') :
    Meets (waking config fresh) (depart target limit) post s i := by
  have hup := hi.forked.up
  have hconfig := hi.forked.config_eq
  have hbound := Nat.lt_of_lt_of_le hup.active_lt k.config.processCount_le
  refine meets_step_bind hs (returns_outgoing hbound) fun s₁ hs₁ => ?_
  have hcapture : ∃ flag, fresh.KeptWith flag s₁.board.machine ∧
      (i.calls i.running = none → flag = fresh.interrupts) := by
    refine ⟨false, by rwa [hs₁.machine_eq], ?_⟩
    rw [hcall]
    rintro ⟨⟩
  refine meets_bind (meets_visit ⟨hstage, hcapture, k, hs₁.installed_eq, hconfig, hi.shows, ?_,
    hresumed⟩)
  intro ctx hctx
  obtain ⟨p₂, hand, halike₂⟩ := Processor.handOver_eq
    ⟨k.moveTo target limit, k.config.invalidation, k.context target⟩ (p.saving ctx)
  have hdeparts := hup.departs (by rwa [hconfig]) (by rwa [hi.active_eq]) hi.forked.replicated
  have harrive := @returns_arrive_of_departs Processor _ k (p.saving ctx) p₂ target ctx hdeparts
    limit hlimit hand
  have hs₂ : (s₁.withProcessor (s₁.board.machine.saving ctx)).Has k (p.saving ctx) true :=
    ⟨hs₁.installed_eq, congrArg (Processor.saving · ctx) hs₁.machine_eq, hs₁.locked_eq⟩
  refine meets_step_bind hs₂ harrive fun s₃ hs₃ => ?_
  obtain ⟨p₄, hdrop, halike₄⟩ :=
    Processor.returns_invalidate k.config.window.range k.config.invalidation p₂
  refine meets_step_bind hs₃ (hdrop _) fun s₄ hs₄ => ?_
  have hsaving : fresh.KeptWith false (p.saving ctx) := { hoff with }
  have hoff₄ : fresh.KeptWith false p₄ := (hsaving.alike halike₂).alike halike₄
  have hmoved := hi.switchedTo hctx htarget hne hcall hservice
  have hpledge : (i.captured ctx).pledges target = some ⟨k.context target, i.calls target⟩ := by
    change Function.update i.pledges i.running _ target = _
    rw [Function.update_of_ne hne]
    exact hi.waiting target htarget hne
  -- the target goes on with the processor that is left to it
  have hs₅ : (s₄.withProcessor (s₄.board.machine.wakingUp (k.context target))).Has
      (k.switchedTo ctx target) (p₄.wakingUp (k.context target)) true :=
    ⟨hs₄.installed_eq, congrArg (Processor.wakingUp · _) hs₄.machine_eq, hs₄.locked_eq⟩
  exact meets_bind (meets_visit ⟨hstage, target, k.switchedTo ctx target, call, hne,
    hs₄.installed_eq, hcall, hservice, hpledge, fun call => hi.suspended target call hne,
    k.switchedTo ctx target, _, hs₅, { hoff₄ with }, hmoved, hi.isSome_first hcall, rfl⟩)

variable (hmany : 2 ≤ config.processCount)

include hmany

/-- A switch to the running process returns at once. A switch to another one returns when its own
process is switched to, with its wake-up noted and the interrupt flag as it was. -/
theorem meets_switchTo {post : SwitchOutcome → System Processor → Ledger → Prop} {flag : Bool}
    (hkept : fresh.KeptWith flag p)
    (hunchanged : target = i.running → ∀ s', s'.Has k p true → post .unchanged s' i)
    (hresumed : target ≠ i.running → ∀ s' i' k' p', i'.Stands config k' →
      i'.stage = .arrived k' → i'.calls i'.running = i.calls i.running →
      s'.Has (i'.noted k') p' true → fresh.KeptWith flag p' → post .resumed s' i') :
    Meets (waking config fresh) (switchTo target) post s i := by
  obtain rfl := hkept.interrupts_eq
  have hconfig := hi.forked.config_eq
  have hmulti : k.config.isMultiprocess = true := by
    rw [hconfig, Config.isMultiprocess, decide_eq_true_iff]
    exact hmany
  by_cases hself : target = i.running
  · have hskip : (!k.config.isMultiprocess || target == k.active) = true := by
      simp [hself, hi.active_eq]
    refine meets_step_bind hs (returns_approach_none hskip) fun s₁ hs₁ => ?_
    exact hunchanged hself s₁ hs₁
  · have hne : target ≠ k.active := by rwa [hi.active_eq]
    have htarget' : target < k.config.processCount := by rwa [hconfig]
    have hdeparts := hi.forked.up.departs htarget' hne hi.forked.replicated
    obtain ⟨limit, hlimit, -⟩ := k.config.identityMappedPages_eq
    refine meets_step_bind hs (returns_approach_some
      hdeparts.not_skipped hdeparts.runnable hlimit) fun s₁ hs₁ => ?_
    obtain ⟨p₁, hmask, -, hoff⟩ := Processor.mask_eq p
    refine meets_bind (meets_step_bind hs₁ (returns_machine hmask) fun s₂ hs₂ => ?_)
    have hoff₁ : fresh.KeptWith false p₁ := hkept.trans hoff
    refine meets_bind (meets_depart hs₂ hi hstage hcall hservice htarget hoff₁ hself hlimit ?_)
    rintro s₃ i' ⟨k', p₃, hs₃, hoff₃, hi', -, hstage'⟩ hcall'
    obtain ⟨p₄, hunmask, -, hback⟩ := Processor.unmask_eq p.interrupts hoff₃.interrupts_eq
    refine meets_step_bind hs₃ (returns_machine hunmask) fun s₄ hs₄ => ?_
    have hsettle : Returns (settle .resumed) k' p₄ .resumed (i'.noted k') p₄ := by
      have hnoted : i'.noted k' = k'.pushEvent (.taskResumed k'.active) := by
        rw [Ledger.noted, hcall', hcall, hi'.active_eq]
        rfl
      rw [hnoted]
      exact returns_settle_resumed
    exact meets_step hs₄ hsettle fun s₅ hs₅ =>
      hresumed hself s₅ i' k' p₄ hi' hstage' hcall' hs₅ (hoff₃.trans hback)

end Switch

/-! ### Services -/

section Services

variable {call : Invocation} (hs : s.Has k p false) (hstage : i.stage = .working)
  (hcall : i.calls i.running = some call) (hkept : fresh.KeptWith call.interrupts p)

include hs hstage hcall hkept

/-- A look at the kernel that gives the answer to the call brings its process home. -/
theorem meets_answer {act : KernelM Processor α} {answer : Option α → Return}
    (hact : Returns act k p a k' p') (hi : i.Stands config k') (halike : p.Alike p')
    (hanswers : (answer (some a)).Answers config i.running (i.stage = .shown) (some call)) :
    Meets (waking config fresh) (look act) (fun a => Home config fresh (answer a)) s i := by
  refine meets_look hs hstage hact fun s₁ hs₁ => ?_
  refine ⟨k', p', hs₁, hi, Or.inl hstage, ?_, ?_⟩
  · rw [hcall]
    exact hanswers
  · rw [hcall]
    exact hkept.alike halike

variable (hi : i.Stands config k)

include hi

theorem meets_switchThen (hmany : 2 ≤ config.processCount)
    {switch : Nat → Script (System Processor) (Option SwitchOutcome)} {number : Nat}
    (hservice : call.service = .switchTo number) :
    Meets (waking config fresh) (switchThen (callHook switch) number)
      (fun outcome => Home config fresh (.switched outcome)) s i := by
  have hconfig := hi.forked.config_eq
  refine meets_bind (meets_locked hs hstage fun s₁ hs₁ => meets_ifInstalled hs₁ ?_)
  by_cases hnumber : config.processCount ≤ number
  · refine meets_step_bind hs₁ (returns_lookUp_none (by rwa [hconfig])) fun s₂ hs₂ => ?_
    refine meets_unlock hs₂ hstage fun s₃ hs₃ => ?_
    refine ⟨k, p, hs₃, hi, Or.inl hstage, ?_, ?_⟩
    · simp only [Return.Answers, hcall, hservice, if_pos hnumber]
    · rw [hcall]
      exact hkept
  · have hlow : number < config.processCount := Nat.not_le.mp hnumber
    refine meets_step_bind hs₁ (returns_lookUp_some (by rwa [hconfig])) fun s₂ hs₂ => ?_
    refine meets_bind (meets_switchTo hs₂ hi hstage hcall hservice hlow hmany hkept ?_ ?_)
    · intro hself s₃ hs₃
      refine meets_step_bind hs₃ returns_kernel fun s₄ hs₄ => ?_
      refine meets_unlock hs₄ hstage fun s₅ hs₅ => ?_
      refine ⟨k, p, hs₅, hi, Or.inl hstage, ?_, ?_⟩
      · simp only [Return.Answers, hcall, hservice, if_neg hnumber, if_pos hself]
      · rw [hcall]
        exact hkept
    · intro hother s₃ i' k' p' hi' hstage' hcall' hs₃ hkept'
      refine meets_step_bind hs₃ returns_kernel fun s₄ hs₄ => ?_
      rw [hi'.noted.hook_eq]
      refine meets_unlock_arrived hs₄ hstage' fun s₅ hs₅ => ?_
      refine meets_bind (meets_redraw hs₅ rfl fun s₆ hs₆ => ?_)
      -- the call tells whose it is
      have hcalls : i'.calls i'.running = some call := hcall'.trans hcall
      have hrunning : i'.running = i.running :=
        (hi'.caller _ _ hcalls).symm.trans (hi.caller _ _ hcall)
      refine ⟨i'.noted k', p', hs₆, { hi'.noted with }, Or.inr rfl, ?_, ?_⟩
      · have hother' : number ≠ i'.running := by rwa [hrunning]
        simp only [Return.Answers, hcalls, hservice, if_neg hnumber, if_neg hother', and_self]
      · change fresh.KeptWith (flagBack fresh.interrupts i'.running (i'.calls i'.running)) p'
        rw [hcalls]
        exact hkept'

/-- Every plain service brings its process home with the answer to its call. -/
theorem meets_service (hmany : 2 ≤ config.processCount) (depth : Nat)
    (hplain : call.service.IsPlain) :
    Meets (waking config fresh) (call.service.script depth) (Home config fresh) s i := by
  obtain ⟨process, service, interrupts⟩ := call
  cases service with
  | activeProcess =>
      refine meets_bind (meets_answer hs hstage hcall hkept
        (returns_kernel.bind (returns_pure _)) hi (.refl p) ?_)
      simp only [Return.Answers, hi.active_eq]
  | processCount =>
      refine meets_bind (meets_answer hs hstage hcall hkept
        (returns_kernel.bind (returns_pure _)) hi (.refl p) ?_)
      simp only [Return.Answers, hi.forked.config_eq]
  | viewportBase =>
      refine meets_bind (meets_bind (@meets_answer _ _ fresh s i k k p p _ _ hs hstage hcall hkept _
        (fun base => .base base.join) (returns_kernel.bind (returns_pure _)) hi (.refl p) ?_))
      exact ⟨_, rfl⟩
  | mapPhysical phys =>
      obtain ⟨answer, k', p', hact, hk', halike⟩ :=
        Processor.returns_mapPhysical hi.forked.up phys p
      have hi' : i.Stands config k' := by
        rcases hk' with rfl | ⟨view, hview, rfl⟩
        · exact hi
        · exact hi.of_eq (hi.forked.step (.mapped k view phys hview)) rfl rfl rfl
      refine meets_bind (meets_bind (@meets_answer _ _ fresh s i k k' p p' _ _ hs hstage hcall
        hkept _ (fun answer => .mapped (answer.getD (.error .noViewport))) hact hi' halike ?_))
      exact ⟨_, rfl⟩
  | switchTo number => exact meets_bind (meets_switchThen hs hstage hcall hkept hi hmany rfl)
  | setRefreshHook | registerShellHook | reboot => exact hplain.elim

end Services

/-! ### Booting -/

/-- What is kept while the slots are filled: nobody has made a call, and the slots up to here have
the frame of the replication. -/
structure Seeding (seed : Context) (stop : Nat) (i : Ledger) : Prop where
  running_eq : i.running = 0
  stage_eq : i.stage = .working
  calls_eq : ∀ q, i.calls q = none
  pledges_eq : ∀ q, q < stop → i.pledges q = some ⟨seed, none⟩

theorem Seeding.copied {seed : Context} {slot : Nat} (h : Seeding seed slot i) (hslot : 0 < slot) :
    Seeding seed (slot + 1) (i.copied slot) where
  running_eq := h.running_eq
  stage_eq := h.stage_eq
  calls_eq := h.calls_eq
  pledges_eq := by
    intro q hq
    change Function.update i.pledges slot (i.pledges i.running) q = _
    by_cases hlast : q = slot
    · subst hlast
      rw [Function.update_self, h.running_eq]
      exact h.pledges_eq 0 hslot
    · rw [Function.update_of_ne hlast]
      exact h.pledges_eq q (by omega)

/-- Once every slot has it, the kernel can save the context for every process but the first. -/
theorem Seeding.stands {seed : Context} {events : EventLog}
    (h : Seeding seed config.processCount i) (hup : k.Up) (hconfig : k.config = config)
    (hfirst : k.replicated = false) (hhook : k.refreshHook = some .redraw)
    (hseed : seed.validate k.config.window = .ok ()) :
    i.Stands config (k.seeded seed events) := by
  subst hconfig
  have hnone : ∀ q call, i.calls q ≠ some call := by
    intro q call hcall
    rw [h.calls_eq] at hcall
    cases hcall
  refine ⟨⟨hup.step (.seeded k seed events hseed hfirst), rfl, rfl⟩, ?_, hhook, ?_,
    fun q call _ hcall => absurd hcall (hnone q call), fun q call hcall => absurd hcall (hnone q call),
    Or.inl h.running_eq⟩
  · exact (hup.active_eq hfirst).trans h.running_eq.symm
  · intro q hq hne
    rw [h.running_eq] at hne
    rw [Kernel.context_seeded (by omega) hq, h.calls_eq]
    exact h.pledges_eq q hq

theorem meets_copySlots {seed : Context} {first count : Nat} {flag : Bool}
    {post : Unit → System Processor → Ledger → Prop} (hs : s.Has k p true)
    (hkept : fresh.KeptWith flag p) (hup : k.Up)
    (hactive : k.active = 0) (hconfig : k.config = config) (hroom : p.HasRoom config)
    (hfirst : 0 < first) (hlast : first + count ≤ config.processCount) (hi : Seeding seed first i)
    (hpost : ∀ s' events p' i', s'.Has { k with events := events } p' true →
      fresh.KeptWith flag p' → Seeding seed (first + count) i' → post () s' i') :
    Meets (waking config fresh) ((List.range' first count).forM (copySlot config.window)) post s i := by
  induction count generalizing first k p s i with
  | zero => exact hpost s k.events p i hs hkept hi
  | succ count ih =>
      obtain ⟨start, hstart, -⟩ := slotStart_eq_ok config (show first < config.processCount by omega)
      obtain ⟨p₁, hcopy, hroom₁, hkept₁⟩ :=
        Processor.copyToPhysical_eq hroom (by omega) hstart
      rw [List.range'_succ]
      refine meets_bind (meets_step_bind hs (returns_copyStart hstart) fun s₁ hs₁ => ?_)
      have hshows : k.Shows i.running := by
        rw [hi.running_eq, ← hactive]
        exact hup.shows
      rw [← hs₁.machine_eq] at hcopy
      subst hconfig
      have hslot : first < k.config.processCount := by omega
      refine meets_bind (meets_visit ⟨hi.stage_eq, k, first, p₁, hs₁.installed_eq, hshows,
        hslot, hstart, rfl, rfl, hcopy, ?_⟩)
      have hs₂ : (s₁.withProcessor p₁).Has k p₁ true := ⟨hs₁.installed_eq, rfl, hs₁.locked_eq⟩
      refine meets_step hs₂ (returns_pushEvent _) fun s₃ hs₃ => ?_
      have hkept₃ : fresh.KeptWith flag p₁ := by
        rw [← hkept.interrupts_eq]
        exact hkept.trans hkept₁
      refine ih hs₃ hkept₃ { hup with } hactive rfl hroom₁ (Nat.succ_pos first) (by omega)
        (hi.copied hfirst) ?_
      intro s' events p' i' hs' hkept' hi'
      have hsum : first + 1 + count = first + (count + 1) := by omega
      rw [hsum] at hi'
      exact hpost s' events p' i' hs' hkept' hi'

theorem meets_install {post : Bool → System Processor → Ledger → Prop}
    (hvacant : s.installed = none) (hfree : s.locked = false) (hstage : i.stage = .working)
    (hpost : ∀ s', s'.Has { config := config } s.board.machine false → post true s' i) :
    Meets (waking config fresh) (install config) post s i := by
  refine meets_bind (meets_visit ⟨hfree, hstage, meets_bind ?_⟩)
  have hinstall : (do
      let vacant := (← get).installed.isNone
      if vacant then
        modify fun system => { system with installed := some { config := config } }
      return vacant : SystemM Processor Bool) { s with locked := true } =
        .ok true { s with locked := true, installed := some { config := config } } := by
    obtain ⟨board, installed, _, _, _, _, _⟩ := s
    cases hvacant
    rfl
  rw [Meets, lift, hinstall]
  have hs : System.Has { s with locked := true, installed := some { config := config } }
      { config := config } s.board.machine true := ⟨rfl, rfl, rfl⟩
  exact meets_unlock hs hstage hpost

section Boot

variable (hmany : 2 ≤ config.processCount)

include hmany

/-- A replication of a prepared kernel forks, and every other process comes out of it when it is
switched to for the first time. -/
theorem meets_replicate {built : PageTables} {post : ReplicateOutcome → System Processor → Ledger → Prop}
    (hs : s.Has k p true) (hkept : fresh.KeptWith fresh.interrupts p)
    (hprepared : Kernel.Prepared config built k)
    (hhook : k.refreshHook = some .redraw) (hroom : p.HasRoom config) (hrunning : i.running = 0)
    (hstage : i.stage = .working) (hcalls : ∀ q, i.calls q = none)
    (hforked : ∀ s' k' p' i', s'.Has k' p' true → fresh.KeptWith fresh.interrupts p' →
      i'.Stands config k' → i'.running = 0 → i'.stage = .working → (∀ q, i'.calls q = none) →
      post (.forked (config.processCount - 1)) s' i')
    (hresumed : ∀ s' i', i'.Arrived config fresh s' → i'.calls i'.running = none →
      post .resumed s' i') :
    Meets (waking config fresh) replicate post s i := by
  have hconfig := hprepared.config_eq
  subst hconfig
  have hmulti : k.config.isMultiprocess = true := by
    rw [Config.isMultiprocess, decide_eq_true_iff]
    exact hmany
  have hactive := hprepared.up.active_eq hprepared.replicated_eq
  have hshows : k.Shows i.running := by
    rw [hrunning, ← hactive]
    exact hprepared.up.shows
  refine meets_step_bind hs (returns_replicable_none hmulti hprepared.replicated_eq
    hprepared.up.pagingEnabled) fun s₁ hs₁ => ?_
  have hcapture : ∃ flag, fresh.KeptWith flag s₁.board.machine ∧
      (i.calls i.running = none → flag = fresh.interrupts) :=
    ⟨_, by rwa [hs₁.machine_eq], fun _ => rfl⟩
  refine meets_bind (meets_visit ⟨hstage, hcapture, k, hs₁.installed_eq, rfl, hshows, ?_, ?_⟩)
  · intro seed hseed
    have hs₂ : (s₁.withProcessor (s₁.board.machine.saving seed)).Has k (p.saving seed) true :=
      ⟨hs₁.installed_eq, congrArg (Processor.saving · seed) hs₁.machine_eq, hs₁.locked_eq⟩
    refine meets_step_bind hs₂ returns_kernel fun s₃ hs₃ => ?_
    have hi : Seeding seed 1 (i.captured seed) := by
      refine ⟨hrunning, hstage, hcalls, fun q hq => ?_⟩
      change Function.update i.pledges i.running (some ⟨seed, i.calls i.running⟩) q = _
      rw [hrunning, Nat.lt_one_iff.mp hq, Function.update_self, hcalls]
    have hsaving : fresh.KeptWith fresh.interrupts (p.saving seed) := { hkept with }
    refine meets_bind (meets_copySlots hs₃ hsaving hprepared.up hactive rfl hroom Nat.one_pos
      (by omega) hi ?_)
    intro s₄ events p' i' hs₄ hkept' hi'
    refine meets_step hs₄ (@returns_seedAll Processor { k with events := events } p' seed)
      fun s₅ hs₅ => ?_
    have hlast : 1 + (k.config.processCount - 1) = k.config.processCount := by omega
    rw [hlast] at hi'
    have hup : Kernel.Up { k with events := events } := { hprepared.up with }
    exact hforked s₅ _ p' i' hs₅ hkept'
      (hi'.stands hup rfl hprepared.replicated_eq hhook hseed) hi'.running_eq hi'.stage_eq
      hi'.calls_eq
  · rintro s' i' ⟨k', p', hs', hoff, hi', hfirst, hstage'⟩ hcall
    refine meets_step_bind hs' (returns_trace _) fun s₂ hs₂ => ?_
    exact hresumed s₂ i' ⟨k', p', hs₂, hoff, hi', hfirst, hstage'⟩ (hcall.trans (hcalls _))

theorem meets_bootForHook {base : PhysAddr} (hbase : base.isPageAligned = true)
    (viewport : Option VirtAddr)
    {post : ReplicateOutcome × Option RefreshHook → System Processor → Ledger → Prop}
    (hs : s.Has { config := config } p true) (hkept : fresh.KeptWith fresh.interrupts p)
    (hroom : p.HasRoom config) (hrunning : i.running = 0) (hstage : i.stage = .working)
    (hcalls : ∀ q, i.calls q = none)
    (hforked : ∀ s' k' p' i', s'.Has k' p' true → fresh.KeptWith fresh.interrupts p' →
      i'.Stands config k' → i'.running = 0 → i'.stage = .working → (∀ q, i'.calls q = none) →
      post (.forked (config.processCount - 1), some .redraw) s' i')
    (hresumed : ∀ s' k' p' i', s'.Has k' p' true → fresh.KeptWith false p' → i'.Stands config k' →
      (i'.calls 0).isSome = true → i'.stage = .arrived k' → i'.calls i'.running = none →
      post (.resumed, some .redraw) s' i') :
    Meets (waking config fresh) (bootForHook base viewport) post s i := by
  obtain ⟨built, k₁, p₁, hprepared, hhook, halike, hprepare⟩ :=
    Processor.returns_prepare config hbase viewport p
  have hcheck : ∀ {i' : Ledger} {k' : Kernel} (p' : Processor), i'.Stands config k' →
      Returns check k' p' () k' p' := by
    intro i' k' p' hi'
    have hcount : config.processCount ≤ 8 := config.processCount_le
    have hlt := hi'.running_lt
    rw [← hi'.active_eq] at hlt
    exact returns_check (by omega)
  refine meets_bind (meets_step_bind hs hprepare fun s₁ hs₁ => meets_bind ?_)
  refine meets_replicate hmany hs₁ (hkept.alike halike) hprepared hhook (halike.hasRoom hroom)
    hrunning hstage hcalls ?_ ?_
  · intro s₂ k' p' i' hs₂ hkept' hi' hrunning' hstage' hcalls'
    refine meets_step_bind hs₂ (hcheck p' hi') fun s₃ hs₃ => ?_
    refine meets_step_bind hs₃ returns_kernel fun s₄ hs₄ => ?_
    rw [hi'.hook_eq]
    exact hforked s₄ k' p' i' hs₄ hkept' hi' hrunning' hstage' hcalls'
  · rintro s₂ i' ⟨k', p', hs₂, hoff, hi', hfirst, hstage'⟩ hcall
    refine meets_step_bind hs₂ (hcheck p' hi') fun s₃ hs₃ => ?_
    refine meets_step_bind hs₃ returns_kernel fun s₄ hs₄ => ?_
    rw [hi'.hook_eq]
    exact hresumed s₄ k' p' i' hs₄ hoff hi' hfirst hstage' hcall

/-- A launch brings every process home: the first one from the boot, and the others when they are
switched to for the first time. -/
theorem meets_launch {base : PhysAddr} (hbase : base.isPageAligned = true)
    (viewport : Option VirtAddr) (switch : Nat → Script (System Processor) (Option SwitchOutcome))
    (hvacant : s.installed = none) (hfree : s.locked = false)
    (hroom : s.board.machine.HasRoom config) (hrunning : i.running = 0)
    (hstage : i.stage = .working) (hcalls : ∀ q, i.calls q = none) :
    Meets (waking config s.board.machine) (launch switch config base viewport)
      (Home config s.board.machine) s i := by
  refine meets_bind (meets_install hvacant hfree hstage fun s₁ hs₁ => ?_)
  refine meets_bind (meets_locked hs₁ hstage fun s₂ hs₂ => meets_ifInstalled hs₂ ?_)
  refine meets_bootForHook hmany hbase viewport hs₂ (.refl _) hroom hrunning hstage hcalls ?_ ?_
  · intro s₃ k' p' i' hs₃ hkept hi' hrunning' hstage' hcalls'
    refine meets_unlock hs₃ hstage' fun s₄ hs₄ => meets_bind (meets_bind ?_)
    refine meets_look hs₄ hstage' returns_dump fun s₅ hs₅ => ?_
    refine ⟨k', p', hs₅, hi', Or.inl hstage', ?_, ?_⟩
    · simp only [Return.Answers, hcalls', if_pos hrunning']
    · simp only [hcalls', hrunning', flagBack, beq_self_eq_true, Bool.true_and]
      exact hkept
  · intro s₃ k' p' i' hs₃ hoff hi' hfirst hstage' hcall
    -- only process 0 starts without a call, and it has made one by now
    have hother : i'.running ≠ 0 := by
      intro hzero
      rw [hzero] at hcall
      rw [hcall] at hfirst
      cases hfirst
    have hnoted : i'.noted k' = k' := by
      rw [Ledger.noted, hcall]
      rfl
    rw [← hnoted] at hs₃
    refine meets_unlock_arrived hs₃ hstage' fun s₄ hs₄ => meets_bind (meets_bind ?_)
    refine meets_log hs₄ fun s₅ hs₅ => meets_bind (meets_redraw hs₅ rfl fun s₆ hs₆ => ?_)
    refine ⟨i'.noted k', p', hs₆, { hi'.noted with }, Or.inr rfl, ?_, ?_⟩
    · simp only [Return.Answers, hcall, if_neg hother, and_self]
    · have hflag : flagBack s.board.machine.interrupts i'.running none = false := by
        simp [flagBack, hother]
      change s.board.machine.KeptWith (flagBack _ i'.running (i'.calls i'.running)) p'
      rw [hcall, hflag]
      exact hoff

end Boot

end Script

end SlotKernel

import SlotKernel.Proofs.Serving

/-!
A booted kernel can always switch. Whatever calls a replicated kernel has been through, on any
machine that serves it, and however they ended, each process that waits has a context that can be
restored; so a switch to any process goes through. The simulated machine serves the kernel until it
runs out of labels for captures, the bare processor as long as captures find the stack in the window.
-/

namespace SlotKernel

open KernelM

/-! ### Machines that serve -/

theorem Simulated.captures_noteMutation (m : Simulated) : m.noteMutation.captures = m.captures := by
  rw [noteMutation]
  split <;> rfl

theorem Simulated.serves (config : Config) :
    Machine.Serves Simulated config.window (fun m => m.captures < 2 ^ 27) where
  activatePaging := by
    rintro directory m _ ⟨⟩ hready
    exact hready
  mask := fun m => ⟨_, _, mask_eq m, id⟩
  unmask := fun was m => ⟨_, rfl, id⟩
  invalidatePage := by
    intro page m
    refine ⟨_, rfl, ?_⟩
    intro hready
    change m.noteMutation.captures < _
    rwa [captures_noteMutation]
  flushMappings := fun m => ⟨_, rfl⟩
  handOver := fun request m => ⟨_, rfl⟩
  capture := by
    intro m hready
    cases hresume : m.resumeNext with
    | true => exact Or.inl ⟨_, capture_resumed hresume⟩
    | false =>
        obtain ⟨ctx, hctx⟩ := @capturedContext_eq_ok (m.captures + 1) hready
        refine Or.inr ⟨ctx, _, capture_saved hresume hctx, ?_⟩
        exact Context.validate_eq_ok_iff.mp (validate_capturedContext config hctx)
  restore := by
    intro ctx m cause m' h
    cases h

/-- The processor is ready for a capture that finds its stack in the window. -/
theorem Processor.serves (window : Window) :
    Machine.Serves Processor window (fun p => p.nextContext.validate window = .ok ()) where
  activatePaging := by
    rintro directory p _ ⟨⟩ hready
    exact hready
  mask := by
    rintro ⟨control, root, interrupts, memory, executed, captures, registers, resumeNext, parked⟩
    cases interrupts with
    | false => exact ⟨_, _, rfl, id⟩
    | true => exact ⟨_, _, rfl, id⟩
  unmask := by
    intro was p
    cases was with
    | false => exact ⟨_, rfl, id⟩
    | true => exact ⟨_, rfl, id⟩
  invalidatePage := fun page p => ⟨_, rfl, id⟩
  flushMappings := fun p => ⟨_, rfl⟩
  handOver := fun request p => ⟨_, rfl⟩
  capture := by
    rintro ⟨control, root, interrupts, memory, executed, captures, registers, resumeNext, parked⟩ hready
    cases resumeNext with
    | true => exact Or.inl ⟨_, rfl⟩
    | false => exact Or.inr ⟨_, _, rfl, Context.validate_eq_ok_iff.mp hready⟩
  restore := by
    intro ctx p cause p' h
    cases h

/-! ### Forked boots -/

section Boot

variable {μ : Type} [Machine μ] {config : Config} {ready : μ → Prop} {base : PhysAddr}
  {viewport : Option VirtAddr} {m : μ} {console : Console} {tracing : Bool}
  {outcome : ReplicateOutcome} {start : World μ}

/-- A boot that returned turned paging on, and its outcome is that of the replication of a prepared
kernel. -/
theorem replicate_of_boot (hserves : Machine.Serves μ config.window ready) (hready : ready m)
    (hboot : boot base viewport ⟨{ config := config }, ⟨m, console⟩, tracing⟩ = .ok outcome start) :
    ∃ built k m₂, Kernel.Prepared config built k ∧ ready m₂ ∧
      ∀ ending k' m', Ends replicate k m₂ ending k' m' → k'.active < 2 ^ 24 →
        ending = .ok outcome ∧ start.kernel = k' := by
  cases hbase : base.isPageAligned with
  | false =>
      obtain ⟨_, hstop⟩ := @stops_boot_misaligned μ { config := config } m _ base hbase viewport
        console tracing
      cases hstop.symm.trans hboot
  | true =>
      obtain ⟨built, summary, hbuild, hdirectory, -⟩ := PageTables.build_eq_ok config hbase
      cases hactivate : Machine.activatePaging base m with
      | error stop m₁ =>
          have hpaging : Stops enablePaging (Kernel.withTables { config := config } built summary) m
              stop (Kernel.withTables { config := config } built summary) m₁ := by
            apply stops_enablePaging rfl rfl
            change Machine.activatePaging built.base m = _
            rw [hdirectory]
            exact hactivate
          have hstops := @stops_boot_paging μ { config := config } m m₁ _ base built summary stop _
            hbuild hpaging viewport
          obtain ⟨hanswer, -⟩ := hstops.eq_of_ok rfl rfl hboot
          cases hanswer
      | ok _ m₁ =>
          have hready₁ := hserves.activatePaging base m m₁ hactivate hready
          obtain ⟨built, summary, k, m₂, -, -, hprepared, hkept, hends⟩ :=
            @ends_boot_prepared μ _ m m₁ config base hbase (fun m₁ m₂ => ready m₁ → ready m₂)
              hactivate id (fun addr k hup => hserves.returns_placeViewport hup m₁ addr) viewport
          refine ⟨built, k, m₂, hprepared, hkept hready₁, ?_⟩
          intro ending k' m' hreplicate hactive
          obtain ⟨hanswer, hkernel, -⟩ :=
            (hends ending k' m' hreplicate hactive).eq_of_ok rfl rfl hboot
          exact ⟨hanswer, hkernel⟩

/-- A boot that forked gave every process but the first a context, on any machine that serves. -/
theorem forked_of_boot {copies : Nat} (hserves : Machine.Serves μ config.window ready)
    (hready : ready m)
    (hboot : boot base viewport ⟨{ config := config }, ⟨m, console⟩, tracing⟩ =
      .ok (.forked copies) start) :
    start.kernel.Forked config ∧ start.kernel.context 0 = .empty := by
  obtain ⟨built, k, m₂, hprepared, hready₂, hends⟩ := replicate_of_boot hserves hready hboot
  have hconfig := hprepared.config_eq
  have hfirst := hprepared.replicated_eq
  have henabled := hprepared.up.pagingEnabled
  have hactive : k.active < 2 ^ 24 := by
    rw [hprepared.up.active_eq hfirst]
    decide
  subst hconfig
  by_cases hsingle : k.config.isMultiprocess = false
  · obtain ⟨heq, -⟩ := hends _ k m₂ (returns_replicate_skipped hsingle) hactive
    cases heq
  have hmulti := (Bool.not_eq_false _).mp hsingle
  rcases hserves.capture m₂ hready₂ with ⟨m₃, hcapture⟩ | ⟨seed, m₃, hcapture, hseed⟩
  · obtain ⟨heq, -⟩ :=
      hends _ k m₃ (returns_replicate_resumed hmulti hfirst henabled hcapture) hactive
    cases heq
  obtain ⟨events, m₄, ⟨hfill, -⟩ | ⟨stop, -, hfill⟩⟩ :=
    @ends_fillSlots μ k m₃ _ seed (fun _ _ => True) (fun _ => True)
      (fun _ _ _ _ _ _ _ => by rw [Run.Keeps]; split <;> simp) trivial
  · obtain ⟨-, hkernel⟩ :=
      hends _ _ m₄ (ends_replicate hmulti hfirst henabled hcapture hfill) hactive
    have hstep := Kernel.Step.seeded k seed events (Context.validate_eq_ok_iff.mpr hseed) hfirst
    rw [hkernel]
    refine ⟨⟨hprepared.up.step hstep, rfl, rfl⟩, ?_⟩
    rw [Kernel.context_seeded_of_not (by omega)]
    exact hprepared.contexts_eq 0
  · obtain ⟨heq, -⟩ := hends _ _ m₄ (ends_replicate hmulti hfirst henabled hcapture hfill) hactive
    cases heq

end Boot

/-! ### Reached worlds -/

/-- The worlds that calls lead to, however the calls end, with anything at all happening outside the
kernel between them. -/
inductive Reached {μ : Type} [Machine μ] (ready : μ → Prop) (start : World μ) : World μ → Prop where
  | started : Reached ready start start
  | returned {w w' : World μ} {call : Call} {answer : Answer} (hreached : Reached ready start w)
      (hready : ready w.board.machine) (hreturn : call.perform w = .ok answer w') :
      Reached ready start w'
  | stopped {w w' : World μ} {call : Call} {stop : Stop} (hreached : Reached ready start w)
      (hready : ready w.board.machine) (hstop : call.perform w = .error stop w') :
      Reached ready start w'
  | outside {w w' : World μ} (hreached : Reached ready start w) (hkernel : w'.kernel = w.kernel) :
      Reached ready start w'

theorem Reached.forked {μ : Type} [Machine μ] {config : Config} {ready : μ → Prop}
    {start w : World μ} (hserves : Machine.Serves μ config.window ready)
    (hforked : start.kernel.Forked config) (hreached : Reached ready start w) :
    w.kernel.Forked config := by
  induction hreached with
  | started => exact hforked
  | @returned w w' call answer _ hready hreturn ih =>
      obtain ⟨_, _, _, hends, hstep⟩ := hserves.ends_perform ih.up ih.replicated hready
        (congrArg Config.window ih.config_eq) call
      obtain ⟨-, hkernel, -⟩ := hends.eq_of_ok rfl rfl hreturn
      rw [hkernel]
      exact ih.step hstep
  | @stopped w w' call stop _ hready hstop ih =>
      obtain ⟨_, _, _, hends, hstep⟩ := hserves.ends_perform ih.up ih.replicated hready
        (congrArg Config.window ih.config_eq) call
      obtain ⟨-, hkernel, -⟩ := hends.eq_of_error rfl rfl hstop
      rw [hkernel]
      exact ih.step hstep
  | outside _ hkernel ih =>
      rw [hkernel]
      exact ih

/-- After a boot that forked, every process that waits has a context that can be restored, and a
switch to any process ends without a panic. On the simulated machine it returns: another process is
switched to unless a resume is pending. -/
theorem switchTo_never_panics (config : Config) :
    (∀ (μ : Type) [Machine μ] (ready : μ → Prop), Machine.Serves μ config.window ready →
      ∀ base viewport (m : μ) console tracing copies start, ready m →
      boot base viewport ⟨{ config := config }, ⟨m, console⟩, tracing⟩ =
        .ok (.forked copies) start →
      start.kernel.context 0 = .empty ∧
      ∀ w, Reached ready start w →
        (∀ p, p < config.processCount → p ≠ w.kernel.active →
          (w.kernel.context p).isSeeded = true ∧
            config.window.start.val < (w.kernel.context p).esp ∧
            (w.kernel.context p).esp ≤ windowCeiling) ∧
        (ready w.board.machine → ∀ target, target < config.processCount →
          ∀ cause w', switchTo target w ≠ .error (.panicked cause) w')) ∧
    (∀ base viewport (m : Simulated) console tracing copies start,
      boot base viewport ⟨{ config := config }, ⟨m, console⟩, tracing⟩ =
        .ok (.forked copies) start →
      ∀ turns w, Session start turns w → w.board.machine.captures < 2 ^ 27 →
      ∀ target, target < config.processCount →
      ∃ w', switchTo target w = .ok (w.board.machine.switchOutcome w.kernel target) w') := by
  constructor
  · intro μ _ ready hserves base viewport m console tracing copies start hready hboot
    obtain ⟨hforked, hempty⟩ := forked_of_boot hserves hready hboot
    refine ⟨hempty, ?_⟩
    intro w hreached
    obtain ⟨hup, hconfig, hreplicated⟩ := hreached.forked hserves hforked
    subst hconfig
    constructor
    · intro p hp hne
      have hvalid := hup.restorable hreplicated p hp hne
      obtain ⟨heip, hstack⟩ := Context.validate_eq_ok_iff.mp hvalid
      exact ⟨by simpa [Context.isSeeded] using heip, hstack⟩
    · intro hready' target htarget cause w' hpanic
      obtain ⟨_, _, _, hends, -, hno⟩ :=
        hserves.ends_switchTo hup hreplicated hready' rfl htarget
      obtain ⟨hanswer, -⟩ := hends.eq_of_error rfl rfl hpanic
      exact hno cause hanswer
  · intro base viewport m console tracing copies start hboot turns w hsession hcaptures target
      htarget
    obtain ⟨hup, hconfig, hreplicated⟩ := hsession.forked (Simulated.seed_of_boot hboot).1
    subst hconfig
    exact Simulated.switchTo_returns hup hcaptures htarget fun _ => hreplicated

/-- The first switch between two processes goes through to the second one. -/
theorem switchTo_never_panics_halves :
    ∃ start, boot ⟨0x90000⟩ (some ⟨0x108000⟩)
        ⟨{ config := .halves }, ⟨Simulated.new 2, .ready⟩, false⟩ = .ok (.forked 1) start ∧
      start.kernel.context 0 = .empty ∧
      (∀ cause w', switchTo 1 start ≠ .error (.panicked cause) w') ∧
      ∃ w', switchTo 1 start = .ok .transferred w' := by
  obtain ⟨start, hboot⟩ := Simulated.boot_halves
  obtain ⟨hforked, hcaptures, -, hresume, hactive, -⟩ := Simulated.seed_of_boot hboot
  have hready : (Simulated.new 2).captures < 2 ^ 27 := Nat.two_pow_pos 27
  have hstart : start.board.machine.captures < 2 ^ 27 := by
    rw [hcaptures]
    exact Nat.one_lt_two_pow (by decide)
  obtain ⟨hany, hsimulated⟩ := switchTo_never_panics .halves
  obtain ⟨hempty, hreached⟩ :=
    hany Simulated _ (Simulated.serves .halves) _ _ _ _ _ _ _ hready hboot
  refine ⟨start, hboot, hempty, (hreached start .started).2 hstart 1 (by decide), ?_⟩
  rw [← Simulated.switchOutcome_transferred (hforked.second_halves hactive).2 hresume]
  exact hsimulated _ _ _ _ _ _ start hboot [] start .started hstart 1 (by decide)

end SlotKernel

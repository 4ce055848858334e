import SlotKernel.Proofs.Booting

/-!
Sessions: a boot on the simulated machine and the calls that return after it, in any order, with
resumes played between them. A session keeps the record of its calls, the last one first, and an
invariant of sessions is proved by what each effect of a call does to it.
-/

namespace SlotKernel

open KernelM

/-- What a boot that forks leaves for everything after it. -/
structure Kernel.Forked (config : Config) (k : Kernel) : Prop where
  up : k.Up
  config_eq : k.config = config
  replicated : k.replicated = true

theorem Kernel.Forked.step {config : Config} {k k' : Kernel} (h : k.Forked config)
    (hstep : Kernel.Step k k') : k'.Forked config :=
  ⟨h.up.step hstep, hstep.config_eq.trans h.config_eq, hstep.replicated h.replicated⟩

namespace Simulated

section Effect

variable {k k' : Kernel} {m m' : Simulated} {call : Call} {answer : Answer}
  (heffect : Effect k m call answer k' m')

include heffect

theorem Effect.step : k.Step k' := by
  cases heffect with
  | unchanged | mapRefused | placeRefused | pagingEnabled | skipped | alreadyDone | forkResumed =>
      exact .idle k
  | back => exact .noted k _
  | transferred target ctx _ hctx htarget _ hreplicated =>
      exact .switched k ctx target (validate_capturedContext k.config hctx) htarget hreplicated
  | mapped phys view hview => exact .mapped k view phys hview
  | placed base hchecks => exact .placed k ⟨base⟩ hchecks
  | forked seed events _ _ _ _ hseed hfirst =>
      exact .seeded k seed events (validate_capturedContext k.config hseed) hfirst

theorem Effect.root_eq : m'.root = m.root := by
  cases heffect with
  | transferred => cases k.config.invalidation <;> rfl
  | _ => rfl

theorem Effect.interrupts_eq : m'.interrupts = m.interrupts := by
  cases heffect with
  | transferred => cases k.config.invalidation <;> rfl
  | _ => rfl

/-- No call touches cached mappings or the window with interrupts on. -/
theorem Effect.unmasked_eq : m'.unmasked = m.unmasked := by
  cases heffect with
  | transferred => cases k.config.invalidation <;> rfl
  | _ => rfl

end Effect

theorem Effect.forks {k k' : Kernel} {m m' : Simulated} {copies : Nat}
    (heffect : Effect k m .replicate (.replicated (.forked copies)) k' m') :
    ∃ seed events, capturedContext (m.captures + 1) = .ok seed ∧ k' = k.seeded seed events ∧
      m'.captures = m.captures + 1 ∧ m'.restored = m.restored ∧ m'.resumeNext = false := by
  cases heffect with
  | forked seed events _ _ _ hresume hseed => exact ⟨seed, events, hseed, rfl, rfl, rfl, hresume⟩

/-- The first replication among several processes forks. -/
theorem Effect.outcome_eq {k k' : Kernel} {m m' : Simulated} {outcome : ReplicateOutcome}
    (heffect : Effect k m .replicate (.replicated outcome) k' m')
    (hmulti : k.config.isMultiprocess = true) (hfirst : k.replicated = false)
    (hresume : m.resumeNext = false) :
    outcome = .forked (k.config.processCount - 1) := by
  cases heffect with
  | skipped hsingle => cases hsingle.symm.trans hmulti
  | alreadyDone hdone => cases hdone.symm.trans hfirst
  | forkResumed hresumed => cases hresumed.symm.trans hresume
  | forked => rfl

/-- How a switch to a process ends, if it returns. -/
def switchOutcome (m : Simulated) (k : Kernel) (target : Nat) : SwitchOutcome :=
  if target = k.active then
    .unchanged
  else if m.resumeNext then
    .resumed
  else
    .transferred

theorem switchOutcome_transferred {k : Kernel} {m : Simulated} {target : Nat}
    (hne : target ≠ k.active) (hresume : m.resumeNext = false) :
    m.switchOutcome k target = .transferred := by
  rw [switchOutcome, if_neg hne, hresume]
  rfl

theorem Effect.switched_eq {k k' : Kernel} {m m' : Simulated} {target : Nat}
    {outcome : SwitchOutcome}
    (heffect : Effect k m (.switchTo target) (.switched outcome) k' m')
    (hactive : k.active < k.config.processCount) (htarget : target < k.config.processCount) :
    outcome = m.switchOutcome k target := by
  by_cases heq : target = k.active
  · rw [switchOutcome, if_pos heq]
    cases heffect with
    | unchanged => rfl
    | back | transferred => contradiction
  · cases heffect with
    | unchanged _ hskip => cases hskip.symm.trans (Kernel.switch_not_skipped hactive htarget heq)
    | back _ hresume => rw [switchOutcome, if_neg heq, if_pos hresume]
    | transferred _ _ hresume => exact (switchOutcome_transferred heq hresume).symm

theorem Effect.active_eq {k k' : Kernel} {m m' : Simulated} {target : Nat}
    (heffect : Effect k m (.switchTo target) (.switched .transferred) k' m') :
    k'.active = target := by
  cases heffect
  rfl

theorem effect_of_perform {w w' : World Simulated} {call : Call} {answer : Answer}
    (hup : w.kernel.Up) (h : call.perform w = .ok answer w') :
    Effect w.kernel w.board.machine call answer w'.kernel w'.board.machine := by
  rcases ends_perform w.board.machine hup call with
    ⟨_, k', m', hreturns, heffect⟩ | ⟨cause, events, m', hstops⟩
  · obtain ⟨hanswer, hkernel, hmachine⟩ := hreturns.eq_of_ok rfl rfl h
    cases hanswer
    rwa [hkernel, hmachine]
  · obtain ⟨hanswer, -⟩ := hstops.eq_of_ok rfl rfl h
    cases hanswer

/-- As long as a capture has a number, a switch to any process that can run returns. -/
theorem switchTo_returns {w : World Simulated} (hup : w.kernel.Up)
    (hcaptures : w.board.machine.captures < 2 ^ 27) {target : Nat}
    (htarget : target < w.kernel.config.processCount)
    (hreplicated : target ≠ w.kernel.active → w.kernel.replicated = true) :
    ∃ w', switchTo target w = .ok (w.board.machine.switchOutcome w.kernel target) w' := by
  by_cases heq : target = w.kernel.active
  · have hskip : (!w.kernel.config.isMultiprocess || target == w.kernel.active) = true := by
      rw [heq, beq_self_eq_true, Bool.or_true]
    rw [switchOutcome, if_pos heq]
    exact (returns_switchTo_unchanged hskip).ok rfl rfl
  obtain ⟨ctx, hctx⟩ := @capturedContext_eq_ok (w.board.machine.captures + 1) hcaptures
  rcases ends_switchTo hup w.board.machine target with
    ⟨outcome, _, _, hreturns, heffect⟩ | ⟨_, _, -, -, (hle | hnot) | hpanic⟩
  · rw [← heffect.switched_eq hup.active_lt htarget]
    exact hreturns.ok rfl rfl
  · exact absurd htarget (Nat.not_lt.mpr hle)
  · cases hnot.symm.trans (hreplicated heq)
  · cases hctx.symm.trans hpanic

/-- Pointing the viewport is refused or done. -/
theorem mapPhysical_returns {w : World Simulated} (hup : w.kernel.Up) (phys : PhysAddr) :
    ∃ answer w', (Call.mapPhysical phys).perform w = .ok answer w' := by
  obtain ⟨answer, k', m', hreturns, -⟩ := ends_mapPhysical hup w.board.machine phys
  have hperform : Returns (Call.mapPhysical phys).perform w.kernel w.board.machine
      (.mapped answer) k' m' := hreturns.bind (returns_pure _)
  exact ⟨_, hperform.ok rfl rfl⟩

theorem placeViewport_returns {w : World Simulated} (hup : w.kernel.Up) (base : VirtAddr) :
    ∃ answer w', (Call.placeViewport base).perform w = .ok answer w' := by
  obtain ⟨answer, k', m', hreturns, -⟩ := ends_placeViewport hup w.board.machine base
  have hperform : Returns (Call.placeViewport base).perform w.kernel w.board.machine
      (.placed answer) k' m' := hreturns.bind (returns_pure _)
  exact ⟨_, hperform.ok rfl rfl⟩

theorem perform_switchTo {w w' : World Simulated} {target : Nat} {outcome : SwitchOutcome}
    (h : switchTo target w = .ok outcome w') :
    (Call.switchTo target).perform w = .ok (.switched outcome) w' := by
  change EStateM.bind (switchTo target) _ w = _
  rw [EStateM.bind, h]
  rfl

/-- With no resume pending and a number for the capture, a switch to another process transfers
control. -/
theorem transfers_of_up {w : World Simulated} (hup : w.kernel.Up)
    (hreplicated : w.kernel.replicated = true) (hresume : w.board.machine.resumeNext = false)
    (hcaptures : w.board.machine.captures < 2 ^ 27) {target : Nat}
    (htarget : target < w.kernel.config.processCount) (hne : target ≠ w.kernel.active) :
    ∃ w', (Call.switchTo target).perform w = .ok (.switched .transferred) w' := by
  obtain ⟨w', hreturn⟩ := switchTo_returns hup hcaptures htarget fun _ => hreplicated
  rw [switchOutcome_transferred hne hresume] at hreturn
  exact ⟨w', perform_switchTo hreturn⟩

/-! ### Booting -/

/-- The machine with a page directory loaded. -/
def rooted (m : Simulated) (base : PhysAddr) : Simulated :=
  { m with root := some base }

/-- A boot of the simulated machine comes to a replication of a prepared kernel. What it did to the
machine before that is to load the directory and to drop cached mappings of the viewport. -/
theorem ends_boot (config : Config) {base : PhysAddr} (hbase : base.isPageAligned = true)
    (viewport : Option VirtAddr) (m : Simulated) :
    ∃ built summary k pages, PageTables.build base config.processCount = .ok (built, summary) ∧
      built.base = base ∧ Kernel.Prepared config built k ∧
      ((∃ outcome k' m', Returns (boot base viewport) { config := config } m outcome k' m' ∧
          Effect k ((m.rooted base).dropped pages) .replicate (.replicated outcome) k' m') ∨
        ∃ cause k' m', Stops (boot base viewport) { config := config } m (.panicked cause) k' m' ∧
          (capturedContext (m.captures + 1) = .error cause ∨
            ¬ m.HasRoom (config.processCount + 1))) := by
  have hplace : ∀ addr (k : Kernel), k.Up → ∃ answer k' m',
      Returns (placeViewport addr) k (m.rooted base) answer k' m' ∧ k.Places addr k' ∧
        ∃ pages, m' = (m.rooted base).dropped pages := by
    intro addr k hup
    obtain ⟨answer, k', m', hreturns, heffect⟩ := ends_placeViewport hup (m.rooted base) addr
    refine ⟨answer, k', m', hreturns, ?_⟩
    cases heffect with
    | placeRefused => exact ⟨Or.inl rfl, [], (dropped_nil _).symm⟩
    | placed _ hchecks => exact ⟨Or.inr ⟨hchecks, rfl⟩, _, rfl⟩
  obtain ⟨built, summary, k, _, hbuild, hdirectory, hprepared, ⟨pages, rfl⟩, hboot⟩ :=
    @ends_boot_prepared Simulated _ m (m.rooted base) config base hbase
      (fun m₁ m₂ => ∃ pages, m₂ = m₁.dropped pages) rfl ⟨[], (dropped_nil _).symm⟩ hplace viewport
  refine ⟨built, summary, k, pages, hbuild, hdirectory, hprepared, ?_⟩
  have hcount : k.config.processCount ≤ 8 := k.config.processCount_le
  have hactive := hprepared.up.active_lt
  rcases ends_replicate ((m.rooted base).dropped pages) hprepared.up with
    ⟨outcome, k', m', hreturns, heffect⟩ | ⟨cause, events, m', hstops, hwhy⟩
  · refine Or.inl ⟨outcome, k', m', hboot _ _ _ hreturns ?_, heffect⟩
    have hactive' := (hprepared.up.step heffect.step).active_lt
    rw [heffect.step.config_eq] at hactive'
    omega
  · refine Or.inr ⟨cause, _, m', hboot _ _ _ hstops ?_, ?_⟩
    · change k.active < _
      omega
    · rw [hprepared.config_eq] at hwhy
      exact hwhy.1

/-- A boot that returns had a prepared kernel, and its outcome is that of the replication. -/
theorem effect_of_boot {config : Config} {base : PhysAddr} {viewport : Option VirtAddr}
    {m : Simulated} {console : Console} {tracing : Bool} {outcome : ReplicateOutcome}
    {start : World Simulated}
    (hboot : boot base viewport ⟨{ config := config }, ⟨m, console⟩, tracing⟩ = .ok outcome start) :
    ∃ built summary k pages, PageTables.build base config.processCount = .ok (built, summary) ∧
      built.base = base ∧ Kernel.Prepared config built k ∧
      Effect k ((m.rooted base).dropped pages) .replicate (.replicated outcome) start.kernel
        start.board.machine := by
  cases hbase : base.isPageAligned with
  | false =>
      obtain ⟨_, hstop⟩ := @stops_boot_misaligned Simulated { config := config } m _ base hbase
        viewport console tracing
      cases hstop.symm.trans hboot
  | true =>
      obtain ⟨built, summary, k, pages, hbuild, hdirectory, hprepared, hends⟩ :=
        ends_boot config hbase viewport m
      refine ⟨built, summary, k, pages, hbuild, hdirectory, hprepared, ?_⟩
      rcases hends with ⟨_, _, _, hreturns, heffect⟩ | ⟨_, _, _, hstops, -⟩
      · obtain ⟨_, hreturn⟩ := hreturns console tracing
        cases hreturn.symm.trans hboot
        exact heffect
      · obtain ⟨_, hstop⟩ := hstops console tracing
        cases hstop.symm.trans hboot

/-- A boot on a machine with room for every slot and a number for the capture returns. -/
theorem exists_returns_boot (config : Config) {base : PhysAddr}
    (hbase : base.isPageAligned = true) (viewport : Option VirtAddr) {m : Simulated}
    (hroom : m.HasRoom (config.processCount + 1)) (hcaptures : m.captures < 2 ^ 27) :
    ∃ outcome k m', Returns (boot base viewport) { config := config } m outcome k m' := by
  obtain ⟨_, _, _, _, -, -, -, hends⟩ := ends_boot config hbase viewport m
  rcases hends with ⟨outcome, k, m', hreturns, -⟩ | ⟨_, _, _, -, hcapture | hnoRoom⟩
  · exact ⟨outcome, k, m', hreturns⟩
  · obtain ⟨_, hctx⟩ := @capturedContext_eq_ok (m.captures + 1) hcaptures
    cases hctx.symm.trans hcapture
  · exact absurd hroom hnoRoom

theorem returns_boot (config : Config) {base : PhysAddr} (hbase : base.isPageAligned = true)
    (viewport : Option VirtAddr) {m : Simulated} (hroom : m.HasRoom (config.processCount + 1))
    (hcaptures : m.captures < 2 ^ 27) (console : Console) (tracing : Bool) :
    ∃ outcome start,
      boot base viewport ⟨{ config := config }, ⟨m, console⟩, tracing⟩ = .ok outcome start := by
  obtain ⟨outcome, _, _, hreturns⟩ := exists_returns_boot config hbase viewport hroom hcaptures
  exact ⟨outcome, hreturns.ok rfl rfl⟩

/-- Where there is a second process and no resume is pending, that boot forks. -/
theorem outcome_of_boot {config : Config} (hmulti : config.isMultiprocess = true) {base : PhysAddr}
    {viewport : Option VirtAddr} {m : Simulated} (hresume : m.resumeNext = false)
    {console : Console} {tracing : Bool} {outcome : ReplicateOutcome} {start : World Simulated}
    (hboot : boot base viewport ⟨{ config := config }, ⟨m, console⟩, tracing⟩ = .ok outcome start) :
    outcome = .forked (config.processCount - 1) := by
  obtain ⟨built, _, k, pages, -, -, hprepared, heffect⟩ := effect_of_boot hboot
  have hconfig := hprepared.config_eq
  subst hconfig
  exact heffect.outcome_eq hmulti hprepared.replicated_eq hresume

/-- A boot that forked made one capture, restored nothing, and gave its seed to every process but
the first. -/
theorem seed_of_boot {config : Config} {base : PhysAddr} {viewport : Option VirtAddr}
    {m : Simulated} {console : Console} {tracing : Bool} {copies : Nat} {start : World Simulated}
    (hboot : boot base viewport ⟨{ config := config }, ⟨m, console⟩, tracing⟩ =
      .ok (.forked copies) start) :
    start.kernel.Forked config ∧ start.board.machine.captures = m.captures + 1 ∧
      start.board.machine.restored = m.restored ∧ start.board.machine.resumeNext = false ∧
      start.kernel.active = 0 ∧
      ∃ seed, capturedContext (m.captures + 1) = .ok seed ∧
        ∀ p, start.kernel.context p = if 1 ≤ p ∧ p < config.processCount then seed else .empty := by
  obtain ⟨built, _, k, pages, -, -, hprepared, heffect⟩ := effect_of_boot hboot
  have hconfig := hprepared.config_eq
  subst hconfig
  obtain ⟨seed, events, hseed, hkernel, hcaptures, hrestored, hresume⟩ := heffect.forks
  have hup := hprepared.up.step heffect.step
  have hactive := hprepared.up.active_eq hprepared.replicated_eq
  rw [hkernel] at hup ⊢
  refine ⟨⟨hup, rfl, rfl⟩, hcaptures, hrestored, hresume, hactive, seed, hseed, ?_⟩
  intro p
  split
  · next hp => exact Kernel.context_seeded hp.1 hp.2
  · next hp =>
      rw [Kernel.context_seeded_of_not hp]
      exact hprepared.contexts_eq p

end Simulated

/-- Two processes that share the upper half of the second MiB. -/
def Config.halves : Config where
  processCount := 2
  window := ⟨⟨0x180000⟩⟩
  invalidation := .perPage
  one_le_processCount := by decide
  processCount_le := by decide
  window_aligned := by decide
  slotStride_le_start := by decide
  start_lt_ceiling := by decide

/-- They boot on a machine that was made for them. -/
theorem Simulated.boot_halves :
    ∃ start, boot ⟨0x90000⟩ (some ⟨0x108000⟩)
      ⟨{ config := .halves }, ⟨Simulated.new 2, .ready⟩, false⟩ = .ok (.forked 1) start := by
  have hcaptures : (Simulated.new 2).captures < 2 ^ 27 := Nat.two_pow_pos 27
  obtain ⟨outcome, start, hboot⟩ := @returns_boot .halves ⟨0x90000⟩ (by decide)
    (some ⟨0x108000⟩) _ (hasRoom_new 2) hcaptures .ready false
  cases outcome_of_boot (by decide) rfl hboot
  exact ⟨start, hboot⟩

/-- The second of them can be switched to from the first. -/
theorem Kernel.Forked.second_halves {k : Kernel} (h : k.Forked .halves) (hactive : k.active = 0) :
    1 < k.config.processCount ∧ 1 ≠ k.active := by
  rw [h.config_eq, hactive]
  decide

/-- After the first switch the second of them runs. -/
theorem Simulated.switched_halves :
    ∃ start w, boot ⟨0x90000⟩ (some ⟨0x108000⟩)
        ⟨{ config := .halves }, ⟨Simulated.new 2, .ready⟩, false⟩ = .ok (.forked 1) start ∧
      (Call.switchTo 1).perform start = .ok (.switched .transferred) w ∧
      start.kernel.Forked .halves ∧ w.kernel.active = 1 := by
  obtain ⟨start, hboot⟩ := Simulated.boot_halves
  obtain ⟨hforked, hcaptures, -, hresume, hactive, -⟩ := Simulated.seed_of_boot hboot
  obtain ⟨htarget, hne⟩ := hforked.second_halves hactive
  have hroom : start.board.machine.captures < 2 ^ 27 := by
    rw [hcaptures]
    exact (by decide : 1 < 2 ^ 27)
  obtain ⟨w, hswitch⟩ := Simulated.transfers_of_up hforked.up hforked.replicated hresume hroom
    htarget hne
  exact ⟨start, w, hboot, hswitch, hforked,
    (Simulated.effect_of_perform hforked.up hswitch).active_eq⟩

/-! ### Sessions -/

/-- A call that returned, and the worlds before and after it. -/
structure Turn where
  before : World Simulated
  call : Call
  answer : Answer
  after : World Simulated

/-- Make the next capture answer `resumed`. -/
def World.playResume (w : World Simulated) : World Simulated :=
  { w with board := { w.board with machine := { w.board.machine with resumeNext := true } } }

/-- The worlds that calls lead to, with the calls that led there, the last one first. -/
inductive Session (start : World Simulated) : List Turn → World Simulated → Prop where
  | started : Session start [] start
  | called {turns : List Turn} {w w' : World Simulated} {call : Call} {answer : Answer}
      (hsession : Session start turns w) (hreturn : call.perform w = .ok answer w') :
      Session start (⟨w, call, answer, w'⟩ :: turns) w'
  | resumed {turns : List Turn} {w : World Simulated} (hsession : Session start turns w) :
      Session start turns w.playResume

namespace Session

variable {start w : World Simulated} {turns : List Turn}

theorem up (hup : start.kernel.Up) (hsession : Session start turns w) : w.kernel.Up := by
  induction hsession with
  | started => exact hup
  | called _ hreturn ih => exact ih.step (Simulated.effect_of_perform ih hreturn).step
  | resumed _ ih => exact ih

theorem config_eq (hup : start.kernel.Up) (hsession : Session start turns w) :
    w.kernel.config = start.kernel.config := by
  induction hsession with
  | started => rfl
  | called hbefore hreturn ih =>
      exact (Simulated.effect_of_perform (hbefore.up hup) hreturn).step.config_eq.trans ih
  | resumed _ ih => exact ih

theorem forked {config : Config} (hforked : start.kernel.Forked config)
    (hsession : Session start turns w) : w.kernel.Forked config := by
  induction hsession with
  | started => exact hforked
  | called _ hreturn ih => exact ih.step (Simulated.effect_of_perform ih.up hreturn).step
  | resumed _ ih => exact ih

/-- An invariant of sessions: it holds at the start, and every effect and every played resume keeps
it. -/
theorem invariant (holds : List Turn → World Simulated → Prop) (hup : start.kernel.Up)
    (hstart : holds [] start)
    (hcall : ∀ turns w call answer w', w.kernel.Up → holds turns w →
      Simulated.Effect w.kernel w.board.machine call answer w'.kernel w'.board.machine →
      holds (⟨w, call, answer, w'⟩ :: turns) w')
    (hresume : ∀ turns w, holds turns w → holds turns w.playResume)
    (hsession : Session start turns w) : holds turns w := by
  induction hsession with
  | started => exact hstart
  | called hbefore hreturn ih =>
      have hup' := hbefore.up hup
      exact hcall _ _ _ _ _ hup' ih (Simulated.effect_of_perform hup' hreturn)
  | resumed _ ih => exact hresume _ _ ih

end Session

end SlotKernel

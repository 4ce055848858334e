import SlotKernel.Proofs.Wakeups

/-!
The interrupt flag across transfers. A switch masks interrupts in the process that leaves, and the
process that comes of it unmasks them, as its own switch found them. The capture of a replication lies
outside of any mask, though, and every context is restored under one. So a process that is entered for
the first time has interrupts off, whether or not they were on at the capture that it goes on from.
-/

namespace SlotKernel.Scene

open Ledger

/-- Every call of a plain service returns with the interrupt flag that it was made with, also where
other processes ran in between. The boot returns to the first process with the flag that it was
started with, which is the flag at the capture of the replication; every other process is back from
it with interrupts off. -/
theorem flag_of_return (config : Config) (hmany : 2 ≤ config.processCount) {base : PhysAddr}
    (hbase : base.isPageAligned = true) (viewport : Option VirtAddr) (depth : Nat)
    {s : System Processor} (hvacant : s.installed = none) (hfree : s.locked = false)
    (hroom : s.board.machine.HasRoom config) {history : List Happening} {scene : Scene}
    (hrun : Run Service.IsPlain depth (opening depth config base viewport s) history scene) :
    (∀ r s', scene.course = .returned r s' → s'.board.machine.interrupts =
      flagBack s.board.machine.interrupts scene.running (lastCall history scene.running)) ∧
    ∀ s' next, scene.course = .reached .capture s' next → lastCall history scene.running = none →
      s'.board.machine.interrupts = s.board.machine.interrupts := by
  obtain ⟨i, hrecorded⟩ := recorded_of_run hmany hbase hvacant hfree hroom hrun
  have hmeets := hrecorded.course
  simp only [← hrecorded.calls_eq, ← hrecorded.running_eq]
  constructor
  · intro r s' hcourse
    rw [hcourse] at hmeets
    obtain ⟨k, p, hs, -, -, -, hkept⟩ := hmeets
    rw [hs.machine_eq]
    exact hkept.interrupts_eq
  · intro s' next hcourse hnone
    rw [hcourse] at hmeets
    obtain ⟨-, ⟨flag, hkept, hfirst⟩, -⟩ := hmeets
    rw [← hfirst hnone]
    exact hkept.interrupts_eq

/-- With interrupts on at the boot, process 1 is back from it with interrupts off. -/
theorem flag_of_return_halves :
    2 ≤ Config.halves.processCount ∧ (PhysAddr.mk 0x90000).isPageAligned = true ∧
      Processor.new.HasRoom .halves ∧ ∃ history scene r s,
        Run Service.IsPlain 0 openingHalves history scene ∧ scene.running = 1 ∧
        scene.course = .returned r s ∧ s.board.machine.interrupts = false := by
  obtain ⟨history, scene, r, s, hrun, hrunning, hnone, -, hcourse⟩ := exists_run_halves
  have hflag := (flag_of_return .halves (Nat.le_refl 2) (by decide) (some ⟨0x108000⟩) 0 rfl rfl
    hasRoom_halves hrun).1 r s hcourse
  rw [hrunning, hnone] at hflag
  exact ⟨Nat.le_refl 2, by decide, hasRoom_halves, history, scene, r, s, hrun, hrunning, hcourse,
    hflag⟩

/-- The flag that a process is entered with is not the flag of the capture that it goes on from: with
interrupts on there, they are off in process 1 when it is back from the boot. -/
theorem flag_lost_halves :
    (∀ history scene s next, Run Service.IsPlain 0 openingHalves history scene →
      scene.course = .reached .capture s next → lastCall history scene.running = none →
      s.board.machine.interrupts = true) ∧
    ∃ history scene s, Run Service.IsPlain 0 openingHalves history scene ∧ scene.running = 1 ∧
      lastCall history 1 = none ∧ scene.course = .returned (.booted .resumed) s ∧
      s.board.machine.interrupts = false := by
  constructor
  · intro history scene s next hrun hcourse hnone
    obtain ⟨i, hrecorded⟩ := recorded_of_run_halves hrun
    have hmeets := hrecorded.course
    rw [hcourse] at hmeets
    obtain ⟨-, ⟨flag, hkept, hfirst⟩, -⟩ := hmeets
    rw [hkept.interrupts_eq, hfirst]
    · rfl
    · rw [hrecorded.calls_eq, hrecorded.running_eq, hnone]
  · obtain ⟨history, scene, r, s, hrun, hrunning, hnone, -, hcourse⟩ := exists_run_halves
    obtain ⟨i, hrecorded⟩ := recorded_of_run_halves hrun
    have hmeets := hrecorded.course
    rw [hcourse] at hmeets
    obtain ⟨k, p, hs, -, -, hanswers, hkept⟩ := hmeets
    rw [hrecorded.running_eq, hrunning, hrecorded.calls_eq, hnone] at hanswers hkept
    obtain ⟨rfl, -⟩ := hanswers
    refine ⟨history, scene, s, hrun, hrunning, hnone, hcourse, ?_⟩
    rw [hs.machine_eq]
    exact hkept.interrupts_eq

end SlotKernel.Scene

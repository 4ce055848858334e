import SlotKernel.Proofs.Running

/-!
The calls of a kernel. A switch to another process goes through on any machine whose steps do, as
long as nothing that the kernel itself looks at on the way is wrong: the target, its context and the
window. The machine's part is again given by how its steps end.
-/

namespace SlotKernel

/-- An operation of the kernel. -/
inductive Call where
  | switchTo (target : Nat)
  | mapPhysical (phys : PhysAddr)
  | placeViewport (base : VirtAddr)
  | enablePaging
  | replicate

/-- What an operation answers. -/
inductive Answer where
  | switched (outcome : SwitchOutcome)
  | mapped (answer : Except MappingError VirtAddr)
  | placed (answer : Except MappingError Unit)
  | pagingEnabled
  | replicated (outcome : ReplicateOutcome)

/-- Perform an operation. -/
def Call.perform {μ : Type} [Machine μ] : Call → KernelM μ Answer
  | .switchTo target => return .switched (← KernelM.switchTo target)
  | .mapPhysical phys => return .mapped (← KernelM.mapPhysical phys)
  | .placeViewport base => return .placed (← KernelM.placeViewport base)
  | .enablePaging => do
      KernelM.enablePaging
      return .pagingEnabled
  | .replicate => return .replicated (← KernelM.replicate)

namespace Kernel

variable {k : Kernel} {target : Nat}

theorem switch_not_skipped (hactive : k.active < k.config.processCount)
    (htarget : target < k.config.processCount) (hne : target ≠ k.active) :
    (!k.config.isMultiprocess || target == k.active) = false := by
  have hmulti : k.config.isMultiprocess = true := by
    rw [Config.isMultiprocess, decide_eq_true_iff]
    omega
  rw [hmulti, Bool.not_true, Bool.false_or, beq_eq_false_iff_ne]
  exact hne

namespace Leaves

variable (h : k.Leaves target)

include h

theorem not_skipped : (!k.config.isMultiprocess || target == k.active) = false :=
  switch_not_skipped h.active_lt h.target_lt h.ne

theorem runnable : (decide (k.config.processCount ≤ target) || !k.replicated) = false := by
  rw [h.replicated, Bool.not_true, Bool.or_false, decide_eq_false_iff_not]
  exact Nat.not_le.mpr h.target_lt

theorem active_lt_max : k.active < maxProcesses :=
  Nat.lt_of_lt_of_le h.active_lt k.config.processCount_le

end Leaves

end Kernel

namespace KernelM

variable {μ : Type} [Machine μ] {k : Kernel} {m m₁ m₂ m₃ m₄ m₅ : μ} {was : Bool}

/-! ### Switching -/

/-- A switch to the active process has nothing to do. -/
theorem returns_switchTo_self : Returns (switchTo k.active) k m .unchanged k m := by
  apply returns_switchTo_unchanged
  rw [beq_self_eq_true, Bool.or_true]

section Switch

variable {target : Nat} {ctx : Context} {stop : Stop}

section Leaves

variable (h : k.Leaves target)

include h

/-- A process that is back has nothing to do but to note it. -/
theorem returns_switchTo_back (hmask : Machine.mask m = .ok was m₁)
    (hcapture : Machine.capture m₁ = .ok .resumed m₂)
    (hunmask : Machine.unmask was m₂ = .ok () m₃) :
    Returns (switchTo target) k m .resumed (k.pushEvent (.taskResumed k.active)) m₃ := by
  obtain ⟨limit, hlimit, -⟩ := k.config.identityMappedPages_eq
  exact returns_switchTo_resumed h.not_skipped h.runnable hlimit
    (returns_withoutInterrupts hmask (returns_depart_resumed h.active_lt_max hcapture) hunmask)

theorem stops_switchTo_capture (hmask : Machine.mask m = .ok was m₁)
    (hcapture : Machine.capture m₁ = .error stop m₂) : Stops (switchTo target) k m stop k m₂ := by
  obtain ⟨limit, hlimit, -⟩ := k.config.identityMappedPages_eq
  exact stops_switchTo h.not_skipped h.runnable hlimit
    (stops_withoutInterrupts hmask (stops_depart_capture h.active_lt_max hcapture))

end Leaves

variable (h : k.Departs target)

include h

variable {limit : UInt32} (hlimit : k.frameLimit = .ok limit)

include hlimit

/-- The checks of a departure pass, and the window moves. -/
theorem returns_arrive_of_departs
    (hand : Machine.handOver ⟨k.moveTo target limit, k.config.invalidation, k.context target⟩ m =
      .ok ⟨k.moveTo target limit, k.config.invalidation, k.context target⟩ m₁) :
    Returns (arrive k.active target limit ctx) k m
      (k.config.window.range, ⟨k.moveTo target limit, k.config.invalidation, k.context target⟩)
      (k.switchedTo ctx target) m₁ := by
  have hcontext : (k.saved ctx).context target = k.context target := Kernel.context_saved_ne h.ne
  rw [← hcontext] at hand ⊢
  apply returns_arrive
  · rw [hcontext]
    exact h.restorable
  · exact hand
  · exact h.apply_moveTo hlimit

/-- The window moves, and whatever comes of it after that, the switch comes to. -/
theorem ends_depart_of_departs {outcome : Except Stop SwitchOutcome}
    (hcapture : Machine.capture m = .ok (.saved ctx) m₁)
    (hand : Machine.handOver ⟨k.moveTo target limit, k.config.invalidation, k.context target⟩ m₁ =
      .ok ⟨k.moveTo target limit, k.config.invalidation, k.context target⟩ m₂)
    (hleave : Ends (leave k.config.window.range k.config.invalidation (k.context target))
      (k.switchedTo ctx target) m₂ outcome (k.switchedTo ctx target) m₃) :
    Ends (depart target limit) k m outcome (k.switchedTo ctx target) m₃ :=
  ends_depart h.active_lt_max hcapture (returns_arrive_of_departs h hlimit hand) hleave

variable (hmask : Machine.mask m = .ok was m₁) (hcapture : Machine.capture m₁ = .ok (.saved ctx) m₂)
  (hand : Machine.handOver ⟨k.moveTo target limit, k.config.invalidation, k.context target⟩ m₂ =
    .ok ⟨k.moveTo target limit, k.config.invalidation, k.context target⟩ m₃)

include hmask hcapture hand

/-- Where control comes back after the context was restored, the switch returns. -/
theorem returns_switchTo_of_departs
    (hleave : Returns (leave k.config.window.range k.config.invalidation (k.context target))
      (k.switchedTo ctx target) m₃ .transferred (k.switchedTo ctx target) m₄)
    (hunmask : Machine.unmask was m₄ = .ok () m₅) :
    Returns (switchTo target) k m .transferred (k.switchedTo ctx target) m₅ := by
  have hdepart := ends_depart_of_departs h hlimit hcapture hand hleave
  exact returns_switchTo_transferred h.not_skipped h.runnable hlimit
    (returns_withoutInterrupts hmask hdepart hunmask)

/-- Otherwise it ends with the window moved. -/
theorem stops_switchTo_of_departs
    (hleave : Stops (leave k.config.window.range k.config.invalidation (k.context target))
      (k.switchedTo ctx target) m₃ stop (k.switchedTo ctx target) m₄) :
    Stops (switchTo target) k m stop (k.switchedTo ctx target) m₄ := by
  have hdepart := ends_depart_of_departs h hlimit hcapture hand hleave
  exact stops_switchTo h.not_skipped h.runnable hlimit (stops_withoutInterrupts hmask hdepart)

end Switch

end KernelM

end SlotKernel

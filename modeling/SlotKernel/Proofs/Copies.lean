import SlotKernel.Proofs.Simulation

/-!
Replication on the simulated machine. A machine made for enough slots has room for every copy, so
its replications go through; on a machine with too little memory a copy panics. With this, every
call of a kernel that is up is known to return with one of its effects or to panic.
-/

namespace SlotKernel

/-- There is nothing left to replicate. -/
def Kernel.Settled (k : Kernel) : Prop :=
  k.replicated = true ∨ k.config.isMultiprocess = false

theorem Kernel.not_settled_of_first {k : Kernel} (hmulti : k.config.isMultiprocess = true)
    (hfirst : k.replicated = false) : ¬ k.Settled := by
  rintro (hdone | hsingle)
  · cases hdone.symm.trans hfirst
  · cases hsingle.symm.trans hmulti

namespace Simulated

section Calls

open KernelM

variable {k : Kernel} (m : Simulated)

theorem ends_fillSlots (seed : Context) :
    ∃ events m',
      (Returns (fillSlots seed) k m (.forked (k.config.processCount - 1)) (k.seeded seed events)
          m' ∧ CopiesOf k.config m k.config.processCount m') ∨
        ∃ cause, ¬ m.HasRoom (k.config.processCount + 1) ∧
          Stops (fillSlots seed) k m (.panicked cause) { k with events := events } m' := by
  obtain ⟨events, m', ⟨hfill, hcopies⟩ | ⟨_, ⟨⟨cause, rfl⟩, hroom⟩, hfill⟩⟩ :=
    @KernelM.ends_fillSlots Simulated k m _ seed (CopiesOf k.config m) _
      (fun slot hlow hslot start hstart m' hkept =>
        copiesOf_copyToPhysical hlow hslot hstart hkept) (copiesOf_refl k.config m)
  · exact ⟨events, m', Or.inl ⟨hfill, hcopies⟩⟩
  · exact ⟨events, m', Or.inr ⟨cause, hroom, hfill⟩⟩

/-- A replication returns with one of its effects. It panics, with nothing but events added to the
kernel, only when no further capture has a number or when a copy leaves the memory. -/
theorem ends_replicate (hup : k.Up) :
    (∃ outcome k' m', Returns replicate k m outcome k' m' ∧
      Effect k m .replicate (.replicated outcome) k' m') ∨
    ∃ cause events m', Stops replicate k m (.panicked cause) { k with events := events } m' ∧
      (capturedContext (m.captures + 1) = .error cause ∨
        ¬ m.HasRoom (k.config.processCount + 1)) ∧ ¬ k.Settled := by
  by_cases hsingle : k.config.isMultiprocess = false
  · exact Or.inl ⟨_, k, m, returns_replicate_skipped hsingle, .skipped hsingle⟩
  have hmulti := (Bool.not_eq_false _).mp hsingle
  rcases Bool.eq_false_or_eq_true k.replicated with hfirst | hfirst
  · exact Or.inl ⟨_, k, m, returns_replicate_alreadyDone hmulti hfirst, .alreadyDone hfirst⟩
  have hunsettled := Kernel.not_settled_of_first hmulti hfirst
  cases hresume : m.resumeNext with
  | true =>
      refine Or.inl ⟨_, k, m.woken, ?_, .forkResumed hresume⟩
      exact returns_replicate_resumed hmulti hfirst hup.pagingEnabled (capture_resumed hresume)
  | false =>
      cases hseed : capturedContext (m.captures + 1) with
      | error cause =>
          refine Or.inr ⟨cause, k.events, m.captured, ?_, Or.inl rfl, hunsettled⟩
          exact stops_replicate_capture hmulti hfirst hup.pagingEnabled
            (capture_panicked hresume hseed)
      | ok seed =>
          have hcapture := capture_saved hresume hseed
          obtain ⟨events, m', ⟨hfill, hcopies⟩ | ⟨cause, hroom, hfill⟩⟩ :=
            @ends_fillSlots k m.captured seed
          · obtain ⟨memory, copies, rfl⟩ := hcopies.machine_eq
            refine Or.inl ⟨_, _, _, ?_,
              .forked seed events memory copies hmulti hresume hseed hfirst hcopies⟩
            exact KernelM.ends_replicate hmulti hfirst hup.pagingEnabled hcapture hfill
          · refine Or.inr ⟨cause, events, m', ?_, Or.inr hroom, hunsettled⟩
            exact KernelM.ends_replicate hmulti hfirst hup.pagingEnabled hcapture hfill

/-- Every call of a kernel that is up returns with one of its effects or panics with the kernel as
it was but for its events, and where there is nothing to replicate, with the memory as it was. -/
theorem ends_perform_settled (hup : k.Up) (call : Call) :
    (∃ answer k' m', Returns call.perform k m answer k' m' ∧ Effect k m call answer k' m') ∨
    ∃ cause events m', Stops call.perform k m (.panicked cause) { k with events := events } m' ∧
      (k.Settled → events = k.events ∧ m'.memory = m.memory) := by
  cases call with
  | switchTo target =>
      rcases ends_switchTo hup m target with
        ⟨_, k', m', hreturns, heffect⟩ | ⟨cause, m', hstops, hmemory, -⟩
      · exact Or.inl ⟨_, k', m', hreturns.bind (returns_pure _), heffect⟩
      · exact Or.inr ⟨cause, k.events, m', hstops.bind_stop, fun _ => ⟨rfl, hmemory⟩⟩
  | mapPhysical phys =>
      obtain ⟨_, k', m', hreturns, heffect⟩ := ends_mapPhysical hup m phys
      exact Or.inl ⟨_, k', m', hreturns.bind (returns_pure _), heffect⟩
  | placeViewport base =>
      obtain ⟨_, k', m', hreturns, heffect⟩ := ends_placeViewport hup m base
      exact Or.inl ⟨_, k', m', hreturns.bind (returns_pure _), heffect⟩
  | enablePaging =>
      exact Or.inl ⟨_, k, m, (returns_enablePaging hup m).bind (returns_pure _), .pagingEnabled⟩
  | replicate =>
      rcases ends_replicate m hup with
        ⟨_, k', m', hreturns, heffect⟩ | ⟨cause, events, m', hstops, -, hunsettled⟩
      · exact Or.inl ⟨_, k', m', hreturns.bind (returns_pure _), heffect⟩
      · exact Or.inr ⟨cause, events, m', hstops.bind_stop, fun h => absurd h hunsettled⟩

theorem ends_perform (hup : k.Up) (call : Call) :
    (∃ answer k' m', Returns call.perform k m answer k' m' ∧ Effect k m call answer k' m') ∨
    ∃ cause events m', Stops call.perform k m (.panicked cause) { k with events := events } m' := by
  rcases ends_perform_settled m hup call with hreturns | ⟨cause, events, m', hstops, -⟩
  · exact Or.inl hreturns
  · exact Or.inr ⟨cause, events, m', hstops⟩

end Calls

end Simulated

end SlotKernel

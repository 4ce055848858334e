import SlotKernel.Proofs.Inversion
import SlotKernel.Services.Calls

/-!
Calls that do nothing. A switch to where one already is, a second replication, a service without a
kernel or for a process that does not exist, and a refused placement or mapping leave the kernel and
the machine as they were, whatever state they are in; so the log is all that tells of them. A switch
that comes back because its own context was restored only uses up the pending resume and notes that
the process is here again.
-/

namespace SlotKernel

open KernelM

namespace KernelM

variable {μ : Type} [Machine μ]

/-- A kernel that has filled its slots counts as replicated. -/
theorem replicated_of_forked {copies : Nat} {w w' : World μ}
    (h : replicate w = .ok (.forked copies) w') : w'.kernel.replicated = true := by
  obtain ⟨seed, hkernel⟩ := of_replicate_eq_forked h
  rw [hkernel]
  rfl

section Idle

variable {k : Kernel} {m : μ}

theorem returns_switchTo_idle {target : Nat}
    (h : target = k.active ∨ k.config.processCount < 2) :
    Returns (switchTo target) k m .unchanged k m := by
  apply returns_switchTo_unchanged
  rcases h with rfl | hsingle
  · simp
  · simp [Config.isMultiprocess, Nat.not_le.mpr hsingle]

theorem returns_replicate_idle (h : k.config.processCount < 2 ∨ k.replicated = true) :
    Returns replicate k m (if k.config.processCount < 2 then .skipped else .alreadyDone) k m := by
  by_cases hsingle : k.config.processCount < 2
  · rw [if_pos hsingle]
    exact returns_replicate_skipped (by simp [Config.isMultiprocess, Nat.not_le.mpr hsingle])
  · rw [if_neg hsingle]
    have hmulti : k.config.isMultiprocess = true :=
      decide_eq_true_iff.mpr (Nat.not_lt.mp hsingle)
    exact returns_replicate_alreadyDone hmulti (h.resolve_left hsingle)

end Idle

end KernelM

/-! ### Services -/

namespace SystemM

variable {μ : Type} {system : System μ}

/-- Answer and leave the system as it is, or wait for ever where the lock is held. -/
def answer {α : Type} (a : α) : SystemM μ α := fun system =>
  if system.locked then .error .deadlocked system else .ok a system

theorem bind_answer {α β : Type} {act : SystemM μ α} {next : α → SystemM μ β} {a : α} {b : β}
    (hact : act system = answer a system) (hnext : next a system = .ok b system) :
    (act >>= next) system = answer b system := by
  show EStateM.bind act next system = _
  rw [EStateM.bind, hact, answer, answer]
  split_ifs
  · rfl
  · exact hnext

section Vacant

variable (hvacant : system.installed = none)

include hvacant

theorem withKernel_vacant {α : Type} (act : KernelM μ α) :
    withKernel act system = answer none system := by
  obtain ⟨board, installed, locked, shellHook, shellLocked, journal, tracing⟩ := system
  cases hvacant
  cases locked <;> rfl

theorem switchWithin_vacant [Machine μ] (depth number : Nat) :
    switchWithin depth number system = answer none system := by
  cases depth <;> exact bind_answer (withKernel_vacant hvacant _) rfl

end Vacant

/-- With the lock free, the installed kernel works and the lock is free again, unless it stops. -/
theorem withKernel_free {α : Type} (hfree : system.locked = false) {k : Kernel}
    (hinstalled : system.installed = some k) (act : KernelM μ α) :
    withKernel act system =
      match act ⟨k, system.board, system.tracing⟩ with
      | .ok a w => .ok (some a) (system.withWorld w)
      | .error stop w => .error stop { system.withWorld w with locked := true } := by
  obtain ⟨board, installed, locked, shellHook, shellLocked, journal, tracing⟩ := system
  cases hfree
  cases hinstalled
  change EStateM.bind (onKernel act) _
    ⟨board, some k, true, shellHook, shellLocked, journal, tracing⟩ = _
  rw [EStateM.bind, onKernel]
  cases hrun : act ⟨k, board, tracing⟩ <;> simp only [hrun] <;> rfl

theorem install_occupied {k : Kernel} (hinstalled : system.installed = some k) (config : Config) :
    install config system = answer false system := by
  obtain ⟨board, installed, locked, shellHook, shellLocked, journal, tracing⟩ := system
  cases hinstalled
  cases locked <;> rfl

section NoSuchProcess

variable {k : Kernel} {number : Nat}

/-- The console after a report that no process has this number. -/
def noSuchProcess (number count : Nat) (console : Console) : Console :=
  ((console.error "services: switch_to ignored; no such process").infoNumber " requested"
    number).infoNumber " process_count" count

/-- The system after that report. -/
def reported (system : System μ) (number count : Nat) : System μ :=
  { system with
    board := { system.board with console := noSuchProcess number count system.board.console } }

variable [Machine μ] (hinstalled : system.installed = some k)
  (hnumber : k.config.processCount ≤ number)

include hinstalled hnumber

theorem withKernel_requestSwitch :
    withKernel (requestSwitch number) system = if system.locked then .error .deadlocked system else
      .ok (some none) (reported system number k.config.processCount) := by
  have hnone : k.process? number = none := if_neg (Nat.not_lt.mpr hnumber)
  have hrequest : ∀ board tracing, requestSwitch (μ := μ) number ⟨k, board, tracing⟩ =
      .ok none ⟨k, { board with
        console := noSuchProcess number k.config.processCount board.console }, tracing⟩ := by
    intro board tracing
    have hkernel : KernelM.kernel ⟨k, board, tracing⟩ = .ok k ⟨k, board, tracing⟩ := rfl
    unfold requestSwitch
    show EStateM.bind KernelM.kernel _ _ = _
    rw [EStateM.bind, hkernel]
    simp only [hnone]
    rfl
  obtain ⟨board, installed, locked, shellHook, shellLocked, journal, tracing⟩ := system
  cases hinstalled
  cases locked with
  | true => rfl
  | false =>
      show EStateM.bind (onKernel (requestSwitch number)) _
        ⟨board, some k, true, shellHook, shellLocked, journal, tracing⟩ = _
      rw [EStateM.bind, onKernel]
      simp only [hrequest]
      rfl

theorem switchWithin_noSuchProcess (depth : Nat) :
    switchWithin depth number system = if system.locked then .error .deadlocked system else
      .ok none (reported system number k.config.processCount) := by
  have hthen : ∀ call, switchThen (μ := μ) call number system =
      if system.locked then .error .deadlocked system else
        .ok none (reported system number k.config.processCount) := by
    intro call
    show EStateM.bind (withKernel (requestSwitch number)) _ system = _
    rw [EStateM.bind, withKernel_requestSwitch hinstalled hnumber]
    split_ifs <;> rfl
  cases depth <;> exact hthen _

end NoSuchProcess

theorem switchTo_vacant [Machine μ] (hvacant : system.installed = none) (number : Nat) :
    switchTo number system = answer none system :=
  switchWithin_vacant hvacant _ number

end SystemM

/-! ### Refused mappings and a resumed switch -/

namespace Simulated

open KernelM

variable {w w' : World Simulated}

theorem of_placeViewport_eq_error {base : VirtAddr} {error : MappingError}
    (h : placeViewport base w = .ok (.error error) w') :
    w'.kernel = w.kernel ∧ w'.board.machine = w.board.machine ∧
      (Viewport.mk base).pages.forM
        (Viewport.checkPage w.kernel.paging w.kernel.config.window) = .error error := by
  cases hplace : Viewport.place w.kernel.paging base w.kernel.config.window with
  | error other =>
      obtain ⟨hother, hkernel, hmachine⟩ :=
        (returns_placeViewport_refused hplace).eq_of_ok rfl rfl h
      cases hother
      exact ⟨hkernel, hmachine, Viewport.checks_of_place_error hplace⟩
  | ok result =>
      cases hpaging : w.kernel.pagingEnabled with
      | false => cases ((returns_placeViewport_early hpaging hplace).eq_of_ok rfl rfl h).1
      | true => cases ((returns_placeViewport hpaging hplace).eq_of_ok rfl rfl h).1

/-- A mapping that is refused was refused for want of a viewport, or before the first change. -/
theorem of_mapPhysical_eq_error {phys : PhysAddr} {error : MappingError}
    (h : mapPhysical phys w = .ok (.error error) w') :
    w'.kernel = w.kernel ∧ w'.board.machine = w.board.machine ∧
      ∀ s base window view placed, Viewport.place s base window = .ok (view, placed) →
        w.kernel.viewport = some view →
          view.targets w.kernel.paging phys.alignDown = .error error := by
  cases hview : w.kernel.viewport with
  | none =>
      obtain ⟨-, hsame⟩ := (returns_mapPhysical_noViewport hview).eq_of_ok rfl rfl h
      exact ⟨hsame.1, hsame.2, fun _ _ _ _ _ _ hsome => nomatch hsome⟩
  | some view =>
      cases hmap : view.map w.kernel.paging phys with
      | error other =>
          obtain ⟨hother, hkernel, hmachine⟩ :=
            (returns_mapPhysical_refused hview hmap).eq_of_ok rfl rfl h
          cases hother
          refine ⟨hkernel, hmachine, ?_⟩
          rintro s base window _ placed hplace ⟨⟩
          exact Viewport.targets_of_map_error (Viewport.number_ne_zero_of_place hplace) hmap
      | ok result =>
          cases Viewport.eq_edit_of_map hmap
          cases ((returns_mapPhysical hview hmap).eq_of_ok rfl rfl h).1

theorem of_switchTo_eq_resumed {target : Nat} (h : switchTo target w = .ok .resumed w') :
    w.board.machine.resumeNext = true ∧ w'.board.machine = w.board.machine.woken ∧
      w'.kernel = w.kernel.pushEvent (.taskResumed w.kernel.active) := by
  obtain ⟨was, m₁, m₂, hmask, hcapture, hunmask, hkernel⟩ := KernelM.of_switchTo_eq_resumed h
  cases hmask
  cases hresume : w.board.machine.resumeNext with
  | false =>
      cases hctx : capturedContext (w.board.machine.captures + 1) with
      | ok ctx =>
          have hsaved := capture_saved (m := w.board.machine.masked) hresume hctx
          cases hsaved.symm.trans hcapture
      | error cause =>
          have hpanicked := capture_panicked (m := w.board.machine.masked) hresume hctx
          cases hpanicked.symm.trans hcapture
  | true =>
      have hresumed := capture_resumed (m := w.board.machine.masked) hresume
      cases hresumed.symm.trans hcapture
      refine ⟨rfl, ?_, hkernel⟩
      exact ((EStateM.Result.ok.inj hunmask).2).symm

end Simulated

/-- Calls without anything to do, and refused ones, leave kernel and machine as they were, whatever
state these are in. A switch that comes back has used up the pending resume and noted its process,
as long as there is room in the log. -/
theorem no_trace_of_idle_calls :
    (∀ (μ : Type) [Machine μ] (k : Kernel) (m : μ),
      (∀ target, target = k.active ∨ k.config.processCount < 2 →
        Returns (switchTo target) k m .unchanged k m) ∧
      (k.config.processCount < 2 ∨ k.replicated = true →
        Returns replicate k m
          (if k.config.processCount < 2 then .skipped else .alreadyDone) k m)) ∧
    (∀ (μ : Type) [Machine μ] copies (w w' : World μ), replicate w = .ok (.forked copies) w' →
      w'.kernel.replicated = true) ∧
    (∀ (μ : Type) [Machine μ] (system : System μ), system.installed = none →
      SystemM.activeProcess system = SystemM.answer none system ∧
      SystemM.processCount system = SystemM.answer none system ∧
      SystemM.viewportBase system = SystemM.answer none system ∧
      (∀ number, SystemM.switchTo number system = SystemM.answer none system) ∧
      (∀ phys, SystemM.mapPhysical phys system = SystemM.answer (.error .noViewport) system) ∧
      ∀ hook, SystemM.setRefreshHook hook system = SystemM.answer false system) ∧
    (∀ (μ : Type) [Machine μ] (system : System μ) (k : Kernel), system.installed = some k →
      (∀ config, SystemM.install config system = SystemM.answer false system) ∧
      ∀ number, k.config.processCount ≤ number → SystemM.switchTo number system =
        if system.locked then .error .deadlocked system else
          .ok none (SystemM.reported system number k.config.processCount)) ∧
    (∀ (w w' : World Simulated) error,
      (∀ base, placeViewport base w = .ok (.error error) w' →
        w'.kernel = w.kernel ∧ w'.board.machine = w.board.machine ∧
          (Viewport.mk base).pages.forM
            (Viewport.checkPage w.kernel.paging w.kernel.config.window) = .error error) ∧
      ∀ phys, mapPhysical phys w = .ok (.error error) w' →
        w'.kernel = w.kernel ∧ w'.board.machine = w.board.machine ∧
          ∀ s base window view placed, Viewport.place s base window = .ok (view, placed) →
            w.kernel.viewport = some view →
              view.targets w.kernel.paging phys.alignDown = .error error) ∧
    ∀ (w w' : World Simulated) target, switchTo target w = .ok .resumed w' →
      w.board.machine.resumeNext = true ∧
      w'.board.machine = { w.board.machine with resumeNext := false } ∧
      w'.kernel = { w.kernel with events := w'.kernel.events } ∧
      w'.kernel.events.entries = if w.kernel.events.entries.size < 256 then
          w.kernel.events.entries.push (.taskResumed w.kernel.active)
        else w.kernel.events.entries := by
  refine ⟨?_, ?_, ?_, ?_, ?_, ?_⟩
  · intro μ _ k m
    exact ⟨fun target h => returns_switchTo_idle h, returns_replicate_idle⟩
  · intro μ _ copies w w' h
    exact replicated_of_forked h
  · intro μ _ system hvacant
    have hservice := fun {α : Type} (act : KernelM μ α) => SystemM.withKernel_vacant hvacant act
    refine ⟨hservice _, hservice _, ?_, SystemM.switchTo_vacant hvacant, ?_, ?_⟩
    · exact SystemM.bind_answer (hservice _) rfl
    · exact fun phys => SystemM.bind_answer (hservice _) rfl
    · exact fun hook => SystemM.bind_answer (hservice _) rfl
  · intro μ _ system k hinstalled
    refine ⟨SystemM.install_occupied hinstalled, fun number hnumber => ?_⟩
    exact SystemM.switchWithin_noSuchProcess hinstalled hnumber _
  · intro w w' error
    exact ⟨fun base h => Simulated.of_placeViewport_eq_error h,
      fun phys h => Simulated.of_mapPhysical_eq_error h⟩
  · intro w w' target h
    obtain ⟨hresume, hmachine, hkernel⟩ := Simulated.of_switchTo_eq_resumed h
    refine ⟨hresume, hmachine, ?_, ?_⟩
    · rw [hkernel]
      rfl
    · rw [hkernel]
      exact EventLog.entries_push _ _

end SlotKernel

import SlotKernel.Proofs.Sessions

/-!
What the tables show after a boot and any calls. The window shows the slot of the active process
with the attributes of the build. A page outside the window that was never part of a viewport keeps
the entry of the build to the bit, and page 0 is among these, since no viewport may hold it. The
directory, the number of tables and their place in memory never change.
-/

namespace SlotKernel

open KernelM

/-- The entry of a page as a build writes it. -/
theorem TableEntry.new_initial (frame : Frame) :
    new frame PageTables.initialPageFlags =
      ⟨(frame.number <<< 12) ||| (PageFlags.present ||| .writable ||| .writeThrough).bits⟩ := by
  have hbits : PageTables.initialPageFlags.bits &&& flagMask =
      (PageFlags.present ||| .writable ||| .writeThrough).bits := by decide
  rw [new, hbits, shiftLeft_and_frameMask]
  rfl

/-- The viewport that a call placed. -/
def Call.placed? : Call → Answer → Option Viewport
  | .placeViewport base, .placed (.ok ()) => some ⟨base⟩
  | _, _ => none

/-- Every viewport that was placed, at the boot or by a call since. -/
def placedViewports (start : World Simulated) (turns : List Turn) : List Viewport :=
  turns.filterMap (fun turn => turn.call.placed? turn.answer) ++ start.kernel.viewport.toList

namespace Kernel

/-- What is said about the tables of a kernel, given those of the build and the viewports that were
placed since. -/
structure Mapped (config : Config) (built : PageTables) (placed : List Viewport) (k : Kernel) :
    Prop where
  active_lt : k.active < config.processCount
  window : ∀ page ∈ config.window.pages, k.paging.entry? page =
    some ⟨((UInt32.ofNat (256 * k.active) + page.number) <<< 12) |||
      (PageFlags.present ||| .writable ||| .writeThrough).bits⟩
  elsewhere : ∀ page, page ∉ config.window.pages → (∀ view ∈ placed, page ∉ view.pages) →
    k.paging.entry? page = built.entry? page
  null : ∃ entry, k.paging.entry? ⟨0⟩ = some entry ∧ entry.isPresent = false
  directory : k.paging.directory = built.directory
  tableCount : k.paging.tableCount = built.tableCount
  directoryAddress : k.paging.directoryAddress = built.directoryAddress

/-- What the calls of a session keep, on top of the kernel being up. -/
structure Traced (config : Config) (built : PageTables) (placed : List Viewport) (k : Kernel) :
    Prop where
  config_eq : k.config = config
  viewport_mem : ∀ view, k.viewport = some view → view ∈ placed
  placed_clear : ∀ view ∈ placed, ∀ page ∈ view.pages, page.number ≠ 0
  elsewhere : ∀ page, page ∉ config.window.pages → (∀ view ∈ placed, page ∉ view.pages) →
    k.paging.entry? page = built.entry? page
  structure_eq : k.paging.directory = built.directory ∧ k.paging.tableCount = built.tableCount ∧
    k.paging.base = built.base

variable {config : Config} {built : PageTables} {placed : List Viewport} {k k' : Kernel}

/-- A step that places at most this viewport. -/
theorem Traced.step (h : Traced config built placed k) (hup : k.Up) (hstep : Step k k')
    {new : Option Viewport} (hnew : k'.viewport = new.or k.viewport) :
    Traced config built (new.toList ++ placed) k' := by
  have hup' := hup.step hstep
  have hmem : ∀ view, k'.viewport = some view → view ∈ new.toList ++ placed := by
    intro view hview
    rw [List.mem_append, Option.mem_toList]
    rw [hnew, Option.or_eq_some_iff] at hview
    exact hview.imp id fun hold => h.viewport_mem view hold.2
  obtain ⟨hdirectory, hcount, hbase⟩ := hstep.structure_eq
  refine ⟨hstep.config_eq.trans h.config_eq, hmem, ?_, ?_, ?_⟩
  · intro view hview page hpage
    rcases List.mem_append.mp hview with hview | hview
    · have hsome : k'.viewport = some view := by
        rw [hnew, Option.mem_toList.mp hview, Option.some_or]
      exact (hup'.viewport view hsome page hpage).1
    · exact h.placed_clear view hview page hpage
  · intro page hwindow hclear
    rw [hstep.entry?_eq (by rwa [h.config_eq]) fun view hview => hclear view (hmem view hview)]
    exact h.elsewhere page hwindow fun view hview => hclear view (List.mem_append_right _ hview)
  · rw [hdirectory, hcount, hbase]
    exact h.structure_eq

/-- A prepared kernel has changed nothing but the pages of its viewport. -/
theorem Prepared.traced (h : Prepared config built k) :
    Traced config built k.viewport.toList k where
  config_eq := h.config_eq
  viewport_mem := fun _ hview => Option.mem_toList.mpr hview
  placed_clear := fun view hview page hpage =>
    (h.up.viewport view (Option.mem_toList.mp hview) page hpage).1
  elsewhere := fun page hwindow hclear =>
    h.entry?_eq page hwindow fun view hview => hclear view (Option.mem_toList.mpr hview)
  structure_eq := h.structure_eq

/-- The two invariants together say everything about the tables. -/
theorem Traced.mapped (h : Traced config built placed k) (hup : k.Up)
    (hnull : built.entry? ⟨0⟩ = some (PageTables.initialEntry 0)) :
    Mapped config built placed k := by
  obtain ⟨hdirectory, hcount, hbase⟩ := h.structure_eq
  have hconfig := h.config_eq
  subst hconfig
  refine ⟨hup.active_lt, ?_, h.elsewhere, ?_, hdirectory, hcount, hbase⟩
  · intro page hpage
    rw [hup.window page hpage, TableEntry.new_initial]
    rfl
  · refine ⟨PageTables.initialEntry 0, ?_, TableEntry.isPresent_initialEntry_zero⟩
    rw [← hnull]
    apply h.elsewhere
    · intro hmem
      have hfirst := k.config.firstPage_bounds
      have hrange := (k.config.mem_pages.mp hmem).1
      change _ ≤ 0 at hrange
      omega
    · intro view hview hmem
      exact h.placed_clear view hview _ hmem rfl

theorem Mapped.withEvents (h : Mapped config built placed k) (events : EventLog) :
    Mapped config built placed { k with events := events } :=
  { h with }

end Kernel

theorem Simulated.Effect.viewport_eq {k k' : Kernel} {m m' : Simulated} {call : Call}
    {answer : Answer} (heffect : Effect k m call answer k' m') :
    k'.viewport = (call.placed? answer).or k.viewport := by
  cases heffect <;> rfl

/-- The replication at the end of a boot leaves the tables as they were prepared. -/
theorem Kernel.Prepared.traced_forked {config : Config} {built : PageTables} {k : Kernel}
    {m : Simulated} {outcome : ReplicateOutcome} {start : World Simulated}
    (h : Kernel.Prepared config built k)
    (heffect : Simulated.Effect k m .replicate (.replicated outcome) start.kernel
      start.board.machine) :
    Kernel.Traced config built (placedViewports start []) start.kernel := by
  have hview : start.kernel.viewport = k.viewport := heffect.viewport_eq
  have htraced := h.traced.step h.up heffect.step heffect.viewport_eq
  rw [← hview] at htraced
  exact htraced

theorem Session.traced {config : Config} {built : PageTables} {start w : World Simulated}
    {turns : List Turn} (hup : start.kernel.Up)
    (htraced : Kernel.Traced config built (placedViewports start []) start.kernel)
    (hsession : Session start turns w) :
    Kernel.Traced config built (placedViewports start turns) w.kernel := by
  apply hsession.invariant
    (fun turns w => Kernel.Traced config built (placedViewports start turns) w.kernel) hup htraced
  · intro turns w call answer w' hup' ih heffect
    have hstep := ih.step hup' heffect.step heffect.viewport_eq
    rw [placedViewports, List.filterMap_cons]
    cases hplaced : call.placed? answer with
    | none => rwa [hplaced] at hstep
    | some view => rwa [hplaced] at hstep
  · intro turns w ih
    exact ih

theorem Session.root_eq {start w : World Simulated} {turns : List Turn} (hup : start.kernel.Up)
    (hsession : Session start turns w) : w.board.machine.root = start.board.machine.root := by
  apply hsession.invariant (fun _ w => w.board.machine.root = start.board.machine.root) hup rfl
  · intro _ _ _ _ _ _ ih heffect
    exact heffect.root_eq.trans ih
  · intro _ _ ih
    exact ih

/-- A boot on a machine with room for every slot returns, and after any calls the tables show what
they should; also a call that stops leaves them so. -/
theorem mapped_of_session (config : Config) {base : PhysAddr} (hbase : base.isPageAligned = true)
    (viewport : Option VirtAddr) {slots : Nat} (hslots : config.processCount ≤ slots)
    (console : Console) (tracing : Bool) :
    ∃ built summary outcome start,
      PageTables.build base config.processCount = .ok (built, summary) ∧
      boot base viewport ⟨{ config := config }, ⟨Simulated.new slots, console⟩, tracing⟩ =
        .ok outcome start ∧
      ∀ turns w, Session start turns w →
        w.kernel.Mapped config built (placedViewports start turns) ∧
        w.board.machine.root = some base ∧
        ∀ (call : Call) stop w', call.perform w = .error stop w' →
          w'.kernel.Mapped config built (placedViewports start turns) := by
  have hroom : (Simulated.new slots).HasRoom (config.processCount + 1) :=
    ⟨rfl, Nat.le_trans (Nat.mul_le_mul_right _ (Nat.succ_le_succ hslots))
      (Simulated.hasRoom_new slots).2⟩
  have hcaptures : (Simulated.new slots).captures < 2 ^ 27 := Nat.two_pow_pos 27
  obtain ⟨outcome, start, hboot⟩ :=
    Simulated.returns_boot config hbase viewport hroom hcaptures console tracing
  obtain ⟨built, summary, k, pages, hbuild, -, hprepared, heffect⟩ := Simulated.effect_of_boot hboot
  have hnull : built.entry? ⟨0⟩ = some (PageTables.initialEntry 0) := by
    obtain ⟨_, _, hbuild', -, hentries⟩ := PageTables.build_eq_ok config hbase
    cases hbuild'.symm.trans hbuild
    apply hentries ⟨0⟩
    change 0 < 256 * (config.processCount + 1)
    omega
  refine ⟨built, summary, outcome, start, hbuild, hboot, ?_⟩
  intro turns w hsession
  have hup := hprepared.up.step heffect.step
  have htraced := hsession.traced hup (hprepared.traced_forked heffect)
  have hmapped := htraced.mapped (hsession.up hup) hnull
  refine ⟨hmapped, (hsession.root_eq hup).trans heffect.root_eq, ?_⟩
  intro call stop w' hstop
  rcases Simulated.ends_perform w.board.machine (hsession.up hup) call with
    ⟨_, _, _, hreturns, -⟩ | ⟨_, events, _, hstops⟩
  · obtain ⟨hanswer, -⟩ := hreturns.eq_of_error rfl rfl hstop
    cases hanswer
  · obtain ⟨-, hkernel, -⟩ := hstops.eq_of_error rfl rfl hstop
    rw [hkernel]
    exact hmapped.withEvents events

/-- Two processes, of which the second one is switched to: the first page of the window shows the slot
of the first process, and then that of the second. -/
theorem mapped_of_session_halves :
    (PhysAddr.mk 0x90000).isPageAligned = true ∧ Config.halves.processCount ≤ 2 ∧
      ∃ built summary start w,
        PageTables.build ⟨0x90000⟩ 2 = .ok (built, summary) ∧
        boot ⟨0x90000⟩ (some ⟨0x108000⟩) ⟨{ config := .halves }, ⟨Simulated.new 2, .ready⟩, false⟩ =
          .ok (.forked 1) start ∧
        (∀ turns w, Session start turns w →
          w.kernel.Mapped .halves built (placedViewports start turns)) ∧
        Session start [⟨start, .switchTo 1, .switched .transferred, w⟩] w ∧ w.kernel.active = 1 ∧
        start.kernel.paging.entry? ⟨0x180⟩ = some ⟨0x18000b⟩ ∧
        w.kernel.paging.entry? ⟨0x180⟩ = some ⟨0x28000b⟩ := by
  refine ⟨by decide, by decide, ?_⟩
  obtain ⟨start, w, hboot, hswitch, hforked, hactive⟩ := Simulated.switched_halves
  obtain ⟨built, summary, _, _, hbuild, hboot', hsessions⟩ :=
    @mapped_of_session .halves ⟨0x90000⟩ (by decide) (some ⟨0x108000⟩) 2 (by decide) .ready false
  cases hboot.symm.trans hboot'
  have hpage : (⟨0x180⟩ : Page) ∈ Config.halves.window.pages := by
    rw [Config.mem_pages]
    decide
  have hsession : Session start [⟨start, .switchTo 1, .switched .transferred, w⟩] w :=
    .called .started hswitch
  have hbefore := (hsessions [] start .started).1.window _ hpage
  have hafter := (hsessions _ w hsession).1.window _ hpage
  rw [(Simulated.seed_of_boot hboot).2.2.2.2.1] at hbefore
  rw [hactive] at hafter
  exact ⟨built, summary, start, w, hbuild, hboot,
    fun turns w hsession => (hsessions turns w hsession).1, hsession, hactive, hbefore, hafter⟩

end SlotKernel

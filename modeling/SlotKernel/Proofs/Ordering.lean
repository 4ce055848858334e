import SlotKernel.Proofs.Sessions
import SlotKernel.Proofs.Setup

/-!
The order in which a kernel is set up. Whatever is asked of a new kernel, in any order and however
often, up to the first panic: paging is on only over tables that were built, with one directory
loaded once; slots are copied only after that, and another process runs only after all slots were
copied. The invariant of setups behind this holds after every command, also after one that panics.
-/

namespace SlotKernel

open KernelM

/-- What can be asked of a kernel before its first panic. -/
inductive Command where
  | buildTables (base : PhysAddr)
  | operation (call : Call)
  /-- Let the next capture answer `resumed`. -/
  | playResume

/-- Carry out a command with these steps of the machine. -/
def Command.perform (machine : Machine Simulated) : Command → KernelM Simulated Unit
  | .buildTables base => do
      let _ ← KernelM.buildTables base
      return ()
  | .operation call => do
      let _ ← @Call.perform Simulated machine call
      return ()
  | .playResume => modify World.playResume

/-- Carry out commands until one of them panics. -/
def performAll (machine : Machine Simulated) (commands : List Command) : KernelM Simulated Unit :=
  commands.forM (Command.perform machine)

/-- The simulated machine, but for halting where a page directory is loaded a second time. -/
abbrev Simulated.loadedOnce : Machine Simulated :=
  { (inferInstance : Machine Simulated) with
    activatePaging := fun directory m =>
      if m.root.isSome then .error .halted m else Machine.activatePaging directory m }

namespace World

/-- The world that a computation leaves, also where it stops. -/
def after {μ α : Type} (act : KernelM μ α) (w : World μ) : World μ :=
  match act w with
  | .ok _ w' => w'
  | .error _ w' => w'

def setup (w : World Simulated) : Setup :=
  .of w.kernel w.board.machine

variable {μ α β : Type} {w : World μ}

theorem after_of_ends {act : KernelM μ α} {ending : Except Stop α} {k' : Kernel} {m' : μ}
    (hends : Ends act w.kernel w.board.machine ending k' m') :
    (w.after act).kernel = k' ∧ (w.after act).board.machine = m' := by
  unfold after
  cases hact : act w with
  | ok a w' => exact (hends.eq_of_ok rfl rfl hact).2
  | error stop w' => exact (hends.eq_of_error rfl rfl hact).2

theorem after_of_ok {act : KernelM μ α} {a : α} {w' : World μ} (h : act w = .ok a w') :
    w.after act = w' := by
  rw [after, h]

theorem after_of_error {act : KernelM μ α} {stop : Stop} {w' : World μ}
    (h : act w = .error stop w') : w.after act = w' := by
  rw [after, h]

end World

/-! ### What a command does -/

/-- What a command can do to a setup. -/
inductive Command.Advance (command : Command) : Setup → Setup → Prop where
  | step {s s' : Setup} (hstep : s.Step s') : command.Advance s s'
  | enabled (s : Setup) (hcommand : command = .operation .enablePaging)
      (hbuilt : s.tablesBuilt = true) (hoff : s.pagingEnabled = false) : command.Advance s s.enabled

/-- Only one command turns paging on. -/
theorem Command.Advance.eq_enabled {command : Command} {s s' : Setup} (h : command.Advance s s')
    (hoff : s.pagingEnabled = false) (hon : s'.pagingEnabled = true) :
    command = .operation .enablePaging ∧ s' = s.enabled := by
  cases h with
  | step hstep => cases hoff.symm.trans (hstep.pagingEnabled_eq.symm.trans hon)
  | enabled hcommand => exact ⟨hcommand, rfl⟩

theorem World.setup_after_of_ends {act : KernelM Simulated Unit} {w : World Simulated}
    {ending : Except Stop Unit} {k' : Kernel} {m' : Simulated}
    (hends : Ends act w.kernel w.board.machine ending k' m') :
    (w.after act).setup = .of k' m' := by
  obtain ⟨hkernel, hmachine⟩ := World.after_of_ends hends
  rw [World.setup, hkernel, hmachine]

theorem World.step_after {act : KernelM Simulated Unit} {w : World Simulated}
    (hsteps : Simulated.Steps act w.kernel w.board.machine) : w.setup.Step (w.after act).setup := by
  obtain ⟨ending, k', m', hends, hstep⟩ := hsteps
  rw [World.setup_after_of_ends hends]
  exact hstep

theorem World.advance_after (command : Command) (w : World Simulated) :
    command.Advance w.setup (w.after (command.perform inferInstance)).setup := by
  cases command with
  | buildTables base =>
      exact .step (World.step_after ((Simulated.steps_buildTables _ _ base).map _))
  | playResume =>
      have hreturns : Returns (Command.perform inferInstance .playResume) w.kernel w.board.machine
          () w.kernel { w.board.machine with resumeNext := true } := fun console _ => ⟨console, rfl⟩
      exact .step (World.step_after (Simulated.steps_of_idle hreturns rfl))
  | operation call =>
      by_cases hcall : call = .enablePaging
      · subst hcall
        rcases Simulated.ends_enablePaging w.kernel w.board.machine with
          hsteps | ⟨hbuilt, hoff, k', m', hreturns, hsetup⟩
        · exact .step (World.step_after ((hsteps.map _).map _))
        · have hcall : Returns (Call.perform .enablePaging) w.kernel w.board.machine .pagingEnabled
              k' m' := hreturns.bind (returns_pure _)
          have hperform : Returns (Command.perform inferInstance (.operation .enablePaging))
              w.kernel w.board.machine () k' m' := hcall.bind (returns_pure ())
          rw [World.setup_after_of_ends hperform, hsetup]
          exact .enabled _ rfl hbuilt hoff
      · exact .step (World.step_after ((Simulated.steps_perform _ _ call hcall).map _))

/-! ### The invariant -/

/-- What is set up, is set up over what has to be there first. -/
structure Setup.Sound (s : Setup) : Prop where
  tablesBuilt : s.pagingEnabled = true → s.tablesBuilt = true
  root : s.root.isSome = s.pagingEnabled
  copies : s.copies ≠ #[] → s.pagingEnabled = true ∧ s.config.isMultiprocess = true
  replicated : s.replicated = true → s.pagingEnabled = true ∧ s.config.isMultiprocess = true
  restored : s.restored ≠ #[] → s.replicated = true
  active : s.active ≠ 0 → s.replicated = true

namespace Setup.Sound

variable {s s' : Setup} {command : Command}

theorem step (h : s.Sound) (hstep : s.Step s') : s'.Sound := by
  cases hstep with
  | idle => exact h
  | built base => exact { h with tablesBuilt := fun _ => rfl }
  | copied copies done hmulti hfirst henabled =>
      -- nothing was restored and nobody switched before the replication
      have hnone : ∀ {p : Prop}, (p → s.replicated = true) → p → done = true := by
        intro p hp hholds
        cases hfirst.symm.trans (hp hholds)
      exact {
        tablesBuilt := h.tablesBuilt
        root := h.root
        copies := fun _ => ⟨henabled, hmulti⟩
        replicated := fun _ => ⟨henabled, hmulti⟩
        restored := hnone h.restored
        active := hnone h.active }
  | chosen target hreplicated => exact { h with active := fun _ => hreplicated }
  | switched target ctx hreplicated =>
      exact { h with restored := fun _ => hreplicated, active := fun _ => hreplicated }

theorem enabled (h : s.Sound) (hbuilt : s.tablesBuilt = true) : s.enabled.Sound where
  tablesBuilt := fun _ => hbuilt
  root := rfl
  copies := fun hcopies => ⟨rfl, (h.copies hcopies).2⟩
  replicated := fun hreplicated => ⟨rfl, (h.replicated hreplicated).2⟩
  restored := h.restored
  active := h.active

theorem advance (h : s.Sound) (hadvance : command.Advance s s') : s'.Sound := by
  cases hadvance with
  | step hstep => exact h.step hstep
  | enabled hcommand hbuilt => exact h.enabled hbuilt

end Setup.Sound

/-! ### Commands one after the other -/

section Commands

variable {w : World Simulated} {command : Command} {commands : List Command}

theorem performAll_cons_of_ok {machine : Machine Simulated} {w' : World Simulated}
    (h : command.perform machine w = .ok () w') :
    performAll machine (command :: commands) w = performAll machine commands w' := by
  change EStateM.bind (command.perform machine) (fun _ => performAll machine commands) w = _
  rw [EStateM.bind, h]

theorem performAll_cons_of_error {machine : Machine Simulated} {stop : Stop} {w' : World Simulated}
    (h : command.perform machine w = .error stop w') :
    performAll machine (command :: commands) w = .error stop w' := by
  change EStateM.bind (command.perform machine) (fun _ => performAll machine commands) w = _
  rw [EStateM.bind, h]

theorem World.after_cons_of_ok {w' : World Simulated}
    (h : command.perform inferInstance w = .ok () w') :
    w.after (performAll inferInstance (command :: commands)) =
      w'.after (performAll inferInstance commands) := by
  rw [World.after, World.after, performAll_cons_of_ok h]

theorem World.after_cons_of_error {stop : Stop} {w' : World Simulated}
    (h : command.perform inferInstance w = .error stop w') :
    w.after (performAll inferInstance (command :: commands)) = w' :=
  World.after_of_error (performAll_cons_of_error h)

/-- What every command keeps holds after all of them. -/
theorem World.setup_after {holds : Setup → Prop}
    (hadvance : ∀ command s s', holds s → Command.Advance command s s' → holds s')
    (commands : List Command) (w : World Simulated) (hw : holds w.setup) :
    holds (w.after (performAll inferInstance commands)).setup := by
  induction commands generalizing w with
  | nil => exact hw
  | cons command commands ih =>
      have hnext := hadvance command _ _ hw (World.advance_after command w)
      cases hcommand : command.perform inferInstance w with
      | ok _ w' =>
          rw [World.after_of_ok hcommand] at hnext
          rw [World.after_cons_of_ok hcommand]
          exact ih w' hnext
      | error stop w' =>
          rw [World.after_of_error hcommand] at hnext
          rw [World.after_cons_of_error hcommand]
          exact hnext

/-- Commands that follow others start where these returned, if they did. -/
theorem World.after_append (commands more : List Command) (w : World Simulated) :
    (∃ w', performAll inferInstance commands w = .ok () w' ∧
      w.after (performAll inferInstance (commands ++ more)) =
        w'.after (performAll inferInstance more)) ∨
    w.after (performAll inferInstance (commands ++ more)) =
      w.after (performAll inferInstance commands) := by
  induction commands generalizing w with
  | nil => exact Or.inl ⟨w, rfl, rfl⟩
  | cons command commands ih =>
      rw [List.cons_append]
      cases hcommand : command.perform inferInstance w with
      | ok _ w' =>
          rw [performAll_cons_of_ok hcommand, World.after_cons_of_ok hcommand,
            World.after_cons_of_ok hcommand]
          exact ih w'
      | error stop w' =>
          rw [World.after_cons_of_error hcommand, World.after_cons_of_error hcommand]
          exact Or.inr rfl

/-! ### The directory is loaded once -/

/-- Turning paging on loads a directory only where paging is off. -/
theorem enablePaging_loadedOnce
    (hroot : w.kernel.pagingEnabled = false → w.board.machine.root = none) :
    @enablePaging Simulated Simulated.loadedOnce w = enablePaging w := by
  obtain ⟨⟨config, paging, tablesBuilt, pagingEnabled, contexts, active, replicated, hook, viewport,
    events⟩, ⟨⟨memory, root, interrupts, invalidated, flushes, copies, captures, restored, unmasked,
    resumeNext⟩, console⟩, tracing⟩ := w
  cases tablesBuilt with
  | false => rfl
  | true =>
      cases pagingEnabled with
      | true => rfl
      | false =>
          cases hroot rfl
          rfl

/-- No command loads a directory over another one. -/
theorem Command.perform_loadedOnce (hsound : w.setup.Sound) (command : Command) :
    command.perform Simulated.loadedOnce w = command.perform inferInstance w := by
  cases command with
  | buildTables base => rfl
  | playResume => rfl
  | operation call =>
      cases call with
      | enablePaging =>
          have hroot : w.kernel.pagingEnabled = false → w.board.machine.root = none := by
            intro hoff
            exact Option.isNone_iff_eq_none.mp
              (Option.isSome_eq_false_iff.mp (hsound.root.trans hoff))
          change EStateM.bind (EStateM.bind (@enablePaging Simulated Simulated.loadedOnce) _) _ w =
            EStateM.bind (EStateM.bind enablePaging _) _ w
          simp only [EStateM.bind, enablePaging_loadedOnce hroot]
      | switchTo target => rfl
      | mapPhysical phys => rfl
      | placeViewport base => rfl
      | replicate => rfl

theorem performAll_loadedOnce (hsound : w.setup.Sound) (commands : List Command) :
    performAll Simulated.loadedOnce commands w = performAll inferInstance commands w := by
  induction commands generalizing w with
  | nil => rfl
  | cons command commands ih =>
      have hsame := Command.perform_loadedOnce hsound command
      have hnext := hsound.advance (World.advance_after command w)
      cases hcommand : command.perform inferInstance w with
      | ok _ w' =>
          rw [World.after_of_ok hcommand] at hnext
          rw [performAll_cons_of_ok hcommand, performAll_cons_of_ok (hsame.trans hcommand)]
          exact ih hnext
      | error stop w' =>
          rw [performAll_cons_of_error hcommand, performAll_cons_of_error (hsame.trans hcommand)]

/-- Once a directory is loaded, it stays. -/
theorem World.root_after_of_enabled {directory : PhysAddr} (hon : w.kernel.pagingEnabled = true)
    (hroot : w.board.machine.root = some directory) (commands : List Command) :
    (w.after (performAll inferInstance commands)).board.machine.root = some directory := by
  have hkept : ∀ (command : Command) (s s' : Setup),
      (s.pagingEnabled = true ∧ s.root = some directory) → command.Advance s s' →
      s'.pagingEnabled = true ∧ s'.root = some directory := by
    rintro command s s' ⟨hon, hroot⟩ hadvance
    cases hadvance with
    | step hstep => exact ⟨hstep.pagingEnabled_eq.trans hon, hstep.root_eq.trans hroot⟩
    | enabled hcommand hbuilt hoff => cases hoff.symm.trans hon
  exact (World.setup_after hkept commands w ⟨hon, hroot⟩).2

/-- One of the commands turned paging on, over the tables that the kernel had then: with this
directory. -/
def World.LoadedBy (start : World Simulated) (commands : List Command) (directory : PhysAddr) :
    Prop :=
  ∃ before behind w, commands = before ++ .operation .enablePaging :: behind ∧
    performAll inferInstance before start = .ok () w ∧ w.kernel.pagingEnabled = false ∧
    w.kernel.paging.directoryAddress = directory

theorem World.LoadedBy.cons {w' : World Simulated} {directory : PhysAddr}
    (hcommand : command.perform inferInstance w = .ok () w')
    (h : w'.LoadedBy commands directory) : w.LoadedBy (command :: commands) directory := by
  obtain ⟨before, behind, reached, rfl, hbefore, hoff, hdirectory⟩ := h
  refine ⟨command :: before, behind, reached, rfl, ?_, hoff, hdirectory⟩
  rw [performAll_cons_of_ok hcommand]
  exact hbefore

/-- The first command is the one that turned paging on. -/
theorem World.loadedBy_first {directory : PhysAddr} (hoff : w.kernel.pagingEnabled = false)
    (hon : (w.after (command.perform inferInstance)).kernel.pagingEnabled = true)
    (hroot : (w.after (performAll inferInstance (command :: commands))).board.machine.root =
      some directory) :
    w.LoadedBy (command :: commands) directory := by
  obtain ⟨rfl, hsetup⟩ := (World.advance_after command w).eq_enabled hoff hon
  have hloaded := congrArg Setup.root hsetup
  refine ⟨[], commands, w, rfl, rfl, hoff, ?_⟩
  cases hcommand : Command.perform inferInstance (.operation .enablePaging) w with
  | ok _ w' =>
      rw [World.after_of_ok hcommand] at hon hloaded
      rw [World.after_cons_of_ok hcommand, World.root_after_of_enabled hon hloaded] at hroot
      exact Option.some.inj hroot
  | error stop w' =>
      rw [World.after_of_error hcommand] at hloaded
      rw [World.after_cons_of_error hcommand] at hroot
      exact Option.some.inj (hloaded.symm.trans hroot)

/-- What is loaded after all commands was loaded by one of them. -/
theorem World.loadedBy_of_root {directory : PhysAddr} (commands : List Command)
    (hsound : w.setup.Sound) (hoff : w.kernel.pagingEnabled = false)
    (hroot : (w.after (performAll inferInstance commands)).board.machine.root = some directory) :
    w.LoadedBy commands directory := by
  induction commands generalizing w with
  | nil =>
      have hsome := (congrArg Option.isSome hroot).symm.trans hsound.root
      cases hsome.trans hoff
  | cons command commands ih =>
      have hnext := hsound.advance (World.advance_after command w)
      by_cases hon : (w.after (command.perform inferInstance)).kernel.pagingEnabled = true
      · exact World.loadedBy_first hoff hon hroot
      · cases hcommand : command.perform inferInstance w with
        | ok _ w' =>
            rw [World.after_of_ok hcommand] at hnext hon
            rw [World.after_cons_of_ok hcommand] at hroot
            exact .cons hcommand (ih hnext (eq_false_of_ne_true hon) hroot)
        | error stop w' =>
            rw [World.after_of_error hcommand] at hnext hon
            rw [World.after_cons_of_error hcommand] at hroot
            exact absurd (hnext.root.symm.trans (congrArg Option.isSome hroot)) hon

end Commands

/-! ### Any order of commands -/

theorem Command.Advance.config_eq {command : Command} {s s' : Setup} (h : command.Advance s s') :
    s'.config = s.config := by
  cases h with
  | step hstep => exact hstep.config_eq
  | enabled => rfl

theorem Command.Advance.replicated_of {command : Command} {s s' : Setup}
    (h : command.Advance s s') (hreplicated : s.replicated = true) : s'.replicated = true := by
  cases h with
  | step hstep => exact hstep.replicated_of hreplicated
  | enabled => exact hreplicated

theorem Setup.sound_new (config : Config) (memory : Memory) (interrupts resumeNext : Bool) :
    (Setup.of { config := config }
      { memory := memory, interrupts := interrupts, resumeNext := resumeNext }).Sound where
  tablesBuilt := fun hon => nomatch hon
  root := rfl
  copies := fun hcopies => absurd rfl hcopies
  replicated := fun hreplicated => nomatch hreplicated
  restored := fun hrestored => absurd rfl hrestored
  active := fun hactive => absurd rfl hactive

/-- Replication is not undone. -/
theorem World.replicated_after_append {w : World Simulated} {commands : List Command}
    (hreplicated : (w.after (performAll inferInstance commands)).kernel.replicated = true)
    (more : List Command) :
    (w.after (performAll inferInstance (commands ++ more))).kernel.replicated = true := by
  rcases World.after_append commands more w with ⟨w', hcommands, happend⟩ | happend
  · rw [World.after_of_ok hcommands] at hreplicated
    rw [happend]
    exact @World.setup_after (fun s => s.replicated = true)
      (fun _ _ _ hholds hadvance => hadvance.replicated_of hholds) more w' hreplicated
  · rw [happend]
    exact hreplicated

/-- However a new kernel is set up, with whatever commands in whatever order. Paging is only on over
tables, and the machine was given a directory once, the one of the tables of that moment. A slot was
copied only with paging on and a second process there, and only after all slots were copied was a
context restored or another process made the active one. A command that comes too early panics and
leaves kernel and machine as they are. -/
theorem order_enforced (config : Config) (memory : Memory) (interrupts resumeNext : Bool)
    (console : Console) (tracing : Bool) (commands : List Command) :
    let start : World Simulated :=
      ⟨{ config := config },
        ⟨{ memory := memory, interrupts := interrupts, resumeNext := resumeNext }, console⟩,
        tracing⟩
    let reached := start.after (performAll inferInstance commands)
    let k := reached.kernel
    let m := reached.board.machine
    performAll Simulated.loadedOnce commands start = performAll inferInstance commands start ∧
    (k.pagingEnabled = true → k.tablesBuilt = true ∧
      ∃ directory, m.root = some directory ∧ start.LoadedBy commands directory) ∧
    (k.pagingEnabled = false → m.root = none) ∧
    (m.copies ≠ #[] ∨ k.replicated = true → k.pagingEnabled = true ∧ 2 ≤ config.processCount) ∧
    (m.restored ≠ #[] ∨ k.active ≠ 0 → k.replicated = true) ∧
    (k.replicated = true → ∀ more,
      (start.after (performAll inferInstance (commands ++ more))).kernel.replicated = true) ∧
    (k.tablesBuilt = false → Stops enablePaging k m (.panicked .tablesNotBuilt) k m) ∧
    (2 ≤ config.processCount → k.replicated = false → k.pagingEnabled = false →
      Stops replicate k m (.panicked .pagingNotEnabled) k m) ∧
    (2 ≤ config.processCount → k.replicated = false → ∀ target, target ≠ k.active →
      Stops (switchTo target) k m (.panicked (.notRunnable target)) k m) := by
  intro start reached k m
  have hstart : start.setup.Sound := Setup.sound_new config memory interrupts resumeNext
  have hsound : (Setup.of k m).Sound :=
    World.setup_after (fun _ _ _ hholds hadvance => hholds.advance hadvance) commands start hstart
  have hconfig : k.config = config :=
    @World.setup_after (fun s => s.config = config)
      (fun _ _ _ hholds hadvance => hadvance.config_eq.trans hholds) commands start rfl
  have hmulti : k.config.isMultiprocess = true ↔ 2 ≤ config.processCount := by
    rw [hconfig, Config.isMultiprocess, decide_eq_true_iff]
  refine ⟨performAll_loadedOnce hstart commands, ?_, ?_, ?_, ?_,
    World.replicated_after_append, stops_enablePaging_early, ?_, ?_⟩
  · intro hon
    obtain ⟨directory, hroot⟩ := Option.isSome_iff_exists.mp (hsound.root.trans hon)
    exact ⟨hsound.tablesBuilt hon, directory, hroot,
      World.loadedBy_of_root commands hstart rfl hroot⟩
  · intro hoff
    exact Option.isNone_iff_eq_none.mp (Option.isSome_eq_false_iff.mp (hsound.root.trans hoff))
  · rintro (hcopies | hreplicated)
    · exact (hsound.copies hcopies).imp_right hmulti.mp
    · exact (hsound.replicated hreplicated).imp_right hmulti.mp
  · rintro (hrestored | hactive)
    · exact hsound.restored hrestored
    · exact hsound.active hactive
  · intro hcount hfirst hoff
    exact stops_replicate_early (hmulti.mpr hcount) hfirst hoff
  · intro hcount hfirst target hne
    refine stops_switchTo_notRunnable ?_ ?_
    · rw [hmulti.mpr hcount, Bool.not_true, Bool.false_or, beq_eq_false_iff_ne]
      exact hne
    · rw [hfirst, Bool.not_false, Bool.or_true]

end SlotKernel

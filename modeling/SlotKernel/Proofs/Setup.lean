import SlotKernel.Proofs.Copies
import SlotKernel.Proofs.TableCalls

/-!
How far a kernel is set up. The setup is the part of a kernel and its machine that tells: what is
built, turned on and replicated, which process runs, and which directory, copies and contexts the
machine was given. `Setup.Step` lists the changes of a setup under the conditions in which they are
made, and every operation, started from any kernel at all and however it ends, makes one of them or
turns paging on.
-/

namespace SlotKernel

structure Setup where
  config : Config
  tablesBuilt : Bool
  pagingEnabled : Bool
  replicated : Bool
  active : Nat
  /-- Where the tables lie. -/
  directory : PhysAddr
  /-- The directory that the machine was given. -/
  root : Option PhysAddr
  copies : Array CopyRecord
  restored : Array Context

namespace Setup

def of (k : Kernel) (m : Simulated) : Setup :=
  ⟨k.config, k.tablesBuilt, k.pagingEnabled, k.replicated, k.active, k.paging.directoryAddress,
    m.root, m.copies, m.restored⟩

theorem of_withPaging {k : Kernel} {paging : PageTables} (hbase : paging.base = k.paging.base)
    (m : Simulated) : of (k.withPaging paging) m = of k m := by
  unfold of
  congr 1

/-- The setup once paging is on. -/
def enabled (s : Setup) : Setup :=
  { s with pagingEnabled := true, root := some s.directory }

/-- What an operation can do to a setup, short of turning paging on. -/
inductive Step : Setup → Setup → Prop where
  | idle (s : Setup) : Step s s
  | built (s : Setup) (base : PhysAddr) : Step s { s with tablesBuilt := true, directory := base }
  /-- Slots are copied, all of them or up to a copy that panics. -/
  | copied (s : Setup) (copies : Array CopyRecord) (done : Bool)
      (hmulti : s.config.isMultiprocess = true) (hfirst : s.replicated = false)
      (henabled : s.pagingEnabled = true) : Step s { s with copies := copies, replicated := done }
  /-- A process is made the active one, and its window cannot be moved. -/
  | chosen (s : Setup) (target : Nat) (hreplicated : s.replicated = true) :
      Step s { s with active := target }
  | switched (s : Setup) (target : Nat) (ctx : Context) (hreplicated : s.replicated = true) :
      Step s { s with active := target, restored := s.restored.push ctx }

section Step

variable {s s' : Setup} (h : s.Step s')

include h

theorem Step.config_eq : s'.config = s.config := by
  cases h <;> rfl

theorem Step.pagingEnabled_eq : s'.pagingEnabled = s.pagingEnabled := by
  cases h <;> rfl

theorem Step.root_eq : s'.root = s.root := by
  cases h <;> rfl

theorem Step.replicated_of (hreplicated : s.replicated = true) : s'.replicated = true := by
  cases h with
  | copied copies done hmulti hfirst => cases hfirst.symm.trans hreplicated
  | idle | built | chosen | switched => exact hreplicated

end Step

end Setup

namespace KernelM

/-! ### Ways through an operation that no kernel takes once it is up -/

variable {μ : Type} {k : Kernel} {m m₁ : μ}

theorem stops_outgoing (hactive : ¬ k.active < maxProcesses) :
    Stops (μ := μ) outgoing k m (.panicked (.noContextSlot k.active)) k m := by
  refine returns_kernel.bind ?_
  simp only [hactive, if_false]
  exact (stops_panic _).bind_stop

theorem stops_checkedContext {target : Nat} {error : ContextError}
    (hinvalid : (k.context target).validate k.config.window = .error error) :
    Stops (μ := μ) (checkedContext target) k m (.panicked (.badContext error)) k m := by
  rw [Kernel.context] at hinvalid
  refine returns_kernel.bind ?_
  simp only [hinvalid]
  refine (returns_log _).bind ?_
  refine (returns_log _).bind ?_
  exact stops_panic _

theorem stops_movedTables {move : WindowMove} {s : PageTables} {failure : Failure MoveError}
    (hmove : move.apply s = .error failure) (k : Kernel) (m : μ) :
    ∃ cause, Stops (liftM (Board.movedTables (μ := μ) move s)) k m (.panicked cause) k m := by
  have hboard : ∃ cause, ∀ console, ∃ console',
      Board.movedTables (μ := μ) move s ⟨m, console⟩ = .error (.panicked cause) ⟨m, console'⟩ := by
    rw [Board.movedTables, hmove]
    cases failure with
    | refused error => exact ⟨.windowMove error, fun _ => ⟨_, rfl⟩⟩
    | panicked cause => exact ⟨cause, fun _ => ⟨_, rfl⟩⟩
  obtain ⟨cause, hstops⟩ := hboard
  refine ⟨cause, fun console tracing => ?_⟩
  obtain ⟨console', hstop⟩ := hstops console
  refine ⟨console', ?_⟩
  change onBoard (Board.movedTables move s) _ = _
  simp only [onBoard, hstop]

section Machine

variable [Machine μ]

theorem stops_enablePaging_early (htables : k.tablesBuilt = false) :
    Stops enablePaging k m (.panicked .tablesNotBuilt) k m := by
  refine returns_kernel.bind ?_
  simp only [htables, Bool.not_false, if_true]
  refine (returns_log _).bind ?_
  exact (stops_panic _).bind_stop

theorem stops_replicate_early (hmulti : k.config.isMultiprocess = true)
    (hfirst : k.replicated = false) (hoff : k.pagingEnabled = false) :
    Stops replicate k m (.panicked .pagingNotEnabled) k m := by
  have hreplicable : Stops (μ := μ) replicable k m (.panicked .pagingNotEnabled) k m := by
    refine returns_kernel.bind ?_
    simp only [hmulti, hfirst, hoff, Bool.not_true, Bool.not_false, Bool.false_eq_true, if_false,
      if_true]
    refine (returns_log _).bind ?_
    exact (stops_panic _).bind_stop
  rw [replicate_eq]
  exact hreplicable.bind_stop

/-- Before paging is on, there are no cached mappings to drop. -/
theorem returns_placeViewport_early {base : VirtAddr} {view : Viewport} {paging : PageTables}
    (hoff : k.pagingEnabled = false)
    (hplace : Viewport.place k.paging base k.config.window = .ok (view, paging)) :
    Returns (placeViewport base) k m (.ok ()) { k.withPaging paging with viewport := some view }
      m := by
  refine returns_kernel.bind ?_
  rw [hplace]
  refine (returns_modifyKernel _).bind ?_
  simp only [if_neg (ne_true_of_eq_false hoff)]
  exact (returns_modifyKernel _).bind ((returns_log _).bind (returns_pure _))

/-- A window that cannot be moved panics after the target was made the active process. -/
theorem stops_moveOver {target : Nat} {limit : UInt32} {ctx : Context}
    {failure : Failure MoveError}
    (hand : Machine.handOver ⟨k.moveTo target limit, k.config.invalidation, ctx⟩ m =
      .ok ⟨k.moveTo target limit, k.config.invalidation, ctx⟩ m₁)
    (hmove : (k.moveTo target limit).apply k.paging = .error failure) :
    ∃ cause, Stops (moveOver k.active target limit ctx) k m (.panicked cause)
      (k.movedTo target k.paging) m₁ := by
  obtain ⟨cause, htables⟩ := stops_movedTables hmove (k.movedTo target k.paging) m₁
  refine ⟨cause, ends_moveOver hand ?_⟩
  refine returns_kernel.bind ?_
  exact htables.bind_stop

end Machine

end KernelM

/-! ### The setup after an operation -/

namespace Simulated

open KernelM

/-- However the operation ends, it has made one step of the setup. -/
def Steps {α : Type} (act : KernelM Simulated α) (k : Kernel) (m : Simulated) : Prop :=
  ∃ ending k' m', Ends act k m ending k' m' ∧ (Setup.of k m).Step (Setup.of k' m')

section Steps

variable {α β : Type} {act : KernelM Simulated α} {k k' : Kernel} {m m' : Simulated}
  {ending : Except Stop α}

theorem steps_of_ends (hends : Ends act k m ending k' m')
    (hstep : (Setup.of k m).Step (Setup.of k' m')) : Steps act k m :=
  ⟨ending, k', m', hends, hstep⟩

/-- An operation that touches nothing of the setup. -/
theorem steps_of_idle (hends : Ends act k m ending k' m') (hsetup : Setup.of k' m' = Setup.of k m) :
    Steps act k m :=
  ⟨ending, k', m', hends, hsetup ▸ .idle _⟩

theorem Steps.map (h : Steps act k m) (f : α → β) : Steps (act >>= fun a => pure (f a)) k m := by
  obtain ⟨ending, k', m', hends, hstep⟩ := h
  cases ending with
  | ok a => exact steps_of_ends (hends.bind (returns_pure (f a))) hstep
  | error stop => exact steps_of_ends hends.bind_stop hstep

end Steps

variable (k : Kernel) (m : Simulated)

theorem steps_buildTables (base : PhysAddr) : Steps (buildTables base) k m := by
  cases hbuild : PageTables.build base k.config.processCount with
  | error cause =>
      have hstops : Stops (buildTables base) k m (.panicked cause) k m :=
        returns_kernel.bind (stops_checked hbuild).bind_stop
      exact steps_of_idle hstops rfl
  | ok result => exact steps_of_ends (returns_buildTables hbuild) (.built _ result.1.base)

/-- Paging is turned on once, and over tables. -/
theorem ends_enablePaging :
    Steps enablePaging k m ∨
      k.tablesBuilt = true ∧ k.pagingEnabled = false ∧ ∃ k' m',
        Returns enablePaging k m () k' m' ∧ Setup.of k' m' = (Setup.of k m).enabled := by
  cases htables : k.tablesBuilt with
  | false => exact Or.inl (steps_of_idle (stops_enablePaging_early htables) rfl)
  | true =>
      cases hpaging : k.pagingEnabled with
      | true => exact Or.inl (steps_of_idle (returns_enablePaging_again htables hpaging) rfl)
      | false =>
          exact Or.inr ⟨rfl, rfl, _, _, KernelM.returns_enablePaging htables hpaging rfl, rfl⟩

theorem steps_placeViewport (base : VirtAddr) : Steps (placeViewport base) k m := by
  rcases Viewport.place_cases k.paging base k.config.window with ⟨error, hplace⟩ | ⟨-, hplace⟩
  · exact steps_of_idle (returns_placeViewport_refused hplace) rfl
  · have hbase := k.paging.base_edit (Viewport.mk base).placeEdits
    have hsetup := Setup.of_withPaging hbase m
    cases hpaging : k.pagingEnabled with
    | false => exact steps_of_idle (returns_placeViewport_early hpaging hplace) hsetup
    | true =>
        exact steps_of_idle (returns_placeViewport hpaging hplace) hsetup

theorem steps_mapPhysical (phys : PhysAddr) : Steps (mapPhysical phys) k m := by
  cases hview : k.viewport with
  | none => exact steps_of_idle (returns_mapPhysical_noViewport hview) rfl
  | some view =>
      cases hmap : view.map k.paging phys with
      | error error =>
          exact steps_of_idle (returns_mapPhysical_refused hview hmap) rfl
      | ok result =>
          cases Viewport.eq_edit_of_map hmap
          have hbase := k.paging.base_edit (view.mapEdits phys)
          have hsetup := Setup.of_withPaging hbase m
          exact steps_of_idle (returns_mapPhysical hview hmap) hsetup

/-! ### Replication -/

/-- Copying a slot changes nothing but memory and the record of copies, also where it panics. -/
theorem ends_copySlot (window : Window) (slot : Nat) :
    ∃ ending events memory copies, Ends (copySlot window slot) k m ending
      { k with events := events } { m with memory := memory, copies := copies } := by
  cases hplace : slotStart window slot with
  | error cause =>
      exact ⟨_, k.events, m.memory, m.copies, (stops_checked hplace).bind_stop⟩
  | ok start =>
      have hcopy := copyToPhysical_eq start window.start window.byteCount m
      cases hmemory : m.memory.copy start.val.toNat window.start.val.toNat
          window.byteCount.toNat with
      | error cause =>
          rw [hmemory] at hcopy
          have hslot : Stops (copySlot window slot) k m (.panicked cause) k m := by
            rw [copySlot_eq]
            refine (returns_copyStart hplace).bind ?_
            exact (stops_machine hcopy).bind_stop
          exact ⟨_, k.events, m.memory, m.copies, hslot⟩
      | ok memory =>
          rw [hmemory] at hcopy
          have hslot : Returns (copySlot window slot) k m ()
              (k.pushEvent (.slotReplicated slot start window.byteCount))
              { m with
                memory := memory
                copies := m.copies.push ⟨start, window.start, window.byteCount⟩ } := by
            rw [copySlot_eq]
            refine (returns_copyStart hplace).bind ?_
            exact (returns_machine hcopy).bind (returns_pushEvent _)
          exact ⟨_, _, memory, _, hslot⟩

theorem ends_copySlots (window : Window) (slots : List Nat) :
    ∃ ending events memory copies, Ends (slots.forM (copySlot window)) k m ending
      { k with events := events } { m with memory := memory, copies := copies } := by
  induction slots generalizing k m with
  | nil => exact ⟨.ok (), k.events, m.memory, m.copies, returns_pure _⟩
  | cons slot slots ih =>
      obtain ⟨ending, events, memory, copies, hslot⟩ := ends_copySlot k m window slot
      cases ending with
      | error stop => exact ⟨.error stop, events, memory, copies, hslot.forM_cons_stop⟩
      | ok _ =>
          obtain ⟨ending, events', memory', copies', hslots⟩ :=
            ih { k with events := events } { m with memory := memory, copies := copies }
          exact ⟨ending, events', memory', copies', hslot.forM_cons hslots⟩

theorem ends_fillSlots_setup (hfirst : k.replicated = false) (seed : Context) :
    ∃ ending k' m' copies done, Ends (fillSlots seed) k m ending k' m' ∧
      Setup.of k' m' = { Setup.of k m with copies := copies, replicated := done } := by
  obtain ⟨ending, events, memory, copies, hcopies⟩ :=
    ends_copySlots k m k.config.window (List.range' 1 (k.config.processCount - 1))
  cases ending with
  | error stop =>
      have hfill : Stops (fillSlots seed) k m stop { k with events := events }
          { m with memory := memory, copies := copies } := by
        rw [fillSlots_eq]
        exact returns_kernel.bind hcopies.bind_stop
      refine ⟨_, _, _, copies, false, hfill, ?_⟩
      rw [← hfirst]
      rfl
  | ok _ =>
      have hseed := @returns_seedAll Simulated { k with events := events }
        { m with memory := memory, copies := copies } seed
      have hfill : Returns (fillSlots seed) k m (.forked (k.config.processCount - 1))
          (k.seeded seed (events.push (.contextsSeeded (k.config.processCount - 1))))
          { m with memory := memory, copies := copies } := by
        rw [fillSlots_eq]
        exact returns_kernel.bind (hcopies.bind hseed)
      exact ⟨_, _, _, copies, true, hfill, rfl⟩

theorem steps_replicate : Steps replicate k m := by
  cases hmulti : k.config.isMultiprocess with
  | false => exact steps_of_idle (returns_replicate_skipped hmulti) rfl
  | true =>
      cases hfirst : k.replicated with
      | true => exact steps_of_idle (returns_replicate_alreadyDone hmulti hfirst) rfl
      | false =>
          cases hpaging : k.pagingEnabled with
          | false => exact steps_of_idle (stops_replicate_early hmulti hfirst hpaging) rfl
          | true =>
              cases hresume : m.resumeNext with
              | true =>
                  exact steps_of_idle (returns_replicate_resumed hmulti hfirst hpaging
                    (capture_resumed hresume)) rfl
              | false =>
                  cases hctx : capturedContext (m.captures + 1) with
                  | error cause =>
                      exact steps_of_idle (stops_replicate_capture hmulti hfirst hpaging
                        (capture_panicked hresume hctx)) rfl
                  | ok seed =>
                      obtain ⟨ending, k', m', copies, done, hfill, hsetup⟩ :=
                        ends_fillSlots_setup k m.captured hfirst seed
                      refine steps_of_ends (KernelM.ends_replicate hmulti hfirst hpaging
                        (capture_saved hresume hctx) hfill) ?_
                      rw [hsetup]
                      exact .copied _ copies done hmulti hfirst hpaging

/-! ### Switching -/

/-- The way to the target: its context may be refused, and so may the move of the window. -/
theorem ends_arrive (target : Nat) (limit : UInt32) (ctx : Context)
    (hmasked : m.interrupts = false) :
    (∃ cause k', Stops (arrive k.active target limit ctx) k m (.panicked cause) k' m ∧
      (Setup.of k' m = Setup.of k m ∨ Setup.of k' m = { Setup.of k m with active := target })) ∨
    ∃ paging range request, paging.base = k.paging.base ∧
      Returns (arrive k.active target limit ctx) k m (range, request)
        ((k.saved ctx).movedTo target paging) m := by
  cases hvalid : ((k.saved ctx).context target).validate k.config.window with
  | error error =>
      refine Or.inl ⟨.badContext error, k.saved ctx, ?_, Or.inl rfl⟩
      refine (returns_modifyKernel _).bind ?_
      refine (returns_trace _).bind ?_
      exact (stops_checkedContext hvalid).bind_stop
  | ok _ =>
      cases hmove : (k.moveTo target limit).apply k.paging with
      | ok result =>
          cases WindowMove.eq_edit_of_apply hmove
          exact Or.inr ⟨_, _, _, PageTables.base_edit k.paging _,
            returns_arrive hvalid (handOver_eq hmasked _) hmove⟩
      | error failure =>
          obtain ⟨cause, hmoved⟩ := @stops_moveOver Simulated (k.saved ctx) m m _ target limit
            ((k.saved ctx).context target) failure (handOver_eq hmasked _) hmove
          have harrive : Stops (arrive k.active target limit ctx) k m (.panicked cause)
              ((k.saved ctx).movedTo target k.paging) m := by
            refine (returns_modifyKernel _).bind ?_
            refine (returns_trace _).bind ?_
            exact (returns_checkedContext hvalid).bind hmoved
          exact Or.inl ⟨cause, _, harrive, Or.inr rfl⟩

/-- A departure under the mask, from a kernel that is replicated. -/
theorem steps_depart (target : Nat) (limit : UInt32) (hmasked : m.interrupts = false)
    (hreplicated : k.replicated = true) : Steps (depart target limit) k m := by
  by_cases hactive : k.active < maxProcesses
  · cases hresume : m.resumeNext with
    | true => exact steps_of_idle (returns_depart_resumed hactive (capture_resumed hresume)) rfl
    | false =>
        cases hctx : capturedContext (m.captures + 1) with
        | error cause =>
            exact steps_of_idle (stops_depart_capture hactive (capture_panicked hresume hctx)) rfl
        | ok ctx =>
            have hcapture := capture_saved hresume hctx
            rcases ends_arrive k m.captured target limit ctx hmasked with
              ⟨cause, k', harrive, hsetup⟩ | ⟨paging, range, request, hbase, harrive⟩
            · have hdepart : Stops (depart target limit) k m (.panicked cause) k' m.captured := by
                rw [depart_eq]
                refine (returns_outgoing hactive).bind ?_
                refine (returns_machine hcapture).bind ?_
                exact harrive.bind_stop
              refine steps_of_ends hdepart ?_
              rcases hsetup with hsetup | hsetup
              · rw [hsetup]
                exact .idle _
              · rw [hsetup]
                exact .chosen _ target hreplicated
            · have hdrop := @returns_invalidate m.captured ((k.saved ctx).movedTo target paging)
                hmasked range request.invalidation
              have hleave := ends_leave hdrop (returns_machine (restore_eq _ request.context))
              refine steps_of_ends (ends_depart hactive hcapture harrive hleave) ?_
              have hstep := Setup.Step.switched (Setup.of k m) target request.context hreplicated
              rw [← Setup.of_withPaging hbase] at hstep ⊢
              cases hinvalidation : request.invalidation <;> exact hstep
  · have hdepart : Stops (depart target limit) k m (.panicked (.noContextSlot k.active)) k m := by
      rw [depart_eq]
      exact (stops_outgoing hactive).bind_stop
    exact steps_of_idle hdepart rfl

theorem returns_settle (outcome : SwitchOutcome) :
    ∃ events, Returns (settle outcome) k m outcome { k with events := events } m := by
  cases outcome with
  | resumed => exact ⟨_, returns_settle_resumed⟩
  | unchanged | transferred => exact ⟨k.events, returns_pure _⟩

theorem steps_switchTo (target : Nat) : Steps (switchTo target) k m := by
  cases hskip : !k.config.isMultiprocess || target == k.active with
  | true => exact steps_of_idle (returns_switchTo_unchanged hskip) rfl
  | false =>
      cases hnot : decide (k.config.processCount ≤ target) || !k.replicated with
      | true => exact steps_of_idle (stops_switchTo_notRunnable hskip hnot) rfl
      | false =>
          have hreplicated : k.replicated = true := by
            rw [Bool.or_eq_false_iff, Bool.not_eq_false'] at hnot
            exact hnot.2
          obtain ⟨limit, hlimit, -⟩ := k.config.identityMappedPages_eq
          obtain ⟨ending, k', m', hdepart, hstep⟩ :=
            steps_depart k m.masked target limit rfl hreplicated
          cases ending with
          | error stop =>
              exact steps_of_ends (stops_switchTo hskip hnot hlimit
                (stops_withoutInterrupts (mask_eq m) hdepart)) hstep
          | ok outcome =>
              have hunmask : Machine.unmask m.interrupts m' =
                .ok () { m' with interrupts := m.interrupts } := rfl
              obtain ⟨events, hsettle⟩ :=
                returns_settle k' { m' with interrupts := m.interrupts } outcome
              have hswitch : Returns (switchTo target) k m outcome { k' with events := events }
                  { m' with interrupts := m.interrupts } := by
                rw [switchTo_eq]
                refine (returns_approach_some hskip hnot hlimit).bind ?_
                exact (returns_withoutInterrupts (mask_eq m) hdepart hunmask).bind hsettle
              exact steps_of_ends hswitch hstep

/-- Every other call makes one step. -/
theorem steps_perform (call : Call) (hcall : call ≠ .enablePaging) : Steps call.perform k m := by
  cases call with
  | switchTo target => exact (steps_switchTo k m target).map _
  | mapPhysical phys => exact (steps_mapPhysical k m phys).map _
  | placeViewport base => exact (steps_placeViewport k m base).map _
  | enablePaging => exact absurd rfl hcall
  | replicate => exact (steps_replicate k m).map _

end Simulated

end SlotKernel

import SlotKernel.Proofs.Setup

/-!
What a run that returned says about its parts, on any machine. `Ends` tells how an operation ends
from what its steps do; the lemmas here go the other way, from the answer of an operation to the one
way through it that gives this answer.
-/

namespace SlotKernel

/-- The log after some events, as far as there is room for them. -/
def EventLog.pushAll (log : EventLog) (events : List Event) : EventLog :=
  events.foldl EventLog.push log

theorem EventLog.pushAll_cons (log : EventLog) (event : Event) (events : List Event) :
    log.pushAll (event :: events) = (log.push event).pushAll events :=
  List.foldl_cons

theorem EventLog.pushAll_append (log : EventLog) (first second : List Event) :
    log.pushAll (first ++ second) = (log.pushAll first).pushAll second :=
  List.foldl_append

namespace Config

variable (config : Config)

/-- What the copy to a slot leaves in the log. -/
def copyEvent (slot : Nat) : Event :=
  .slotReplicated slot (config.slotCopy slot).target (config.slotCopy slot).count

/-- What a replication leaves in the log. -/
def forkEvents : List Event :=
  (List.range' 1 (config.processCount - 1)).map config.copyEvent ++
    [.contextsSeeded (config.processCount - 1)]

/-- What a boot leaves in the log until paging is on. -/
def setupEvents (base : PhysAddr) : List Event :=
  [.tablesBuilt ((256 * (config.processCount + 1) + 1023) / 1024)
      (UInt32.ofNat (256 * (config.processCount + 1))),
    .pagingEnabled base]

/-- What a boot leaves in the log. -/
def bootEvents (base : PhysAddr) : List Event :=
  config.setupEvents base ++ if 2 ≤ config.processCount then config.forkEvents else []

end Config

namespace KernelM

variable {μ : Type}

theorem of_liftM_eq_ok {α : Type} {act : Run μ α} {a : α} {w w' : World μ}
    (h : (liftM act : KernelM μ α) w = .ok a w') :
    act w.board.machine = .ok a w'.board.machine ∧ w'.kernel = w.kernel := by
  cases hact : act w.board.machine with
  | ok b m' =>
      obtain ⟨hb, hkernel, hmachine⟩ := (returns_machine hact).eq_of_ok rfl rfl h
      cases hb
      rw [hmachine]
      exact ⟨rfl, hkernel⟩
  | error stop m' =>
      obtain ⟨hstop, -⟩ := (stops_machine hact).eq_of_ok rfl rfl h
      cases hstop

theorem of_modifyKernel_eq_ok {change : Kernel → Kernel} {w w' : World μ}
    (h : modifyKernel change w = .ok () w') : w'.kernel = change w.kernel :=
  ((returns_modifyKernel change).eq_of_ok rfl rfl h).2.1

theorem of_log_eq_ok {change : Console → Console} {w w' : World μ}
    (h : (HasConsole.onConsole change : KernelM μ Unit) w = .ok () w') : w'.kernel = w.kernel :=
  ((returns_log change).eq_of_ok rfl rfl h).2.1

theorem of_outgoing_eq_ok {source : Nat} {w w' : World μ} (h : outgoing w = .ok source w') :
    w'.kernel = w.kernel ∧ w'.board.machine = w.board.machine := by
  by_cases hactive : w.kernel.active < maxProcesses
  · exact ((returns_outgoing hactive).eq_of_ok rfl rfl h).2
  · obtain ⟨hstop, -⟩ := (stops_outgoing hactive).eq_of_ok rfl rfl h
    cases hstop

theorem of_settle_eq_resumed {outcome : SwitchOutcome} {w w' : World μ}
    (h : settle outcome w = .ok .resumed w') :
    outcome = .resumed ∧ w'.kernel = w.kernel.pushEvent (.taskResumed w.kernel.active) ∧
      w'.board.machine = w.board.machine := by
  cases outcome with
  | resumed => exact ⟨rfl, (returns_settle_resumed.eq_of_ok rfl rfl h).2⟩
  | unchanged => cases h
  | transferred => cases h

theorem of_copyStart_eq_ok {window : Window} {slot : Nat} {start : PhysAddr} {w w' : World μ}
    (h : copyStart window slot w = .ok start w') :
    slotStart window slot = .ok start ∧ w'.kernel = w.kernel := by
  cases hplace : slotStart window slot with
  | error cause =>
      have hstops : Stops (copyStart window slot) w.kernel w.board.machine (.panicked cause)
          w.kernel w.board.machine := (stops_checked hplace).bind_stop
      cases (hstops.eq_of_ok rfl rfl h).1
  | ok found =>
      obtain ⟨hfound, hkernel, -⟩ := (returns_copyStart hplace).eq_of_ok rfl rfl h
      cases hfound
      exact ⟨rfl, hkernel⟩

theorem of_buildTables_eq_ok {base : PhysAddr} {summary : BuildSummary} {w w' : World μ}
    (h : buildTables base w = .ok summary w') :
    ∃ built, PageTables.build base w.kernel.config.processCount = .ok (built, summary) ∧
      w'.kernel = w.kernel.withTables built summary := by
  cases hbuild : PageTables.build base w.kernel.config.processCount with
  | error cause =>
      have hstops : Stops (buildTables base) w.kernel w.board.machine (.panicked cause) w.kernel
          w.board.machine := returns_kernel.bind (stops_checked hbuild).bind_stop
      cases (hstops.eq_of_ok rfl rfl h).1
  | ok result =>
      obtain ⟨hsummary, hkernel, -⟩ := (returns_buildTables hbuild).eq_of_ok rfl rfl h
      cases hsummary
      exact ⟨result.1, rfl, hkernel⟩

variable [Machine μ]

theorem eq_transferred_of_leave {range : PageRange} {invalidation : Invalidation} {ctx : Context}
    {outcome : SwitchOutcome} {w w' : World μ}
    (h : leave range invalidation ctx w = .ok outcome w') : outcome = .transferred := by
  obtain ⟨_, _, -, h⟩ := Run.exists_of_bind_eq_ok h
  obtain ⟨_, _, -, h⟩ := Run.exists_of_bind_eq_ok h
  cases h
  rfl

/-- A departure that comes back because a context was restored has done nothing else. -/
theorem of_depart_eq_resumed {target : Nat} {limit : UInt32} {w w' : World μ}
    (h : depart target limit w = .ok .resumed w') :
    Machine.capture w.board.machine = .ok .resumed w'.board.machine ∧ w'.kernel = w.kernel := by
  rw [depart_eq] at h
  obtain ⟨source, w₁, houtgoing, h⟩ := Run.exists_of_bind_eq_ok h
  obtain ⟨answer, w₂, hcapture, h⟩ := Run.exists_of_bind_eq_ok h
  obtain ⟨hkernel, hmachine⟩ := of_outgoing_eq_ok houtgoing
  obtain ⟨hanswer, hkernel'⟩ := of_liftM_eq_ok hcapture
  cases answer with
  | resumed =>
      cases h
      rw [← hmachine]
      exact ⟨hanswer, hkernel'.trans hkernel⟩
  | saved ctx =>
      obtain ⟨_, _, -, hleave⟩ := Run.exists_of_bind_eq_ok h
      cases eq_transferred_of_leave hleave

theorem of_withoutInterrupts_eq_ok {α : Type} {act : KernelM μ α} {a : α} {w w' : World μ}
    (h : withoutInterrupts act w = .ok a w') :
    ∃ was w₁ w₂, Machine.mask w.board.machine = .ok was w₁.board.machine ∧
      w₁.kernel = w.kernel ∧ act w₁ = .ok a w₂ ∧
        Machine.unmask was w₂.board.machine = .ok () w'.board.machine ∧
          w'.kernel = w₂.kernel := by
  obtain ⟨was, w₁, hmask, h⟩ := Run.exists_of_bind_eq_ok h
  obtain ⟨b, w₂, hact, h⟩ := Run.exists_of_bind_eq_ok h
  obtain ⟨_, w₃, hunmask, h⟩ := Run.exists_of_bind_eq_ok h
  cases h
  obtain ⟨hmask, hkernel⟩ := of_liftM_eq_ok hmask
  obtain ⟨hunmask, hkernel'⟩ := of_liftM_eq_ok hunmask
  exact ⟨was, w₁, w₂, hmask, hkernel, hact, hunmask, hkernel'⟩

/-- A switch that comes back as `resumed` was masked around a capture that answered so, and it notes
the active process. -/
theorem of_switchTo_eq_resumed {target : Nat} {w w' : World μ}
    (h : switchTo target w = .ok .resumed w') :
    ∃ (was : Bool) (m₁ m₂ : μ), Machine.mask w.board.machine = .ok was m₁ ∧
      Machine.capture m₁ = .ok .resumed m₂ ∧ Machine.unmask was m₂ = .ok () w'.board.machine ∧
        w'.kernel = w.kernel.pushEvent (.taskResumed w.kernel.active) := by
  by_cases hskip : (!w.kernel.config.isMultiprocess || target == w.kernel.active) = true
  · obtain ⟨houtcome, -⟩ := (returns_switchTo_unchanged hskip).eq_of_ok rfl rfl h
    cases houtcome
  rw [Bool.not_eq_true] at hskip
  by_cases hnot : (decide (w.kernel.config.processCount ≤ target) || !w.kernel.replicated) = true
  · obtain ⟨hstop, -⟩ := (stops_switchTo_notRunnable hskip hnot).eq_of_ok rfl rfl h
    cases hstop
  rw [Bool.not_eq_true] at hnot
  obtain ⟨limit, hlimit, -⟩ := w.kernel.config.identityMappedPages_eq
  rw [switchTo_eq] at h
  obtain ⟨bound, w₁, happroach, h⟩ := Run.exists_of_bind_eq_ok h
  obtain ⟨hbound, hkernel, hmachine⟩ :=
    (returns_approach_some hskip hnot hlimit).eq_of_ok rfl rfl happroach
  cases hbound
  obtain ⟨outcome, w₂, hdepart, hsettle⟩ := Run.exists_of_bind_eq_ok h
  obtain ⟨rfl, hkernel', hmachine'⟩ := of_settle_eq_resumed hsettle
  obtain ⟨was, w₃, w₄, hmask, hkernel₃, hdepart, hunmask, hkernel₂⟩ :=
    of_withoutInterrupts_eq_ok hdepart
  obtain ⟨hcapture, hkernel₄⟩ := of_depart_eq_resumed hdepart
  refine ⟨was, w₃.board.machine, w₄.board.machine, hmachine ▸ hmask, hcapture,
    hmachine' ▸ hunmask, ?_⟩
  calc w'.kernel
    _ = w₂.kernel.pushEvent (.taskResumed w₂.kernel.active) := hkernel'
    _ = w.kernel.pushEvent (.taskResumed w.kernel.active) := by
      rw [hkernel₂, hkernel₄, hkernel₃, hkernel]

/-! ### Setting up paging -/

theorem of_enablePaging_eq_ok {w w' : World μ} (htables : w.kernel.tablesBuilt = true)
    (hoff : w.kernel.pagingEnabled = false) (h : enablePaging w = .ok () w') :
    w'.kernel = w.kernel.withPagingOn := by
  cases hactivate : Machine.activatePaging w.kernel.paging.directoryAddress w.board.machine with
  | ok _ m' => exact ((returns_enablePaging htables hoff hactivate).eq_of_ok rfl rfl h).2.1
  | error stop m' => cases ((stops_enablePaging htables hoff hactivate).eq_of_ok rfl rfl h).1

/-! ### Placing the viewport -/

theorem of_invalidatePages_eq_ok {pages : List Page} {w w' : World μ}
    (h : invalidatePages pages w = .ok () w') : w'.kernel = w.kernel := by
  induction pages generalizing w with
  | nil =>
      cases h
      rfl
  | cons page pages ih =>
      obtain ⟨w₁, hpage, hrest⟩ := Run.exists_of_forM_cons_eq_ok h
      rw [ih hrest, (of_liftM_eq_ok hpage).2]

/-- To place a viewport changes the tables and the viewport and nothing else. -/
theorem of_placeViewport_eq_ok {base : VirtAddr} {answer : Except MappingError Unit}
    {w w' : World μ} (h : placeViewport base w = .ok answer w') :
    ∃ paging viewport, w'.kernel = { w.kernel with paging := paging, viewport := viewport } := by
  cases hplace : Viewport.place w.kernel.paging base w.kernel.config.window with
  | error error =>
      have hsame := ((returns_placeViewport_refused hplace).eq_of_ok rfl rfl h).2.1
      exact ⟨_, _, hsame⟩
  | ok result =>
      obtain ⟨view, paging⟩ := result
      refine ⟨paging, some view, ?_⟩
      cases hpaging : w.kernel.pagingEnabled with
      | false => exact ((returns_placeViewport_early hpaging hplace).eq_of_ok rfl rfl h).2.1
      | true =>
          obtain ⟨_, _, hkernel, h⟩ := Run.exists_of_bind_eq_ok h
          cases hkernel
          simp only [hplace, hpaging, if_true] at h
          obtain ⟨_, w₁, hmove, h⟩ := Run.exists_of_bind_eq_ok h
          obtain ⟨_, w₂, hdrop, h⟩ := Run.exists_of_bind_eq_ok h
          obtain ⟨_, w₃, hview, h⟩ := Run.exists_of_bind_eq_ok h
          obtain ⟨_, _, hlog, h⟩ := Run.exists_of_bind_eq_ok h
          cases h
          obtain ⟨_, _, _, -, hmasked, hpages, -, hunmasked⟩ := of_withoutInterrupts_eq_ok hdrop
          calc w'.kernel
            _ = { w₂.kernel with viewport := some view } := by
              rw [of_log_eq_ok hlog, of_modifyKernel_eq_ok hview]
            _ = { w₁.kernel with viewport := some view } := by
              rw [hunmasked, of_invalidatePages_eq_ok hpages, hmasked]
            _ = { w.kernel with paging := paging, viewport := some view } := by
              rw [of_modifyKernel_eq_ok hmove]

theorem of_offerViewport_eq_ok {base : VirtAddr} {w w' : World μ}
    (h : offerViewport base w = .ok () w') :
    ∃ paging viewport, w'.kernel = { w.kernel with paging := paging, viewport := viewport } := by
  obtain ⟨answer, w₁, hplace, h⟩ := Run.exists_of_bind_eq_ok h
  have hsame : w'.kernel = w₁.kernel := by
    cases answer with
    | ok _ =>
        cases h
        rfl
    | error _ =>
        obtain ⟨_, _, hlog, h⟩ := Run.exists_of_bind_eq_ok h
        rw [of_log_eq_ok h, of_log_eq_ok hlog]
  rw [hsame]
  exact of_placeViewport_eq_ok hplace

/-! ### Replicating -/

/-- A copy that was made has one more event to show for it. -/
theorem of_copySlot_eq_ok {config : Config} {slot : Nat} (hslot : slot < config.processCount)
    {w w' : World μ} (h : copySlot config.window slot w = .ok () w') :
    w'.kernel = w.kernel.pushEvent (config.copyEvent slot) := by
  rw [copySlot_eq] at h
  obtain ⟨start, w₁, hstart, h⟩ := Run.exists_of_bind_eq_ok h
  obtain ⟨_, w₂, hcopy, hpush⟩ := Run.exists_of_bind_eq_ok h
  obtain ⟨hplace, hkernel⟩ := of_copyStart_eq_ok hstart
  obtain ⟨other, hother, hvalue⟩ := slotStart_eq_ok config hslot
  cases hother.symm.trans hplace
  rw [((returns_pushEvent _).eq_of_ok rfl rfl hpush).2.1, (of_liftM_eq_ok hcopy).2, hkernel,
    Config.copyEvent, ← config.slotCopy_eq hvalue]

theorem of_copySlots_eq_ok {config : Config} {slots : List Nat}
    (hslots : ∀ slot ∈ slots, slot < config.processCount) {w w' : World μ}
    (h : slots.forM (copySlot config.window) w = .ok () w') :
    w'.kernel =
      { w.kernel with events := w.kernel.events.pushAll (slots.map config.copyEvent) } := by
  induction slots generalizing w with
  | nil =>
      cases h
      rfl
  | cons slot slots ih =>
      obtain ⟨w₁, hslot, hrest⟩ := Run.exists_of_forM_cons_eq_ok h
      rw [ih (fun other hmem => hslots other (List.mem_cons_of_mem slot hmem)) hrest,
        of_copySlot_eq_ok (hslots slot List.mem_cons_self) hslot, List.map_cons,
        EventLog.pushAll_cons, Kernel.pushEvent]

/-- Slots that were filled show in the events, and so does the seeding. -/
theorem of_fillSlots_eq_ok {seed : Context} {outcome : ReplicateOutcome} {w w' : World μ}
    (h : fillSlots seed w = .ok outcome w') :
    w'.kernel = w.kernel.seeded seed (w.kernel.events.pushAll w.kernel.config.forkEvents) := by
  rw [fillSlots_eq] at h
  obtain ⟨k, w₁, hkernel, h⟩ := Run.exists_of_bind_eq_ok h
  obtain ⟨_, w₂, hcopies, hseed⟩ := Run.exists_of_bind_eq_ok h
  cases hkernel
  have hslots : ∀ slot ∈ List.range' 1 (w.kernel.config.processCount - 1),
      slot < w.kernel.config.processCount := by
    intro slot hmem
    have hrange := List.mem_range'_1.mp hmem
    omega
  have hcopied := of_copySlots_eq_ok hslots hcopies
  have hconfig : w₂.kernel.config = w.kernel.config := by rw [hcopied]
  rw [← hconfig] at hseed
  rw [((returns_seedAll seed).eq_of_ok rfl rfl hseed).2.1, hcopied, Config.forkEvents,
    EventLog.pushAll_append]
  rfl

/-- A replication that forked has filled the slots. -/
theorem of_replicate_eq_forked {copies : Nat} {w w' : World μ}
    (h : replicate w = .ok (.forked copies) w') :
    ∃ seed, w'.kernel =
      w.kernel.seeded seed (w.kernel.events.pushAll w.kernel.config.forkEvents) := by
  cases hmulti : w.kernel.config.isMultiprocess with
  | false => cases ((returns_replicate_skipped hmulti).eq_of_ok rfl rfl h).1
  | true =>
      cases hdone : w.kernel.replicated with
      | true => cases ((returns_replicate_alreadyDone hmulti hdone).eq_of_ok rfl rfl h).1
      | false =>
          cases hpaging : w.kernel.pagingEnabled with
          | false => cases ((stops_replicate_early hmulti hdone hpaging).eq_of_ok rfl rfl h).1
          | true =>
              rw [replicate_eq] at h
              obtain ⟨early, w₁, hready, h⟩ := Run.exists_of_bind_eq_ok h
              obtain ⟨hearly, hkernel, -⟩ :=
                (returns_replicable_none hmulti hdone hpaging).eq_of_ok rfl rfl hready
              cases hearly
              obtain ⟨answer, w₂, hcapture, h⟩ := Run.exists_of_bind_eq_ok h
              cases answer with
              | resumed =>
                  obtain ⟨_, _, -, h⟩ := Run.exists_of_bind_eq_ok h
                  cases h
              | saved seed =>
                  have hfilled := of_fillSlots_eq_ok (w := w₂) h
                  rw [(of_liftM_eq_ok hcapture).2, hkernel] at hfilled
                  exact ⟨seed, hfilled⟩

/-! ### Booting -/

/-- What a boot has done to the kernel before the replication. -/
theorem of_prepare_eq_ok {config : Config} {base : PhysAddr} {viewport : Option VirtAddr}
    {w w' : World μ} (hfresh : w.kernel = { config := config })
    (h : prepare base viewport w = .ok () w') :
    ∃ paging view, w'.kernel = {
      config := config
      paging := paging
      tablesBuilt := true
      pagingEnabled := true
      refreshHook := some .redraw
      viewport := view
      events := EventLog.pushAll {} (config.setupEvents base) } := by
  obtain ⟨_, _, hkernel, h⟩ := Run.exists_of_bind_eq_ok h
  cases hkernel
  obtain ⟨_, w₁, hlog, h⟩ := Run.exists_of_bind_eq_ok h
  obtain ⟨_, w₂, hlog', h⟩ := Run.exists_of_bind_eq_ok h
  obtain ⟨_, w₃, htables, h⟩ := Run.exists_of_bind_eq_ok h
  obtain ⟨_, w₄, hpaging, h⟩ := Run.exists_of_bind_eq_ok h
  have hplaced : ∃ w₅ paging view,
      w₅.kernel = { w₄.kernel with paging := paging, viewport := view } ∧
        modifyKernel (fun k => { k with refreshHook := some .redraw }) w₅ = .ok () w' := by
    cases viewport with
    | none => exact ⟨w₄, _, _, rfl, h⟩
    | some addr =>
        obtain ⟨_, w₅, hoffer, h⟩ := Run.exists_of_bind_eq_ok h
        obtain ⟨paging, view, hkernel⟩ := of_offerViewport_eq_ok hoffer
        exact ⟨w₅, paging, view, hkernel, h⟩
  obtain ⟨w₅, paging, view, hplaced, hhook⟩ := hplaced
  have hbefore : w₂.kernel = { config := config } := by
    rw [of_log_eq_ok hlog', of_log_eq_ok hlog, hfresh]
  obtain ⟨built, hbuild, htables⟩ := of_buildTables_eq_ok htables
  rw [hbefore] at hbuild htables
  obtain ⟨hsummary, hbase⟩ := PageTables.summary_of_build hbuild
  have hpaging := of_enablePaging_eq_ok (by rw [htables]; rfl) (by rw [htables]; rfl) hpaging
  rw [htables, hsummary] at hpaging
  refine ⟨paging, view, ?_⟩
  rw [of_modifyKernel_eq_ok hhook, hplaced, hpaging]
  subst hbase
  rfl

/-- A boot leaves its events in the log and process 0 active. With several processes, it does so
where its replication has forked. -/
theorem of_boot_eq_ok {config : Config} {base : PhysAddr} {viewport : Option VirtAddr}
    {outcome : ReplicateOutcome} {w w' : World μ} (hfresh : w.kernel = { config := config })
    (h : boot base viewport w = .ok outcome w')
    (houtcome : config.isMultiprocess = true → ∃ copies, outcome = .forked copies) :
    w'.kernel.config = config ∧ w'.kernel.active = 0 ∧
      w'.kernel.events = EventLog.pushAll {} (config.bootEvents base) := by
  rw [boot_eq] at h
  obtain ⟨_, w₁, hprepare, h⟩ := Run.exists_of_bind_eq_ok h
  obtain ⟨_, w₂, hreplicate, h⟩ := Run.exists_of_bind_eq_ok h
  obtain ⟨_, _, hcheck, h⟩ := Run.exists_of_bind_eq_ok h
  cases h
  obtain ⟨paging, view, hprepared⟩ := of_prepare_eq_ok hfresh hprepare
  have hdone : w₂.kernel.config = config ∧ w₂.kernel.active = 0 ∧
      w₂.kernel.events = EventLog.pushAll {} (config.bootEvents base) := by
    cases hmulti : config.isMultiprocess with
    | false =>
        have hsingle : w₁.kernel.config.isMultiprocess = false := by rw [hprepared, hmulti]
        have hcount : ¬ 2 ≤ config.processCount := of_decide_eq_false hmulti
        have hsame := ((returns_replicate_skipped hsingle).eq_of_ok rfl rfl hreplicate).2.1
        rw [hsame, hprepared, Config.bootEvents, if_neg hcount, List.append_nil]
        exact ⟨rfl, rfl, rfl⟩
    | true =>
        have hcount : 2 ≤ config.processCount := of_decide_eq_true hmulti
        obtain ⟨copies, rfl⟩ := houtcome hmulti
        obtain ⟨seed, hforked⟩ := of_replicate_eq_forked hreplicate
        rw [hforked, hprepared, Config.bootEvents, if_pos hcount, EventLog.pushAll_append]
        exact ⟨rfl, rfl, rfl⟩
  have hactive : w₂.kernel.active < 2 ^ 24 := by
    rw [hdone.2.1]
    exact Nat.two_pow_pos 24
  rw [((returns_check hactive).eq_of_ok rfl rfl hcheck).2.1]
  exact hdone

end KernelM

end SlotKernel

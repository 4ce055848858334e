import SlotKernel.Proofs.Operations
import SlotKernel.Proofs.InitialTables

/-!
What the steps of a boot do, on any machine: the tables are built, paging is turned on, the viewport
is offered, and the process is replicated. As with the other operations, the machine's own part is
given by how its steps end. The copies of a replication are taken one slot at a time, and whatever
each of them preserves holds after all of them.
-/

namespace SlotKernel

namespace Kernel

def withTables (k : Kernel) (paging : PageTables) (summary : BuildSummary) : Kernel :=
  ({ k with paging := paging, tablesBuilt := true }).pushEvent
    (.tablesBuilt summary.tables summary.mappedPages)

def withPagingOn (k : Kernel) : Kernel :=
  ({ k with pagingEnabled := true }).pushEvent (.pagingEnabled k.paging.directoryAddress)

/-- The kernel with a context saved for every process but the first. -/
def seeded (k : Kernel) (seed : Context) (events : EventLog) : Kernel :=
  { k with
    contexts := KernelM.seedContexts k.contexts k.config.processCount seed
    replicated := true
    events := events }

end Kernel

/-- The window of an accepted configuration has a place in every slot. -/
theorem KernelM.slotStart_eq_ok (config : Config) {slot : Nat}
    (hslot : slot < config.processCount) :
    ∃ start, slotStart config.window slot = .ok start ∧
      start.val.toNat = config.window.start.val.toNat + 0x100000 * slot := by
  have hcount : config.processCount ≤ 8 := config.processCount_le
  have hceiling : UInt32.toNat windowCeiling = 0x200000 := rfl
  have hstride : UInt32.toNat slotStride = 0x100000 := rfl
  have hstart := UInt32.lt_iff_toNat_lt.mp config.start_lt_ceiling
  have hword : (UInt32.ofNat slot).toNat = slot :=
    UInt32.toNat_ofNat_of_lt' (by simp only [UInt32.size]; omega)
  obtain ⟨distance, hmul⟩ : ∃ distance,
      Word.mul? (UInt32.ofNat slot) slotStride = some distance := by
    refine ⟨_, if_pos ?_⟩
    rw [hword, hstride]
    simp only [UInt32.size]
    omega
  have hdistance := Word.toNat_of_mul? hmul
  rw [hword, hstride] at hdistance
  obtain ⟨start, hadd⟩ : ∃ start, Word.add? config.window.start.val distance = some start := by
    refine ⟨_, if_pos ?_⟩
    simp only [UInt32.size]
    omega
  have hsum := Word.toNat_of_add? hadd
  refine ⟨⟨start⟩, ?_, ?_⟩
  · rw [slotStart, hmul]
    change
      (orPanic .addOverflow (Word.add? config.window.start.val distance) >>= fun start => _) = _
    rw [hadd]
    rfl
  · change start.toNat = _
    omega

/-- A step of the machine that returns comes to `keeps`, and where it stops, the stop is one of
`stops`. -/
def Run.Keeps {σ α : Type} (act : Run σ α) (keeps : σ → Prop) (stops : Stop → Prop) (s : σ) :
    Prop :=
  match act s with
  | .ok _ s' => keeps s'
  | .error stop _ => stops stop

namespace KernelM

variable {μ : Type} {k k' : Kernel} {m m' m₁ m₂ : μ}

theorem returns_buildTables {base : PhysAddr} {built : PageTables} {summary : BuildSummary}
    (hbuild : PageTables.build base k.config.processCount = .ok (built, summary)) :
    Returns (buildTables base) k m summary (k.withTables built summary) m := by
  refine returns_kernel.bind ?_
  refine (returns_checked hbuild).bind ?_
  refine (returns_modifyKernel _).bind ?_
  refine (returns_log _).bind ?_
  refine (returns_log _).bind ?_
  refine (returns_log _).bind ?_
  refine (returns_log _).bind ?_
  exact (returns_pushEvent _).bind (returns_pure _)

/-! ### The check

It is made of parts that at most write to the log, each followed by the rest.
-/

section Check

variable {α : Type} {c : Prop} [Decidable c] {act : KernelM μ α} {a : α} {rest : KernelM μ Unit}
  {first second : Console → Console} {outcome : Except Stop Unit}

theorem ends_guarded {after : α → KernelM μ Unit} (hact : Returns act k m a k m)
    (hafter : Ends rest k m outcome k' m' → Ends (after a) k m outcome k' m')
    (hrest : Ends rest k m outcome k' m') :
    Ends (if c then act >>= after else rest) k m outcome k' m' := by
  split
  · exact hact.bind (hafter hrest)
  · exact hrest

theorem ends_complaint {after : Unit → KernelM μ Unit} (hafter : after () = rest)
    (hrest : Ends rest k m outcome k' m') :
    Ends (if c then do
        HasConsole.onConsole first
        let r ← HasConsole.onConsole second
        after r
      else rest) k m outcome k' m' := by
  split
  · exact (returns_log _).bind ((returns_log _).bind (hafter ▸ hrest))
  · exact hrest

theorem ends_complaint_unless {after : Unit → KernelM μ Unit} (hafter : after () = rest)
    (hrest : Ends rest k m outcome k' m') :
    Ends (if c then rest else do
        HasConsole.onConsole first
        let r ← HasConsole.onConsole second
        after r) k m outcome k' m' := by
  split
  · exact hrest
  · exact (returns_log _).bind ((returns_log _).bind (hafter ▸ hrest))

theorem returns_forM {check : α → KernelM μ Unit} {items : List α}
    (hcheck : ∀ item ∈ items, Returns (check item) k m () k m) :
    Returns (items.forM check) k m () k m := by
  induction items with
  | nil => exact returns_pure _
  | cons item items ih =>
      have hrest := ih fun other hother => hcheck other (List.mem_cons_of_mem _ hother)
      exact (hcheck item List.mem_cons_self).forM_cons hrest

theorem returns_check (hactive : k.active < 2 ^ 24) : Returns check k m () k m := by
  obtain ⟨matching, hmatching⟩ : ∃ matching, k.windowMatchesActive = .ok matching := by
    rw [Kernel.windowMatchesActive, slotBase_eq hactive]
    exact ⟨_, rfl⟩
  refine returns_kernel.bind ?_
  refine ends_complaint rfl ?_
  refine ends_guarded (returns_checked hmatching) (ends_complaint_unless rfl) ?_
  refine ends_guarded (returns_forM ?_) id ?_
  · rintro ⟨ctx, process⟩ -
    dsimp only
    split
    · exact (returns_log _).bind (returns_log _)
    · exact returns_pure _
  · dsimp only
    split
    · exact returns_log _
    · exact returns_pure _

theorem returns_showEvent (event : Event) : Returns event.show k m () k m := by
  cases event with
  | tablesBuilt | taskSwitched => exact (returns_log _).bind ((returns_log _).bind (returns_log _))
  | slotReplicated | windowMoved =>
      refine (returns_log _).bind ?_
      exact (returns_log _).bind ((returns_log _).bind (returns_log _))
  | pagingEnabled | contextsSeeded | taskResumed | viewportMapped =>
      exact (returns_log _).bind (returns_log _)

/-- A dump only writes to the log. -/
theorem returns_dump : Returns dump k m () k m := by
  refine returns_kernel.bind ?_
  refine (returns_log _).bind ?_
  refine (returns_forM fun event _ => returns_showEvent event).bind ?_
  refine (returns_log _).bind ?_
  refine (returns_log _).bind ?_
  refine (returns_log _).bind ?_
  refine (returns_log _).bind ?_
  refine (returns_forM ?_).bind (returns_log _)
  rintro ⟨ctx, process⟩ hitem
  have hprocess : process < 8 := by
    have hlength := (List.mem_zipIdx hitem).2.1
    have htable : k.processContexts.length ≤ 8 := by
      rw [Kernel.processContexts, List.length_take, Vector.length_toList]
      exact Nat.min_le_right _ _
    omega
  refine (returns_log _).bind ?_
  refine (returns_checked (slotBase_eq (by omega))).bind ?_
  refine (returns_log _).bind ?_
  split
  · exact (returns_log _).bind (returns_log _)
  · exact returns_log _

end Check

/-! ### The steps of a replication -/

section Replicable

/-- Look at a replication before anything is done: there may be nothing to replicate. -/
def replicable : KernelM μ (Option ReplicateOutcome) := do
  let k ← kernel
  if !k.config.isMultiprocess then
    Report.info "fork: single process configuration; nothing to replicate"
    return some .skipped
  if k.replicated then
    return some .alreadyDone
  if !k.pagingEnabled then
    Report.error "fork: replicate called before paging was enabled"
    Run.panic .pagingNotEnabled
  return none

/-- What a replication does at its capture, when the context is saved and when it is resumed. -/
def afterCapture [Machine μ] : Capture → KernelM μ ReplicateOutcome
  | .saved seed => fillSlots seed
  | .resumed => do
      trace .forkResumed
      return .resumed

theorem returns_replicable_skipped (hsingle : k.config.isMultiprocess = false) :
    Returns replicable k m (some .skipped) k m := by
  refine returns_kernel.bind ?_
  simp only [hsingle, Bool.not_false, if_true]
  exact (returns_log _).bind (returns_pure _)

variable (hmulti : k.config.isMultiprocess = true)

include hmulti

theorem returns_replicable_alreadyDone (hdone : k.replicated = true) :
    Returns replicable k m (some .alreadyDone) k m := by
  refine returns_kernel.bind ?_
  simp only [hmulti, hdone, Bool.not_true, Bool.false_eq_true, if_false, if_true]
  exact returns_pure _

theorem returns_replicable_none (hfirst : k.replicated = false)
    (henabled : k.pagingEnabled = true) : Returns replicable k m none k m := by
  refine returns_kernel.bind ?_
  simp only [hmulti, hfirst, henabled, Bool.not_true, Bool.false_eq_true, if_false]
  exact returns_pure _

end Replicable

/-- Where the copy to a slot goes. -/
def copyStart (window : Window) (slot : Nat) : KernelM μ PhysAddr := do
  let start ← slotStart window slot
  trace (.forkCopy slot start)
  return start

theorem returns_copyStart {window : Window} {slot : Nat} {start : PhysAddr}
    (hplace : slotStart window slot = .ok start) :
    Returns (copyStart window slot) k m start k m := by
  rw [copyStart, hplace]
  exact (returns_checked rfl).bind ((returns_trace _).bind (returns_pure _))

/-- Save the context for every process but the first once the slots are filled. -/
def seedAll (config : Config) (seed : Context) : KernelM μ ReplicateOutcome := do
  let copies := config.processCount - 1
  modifyKernel fun k =>
    { k with contexts := seedContexts k.contexts config.processCount seed, replicated := true }
  pushEvent (.contextsSeeded copies)
  Report.number "fork: replicated slots" copies
  return .forked copies

theorem returns_seedAll (seed : Context) :
    Returns (seedAll k.config seed) k m (.forked (k.config.processCount - 1))
      (k.seeded seed (k.events.push (.contextsSeeded (k.config.processCount - 1)))) m := by
  refine (returns_modifyKernel _).bind ?_
  refine (returns_pushEvent _).bind ?_
  exact (returns_log _).bind (returns_pure _)

section Machine

variable [Machine μ]

theorem returns_enablePaging_again (htables : k.tablesBuilt = true)
    (henabled : k.pagingEnabled = true) : Returns enablePaging k m () k m := by
  refine returns_kernel.bind ?_
  simp only [htables, henabled, Bool.not_true, Bool.false_eq_true, if_false, if_true]
  exact returns_pure _

theorem returns_enablePaging (htables : k.tablesBuilt = true) (hoff : k.pagingEnabled = false)
    (hactivate : Machine.activatePaging k.paging.directoryAddress m = .ok () m') :
    Returns enablePaging k m () k.withPagingOn m' := by
  refine returns_kernel.bind ?_
  simp only [htables, hoff, Bool.not_true, Bool.false_eq_true, if_false]
  refine (returns_machine hactivate).bind ?_
  refine (returns_modifyKernel _).bind ?_
  refine (returns_log _).bind ?_
  exact returns_pushEvent _

theorem stops_enablePaging {stop : Stop} (htables : k.tablesBuilt = true)
    (hoff : k.pagingEnabled = false)
    (hactivate : Machine.activatePaging k.paging.directoryAddress m = .error stop m') :
    Stops enablePaging k m stop k m' := by
  refine returns_kernel.bind ?_
  simp only [htables, hoff, Bool.not_true, Bool.false_eq_true, if_false]
  exact (stops_machine hactivate).bind_stop

theorem returns_offerViewport {base : VirtAddr} {answer : Except MappingError Unit}
    (hplace : Returns (placeViewport base) k m answer k' m') :
    Returns (offerViewport base) k m () k' m' := by
  refine hplace.bind ?_
  cases answer with
  | ok _ => exact returns_pure _
  | error error => exact (returns_log _).bind (returns_log _)

/-! ### Replication -/

section Replicate

variable {seed : Context} {stop : Stop} {outcome : Except Stop ReplicateOutcome}

/-- A replication is over at once, or it comes to its capture. -/
theorem replicate_eq :
    replicate (μ := μ) = (do
      match ← replicable with
      | some outcome => return outcome
      | none => liftM (Machine.capture (μ := μ)) >>= afterCapture) := by
  simp only [replicate, replicable, bind_assoc]
  congr 1
  funext k
  split
  · simp only [bind_assoc, pure_bind]
  · split
    · simp only [pure_bind]
    · split <;> simp only [bind_assoc, pure_bind] <;> rfl

theorem returns_replicate_skipped (hsingle : k.config.isMultiprocess = false) :
    Returns replicate k m .skipped k m := by
  rw [replicate_eq]
  exact (returns_replicable_skipped hsingle).bind (returns_pure _)

variable (hmulti : k.config.isMultiprocess = true)

include hmulti

theorem returns_replicate_alreadyDone (hdone : k.replicated = true) :
    Returns replicate k m .alreadyDone k m := by
  rw [replicate_eq]
  exact (returns_replicable_alreadyDone hmulti hdone).bind (returns_pure _)

variable (hfirst : k.replicated = false) (henabled : k.pagingEnabled = true)

include hfirst henabled

theorem returns_replicate_resumed (hcapture : Machine.capture m = .ok .resumed m') :
    Returns replicate k m .resumed k m' := by
  rw [replicate_eq]
  refine (returns_replicable_none hmulti hfirst henabled).bind ?_
  refine (returns_machine hcapture).bind ?_
  exact (returns_trace _).bind (returns_pure _)

theorem stops_replicate_capture (hcapture : Machine.capture m = .error stop m') :
    Stops replicate k m stop k m' := by
  rw [replicate_eq]
  refine (returns_replicable_none hmulti hfirst henabled).bind ?_
  exact (stops_machine hcapture).bind_stop

theorem ends_replicate (hcapture : Machine.capture m = .ok (.saved seed) m₁)
    (hfill : Ends (fillSlots seed) k m₁ outcome k' m₂) : Ends replicate k m outcome k' m₂ := by
  rw [replicate_eq]
  refine (returns_replicable_none hmulti hfirst henabled).bind ?_
  exact (returns_machine hcapture).bind hfill

end Replicate

theorem copySlot_eq (window : Window) (slot : Nat) :
    copySlot (μ := μ) window slot = (do
      let start ← copyStart window slot
      Machine.copyToPhysical (μ := μ) start window.start window.byteCount
      pushEvent (.slotReplicated slot start window.byteCount)) := by
  simp only [copySlot, copyStart, bind_assoc, pure_bind]

theorem fillSlots_eq (seed : Context) :
    fillSlots (μ := μ) seed = (do
      let config := (← kernel).config
      (List.range' 1 (config.processCount - 1)).forM (copySlot config.window)
      seedAll config seed) :=
  rfl

/-- The copies of a replication add events to the kernel and nothing else. What each copy of the
machine keeps, given the slot that is next, they keep up to the last one or up to one that stops. -/
theorem ends_copySlots {window : Window} {keeps : Nat → μ → Prop} {stops : Stop → Prop}
    {first count : Nat}
    (hstart : ∀ slot, first ≤ slot → slot < first + count →
      ∃ start, slotStart window slot = .ok start)
    (hcopy : ∀ slot, first ≤ slot → slot < first + count → ∀ start,
      slotStart window slot = .ok start → ∀ m : μ, keeps slot m →
        (Machine.copyToPhysical (μ := μ) start window.start window.byteCount).Keeps
          (keeps (slot + 1)) stops m)
    (hkeeps : keeps first m) :
    ∃ events m',
      (Returns ((List.range' first count).forM (copySlot window)) k m ()
          { k with events := events } m' ∧ keeps (first + count) m') ∨
        ∃ stop, stops stop ∧ Stops ((List.range' first count).forM (copySlot window)) k m stop
          { k with events := events } m' := by
  induction count generalizing first k m with
  | zero => exact ⟨k.events, m, Or.inl ⟨returns_pure _, hkeeps⟩⟩
  | succ count ih =>
      obtain ⟨start, hplace⟩ := hstart first (Nat.le_refl first) (by omega)
      have hkept := hcopy first (Nat.le_refl first) (by omega) start hplace m hkeeps
      rw [Run.Keeps] at hkept
      rw [List.range'_succ]
      cases hact : Machine.copyToPhysical start window.start window.byteCount m with
      | error stop m' =>
          rw [hact] at hkept
          have hslot : Stops (copySlot window first) k m stop k m' := by
            rw [copySlot_eq]
            refine (returns_copyStart hplace).bind ?_
            exact (stops_machine hact).bind_stop
          exact ⟨k.events, m', Or.inr ⟨stop, hkept, hslot.forM_cons_stop⟩⟩
      | ok _ m' =>
          rw [hact] at hkept
          have hslot : Returns (copySlot window first) k m ()
              (k.pushEvent (.slotReplicated first start window.byteCount)) m' := by
            rw [copySlot_eq]
            refine (returns_copyStart hplace).bind ?_
            exact (returns_machine hact).bind (returns_pushEvent _)
          obtain ⟨events, m'', hrest⟩ :=
            @ih (k.pushEvent (.slotReplicated first start window.byteCount)) m' (first + 1)
              (fun slot hlow hhigh => hstart slot (by omega) (by omega))
              (fun slot hlow hhigh => hcopy slot (by omega) (by omega)) hkept
          have hlast : first + 1 + count = first + (count + 1) := by omega
          rw [hlast] at hrest
          refine ⟨events, m'', hrest.imp ?_ ?_⟩
          · exact fun ⟨hreturns, hdone⟩ => ⟨hslot.forM_cons hreturns, hdone⟩
          · exact fun ⟨stop, hstop, hstops⟩ => ⟨stop, hstop, hslot.forM_cons hstops⟩

/-- Filling the slots of an accepted configuration ends with every context but the first seeded, or
where a copy stops. -/
theorem ends_fillSlots {seed : Context} {keeps : Nat → μ → Prop} {stops : Stop → Prop}
    (hcopy : ∀ slot, 1 ≤ slot → slot < k.config.processCount → ∀ start,
      slotStart k.config.window slot = .ok start → ∀ m : μ, keeps slot m →
        (Machine.copyToPhysical (μ := μ) start k.config.window.start
          k.config.window.byteCount).Keeps (keeps (slot + 1)) stops m)
    (hkeeps : keeps 1 m) :
    ∃ events m',
      (Returns (fillSlots seed) k m (.forked (k.config.processCount - 1)) (k.seeded seed events)
          m' ∧ keeps k.config.processCount m') ∨
        ∃ stop, stops stop ∧ Stops (fillSlots seed) k m stop { k with events := events } m' := by
  have hone := k.config.one_le_processCount
  have hlast : 1 + (k.config.processCount - 1) = k.config.processCount := by omega
  obtain ⟨events, m', ⟨hcopies, hkept⟩ | ⟨stop, hstop, hcopies⟩⟩ :=
    @ends_copySlots μ k m _ k.config.window keeps stops 1 (k.config.processCount - 1)
      (fun slot _ hhigh => (slotStart_eq_ok k.config (by omega)).imp fun _ h => h.1)
      (fun slot hlow hhigh => hcopy slot hlow (by omega)) hkeeps
  · rw [hlast] at hkept
    refine ⟨events.push (.contextsSeeded (k.config.processCount - 1)), m', Or.inl ⟨?_, hkept⟩⟩
    rw [fillSlots_eq]
    refine returns_kernel.bind ?_
    exact hcopies.bind (@returns_seedAll μ { k with events := events } m' seed)
  · refine ⟨events, m', Or.inr ⟨stop, hstop, ?_⟩⟩
    rw [fillSlots_eq]
    exact returns_kernel.bind hcopies.bind_stop

/-! ### Booting -/

/-- The part of a boot before the replication. -/
def prepare (base : PhysAddr) (viewport : Option VirtAddr) : KernelM μ Unit := do
  let config := (← kernel).config
  Report.number "entry: process_count" config.processCount
  Report.hex "entry: image_start" config.window.start.val
  let _ ← buildTables base
  enablePaging
  if let some addr := viewport then
    offerViewport addr
  modifyKernel fun k => { k with refreshHook := some .redraw }

theorem boot_eq (base : PhysAddr) (viewport : Option VirtAddr) :
    boot (μ := μ) base viewport = (do
      prepare base viewport
      let outcome ← replicate
      check
      return outcome) := by
  cases viewport <;> simp only [boot, prepare, bind_assoc]

theorem returns_prepare {base : PhysAddr} {viewport : Option VirtAddr} {built : PageTables}
    {summary : BuildSummary} {k₁ k₂ : Kernel}
    (hbuild : PageTables.build base k.config.processCount = .ok (built, summary))
    (hpaging : Returns enablePaging (k.withTables built summary) m () k₁ m₁)
    (hoffer : Returns (viewport.elim (pure ()) offerViewport) k₁ m₁ () k₂ m₂) :
    Returns (prepare base viewport) k m () { k₂ with refreshHook := some .redraw } m₂ := by
  refine returns_kernel.bind ?_
  refine (returns_log _).bind ?_
  refine (returns_log _).bind ?_
  refine (returns_buildTables hbuild).bind ?_
  refine hpaging.bind ?_
  cases viewport with
  | none =>
      obtain ⟨_, hsame⟩ := hoffer .ready false
      cases hsame
      exact returns_modifyKernel _
  | some addr => exact hoffer.bind (returns_modifyKernel _)

/-- Once a boot has come to the replication, only that may stop it. -/
theorem ends_boot {base : PhysAddr} {viewport : Option VirtAddr} {k₁ : Kernel}
    {outcome : Except Stop ReplicateOutcome}
    (hprepare : Returns (prepare base viewport) k m () k₁ m₁)
    (hreplicate : Ends replicate k₁ m₁ outcome k' m₂) (hactive : k'.active < 2 ^ 24) :
    Ends (boot base viewport) k m outcome k' m₂ := by
  rw [boot_eq]
  refine hprepare.bind ?_
  cases outcome with
  | error stop => exact hreplicate.bind_stop
  | ok answer => exact hreplicate.bind ((returns_check hactive).bind (returns_pure answer))

/-- Paging structures that do not lie on a page boundary panic before anything is changed. -/
theorem stops_boot_misaligned {base : PhysAddr} (hbase : base.isPageAligned = false)
    (viewport : Option VirtAddr) :
    Stops (boot base viewport) k m (.panicked .misalignedDirectory) k m := by
  have hbuild : PageTables.build base k.config.processCount = .error .misalignedDirectory := by
    rw [PageTables.build, hbase]
    rfl
  have htables : Stops (buildTables base) k m (.panicked .misalignedDirectory) k m :=
    returns_kernel.bind (stops_checked hbuild).bind_stop
  refine returns_kernel.bind ?_
  refine (returns_log _).bind ?_
  refine (returns_log _).bind ?_
  exact htables.bind_stop

/-- Nor does a boot go on when paging cannot be turned on. -/
theorem stops_boot_paging {base : PhysAddr} {built : PageTables} {summary : BuildSummary}
    {stop : Stop} {k₁ : Kernel}
    (hbuild : PageTables.build base k.config.processCount = .ok (built, summary))
    (hpaging : Stops enablePaging (k.withTables built summary) m stop k₁ m₁)
    (viewport : Option VirtAddr) : Stops (boot base viewport) k m stop k₁ m₁ := by
  refine returns_kernel.bind ?_
  refine (returns_log _).bind ?_
  refine (returns_log _).bind ?_
  refine (returns_buildTables hbuild).bind ?_
  exact hpaging.bind_stop

end Machine

end KernelM

end SlotKernel

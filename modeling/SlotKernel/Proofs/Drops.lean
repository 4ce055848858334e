import SlotKernel.Proofs.Sessions

/-!
The moment at which a call drops cached mappings. A machine with a limit halts where it would drop
more than so many of them. A call that is cut short in this way has already changed all the tables
that it changes at all: every drop of a call comes after the last of its changes.
-/

namespace SlotKernel

open KernelM

/-! ### Steps of any machine -/

namespace KernelM

variable {μ α : Type}

/-- However a step of the machine ends, it leaves the kernel as it is. -/
theorem ends_step (act : Run μ α) (m : μ) : ∃ ending m', ∀ k, Ends (liftM act) k m ending k m' := by
  cases hact : act m with
  | ok a m' => exact ⟨.ok a, m', fun k => returns_machine hact⟩
  | error stop m' => exact ⟨.error stop, m', fun k => stops_machine hact⟩

variable [Machine μ]

theorem ends_invalidatePages (pages : List Page) (m : μ) :
    ∃ ending m', ∀ k, Ends (invalidatePages pages) k m ending k m' := by
  induction pages generalizing m with
  | nil => exact ⟨.ok (), m, fun k => returns_pure _⟩
  | cons page pages ih =>
      obtain ⟨first, m₁, hpage⟩ := ends_step (Machine.invalidatePage (μ := μ) page) m
      cases first with
      | error stop =>
          refine ⟨.error stop, m₁, fun k => ?_⟩
          refine Ends.forM_cons_stop ?_
          exact hpage k
      | ok _ =>
          obtain ⟨ending, m₂, hpages⟩ := ih m₁
          refine ⟨ending, m₂, fun k => ?_⟩
          refine Ends.forM_cons ?_ (hpages k)
          exact hpage k

theorem ends_invalidate (range : PageRange) (invalidation : Invalidation) (m : μ) :
    ∃ ending m', ∀ k,
      Ends (liftM (Board.invalidate (μ := μ) range invalidation)) k m ending k m' := by
  cases invalidation with
  | fullFlush => exact ends_step (Machine.flushMappings (μ := μ)) m
  | perPage =>
      rw [invalidate_perPage]
      exact ends_invalidatePages range.pages m

theorem exists_ends_leave (range : PageRange) (invalidation : Invalidation) (ctx : Context)
    (m : μ) :
    ∃ (ending : Except Stop Unit) (m' : μ), ∀ k, Ends (leave range invalidation ctx) k m
      (ending.map fun _ => .transferred) k m' := by
  obtain ⟨first, m₁, hdrop⟩ := ends_invalidate range invalidation m
  cases first with
  | error stop => exact ⟨.error stop, m₁, fun k => (hdrop k).bind_stop⟩
  | ok _ =>
      obtain ⟨ending, m₂, hrestore⟩ := ends_step (Machine.restore (μ := μ) ctx) m₁
      exact ⟨ending, m₂, fun k => ends_leave (hdrop k) (hrestore k)⟩

/-- If the computation stops, then with these tables. -/
def StopsWith (act : KernelM μ α) (k : Kernel) (m : μ) (paging : PageTables) : Prop :=
  ∃ ending k' m', Ends act k m ending k' m' ∧ ∀ stop, ending = .error stop → k'.paging = paging

section StopsWith

variable {β : Type} {act : KernelM μ α} {k k' : Kernel} {m m' : μ} {paging : PageTables}
  {ending : Except Stop α}

omit [Machine μ]

theorem Ends.stopsWith (hact : Ends act k m ending k' m') (hpaging : k'.paging = paging) :
    StopsWith act k m paging :=
  ⟨ending, k', m', hact, fun _ _ => hpaging⟩

theorem Ends.stopsWith_of_returns {a : α} (hact : Returns act k m a k' m') :
    StopsWith act k m paging :=
  ⟨.ok a, k', m', hact, fun _ h => by cases h⟩

theorem StopsWith.map (hact : StopsWith act k m paging) (f : α → β) :
    StopsWith (act >>= fun a => pure (f a)) k m paging := by
  obtain ⟨ending, k', m', hends, hpaging⟩ := hact
  cases ending with
  | ok a => exact (hends.bind (returns_pure (f a))).stopsWith_of_returns
  | error stop => exact hends.bind_stop.stopsWith (hpaging stop rfl)

end StopsWith

/-- A replication never changes the tables. -/
theorem stopsWith_replicate {k : Kernel} (hup : k.Up) (m : μ) :
    StopsWith replicate k m k.paging := by
  by_cases hsingle : k.config.isMultiprocess = false
  · exact (returns_replicate_skipped hsingle).stopsWith_of_returns
  have hmulti := (Bool.not_eq_false _).mp hsingle
  rcases Bool.eq_false_or_eq_true k.replicated with hfirst | hfirst
  · exact (returns_replicate_alreadyDone hmulti hfirst).stopsWith_of_returns
  have henabled := hup.pagingEnabled
  cases hcapture : Machine.capture m with
  | error stop m₁ =>
      exact (stops_replicate_capture hmulti hfirst henabled hcapture).stopsWith rfl
  | ok answer m₁ =>
      cases answer with
      | resumed =>
          exact (returns_replicate_resumed hmulti hfirst henabled hcapture).stopsWith_of_returns
      | saved seed =>
          obtain ⟨events, m₂, ⟨hfill, -⟩ | ⟨stop, -, hfill⟩⟩ :=
            @ends_fillSlots μ k m₁ _ seed (fun _ _ => True) (fun _ => True)
              (fun _ _ _ _ _ _ _ => by rw [Run.Keeps]; split <;> simp) trivial
          · exact (ends_replicate hmulti hfirst henabled hcapture hfill).stopsWith_of_returns
          · exact (ends_replicate hmulti hfirst henabled hcapture hfill).stopsWith rfl

end KernelM

/-! ### Limited machines -/

/-- A simulated machine that halts where it is to drop cached mappings once more than so many
times. -/
structure Limited where
  machine : Simulated
  drops : Nat

namespace Limited

def step {α : Type} (act : Run Simulated α) : Run Limited α
  | ⟨machine, drops⟩ =>
      match act machine with
      | .ok a machine => .ok a ⟨machine, drops⟩
      | .error stop machine => .error stop ⟨machine, drops⟩

/-- A step that uses up one of the drops. -/
def drop (act : Run Simulated Unit) : Run Limited Unit
  | ⟨machine, 0⟩ => .error .halted ⟨machine, 0⟩
  | ⟨machine, drops + 1⟩ => step act ⟨machine, drops⟩

instance : Machine Limited where
  activatePaging directory := step (Machine.activatePaging directory)
  invalidatePage page := drop (Machine.invalidatePage page)
  flushMappings := drop Machine.flushMappings
  mask := step Machine.mask
  unmask was := step (Machine.unmask was)
  disableInterrupts := step Machine.disableInterrupts
  copyToPhysical target source count := step (Machine.copyToPhysical target source count)
  capture := step Machine.capture
  handOver request := step (Machine.handOver request)
  restore ctx := step (Machine.restore ctx)
  halt := step Machine.halt
  pendingResumes limited := Machine.pendingResumes limited.machine

variable {α : Type} {act : Run Simulated α} {m m' : Simulated} {drops : Nat}

theorem step_ok {a : α} (h : act m = .ok a m') : step act ⟨m, drops⟩ = .ok a ⟨m', drops⟩ := by
  rw [step, h]

theorem mask_eq (m : Simulated) (drops : Nat) :
    Machine.mask (Limited.mk m drops) = .ok m.interrupts ⟨m.masked, drops⟩ :=
  step_ok (Simulated.mask_eq m)

theorem unmask_eq (was : Bool) (limited : Limited) :
    ∃ limited', Machine.unmask was limited = .ok () limited' :=
  ⟨_, rfl⟩

/-! ### Calls that are cut short -/

section Calls

variable {k : Kernel}

theorem stopsWith_switchTo_back (hup : k.Up) {target : Nat} (hresume : m.resumeNext = true)
    (htarget : target < k.config.processCount) (hne : target ≠ k.active)
    (hreplicated : k.replicated = true) (paging : PageTables) :
    StopsWith (switchTo target) k (Limited.mk m drops) paging := by
  have hcapture : Machine.capture (Limited.mk m.masked drops) =
      .ok .resumed ⟨m.masked.woken, drops⟩ :=
    step_ok (Simulated.capture_resumed (m := m.masked) hresume)
  obtain ⟨_, hunmask⟩ := unmask_eq m.interrupts ⟨m.masked.woken, drops⟩
  exact (returns_switchTo_back (hup.departs htarget hne hreplicated).toLeaves (mask_eq m drops)
    hcapture hunmask).stopsWith_of_returns

/-- A switch that is cut short while it drops the window has moved the window. -/
theorem stopsWith_switchTo (hup : k.Up) {target : Nat} {ctx : Context}
    (hresume : m.resumeNext = false)
    (hctx : Simulated.capturedContext (m.captures + 1) = .ok ctx)
    (htarget : target < k.config.processCount) (hne : target ≠ k.active)
    (hreplicated : k.replicated = true) :
    StopsWith (switchTo target) k (Limited.mk m drops) (k.switchedTo ctx target).paging := by
  have hdeparts := hup.departs htarget hne hreplicated
  obtain ⟨limit, hlimit, -⟩ := k.config.identityMappedPages_eq
  have hcapture : Machine.capture (Limited.mk m.masked drops) =
      .ok (.saved ctx) ⟨m.masked.captured, drops⟩ :=
    step_ok (Simulated.capture_saved (m := m.masked) hresume hctx)
  have hand : ∀ request, Machine.handOver request (Limited.mk m.masked.captured drops) =
      .ok request ⟨m.masked.captured, drops⟩ :=
    fun request => step_ok (Simulated.handOver_eq rfl request)
  obtain ⟨ending, limited, hleave⟩ := exists_ends_leave k.config.window.range
    k.config.invalidation (k.context target) (Limited.mk m.masked.captured drops)
  cases ending with
  | error stop =>
      exact (stops_switchTo_of_departs hdeparts hlimit (mask_eq m drops) hcapture (hand _)
        (hleave _)).stopsWith rfl
  | ok _ =>
      obtain ⟨_, hunmask⟩ := unmask_eq m.interrupts limited
      exact (returns_switchTo_of_departs hdeparts hlimit (mask_eq m drops) hcapture (hand _)
        (hleave _) hunmask).stopsWith_of_returns

theorem stopsWith_mapPhysical_refused {phys : PhysAddr} {error : MappingError}
    (hmap : ∀ view, k.viewport = some view → view.map k.paging phys = .error error)
    (paging : PageTables) : StopsWith (mapPhysical phys) k (Limited.mk m drops) paging := by
  cases hview : k.viewport with
  | none => exact (returns_mapPhysical_noViewport hview).stopsWith_of_returns
  | some view =>
      obtain ⟨_, hunmask⟩ := unmask_eq m.interrupts ⟨m.masked, drops⟩
      exact (returns_mapPhysical_refused hview (hmap view hview) (mask_eq m drops)
        hunmask).stopsWith_of_returns

/-- A mapping that is cut short has pointed the viewport. -/
theorem stopsWith_mapPhysical {phys : PhysAddr} {view : Viewport} (hview : k.viewport = some view)
    (hmap : view.map k.paging phys = .ok (k.paging.edit (view.mapEdits phys), view.range)) :
    StopsWith (mapPhysical phys) k (Limited.mk m drops) (k.pointedAt view phys).paging := by
  obtain ⟨ending, limited, hdrop⟩ := ends_invalidatePages view.pages (Limited.mk m.masked drops)
  cases ending with
  | error stop => exact (stops_mapPhysical hview hmap (mask_eq m drops) (hdrop _)).stopsWith rfl
  | ok _ =>
      obtain ⟨_, hunmask⟩ := unmask_eq m.interrupts limited
      exact (returns_mapPhysical hview hmap (mask_eq m drops) (hdrop _)
        hunmask).stopsWith_of_returns

/-- A placement that is cut short has made the pages of the viewport ready. -/
theorem stopsWith_placeViewport {base : VirtAddr} (henabled : k.pagingEnabled = true)
    (hplace : Viewport.place k.paging base k.config.window =
      .ok (⟨base⟩, k.paging.edit (Viewport.mk base).placeEdits)) :
    StopsWith (placeViewport base) k (Limited.mk m drops) (k.withViewport ⟨base⟩).paging := by
  obtain ⟨ending, limited, hdrop⟩ :=
    ends_invalidatePages (Viewport.mk base).pages (Limited.mk m.masked drops)
  cases ending with
  | error stop =>
      exact (stops_placeViewport henabled hplace (mask_eq m drops) (hdrop _)).stopsWith rfl
  | ok _ =>
      obtain ⟨_, hunmask⟩ := unmask_eq m.interrupts limited
      exact (returns_placeViewport henabled hplace (mask_eq m drops) (hdrop _)
        hunmask).stopsWith_of_returns

end Calls

end Limited

/-- What a call does to the tables it has done before its first drop: if it is cut short, the tables
are those that it leaves when it returns. -/
theorem Simulated.Effect.stopsWith_limited {k k' : Kernel} {m m' : Simulated} {call : Call}
    {answer : Answer} (heffect : Effect k m call answer k' m') (hup : k.Up) (drops : Nat) :
    StopsWith call.perform k (Limited.mk m drops) k'.paging := by
  cases heffect with
  | unchanged target hskip =>
      exact (returns_switchTo_unchanged hskip).stopsWith_of_returns.map _
  | back target hresume htarget hne hreplicated =>
      exact (Limited.stopsWith_switchTo_back hup hresume htarget hne hreplicated _).map _
  | transferred target ctx hresume hctx htarget hne hreplicated =>
      exact (Limited.stopsWith_switchTo hup hresume hctx htarget hne hreplicated).map _
  | mapRefused phys error hmap => exact (Limited.stopsWith_mapPhysical_refused hmap _).map _
  | mapped phys view hview hmap => exact (Limited.stopsWith_mapPhysical hview hmap).map _
  | placeRefused base error hplace =>
      exact (returns_placeViewport_refused hplace).stopsWith_of_returns.map _
  | placed base hchecks hplace =>
      exact (Limited.stopsWith_placeViewport hup.pagingEnabled hplace).map _
  | pagingEnabled =>
      exact (returns_enablePaging_again hup.tablesBuilt
        hup.pagingEnabled).stopsWith_of_returns.map fun _ => Answer.pagingEnabled
  | skipped | alreadyDone | forkResumed | forked => exact (stopsWith_replicate hup _).map _

def World.limited (w : World Simulated) (drops : Nat) : World Limited :=
  ⟨w.kernel, ⟨⟨w.board.machine, drops⟩, w.board.console⟩, w.tracing⟩

/-- A call that returns has changed all that it changes in the tables when it first drops a cached
mapping. -/
theorem paging_of_limited {w w' : World Simulated} (hup : w.kernel.Up) {call : Call}
    {answer : Answer} (hreturn : call.perform w = .ok answer w') {drops : Nat} {stop : Stop}
    {cut : World Limited} (hstop : call.perform (w.limited drops) = .error stop cut) :
    cut.kernel.paging = w'.kernel.paging := by
  obtain ⟨ending, k, limited, hends, hpaging⟩ :=
    (Simulated.effect_of_perform hup hreturn).stopsWith_limited hup drops
  obtain ⟨hending, hkernel, -⟩ := hends.eq_of_error rfl rfl hstop
  rw [hkernel]
  exact hpaging stop hending

end SlotKernel

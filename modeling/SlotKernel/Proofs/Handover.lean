import SlotKernel.Proofs.Wakeups

/-!
The lock of the kernel state on the bare processor. It is taken by the process that asks for a switch
and given back by the process that comes of it, so no single call takes and releases it. `Holder` says
who has the lock after what has happened so far, and refuses what must not happen: taking a lock that
is held, releasing one that is free, capturing or restoring a context without it. A course that keeps
to this goes on so from every frame that it leaves, and so does every scene.
-/

namespace SlotKernel

/-! ### Computations that leave the lock alone -/

namespace SystemM

variable {μ α β : Type}

/-- The computation leaves the lock as it finds it. -/
def SparesLock (act : SystemM μ α) : Prop :=
  ∀ s a s', act s = .ok a s' → s'.locked = s.locked

theorem sparesLock_pure (a : α) : SparesLock (pure a : SystemM μ α) := by
  rintro s _ _ ⟨⟩
  rfl

theorem sparesLock_throw (stop : Stop) : SparesLock (throw stop : SystemM μ α) := by
  rintro s a s' h
  cases h

theorem SparesLock.bind {act : SystemM μ α} {next : α → SystemM μ β} (h : SparesLock act)
    (hnext : ∀ a, SparesLock (next a)) : SparesLock (act >>= next) := by
  intro s b s' hrun
  obtain ⟨a, s₁, hact, hafter⟩ := Run.exists_of_bind_eq_ok hrun
  exact (hnext a s₁ b s' hafter).trans (h s a s₁ hact)

theorem sparesLock_get : SparesLock (get : SystemM μ (System μ)) := by
  rintro s _ _ ⟨⟩
  rfl

theorem sparesLock_modify {change : System μ → System μ}
    (h : ∀ s, (change s).locked = s.locked) : SparesLock (modify change : SystemM μ Unit) := by
  rintro s _ _ ⟨⟩
  exact h s

theorem sparesLock_onBoard (act : Run (Board μ) α) : SparesLock (onBoard act) := by
  intro s a s' h
  rw [onBoard] at h
  split at h
  · cases h
    rfl
  · cases h

theorem sparesLock_onKernel (act : KernelM μ α) : SparesLock (onKernel act) := by
  intro s a s' h
  rw [onKernel] at h
  split at h
  · cases h
    rfl
  · split at h
    · cases h
      rfl
    · cases h

theorem sparesLock_inKernel (act : KernelM μ α) : SparesLock (inKernel act) := by
  intro s a s' h
  rw [inKernel] at h
  split at h
  · cases h
  · split at h
    · cases h
      rfl
    · cases h

theorem sparesLock_log (change : Console → Console) :
    SparesLock (HasConsole.onConsole change : SystemM μ Unit) :=
  sparesLock_onBoard _

theorem sparesLock_record (reply : Reply) : SparesLock (record reply : SystemM μ Unit) :=
  sparesLock_modify fun _ => rfl

theorem sparesLock_ite {c : Prop} [Decidable c] {act act' : SystemM μ α} (h : SparesLock act)
    (h' : SparesLock act') : SparesLock (if c then act else act') := by
  split
  · exact h
  · exact h'

theorem sparesLock_setShellHook (requests : List Request) :
    SparesLock (setShellHook requests : SystemM μ Unit) := by
  refine sparesLock_get.bind fun s => ?_
  refine sparesLock_ite ((sparesLock_throw _).bind fun _ => ?_) ?_ <;>
    refine (sparesLock_modify ?_).bind fun _ => sparesLock_modify ?_ <;>
    exact fun _ => rfl

theorem sparesLock_getShellHook : SparesLock (getShellHook : SystemM μ _) := by
  have hrest : SparesLock (do
      modify fun system => { system with shellLocked := true }
      let hook := (← get).shellHook
      modify fun system => { system with shellLocked := false }
      return hook : SystemM μ (Option (List Request))) := by
    refine SparesLock.bind (sparesLock_modify ?_) fun _ => ?_
    · exact fun _ => rfl
    refine sparesLock_get.bind fun _ => ?_
    refine SparesLock.bind (sparesLock_modify ?_) fun _ => sparesLock_pure _
    exact fun _ => rfl
  refine sparesLock_get.bind fun s => ?_
  exact sparesLock_ite ((sparesLock_throw _).bind fun _ => hrest) hrest

end SystemM

/-! ### Who has the lock -/

/-- Who has the lock of the kernel state. -/
inductive Holder where
  | nobody
  | held (process : Nat)
  /-- The process went on from a context with the lock held and has yet to release it. -/
  | leaving (process : Nat)

/-- Who has the lock after the next thing has happened, if it may happen. -/
def Holder.next? : Holder → Happening → Option Holder
  | .nobody, .called _ | .nobody, .hooked _ => some .nobody
  | .nobody, .acquired process => some (.held process)
  | .held p, .copied process _ | .held p, .captured process =>
      if process = p then some (.held p) else none
  | .held p, .transferred source target => if source = p then some (.leaving target) else none
  | .held p, .released process | .leaving p, .released process =>
      if process = p then some .nobody else none
  | _, _ => none

/-- Only a process that holds the lock hands it over. -/
theorem Holder.transferred_of_next? {holder holder' : Holder} {p q : Nat}
    (h : holder.next? (.transferred p q) = some holder') :
    holder = .held p ∧ holder' = .leaving q := by
  cases holder with
  | held source =>
      rw [next?] at h
      split at h
      · next hsource =>
        subst hsource
        cases h
        exact ⟨rfl, rfl⟩
      · cases h
  | nobody | leaving => cases h

/-- A process that was switched to can only release the lock. -/
theorem Holder.released_of_next? {holder : Holder} {happening : Happening} {q : Nat}
    (h : (leaving q).next? happening = some holder) :
    happening = .released q ∧ holder = .nobody := by
  cases happening with
  | released process =>
      rw [next?] at h
      split at h
      · next hprocess =>
        subst hprocess
        cases h
        exact ⟨rfl, rfl⟩
      · cases h
  | _ => cases h

/-- Who has the lock after all this, the latest first, starting from a free lock. -/
def holder? : List Happening → Option Holder
  | [] => some .nobody
  | happening :: history => do (← holder? history).next? happening

namespace Holder

/-- What a course may do with this holder of the lock. -/
def handing : Protocol (System Processor) Holder where
  asks
    | .lock, s, holder, goal => s.locked = false ∧ holder = .nobody ∧
        ∀ p, goal () { s with locked := true } (.held p)
    | .unlock, s, holder, goal => s.locked = true ∧ holder ≠ .nobody ∧
        goal () { s with locked := false } .nobody
    | .hook, s, holder, goal => s.locked = false ∧ holder = .nobody ∧ goal () s .nobody
    | .copy _ _ _, s, holder, goal => s.locked = true ∧ ∃ p, holder = .held p ∧
        ∀ s', s'.locked = true → goal () s' (.held p)
    | .capture, s, holder, goal => s.locked = true ∧ ∃ p, holder = .held p ∧
        (∀ ctx s', s'.locked = true → goal (.saved ctx) s' (.held p)) ∧
          ∀ q s', s'.locked = true → goal .resumed s' (.leaving q)
    | .restore _, s, holder, _ => s.locked = true ∧ ∃ p, holder = .held p
  stops := fun _ => True
  asks_mono := by
    intro point s holder goal goal' hgoal hasks
    cases point with
    | lock => exact ⟨hasks.1, hasks.2.1, fun p => hgoal _ _ _ (hasks.2.2 p)⟩
    | unlock => exact ⟨hasks.1, hasks.2.1, hgoal _ _ _ hasks.2.2⟩
    | hook => exact ⟨hasks.1, hasks.2.1, hgoal _ _ _ hasks.2.2⟩
    | copy target source count =>
        obtain ⟨hlocked, p, hp, hnext⟩ := hasks
        exact ⟨hlocked, p, hp, fun s' hs' => hgoal _ _ _ (hnext s' hs')⟩
    | capture =>
        obtain ⟨hlocked, p, hp, hsaved, hresumed⟩ := hasks
        exact ⟨hlocked, p, hp, fun ctx s' hs' => hgoal _ _ _ (hsaved ctx s' hs'),
          fun q s' hs' => hgoal _ _ _ (hresumed q s' hs')⟩
    | restore ctx => exact hasks

/-- Someone works on the kernel. -/
def Inside (s : System Processor) (holder : Holder) : Prop :=
  s.locked = true ∧ holder ≠ .nobody

/-- Nobody works on the kernel. -/
def Outside (s : System Processor) (holder : Holder) : Prop :=
  s.locked = false ∧ holder = .nobody

end Holder

open Holder

namespace Script

variable {α β : Type} {script : Script (System Processor) α}
  {next : α → Script (System Processor) β}

/-- The script works under the lock of one process and leaves it with that process. -/
def HoldsOn (script : Script (System Processor) α) : Prop :=
  ∀ s p, s.locked = true →
    script.Meets handing (fun _ s' holder => s'.locked = true ∧ holder = .held p) s (.held p)

/-- The script works under the lock and reaches no point. -/
def Quiet (script : Script (System Processor) α) : Prop :=
  ∀ s holder, Inside s holder → script.Meets handing (fun _ => Inside) s holder

/-- Once a process has the lock, the script ends with it, in this process or in one that goes on
here. -/
def KeepsLock (script : Script (System Processor) α) : Prop :=
  ∀ s p, s.locked = true → script.Meets handing (fun _ => Inside) s (.held p)

/-- The script starts and ends with the lock free. -/
def ReturnsLock (script : Script (System Processor) α) : Prop :=
  ∀ s holder, Outside s holder → script.Meets handing (fun _ => Outside) s holder

/-! ### Under the lock -/

theorem quiet_pure (a : α) : Quiet (pure a) :=
  fun _ _ h => h

theorem Quiet.bind (h : Quiet script) (hnext : ∀ a, Quiet (next a)) : Quiet (script >>= next) :=
  fun s holder hinside => (h s holder hinside).bind fun a s holder => hnext a s holder

theorem quiet_step (act : KernelM Processor α) : Quiet (step act) := by
  intro s holder hinside
  refine meets_lift (fun a s' hact => ?_) fun _ _ _ => trivial
  exact ⟨(SystemM.sparesLock_inKernel act s a s' hact).trans hinside.1, hinside.2⟩

theorem Quiet.keepsLock (h : Quiet script) : KeepsLock script :=
  fun s p hlocked => h s (.held p) ⟨hlocked, Holder.noConfusion⟩

theorem KeepsLock.bind (h : KeepsLock script) (hnext : ∀ a, Quiet (next a)) :
    KeepsLock (script >>= next) :=
  fun s p hlocked => (h s p hlocked).bind fun a s holder => hnext a s holder

theorem holdsOn_step (act : KernelM Processor α) : HoldsOn (step act) := by
  intro s p hlocked
  refine meets_lift (fun a s' hact => ?_) fun _ _ _ => trivial
  exact ⟨(SystemM.sparesLock_inKernel act s a s' hact).trans hlocked, rfl⟩

theorem holdsOn_copy (target : PhysAddr) (source : VirtAddr) (count : UInt32) :
    HoldsOn (visit (.copy target source count)) :=
  fun _ p hlocked => meets_visit ⟨hlocked, p, rfl, fun _ hlocked' => ⟨hlocked', rfl⟩⟩

theorem HoldsOn.bind (h : HoldsOn script) (hnext : ∀ a, HoldsOn (next a)) :
    HoldsOn (script >>= next) := by
  intro s p hlocked
  refine (h s p hlocked).bind ?_
  rintro a s' _ ⟨hlocked', rfl⟩
  exact hnext a s' p hlocked'

theorem HoldsOn.bind_keepsLock (h : HoldsOn script) (hnext : ∀ a, KeepsLock (next a)) :
    KeepsLock (script >>= next) := by
  intro s p hlocked
  refine (h s p hlocked).bind ?_
  rintro a s' _ ⟨hlocked', rfl⟩
  exact hnext a s' p hlocked'

theorem holdsOn_forM {step : β → Script (System Processor) Unit} (h : ∀ item, HoldsOn (step item))
    (items : List β) : HoldsOn (items.forM step) := by
  induction items with
  | nil => exact fun _ _ hlocked => ⟨hlocked, rfl⟩
  | cons item items ih => exact (h item).bind fun _ => ih

/-- What follows a capture has the lock, whether it goes on at once or is resumed. -/
theorem keepsLock_capture_bind {next : Capture → Script (System Processor) β}
    (hsaved : ∀ ctx, KeepsLock (next (.saved ctx))) (hresumed : Quiet (next .resumed)) :
    KeepsLock (visit .capture >>= next) := by
  intro s p hlocked
  refine meets_bind (meets_visit ⟨hlocked, p, rfl, ?_, ?_⟩)
  · exact fun ctx s' hlocked' => hsaved ctx s' p hlocked'
  · exact fun q s' hlocked' => hresumed s' _ ⟨hlocked', Holder.noConfusion⟩

theorem keepsLock_leave (range : PageRange) (invalidation : Invalidation) (ctx : Context) :
    KeepsLock (leave range invalidation ctx) := by
  refine (holdsOn_step _).bind_keepsLock fun _ s p hlocked => ?_
  exact meets_bind (meets_visit ⟨hlocked, p, rfl⟩)

theorem keepsLock_depart (target : Nat) (limit : UInt32) : KeepsLock (depart target limit) := by
  refine (holdsOn_step _).bind_keepsLock fun source => ?_
  refine keepsLock_capture_bind (fun ctx => ?_) (quiet_pure _)
  exact (holdsOn_step _).bind_keepsLock fun _ => keepsLock_leave _ _ _

theorem keepsLock_withoutInterrupts (h : KeepsLock script) :
    KeepsLock (withoutInterrupts script) := by
  refine (holdsOn_step _).bind_keepsLock fun was => h.bind fun a => ?_
  exact (quiet_step _).bind fun _ => quiet_pure a

theorem keepsLock_switchTo (target : Nat) : KeepsLock (switchTo target) := by
  refine (holdsOn_step _).bind_keepsLock fun answer => ?_
  cases answer with
  | none => exact (quiet_pure _).keepsLock
  | some limit =>
      refine (keepsLock_withoutInterrupts (keepsLock_depart target limit)).bind fun outcome => ?_
      exact quiet_step _

theorem keepsLock_requestSwitch (number : Nat) : KeepsLock (requestSwitch number) := by
  refine (holdsOn_step _).bind_keepsLock fun answer => ?_
  cases answer with
  | none => exact (quiet_pure _).keepsLock
  | some target =>
      refine (keepsLock_switchTo target).bind fun outcome => ?_
      exact (quiet_step _).bind fun _ => quiet_pure _

theorem keepsLock_fillSlots (seed : Context) : KeepsLock (fillSlots seed) := by
  refine (holdsOn_step _).bind_keepsLock fun k => ?_
  refine (holdsOn_forM (fun slot => ?_) _).bind_keepsLock fun _ => (quiet_step _).keepsLock
  refine (holdsOn_step _).bind fun start => ?_
  exact (holdsOn_copy _ _ _).bind fun _ => holdsOn_step _

theorem keepsLock_replicate : KeepsLock replicate := by
  refine (holdsOn_step _).bind_keepsLock fun answer => ?_
  cases answer with
  | some outcome => exact (quiet_pure _).keepsLock
  | none =>
      refine keepsLock_capture_bind (fun seed => keepsLock_fillSlots seed) ?_
      exact (quiet_step _).bind fun _ => quiet_pure _

theorem keepsLock_bootForHook (base : PhysAddr) (viewport : Option VirtAddr) :
    KeepsLock (bootForHook base viewport) := by
  have hboot : KeepsLock (boot base viewport) := by
    refine (holdsOn_step _).bind_keepsLock fun _ => ?_
    refine keepsLock_replicate.bind fun outcome => ?_
    exact (quiet_step _).bind fun _ => quiet_pure _
  exact hboot.bind fun outcome => (quiet_step _).bind fun _ => quiet_pure _

/-! ### Taking and releasing the lock -/

theorem returnsLock_pure (a : α) : ReturnsLock (pure a) :=
  fun _ _ h => h

theorem ReturnsLock.bind (h : ReturnsLock script) (hnext : ∀ a, ReturnsLock (next a)) :
    ReturnsLock (script >>= next) :=
  fun s holder houtside => (h s holder houtside).bind fun a s holder => hnext a s holder

theorem returnsLock_lift {act : SystemM Processor α} (h : SystemM.SparesLock act) :
    ReturnsLock (lift act) := by
  intro s holder houtside
  refine meets_lift (fun a s' hact => ?_) fun _ _ _ => trivial
  exact ⟨(h s a s' hact).trans houtside.1, houtside.2⟩

theorem returnsLock_locked (h : KeepsLock script) : ReturnsLock (locked script) := by
  rintro s _ ⟨hfree, rfl⟩
  refine meets_bind (meets_visit ⟨hfree, rfl, fun p => ?_⟩)
  refine (h _ p rfl).bind fun a s' holder hinside => ?_
  exact meets_bind (meets_visit ⟨hinside.1, hinside.2, rfl, rfl⟩)

theorem keepsLock_ifInstalled (h : KeepsLock script) : KeepsLock (ifInstalled script) := by
  intro s p hlocked
  rw [Meets, ifInstalled]
  cases s.installed with
  | none => exact ⟨hlocked, Holder.noConfusion⟩
  | some k => exact (h.bind fun a => quiet_pure (some a)) s p hlocked

theorem keepsLock_lift {act : SystemM Processor α} (h : SystemM.SparesLock act) :
    KeepsLock (lift act) := by
  intro s p hlocked
  refine meets_lift (fun a s' hact => ?_) fun _ _ _ => trivial
  exact ⟨(h s a s' hact).trans hlocked, Holder.noConfusion⟩

theorem returnsLock_look (act : KernelM Processor α) : ReturnsLock (look act) :=
  returnsLock_locked (keepsLock_lift (SystemM.sparesLock_onKernel act))

theorem returnsLock_install (config : Config) : ReturnsLock (install config) := by
  refine returnsLock_locked (keepsLock_lift (SystemM.sparesLock_get.bind fun s => ?_))
  refine SystemM.sparesLock_ite ?_ (SystemM.sparesLock_pure _)
  refine SystemM.SparesLock.bind (SystemM.sparesLock_modify ?_) fun _ => SystemM.sparesLock_pure _
  exact fun _ => rfl

/-! ### Services -/

theorem returnsLock_activeProcess : ReturnsLock activeProcess :=
  returnsLock_look _

theorem returnsLock_processCount : ReturnsLock processCount :=
  returnsLock_look _

theorem returnsLock_viewportBase : ReturnsLock viewportBase :=
  (returnsLock_look _).bind fun _ => returnsLock_pure _

theorem returnsLock_setRefreshHook (hook : RefreshHook) : ReturnsLock (setRefreshHook hook) :=
  (returnsLock_look _).bind fun _ => returnsLock_pure _

theorem returnsLock_registerShellHook (requests : List Request) :
    ReturnsLock (registerShellHook requests) :=
  (returnsLock_lift (SystemM.sparesLock_setShellHook requests)).bind fun _ =>
    (returnsLock_setRefreshHook .shell).bind fun _ => returnsLock_pure _

theorem returnsLock_mapPhysical (phys : PhysAddr) : ReturnsLock (mapPhysical phys) :=
  (returnsLock_look _).bind fun _ => returnsLock_pure _

section Hooks

variable {switch : Nat → Script (System Processor) (Option SwitchOutcome)}
  (hswitch : ∀ number, ReturnsLock (switch number))

include hswitch

theorem returnsLock_perform (request : Request) : ReturnsLock (perform switch request) := by
  have hrecord : ∀ reply, ReturnsLock (lift (SystemM.record reply)) := fun reply =>
    returnsLock_lift (SystemM.sparesLock_record reply)
  cases request with
  | note text => exact hrecord _
  | status =>
      refine returnsLock_activeProcess.bind fun active => ?_
      refine returnsLock_processCount.bind fun count => ?_
      exact returnsLock_viewportBase.bind fun base => hrecord _
  | switchTo process => exact (hswitch process).bind fun outcome => hrecord _
  | mapPhysical phys => exact (returnsLock_mapPhysical phys).bind fun answer => hrecord _
  | register hook => exact (returnsLock_setRefreshHook hook).bind fun accepted => hrecord _
  | registerShell requests => exact returnsLock_registerShellHook requests

theorem returnsLock_forM_perform (requests : List Request) :
    ReturnsLock (requests.forM (perform switch)) := by
  induction requests with
  | nil => exact returnsLock_pure ()
  | cons request requests ih => exact (returnsLock_perform hswitch request).bind fun _ => ih

/-- A hook is called with the lock free, so that it may call the services. -/
theorem returnsLock_callHook (hook : RefreshHook) : ReturnsLock (callHook switch hook) := by
  rintro s _ ⟨hfree, rfl⟩
  refine meets_bind (meets_visit ⟨hfree, rfl, ?_⟩)
  cases hook with
  | redraw => exact returnsLock_lift (SystemM.sparesLock_log _) s .nobody ⟨hfree, rfl⟩
  | requests requests => exact returnsLock_forM_perform hswitch requests s .nobody ⟨hfree, rfl⟩
  | shell =>
      refine (returnsLock_lift SystemM.sparesLock_getShellHook).bind (fun found => ?_) s .nobody
        ⟨hfree, rfl⟩
      cases found with
      | none => exact returnsLock_pure ()
      | some requests => exact returnsLock_forM_perform hswitch requests

end Hooks

theorem returnsLock_switchThen {call : RefreshHook → Script (System Processor) Unit}
    (hcall : ∀ hook, ReturnsLock (call hook)) (number : Nat) :
    ReturnsLock (switchThen call number) := by
  refine (returnsLock_locked (keepsLock_ifInstalled (keepsLock_requestSwitch number))).bind
    fun answer => ?_
  cases answer.join with
  | none => exact returnsLock_pure none
  | some found =>
      obtain ⟨outcome, hook⟩ := found
      dsimp only
      split
      · cases hook with
        | none => exact returnsLock_pure _
        | some hook => exact (hcall hook).bind fun _ => returnsLock_pure _
      · exact returnsLock_pure _

theorem returnsLock_switchWithin (depth number : Nat) :
    ReturnsLock (switchWithin depth number) := by
  induction depth generalizing number with
  | zero =>
      exact returnsLock_switchThen (fun _ => returnsLock_lift (SystemM.sparesLock_throw _)) number
  | succ depth ih => exact returnsLock_switchThen (returnsLock_callHook ih) number

theorem returnsLock_service (depth : Nat) (service : Service) :
    ReturnsLock (service.script depth) := by
  have hreturn : ∀ {α : Type} {script : Script (System Processor) α} {answer : α → Return},
      ReturnsLock script → ReturnsLock (script >>= fun a => pure (answer a)) :=
    fun h => h.bind fun _ => returnsLock_pure _
  cases service with
  | activeProcess => exact hreturn returnsLock_activeProcess
  | processCount => exact hreturn returnsLock_processCount
  | viewportBase => exact hreturn returnsLock_viewportBase
  | mapPhysical phys => exact hreturn (returnsLock_mapPhysical phys)
  | switchTo number => exact hreturn (returnsLock_switchWithin _ number)
  | setRefreshHook hook => exact hreturn (returnsLock_setRefreshHook hook)
  | registerShellHook requests => exact hreturn (returnsLock_registerShellHook requests)
  | reboot =>
      refine hreturn (returnsLock_lift ?_)
      exact (SystemM.sparesLock_log _).bind fun _ => SystemM.sparesLock_onBoard _

theorem returnsLock_launch (depth : Nat) (config : Config) (base : PhysAddr)
    (viewport : Option VirtAddr) :
    ReturnsLock (launch (switchWithin depth) config base viewport) := by
  have henter : ∀ answer, ReturnsLock (enter (switchWithin depth) answer) := by
    rintro (_ | ⟨outcome, hook⟩)
    · have hmissing : SystemM.SparesLock (SystemM.refuseMissing (μ := Processor)) :=
        (SystemM.sparesLock_log _).bind fun _ => SystemM.sparesLock_throw _
      exact returnsLock_lift hmissing
    · cases outcome with
      | resumed =>
          refine (returnsLock_lift (SystemM.sparesLock_log _)).bind fun _ => ?_
          cases hook with
          | none => exact returnsLock_pure _
          | some hook =>
              exact (returnsLock_callHook (returnsLock_switchWithin depth) hook).bind fun _ =>
                returnsLock_pure _
      | _ => exact (returnsLock_look _).bind fun _ => returnsLock_pure _
  have hboot := returnsLock_locked (keepsLock_ifInstalled (keepsLock_bootForHook base viewport))
  refine (returnsLock_install config).bind fun vacant => ?_
  have hrest := hboot.bind fun answer => (henter answer).bind fun outcome =>
    returnsLock_pure (Return.booted outcome)
  cases vacant with
  | true => exact hrest
  | false =>
      refine (returnsLock_lift ?_).bind fun _ => hrest
      exact (SystemM.sparesLock_log _).bind fun _ => SystemM.sparesLock_throw _

end Script

/-! ### Scenes -/

namespace Scene

/-- Outside of the kernel the lock is free, and inside the running process has it. -/
def HeldBy (scene : Scene) (holder : Holder) : Prop :=
  match scene.course with
  | .returned _ s => s.locked = false ∧ holder = .nobody
  | .reached .lock s _ => s.locked = false ∧ holder = .nobody
  | .reached .hook s _ => s.locked = false ∧ holder = .nobody
  | .reached .unlock s _ => s.locked = true ∧
      (holder = .held scene.running ∨ holder = .leaving scene.running)
  | .reached (.copy _ _ _) s _ => s.locked = true ∧ holder = .held scene.running
  | .reached .capture s _ => s.locked = true ∧ holder = .held scene.running
  | .reached (.restore _) s _ => s.locked = true ∧ holder = .held scene.running
  | .stopped _ _ => True

/-- What is in a slot can go on with the lock held. -/
def ReleasesLock (frame? : Option StackFrame) : Prop :=
  ∀ frame, frame? = some frame → ∀ q s, s.locked = true →
    (frame.goOn s).Meets handing (fun _ => Outside) (.leaving q)

/-- The running process and every process that waits in a frame deal with the lock as they must. -/
structure KeepsTo (scene : Scene) (holder : Holder) : Prop where
  running_eq : ∀ p, holder = .held p ∨ holder = .leaving p → p = scene.running
  course : scene.course.Meets handing (fun _ => Outside) holder
  frames : ∀ slot, ReleasesLock (scene.frames slot)

variable {allowed : Service → Prop} {depth : Nat} {happening : Happening} {scene scene' : Scene}
  {holder : Holder}

theorem KeepsTo.heldBy (h : scene.KeepsTo holder) : scene.HeldBy holder := by
  obtain ⟨running, course, frames⟩ := scene
  obtain ⟨hrunning, hcourse, -⟩ := h
  cases course with
  | returned r s => exact hcourse
  | stopped stop s => trivial
  | reached point s next =>
      cases point with
      | lock => exact ⟨hcourse.1, hcourse.2.1⟩
      | hook => exact ⟨hcourse.1, hcourse.2.1⟩
      | unlock =>
          obtain ⟨hlocked, hholder, -⟩ := hcourse
          refine ⟨hlocked, ?_⟩
          cases holder with
          | nobody => exact absurd rfl hholder
          | held p => exact Or.inl (congrArg _ (hrunning p (Or.inl rfl)))
          | leaving p => exact Or.inr (congrArg _ (hrunning p (Or.inr rfl)))
      | copy target source count =>
          obtain ⟨hlocked, p, rfl, -⟩ := hcourse
          exact ⟨hlocked, congrArg _ (hrunning p (Or.inl rfl))⟩
      | capture =>
          obtain ⟨hlocked, p, rfl, -⟩ := hcourse
          exact ⟨hlocked, congrArg _ (hrunning p (Or.inl rfl))⟩
      | restore ctx =>
          obtain ⟨hlocked, p, rfl⟩ := hcourse
          exact ⟨hlocked, congrArg _ (hrunning p (Or.inl rfl))⟩

theorem KeepsTo.step (h : scene.KeepsTo holder) (hstep : Step allowed depth happening scene scene') :
    ∃ holder', holder.next? happening = some holder' ∧ scene'.KeepsTo holder' := by
  have hheld := h.heldBy
  obtain ⟨hrunning, hcourse, hframes⟩ := h
  cases hstep with
  | @called p r s frames service _ interrupts =>
      obtain ⟨hfree, rfl⟩ := hcourse
      exact ⟨.nobody, rfl, hrunning, Script.returnsLock_service depth service _ _ ⟨hfree, rfl⟩,
        hframes⟩
  | @acquired p s frames next hfree =>
      obtain ⟨-, rfl, hnext⟩ := hcourse
      refine ⟨.held p, rfl, ?_, hnext p, hframes⟩
      rintro q (⟨⟨⟩⟩ | ⟨⟨⟩⟩)
      rfl
  | @released p s frames next =>
      obtain ⟨-, -, hnext⟩ := hcourse
      refine ⟨.nobody, ?_, ?_, hnext, hframes⟩
      · obtain ⟨-, rfl | rfl⟩ := hheld <;> exact if_pos rfl
      · rintro q (⟨⟨⟩⟩ | ⟨⟨⟩⟩)
  | hooked =>
      obtain ⟨-, rfl, hnext⟩ := hcourse
      exact ⟨.nobody, rfl, hrunning, hnext, hframes⟩
  | @copied p slot s frames next k start processor hkernel hshows hslot hstart hcopy =>
      obtain ⟨hlocked, rfl⟩ := hheld
      obtain ⟨-, _, ⟨⟩, hnext⟩ := hcourse
      refine ⟨.held p, if_pos rfl, hrunning, hnext _ hlocked, ?_⟩
      exact (Function.forall_update_iff frames fun _ => ReleasesLock).mpr
        ⟨hframes p, fun slot _ => hframes slot⟩
  | @captured p s frames next k ctx hkernel hshows hctx =>
      obtain ⟨hlocked, rfl⟩ := hheld
      obtain ⟨-, _, ⟨⟩, hsaved, hresumed⟩ := hcourse
      refine ⟨.held p, if_pos rfl, hrunning, hsaved ctx _ hlocked, ?_⟩
      have hcaptured : ReleasesLock (some ⟨ctx, next .resumed⟩) := by
        rintro frame ⟨⟩
        exact hresumed
      exact (Function.forall_update_iff frames fun _ => ReleasesLock).mpr
        ⟨hcaptured, fun slot _ => hframes slot⟩
  | @transferred p q s frames next k frame hkernel hshows hframe =>
      obtain ⟨hlocked, rfl⟩ := hheld
      refine ⟨.leaving q, if_pos rfl, ?_, hframes q frame hframe q _ hlocked, hframes⟩
      rintro q (⟨⟨⟩⟩ | ⟨⟨⟩⟩)
      rfl

/-- In every scene that a launch comes to, whatever services the processes call, what has happened
was allowed to happen to the lock: it is handed from the process that took it to the one that is
resumed, which releases it before anything else happens, and outside of the kernel it is free. A
process that comes to the lock can always take it. -/
theorem heldBy_of_run {config : Config} {base : PhysAddr} {viewport : Option VirtAddr}
    {s : System Processor} (hfree : s.locked = false) {history : List Happening}
    (hrun : Run allowed depth (opening depth config base viewport s) history scene) :
    ∃ holder, holder? history = some holder ∧ scene.HeldBy holder ∧
      (∀ s next, scene.course = .reached .lock s next →
        ∃ scene', Step allowed depth (.acquired scene.running) scene scene') ∧
      ∀ happening p q earlier, history = happening :: .transferred p q :: earlier →
        happening = .released q ∧ holder = .nobody := by
  have hkeeps : ∃ holder, holder? history = some holder ∧ scene.KeepsTo holder := by
    induction hrun with
    | opened =>
        refine ⟨.nobody, rfl, ?_, ?_, ?_⟩
        · rintro q (⟨⟨⟩⟩ | ⟨⟨⟩⟩)
        · exact Script.returnsLock_launch depth config base viewport s .nobody ⟨hfree, rfl⟩
        · rintro slot frame ⟨⟩
    | stepped hrun hstep ih =>
        obtain ⟨holder, hholder, hkeeps⟩ := ih
        obtain ⟨holder', hnext, hkeeps'⟩ := hkeeps.step hstep
        refine ⟨holder', ?_, hkeeps'⟩
        rw [holder?, hholder]
        exact hnext
  obtain ⟨holder, hholder, hkeeps⟩ := hkeeps
  refine ⟨holder, hholder, hkeeps.heldBy, ?_, ?_⟩
  · intro s' next hcourse
    obtain ⟨running, course, frames⟩ := scene
    subst hcourse
    exact ⟨_, .acquired hkeeps.heldBy.1⟩
  · rintro happening p q earlier rfl
    obtain ⟨before, hbefore, hnext⟩ := Option.bind_eq_some_iff.mp hholder
    obtain ⟨first, -, htransfer⟩ := Option.bind_eq_some_iff.mp hbefore
    obtain ⟨-, rfl⟩ := Holder.transferred_of_next? htransfer
    exact Holder.released_of_next? hnext

/-- Process 1, just switched to for the first time, has the lock that process 0 took. -/
theorem heldBy_of_run_halves :
    ∃ history scene, Run Service.IsPlain 0 openingHalves history scene ∧ scene.running = 1 ∧
      holder? history = some (.leaving 1) ∧ scene.HeldBy (.leaving 1) := by
  obtain ⟨_, _, _, _, hrun, -, -, ⟨p, earlier, rfl⟩, -⟩ := exists_run_halves
  cases hrun with
  | stepped hrun hhooked =>
      cases hrun with
      | @stepped _ scene _ _ hrun hreleased =>
          obtain ⟨holder, hholder, hheld, -⟩ := heldBy_of_run rfl hrun
          have hone : scene.running = 1 := by
            cases hrun with
            | stepped _ hstep =>
                cases hstep
                rfl
          obtain ⟨before, -, hnext⟩ := Option.bind_eq_some_iff.mp hholder
          obtain ⟨-, rfl⟩ := Holder.transferred_of_next? hnext
          exact ⟨_, scene, hrun, hone, hholder, hheld⟩

end Scene

end SlotKernel

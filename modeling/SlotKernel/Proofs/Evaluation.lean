import SlotKernel.Kernel.Boot

/-!
Evaluation of the kernel's computations with the log left out. `Ends` says how a computation ends
for the kernel and the machine it starts from, whatever is on the console and whether or not steps
are traced. It composes along the steps of a computation, so what an operation does is read off from
what its steps do.
-/

namespace SlotKernel

/-- A run of two parts that ended well did so in both. -/
theorem Run.exists_of_bind_eq_ok {σ α β : Type} {act : Run σ α} {next : α → Run σ β} {s s' : σ}
    {b : β} (h : (act >>= next) s = .ok b s') :
    ∃ a s₁, act s = .ok a s₁ ∧ next a s₁ = .ok b s' := by
  change EStateM.bind act next s = _ at h
  rw [EStateM.bind] at h
  cases hact : act s with
  | error stop s₁ =>
      rw [hact] at h
      cases h
  | ok a s₁ =>
      rw [hact] at h
      exact ⟨a, s₁, rfl, h⟩

theorem Run.exists_of_forM_cons_eq_ok {σ α : Type} {step : α → Run σ Unit} {item : α}
    {items : List α} {s s' : σ} (h : (item :: items).forM step s = .ok () s') :
    ∃ s₁, step item s = .ok () s₁ ∧ items.forM step s₁ = .ok () s' := by
  obtain ⟨_, s₁, hitem, hitems⟩ := Run.exists_of_bind_eq_ok h
  exact ⟨s₁, hitem, hitems⟩

namespace KernelM

variable {μ α β : Type}

/-- The computation ends with this value, or with this stop, and leaves this kernel and this
machine. -/
def Ends (act : KernelM μ α) (k : Kernel) (m : μ) (outcome : Except Stop α) (k' : Kernel) (m' : μ) :
    Prop :=
  ∀ console tracing, ∃ console', act ⟨k, ⟨m, console⟩, tracing⟩ =
    match outcome with
    | .ok a => .ok a ⟨k', ⟨m', console'⟩, tracing⟩
    | .error stop => .error stop ⟨k', ⟨m', console'⟩, tracing⟩

/-- The computation returns this value. -/
abbrev Returns (act : KernelM μ α) (k : Kernel) (m : μ) (a : α) (k' : Kernel) (m' : μ) : Prop :=
  Ends act k m (.ok a) k' m'

/-- The computation stops. -/
abbrev Stops (act : KernelM μ α) (k : Kernel) (m : μ) (stop : Stop) (k' : Kernel) (m' : μ) : Prop :=
  Ends act k m (.error stop) k' m'

section Rules

variable {act : KernelM μ α} {next : α → KernelM μ β} {k k₁ k₂ : Kernel} {m m₁ m₂ : μ} {a : α}
  {outcome : Except Stop β} {stop : Stop}

theorem returns_pure (a : α) : Returns (pure a) k m a k m :=
  fun console _ => ⟨console, rfl⟩

theorem Ends.bind (hact : Returns act k m a k₁ m₁) (hnext : Ends (next a) k₁ m₁ outcome k₂ m₂) :
    Ends (act >>= next) k m outcome k₂ m₂ := by
  intro console tracing
  obtain ⟨console₁, h₁⟩ := hact console tracing
  obtain ⟨console₂, h₂⟩ := hnext console₁ tracing
  refine ⟨console₂, ?_⟩
  change EStateM.bind act next _ = _
  rw [EStateM.bind, h₁]
  exact h₂

theorem Ends.bind_stop (hact : Stops act k m stop k₁ m₁) :
    Stops (act >>= next) k m stop k₁ m₁ := by
  intro console tracing
  obtain ⟨console₁, h₁⟩ := hact console tracing
  refine ⟨console₁, ?_⟩
  change EStateM.bind act next _ = _
  rw [EStateM.bind, h₁]

/-- A computation that is done after its first part ends as that part does. -/
theorem Ends.bind_pure {first : Except Stop α} (hact : Ends act k m first k₁ m₁) (b : β) :
    Ends (act >>= fun _ => pure b) k m (first.map fun _ => b) k₁ m₁ := by
  cases first with
  | ok a => exact hact.bind (returns_pure b)
  | error stop => exact hact.bind_stop

theorem Ends.forM_cons {step : α → KernelM μ Unit} {item : α} {items : List α}
    {last : Except Stop Unit} (hitem : Returns (step item) k m () k₁ m₁)
    (hitems : Ends (items.forM step) k₁ m₁ last k₂ m₂) :
    Ends ((item :: items).forM step) k m last k₂ m₂ :=
  hitem.bind hitems

theorem Ends.forM_cons_stop {step : α → KernelM μ Unit} {item : α} {items : List α}
    (hitem : Stops (step item) k m stop k₁ m₁) :
    Stops ((item :: items).forM step) k m stop k₁ m₁ :=
  hitem.bind_stop

/-- However the computation is known to end, a run that returned ended so. -/
theorem Ends.eq_of_ok {ending : Except Stop α} (hact : Ends act k m ending k₁ m₁) {w w' : World μ}
    (hkernel : w.kernel = k) (hmachine : w.board.machine = m) (h : act w = .ok a w') :
    ending = .ok a ∧ w'.kernel = k₁ ∧ w'.board.machine = m₁ := by
  subst hkernel hmachine
  obtain ⟨console', h'⟩ := hact w.board.console w.tracing
  cases ending with
  | ok b =>
      cases h'.symm.trans h
      exact ⟨rfl, rfl, rfl⟩
  | error stop => cases h'.symm.trans h

theorem Ends.eq_of_error {ending : Except Stop α} (hact : Ends act k m ending k₁ m₁)
    {w w' : World μ} (hkernel : w.kernel = k) (hmachine : w.board.machine = m)
    (h : act w = .error stop w') :
    ending = .error stop ∧ w'.kernel = k₁ ∧ w'.board.machine = m₁ := by
  subst hkernel hmachine
  obtain ⟨console', h'⟩ := hact w.board.console w.tracing
  cases ending with
  | ok b => cases h'.symm.trans h
  | error stop' =>
      cases h'.symm.trans h
      exact ⟨rfl, rfl, rfl⟩

/-- A computation that returns does so from every world with this kernel and this machine. -/
theorem Ends.ok (hact : Returns act k m a k₁ m₁) {w : World μ} (hkernel : w.kernel = k)
    (hmachine : w.board.machine = m) : ∃ w', act w = .ok a w' := by
  subst hkernel hmachine
  obtain ⟨console', h'⟩ := hact w.board.console w.tracing
  exact ⟨_, h'⟩

end Rules

section Steps

variable {k : Kernel} {m m' : μ}

theorem returns_kernel : Returns kernel k m k k m :=
  fun console _ => ⟨console, rfl⟩

theorem returns_modifyKernel (change : Kernel → Kernel) :
    Returns (modifyKernel change) k m () (change k) m :=
  fun console _ => ⟨console, rfl⟩

theorem returns_pushEvent (event : Event) :
    Returns (pushEvent event) k m () (k.pushEvent event) m :=
  returns_modifyKernel _

theorem returns_log (change : Console → Console) :
    Returns (HasConsole.onConsole change) k m () k m :=
  fun console _ => ⟨change console, rfl⟩

theorem returns_show (point : TracePoint) : Returns point.show k m () k m := by
  cases point with
  | switchSkipped target => exact (returns_log _).bind (returns_log _)
  | switchCaptured source => exact (returns_log _).bind (returns_log _)
  | switchMoving source target => exact (returns_log _).bind ((returns_log _).bind (returns_log _))
  | switchResumed active => exact (returns_log _).bind (returns_log _)
  | forkCopy slot start => exact (returns_log _).bind ((returns_log _).bind (returns_log _))
  | forkResumed => exact returns_log _

theorem returns_trace (point : TracePoint) : Returns (trace point) k m () k m := by
  intro console tracing
  cases tracing with
  | false => exact ⟨console, rfl⟩
  | true => exact returns_show point console true

theorem returns_machine {act : Run μ α} {a : α} (h : act m = .ok a m') :
    Returns (liftM act) k m a k m' := by
  intro console tracing
  refine ⟨console, ?_⟩
  change onBoard (Board.onMachine act) _ = _
  simp only [onBoard, Board.onMachine, h]

theorem stops_machine {act : Run μ α} {stop : Stop} (h : act m = .error stop m') :
    Stops (liftM act) k m stop k m' := by
  intro console tracing
  refine ⟨console, ?_⟩
  change onBoard (Board.onMachine act) _ = _
  simp only [onBoard, Board.onMachine, h]

theorem onBoard_bind (act : Run (Board μ) α) (next : α → Run (Board μ) β) :
    onBoard (act >>= next) = onBoard act >>= fun a => onBoard (next a) := by
  funext w
  change onBoard (EStateM.bind act next) w =
    EStateM.bind (onBoard act) (fun a => onBoard (next a)) w
  rw [EStateM.bind, onBoard, onBoard, EStateM.bind]
  cases act w.board <;> rfl

theorem onBoard_forM (step : α → Run (Board μ) Unit) (items : List α) :
    onBoard (items.forM step) = items.forM fun item => onBoard (step item) := by
  induction items with
  | nil => rfl
  | cons item items ih =>
      change onBoard (step item >>= fun _ => items.forM step) = onBoard (step item) >>= _
      rw [onBoard_bind, ih]

/-- A step of the board that leaves the console alone. -/
theorem returns_board {act : Run (Board μ) α} {a : α}
    (h : ∀ console, act ⟨m, console⟩ = .ok a ⟨m', console⟩) : Returns (liftM act) k m a k m' := by
  intro console tracing
  refine ⟨console, ?_⟩
  change onBoard act _ = _
  simp only [onBoard, h]

theorem stops_panic (cause : Panic) :
    Stops (Run.panic cause : KernelM μ α) k m (.panicked cause) k m :=
  fun console _ => ⟨console, rfl⟩

theorem returns_checked {act : Except Panic α} {a : α} (h : act = .ok a) :
    Returns (liftM act : KernelM μ α) k m a k m := by
  subst h
  exact fun console _ => ⟨console, rfl⟩

theorem stops_checked {act : Except Panic α} {cause : Panic} (h : act = .error cause) :
    Stops (liftM act : KernelM μ α) k m (.panicked cause) k m := by
  subst h
  exact fun console _ => ⟨console, rfl⟩

variable [Machine μ] {act : KernelM μ α} {k' : Kernel} {m₁ m₂ m₃ : μ} {was : Bool}

theorem returns_withoutInterrupts {a : α} (hmask : Machine.mask m = .ok was m₁)
    (hact : Returns act k m₁ a k' m₂) (hunmask : Machine.unmask was m₂ = .ok () m₃) :
    Returns (withoutInterrupts act) k m a k' m₃ :=
  (returns_machine hmask).bind (hact.bind ((returns_machine hunmask).bind (returns_pure a)))

/-- A computation that stops under the mask leaves the mask on. -/
theorem stops_withoutInterrupts {stop : Stop} (hmask : Machine.mask m = .ok was m₁)
    (hact : Stops act k m₁ stop k' m₂) : Stops (withoutInterrupts act) k m stop k' m₂ :=
  (returns_machine hmask).bind hact.bind_stop

end Steps

end KernelM

end SlotKernel

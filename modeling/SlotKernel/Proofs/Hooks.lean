import SlotKernel.Proofs.Refusals
import SlotKernel.Proofs.Tallies
import SlotKernel.Proofs.Watching

/-!
When hooks are called. A hook may call the services of the kernel, switch, register other hooks and
come back into itself, to any depth that the pending resumes allow. What a watcher notes of such a
run is orderly: no service begins or ends with a lock held, a hook is called exactly where a switch
came back, at once and with the system as the switch left it, and the function that the shell
registered last is the one that is called for it.
-/

namespace SlotKernel

open Run

variable {μ : Type}

namespace System

/-- Nobody holds either of the locks. -/
def Free (system : System μ) : Prop :=
  system.locked = false ∧ system.shellLocked = false

/-- The hook that is registered with the kernel. -/
def hook? (system : System μ) : Option RefreshHook :=
  system.installed.bind (·.refreshHook)

/-- A switch of the installed kernel leads from one system to the other. Without an outcome there is
no process of that number, and nothing but the log has changed. -/
def SwitchedTo [Machine μ] (before : System μ) (number : Nat) (outcome : Option SwitchOutcome)
    (after : System μ) : Prop :=
  ∃ k w, before.installed = some k ∧ after = before.withWorld w ∧
    match k.process? number, outcome with
    | some target, some outcome =>
        KernelM.switchTo target ⟨k, before.board, before.tracing⟩ = .ok outcome w
    | none, none =>
        ∃ console, w = ⟨k, { before.board with console := console }, before.tracing⟩
    | _, _ => False

end System

namespace Mark

def system : Mark μ → System μ
  | .entered system => system
  | .left system => system
  | .switched _ _ _ system => system
  | .called _ system => system
  | .shellRegistered _ system => system
  | .shellCalled _ system => system

def IsCall : Mark μ → Prop
  | .called _ _ => True
  | .shellCalled _ _ => True
  | _ => False

/-- What the mark says has happened. -/
def Sound [Machine μ] : Mark μ → Prop
  | .switched number before outcome system => before.SwitchedTo number outcome system
  | .shellRegistered requests system => system.shellHook = some requests
  | _ => True

end Mark

/-- What the shell registered last, if `start` was registered before the first mark. -/
def lastRegistered (start : Option (List Request)) : List (Mark μ) → Option (List Request)
  | [] => start
  | .shellRegistered requests _ :: _ => some requests
  | _ :: earlier => lastRegistered start earlier

/-- The call that has to come next: the kernel's hook after a switch that came back, and for that
the function that the shell registered last, where the hook is the shell's. -/
def due (start : Option (List Request)) : List (Mark μ) → Option (Mark μ)
  | .switched _ _ (some .resumed) system :: _ => system.hook?.map (.called · system)
  | .called .shell system :: earlier =>
      (lastRegistered start earlier).map (.shellCalled · system)
  | _ => none

/-- A mark that may come after the earlier ones: both locks are free, and it is a call exactly when
this call is due. -/
def Mark.Fits [Machine μ] (start : Option (List Request)) (earlier : List (Mark μ))
    (mark : Mark μ) : Prop :=
  mark.system.Free ∧ mark.Sound ∧
    (due start earlier = some mark ∨ due start earlier = none ∧ ¬ mark.IsCall)

/-- Every mark fits to those before it. So the mark right behind a switch that came back is the one
call of its hook, as soon as there is such a mark, and no hook is called anywhere else. -/
def Orderly [Machine μ] (start : Option (List Request)) : List (Mark μ) → Prop
  | [] => True
  | mark :: earlier => mark.Fits start earlier ∧ Orderly start earlier

/-! ### Services one by one -/

namespace SystemM

variable {α β : Type}

theorem getShellHook_free {system : System μ} (hfree : system.shellLocked = false) :
    getShellHook system = .ok system.shellHook system := by
  obtain ⟨board, installed, locked, shellHook, shellLocked, journal, tracing⟩ := system
  cases hfree
  rfl

variable [Machine μ]

/-- The locks are free, a kernel is installed, the shell has registered this, and only so many
resumes are pending. -/
structure Quiet (shell : Option (List Request)) (depth : Nat) (system : System μ) : Prop where
  free : system.Free
  installed : system.installed.isSome = true
  shellHook : system.shellHook = shell
  pending : Machine.pendingResumes system.board.machine ≤ depth

/-- The computation keeps it quiet. -/
def Serves (act : SystemM μ α) : Prop :=
  ∀ shell depth, Leads (fun _ => True) (Quiet shell depth) act fun _ => Quiet shell depth

theorem serves_pure (a : α) : Serves (pure a : SystemM μ α) :=
  fun _ _ => leads_pure fun _ h => h

theorem Serves.bind {act : SystemM μ α} {next : α → SystemM μ β} (h : Serves act)
    (hnext : ∀ a, Serves (next a)) : Serves (act >>= next) :=
  fun shell depth => (h shell depth).bind fun a => hnext a shell depth

theorem serves_withKernel {act : KernelM μ α} (h : KernelM.Steady act) :
    Serves (withKernel act) := by
  intro shell depth system hquiet
  obtain ⟨k, hk⟩ := Option.isSome_iff_exists.mp hquiet.installed
  have hact := h depth ⟨k, system.board, system.tracing⟩ hquiet.pending
  rw [withKernel_free hquiet.free.1 hk]
  cases hrun : act ⟨k, system.board, system.tracing⟩ with
  | ok a w =>
      rw [hrun] at hact
      exact ⟨hquiet.free, rfl, hquiet.shellHook, hact⟩
  | error stop w =>
      rw [hrun] at hact
      exact hact

theorem serves_activeProcess : Serves (activeProcess : SystemM μ (Option Nat)) :=
  serves_withKernel (KernelM.steady_kernel.bind fun _ => steady_pure _)

theorem serves_processCount : Serves (processCount : SystemM μ (Option Nat)) :=
  serves_withKernel (KernelM.steady_kernel.bind fun _ => steady_pure _)

theorem serves_viewportBase : Serves (viewportBase : SystemM μ (Option VirtAddr)) :=
  (serves_withKernel (KernelM.steady_kernel.bind fun _ => steady_pure _)).bind fun _ =>
    serves_pure _

theorem serves_setRefreshHook (hook : RefreshHook) :
    Serves (setRefreshHook hook : SystemM μ Bool) :=
  (serves_withKernel (KernelM.steady_modifyKernel _)).bind fun _ => serves_pure _

theorem serves_mapPhysical (h : Machine.Tallies μ) (phys : PhysAddr) :
    Serves (mapPhysical phys : SystemM μ (Except MappingError VirtAddr)) :=
  (serves_withKernel (KernelM.steady_mapPhysical h phys)).bind fun _ => serves_pure _

theorem serves_record (reply : Reply) : Serves (record reply : SystemM μ Unit) :=
  fun _ _ _ h => ⟨h.free, h.installed, h.shellHook, h.pending⟩

theorem serves_log (change : Console → Console) :
    Serves (HasConsole.onConsole change : SystemM μ Unit) :=
  fun _ _ _ h => ⟨h.free, h.installed, h.shellHook, h.pending⟩

/-- The shell's own lock is free whenever one of its functions is called. -/
theorem leads_setShellHook (requests : List Request) {shell : Option (List Request)} {depth : Nat} :
    Leads (fun _ => True) (Quiet shell depth) (setShellHook requests : SystemM μ Unit)
      fun _ => Quiet (some requests) depth := by
  rintro ⟨board, installed, locked, shellHook, shellLocked, journal, tracing⟩ hquiet
  obtain ⟨⟨hlocked, hshell⟩, hinstalled, hhook, hpending⟩ := hquiet
  cases hshell
  exact ⟨⟨hlocked, rfl⟩, hinstalled, rfl, hpending⟩

/-! ### One switch -/

/-- A switch that is over has looked the number up, and answers with the hook as it is by then. -/
theorem of_requestSwitch_eq_ok {number : Nat} {answer : Option (SwitchOutcome × Option RefreshHook)}
    {w w' : World μ} (h : requestSwitch number w = .ok answer w') :
    match w.kernel.process? number with
    | none => answer = none ∧ ∃ console,
        w' = ⟨w.kernel, { w.board with console := console }, w.tracing⟩
    | some target => ∃ outcome, KernelM.switchTo target w = .ok outcome w' ∧
        answer = some (outcome, w'.kernel.refreshHook) := by
  obtain ⟨_, _, hkernel, h⟩ := Run.exists_of_bind_eq_ok h
  cases hkernel
  cases hprocess : w.kernel.process? number with
  | none =>
      simp only [hprocess] at h
      cases h
      exact ⟨rfl, _, rfl⟩
  | some target =>
      simp only [hprocess] at h
      obtain ⟨outcome, w₁, hswitch, h⟩ := Run.exists_of_bind_eq_ok h
      cases h
      exact ⟨outcome, hswitch, rfl⟩

theorem steady_requestSwitch (h : Machine.Tallies μ) (number : Nat) :
    KernelM.Steady (requestSwitch number : KernelM μ (Option (SwitchOutcome × Option RefreshHook))) := by
  refine KernelM.steady_kernel.bind fun k => ?_
  cases k.process? number with
  | none =>
      refine (KernelM.steady_log _).bind fun _ => (KernelM.steady_log _).bind fun _ => ?_
      exact (KernelM.steady_log _).bind fun _ => steady_pure _
  | some target =>
      refine (KernelM.steady_switchTo h target).bind fun outcome => ?_
      exact KernelM.steady_kernel.bind fun _ => steady_pure _

/-- The part of a switch under the lock. If the process has come back, the hook is the one that is
registered by now, and there are fewer pending resumes. -/
theorem endsIn_requestSwitch (h : Machine.Tallies μ) (number : Nat) {before : System μ}
    {shell : Option (List Request)} {depth : Nat} (hquiet : Quiet shell depth before) :
    EndsIn (fun _ => True)
      (fun answer after => Quiet shell depth after ∧
        before.SwitchedTo number (answer.join.map (·.1)) after ∧
          ∀ hook, answer.join = some (.resumed, hook) →
            hook = after.hook? ∧ Machine.pendingResumes after.board.machine < depth)
      (withKernel (requestSwitch number) before) := by
  obtain ⟨k, hk⟩ := Option.isSome_iff_exists.mp hquiet.installed
  have hkeeps := serves_withKernel (steady_requestSwitch h number) shell depth before hquiet
  rw [withKernel_free hquiet.free.1 hk] at hkeeps ⊢
  cases hrun : requestSwitch number ⟨k, before.board, before.tracing⟩ with
  | error stop w =>
      rw [hrun] at hkeeps
      exact hkeeps
  | ok answer w =>
      rw [hrun] at hkeeps
      refine ⟨hkeeps, ?_⟩
      have hanswer := of_requestSwitch_eq_ok hrun
      cases hprocess : k.process? number with
      | none =>
          simp only [hprocess] at hanswer
          obtain ⟨rfl, console, rfl⟩ := hanswer
          refine ⟨⟨k, _, hk, rfl, ?_⟩, nofun⟩
          simp only [hprocess]
          exact ⟨console, rfl⟩
      | some target =>
          simp only [hprocess] at hanswer
          obtain ⟨outcome, hswitch, rfl⟩ := hanswer
          refine ⟨⟨k, _, hk, rfl, ?_⟩, ?_⟩
          · simp only [hprocess]
            exact hswitch
          · rintro hook ⟨⟩
            have hless := KernelM.pendingResumes_lt_of_switchTo h hswitch
            exact ⟨rfl, Nat.lt_of_lt_of_le hless hquiet.pending⟩

end SystemM

/-! ### What the watcher sees -/

/-- The watcher has noted an orderly run so far, and the next mark that is due, if any, is this. -/
structure Watched.Stands [Machine μ] (start : Option (List Request)) (depth : Nat)
    (next : Option (Mark μ)) (w : Watched μ) : Prop where
  quiet : SystemM.Quiet (lastRegistered start w.marks) depth w.system
  orderly : Orderly start w.marks
  due_eq : due start w.marks = next

/-- The run so far is orderly and no call is due. -/
def Watched.Settled [Machine μ] (start : Option (List Request)) (w : Watched μ) : Prop :=
  Orderly start w.marks ∧ due start w.marks = none

namespace Watched

variable [Machine μ] {start : Option (List Request)} {depth : Nat} {next : Option (Mark μ)}
  {w : Watched μ}

theorem Stands.mono {less : Nat} (h : w.Stands start less next) (hless : less ≤ depth) :
    w.Stands start depth next where
  quiet := { h.quiet with pending := Nat.le_trans h.quiet.pending hless }
  orderly := h.orderly
  due_eq := h.due_eq

/-- It is time for the call that this mark stands for. -/
abbrev Awaits (start : Option (List Request)) (depth : Nat) (call : System μ → Mark μ)
    (w : Watched μ) : Prop :=
  w.Stands start depth (some (call w.system))

theorem Stands.settled (h : w.Stands start depth none) : w.Settled start :=
  ⟨h.orderly, h.due_eq⟩

/-- A mark that fits is noted. -/
theorem Stands.extend (h : w.Stands start depth next) (mark : Mark μ)
    (hsystem : mark.system = w.system) (hsound : mark.Sound)
    (hfits : next = some mark ∨ next = none ∧ ¬ mark.IsCall)
    (hshell : lastRegistered start (mark :: w.marks) = lastRegistered start w.marks) :
    Stands start depth (due start (mark :: w.marks)) { w with marks := mark :: w.marks } where
  quiet := hshell ▸ h.quiet
  orderly := ⟨⟨hsystem ▸ h.quiet.free, hsound, h.due_eq ▸ hfits⟩, h.orderly⟩
  due_eq := rfl

end Watched

namespace WatchedM

open SystemM Watched

variable [Machine μ] {start : Option (List Request)} {depth : Nat} {α : Type}

/-- The computation is done with what it has to call by the time it returns. -/
abbrev Keeps (start : Option (List Request)) (depth : Nat) (act : WatchedM μ α) : Prop :=
  Leads (Settled start) (Stands start depth none) act fun _ => Stands start depth none

theorem keeps_pure (a : α) : Keeps start depth (pure a : WatchedM μ α) :=
  leads_pure fun _ h => h

/-- What the watched system does adds no marks. -/
theorem endsIn_watch {act : SystemM μ α} {post : α → System μ → Prop}
    {post' : α → Watched μ → Prop} {w : Watched μ}
    (hact : EndsIn (fun _ => True) post (act w.system)) (hw : Settled start w)
    (hpost : ∀ a after, post a after → post' a ⟨after, w.marks⟩) :
    EndsIn (Settled start) post' (watch act w) := by
  obtain ⟨system, marks⟩ := w
  rw [watch]
  cases hrun : act system with
  | ok a after =>
      rw [hrun] at hact
      exact hpost a after hact
  | error stop after =>
      rw [hrun] at hact
      exact ⟨hact.1, hw⟩

theorem keeps_watch {act : SystemM μ α} (h : Serves act) : Keeps start depth (watch act) :=
  fun _ hw => endsIn_watch (h _ _ _ hw.quiet) hw.settled fun _ _ hquiet =>
    ⟨hquiet, hw.orderly, hw.due_eq⟩

theorem keeps_entered : Keeps start depth (note .entered : WatchedM μ Unit) :=
  fun _ hw => hw.extend (.entered _) rfl trivial (.inr ⟨rfl, id⟩) rfl

theorem keeps_left : Keeps start depth (note .left : WatchedM μ Unit) :=
  fun _ hw => hw.extend (.left _) rfl trivial (.inr ⟨rfl, id⟩) rfl

theorem keeps_service {act : WatchedM μ α} (h : Keeps start depth act) :
    Keeps start depth (service act) :=
  keeps_entered.bind fun _ => h.bind fun a => keeps_left.bind fun _ => keeps_pure a

theorem keeps_setRefreshHook (hook : RefreshHook) :
    Keeps start depth (setRefreshHook hook : WatchedM μ Bool) :=
  keeps_service (keeps_watch (serves_setRefreshHook hook))

/-- From here on the function that was registered is the last one. -/
theorem keeps_registerShellHook (requests : List Request) :
    Keeps start depth (registerShellHook requests : WatchedM μ Unit) := by
  have hset : Leads (Settled start) (Stands start depth none)
      (watch (SystemM.setShellHook requests) : WatchedM μ Unit)
      fun _ w => Quiet (some requests) depth w.system ∧ Settled start w := by
    intro w hw
    exact endsIn_watch (leads_setShellHook requests _ hw.quiet) hw.settled fun _ _ hquiet =>
      ⟨hquiet, hw.settled⟩
  have hnote : Leads (Settled start)
      (fun w => Quiet (some requests) depth w.system ∧ Settled start w)
      (note (.shellRegistered requests) : WatchedM μ Unit) fun _ => Stands start depth none :=
    fun _ ⟨hquiet, horderly, hdue⟩ =>
      ⟨hquiet, ⟨⟨hquiet.free, hquiet.shellHook, .inr ⟨hdue, id⟩⟩, horderly⟩, rfl⟩
  refine keeps_service (hset.bind fun _ => hnote.bind fun _ => ?_)
  exact (keeps_setRefreshHook .shell).bind fun _ => keeps_pure ()

/-! ### Hooks -/

section Hooks

variable (h : Machine.Tallies μ) {switch : Nat → WatchedM μ (Option SwitchOutcome)}
  (hswitch : ∀ number, Keeps start depth (switch number))

include h hswitch

theorem keeps_perform (request : Request) : Keeps start depth (perform switch request) := by
  cases request with
  | note text => exact keeps_watch (serves_record _)
  | status =>
      refine (keeps_service (keeps_watch serves_activeProcess)).bind fun active => ?_
      refine (keeps_service (keeps_watch serves_processCount)).bind fun count => ?_
      refine (keeps_service (keeps_watch serves_viewportBase)).bind fun base => ?_
      exact keeps_watch (serves_record _)
  | switchTo process => exact (hswitch process).bind fun outcome => keeps_watch (serves_record _)
  | mapPhysical phys =>
      refine (keeps_service (keeps_watch (serves_mapPhysical h phys))).bind fun answer => ?_
      exact keeps_watch (serves_record _)
  | register hook =>
      exact (keeps_setRefreshHook hook).bind fun accepted => keeps_watch (serves_record _)
  | registerShell requests => exact keeps_registerShellHook requests

/-- Where the hook is the shell's, the function that the shell registered last is called. -/
theorem leads_callShell :
    Leads (Settled start)
      (fun w => w.Stands start depth (w.system.shellHook.map (.shellCalled · w.system)))
      (callShell switch) fun _ => Stands start depth none := by
  have hget : Leads (Settled start)
      (fun w => w.Stands start depth (w.system.shellHook.map (.shellCalled · w.system)))
      (watch SystemM.getShellHook : WatchedM μ (Option (List Request)))
      fun found w => w.Stands start depth (found.map (.shellCalled · w.system)) := by
    rintro ⟨system, marks⟩ hw
    rw [watch, getShellHook_free hw.quiet.free.2]
    exact hw
  refine hget.bind fun found => ?_
  cases found with
  | none => exact keeps_pure ()
  | some requests =>
      have hnote : Leads (Settled start) (Awaits start depth (.shellCalled requests))
          (note (.shellCalled requests) : WatchedM μ Unit) fun _ => Stands start depth none :=
        fun _ hw => hw.extend (.shellCalled _ _) rfl trivial (.inl rfl) rfl
      exact hnote.bind fun _ => leads_forM (keeps_perform h hswitch) requests

theorem leads_callHook (hook : RefreshHook) :
    Leads (Settled start) (Awaits start depth (.called hook)) (callHook switch hook)
      fun _ => Stands start depth none := by
  cases hook with
  | redraw =>
      have hnote : Leads (Settled start) (Awaits start depth (.called .redraw))
          (note (.called .redraw) : WatchedM μ Unit) fun _ => Stands start depth none :=
        fun _ hw => hw.extend (.called .redraw _) rfl trivial (.inl rfl) rfl
      exact hnote.bind fun _ => keeps_watch (serves_log _)
  | requests requests =>
      have hnote : Leads (Settled start) (Awaits start depth (.called (.requests requests)))
          (note (.called (.requests requests)) : WatchedM μ Unit)
          fun _ => Stands start depth none :=
        fun _ hw => hw.extend (.called (.requests _) _) rfl trivial (.inl rfl) rfl
      exact hnote.bind fun _ => leads_forM (keeps_perform h hswitch) requests
  | shell =>
      have hnote : Leads (Settled start) (Awaits start depth (.called .shell))
          (note (.called .shell) : WatchedM μ Unit)
          fun _ w => w.Stands start depth (w.system.shellHook.map (.shellCalled · w.system)) := by
        intro w hw
        have hcalled := hw.extend (.called .shell _) rfl trivial (.inl rfl) rfl
        rw [due, ← hw.quiet.shellHook] at hcalled
        exact hcalled
      exact hnote.bind fun _ => leads_callShell h hswitch

end Hooks

/-! ### Switches -/

/-- After the part under the lock only the hook is left to be called, if the process has come back
and there is one. -/
def Switched (start : Option (List Request)) (depth : Nat) :
    Option (SwitchOutcome × Option RefreshHook) → Watched μ → Prop
  | some (.resumed, some hook), w => ∃ less < depth, w.Awaits start less (.called hook)
  | _, w => w.Stands start depth none

theorem switched_of_orderly {number : Nat} {before after : System μ} {marks : List (Mark μ)}
    {answer : Option (SwitchOutcome × Option RefreshHook)}
    (hquiet : Quiet (lastRegistered start marks) depth after)
    (hhook : ∀ hook, answer = some (.resumed, hook) →
      hook = after.hook? ∧ Machine.pendingResumes after.board.machine < depth)
    (horderly : Orderly start (.switched number before (answer.map (·.1)) after :: marks)) :
    Switched start depth answer
      ⟨after, .switched number before (answer.map (·.1)) after :: marks⟩ := by
  rcases answer with _ | ⟨outcome, hook⟩
  · exact ⟨hquiet, horderly, rfl⟩
  cases outcome with
  | unchanged => exact ⟨hquiet, horderly, rfl⟩
  | transferred => exact ⟨hquiet, horderly, rfl⟩
  | resumed =>
      obtain ⟨rfl, hless⟩ := hhook hook rfl
      -- What is due goes by the hook of the system, so it is known once that is.
      have hdue : due start (.switched number before (some .resumed) after :: marks) =
          after.hook?.map (.called · after) := rfl
      cases hfound : after.hook? with
      | none =>
          rw [hfound] at hdue horderly
          exact ⟨hquiet, horderly, hdue⟩
      | some hook =>
          rw [hfound] at hdue horderly
          exact ⟨_, hless, { hquiet with pending := Nat.le_refl _ }, horderly, hdue⟩

theorem leads_switchLocked (h : Machine.Tallies μ) (number : Nat) :
    Leads (Settled start) (Stands start depth none)
      (switchLocked number : WatchedM μ (Option (SwitchOutcome × Option RefreshHook)))
      (Switched start depth) := by
  intro before hbefore
  have hwatch : Leads (Settled start) (· = before)
      (watch (SystemM.withKernel (SystemM.requestSwitch number)))
      fun answer w => Switched start depth answer.join
        ⟨w.system, .switched number before.system (answer.join.map (·.1)) w.system :: w.marks⟩ := by
    rintro _ rfl
    refine endsIn_watch (endsIn_requestSwitch h number hbefore.quiet) hbefore.settled ?_
    rintro answer after ⟨hquiet, hswitched, hhook⟩
    refine switched_of_orderly hquiet hhook ⟨⟨hquiet.free, hswitched, .inr ?_⟩, hbefore.orderly⟩
    exact ⟨hbefore.due_eq, id⟩
  have hnote (answer : Option (Option (SwitchOutcome × Option RefreshHook))) :
      Leads (Settled start)
        (fun w => Switched start depth answer.join
          ⟨w.system, .switched number before.system (answer.join.map (·.1)) w.system :: w.marks⟩)
        (note (.switched number before.system (answer.join.map (·.1))) >>= fun _ =>
          pure answer.join)
        (Switched start depth) := fun _ hw => hw
  exact hwatch.bind hnote before rfl

theorem leads_callIfResumed {call : RefreshHook → WatchedM μ Unit}
    (hcall : ∀ less < depth, ∀ hook, Leads (Settled start) (Awaits start less (.called hook))
      (call hook) fun _ => Stands start less none)
    (answer : Option (SwitchOutcome × Option RefreshHook)) :
    Leads (Settled start) (Switched start depth answer) (callIfResumed call answer)
      fun _ => Stands start depth none := by
  rcases answer with _ | ⟨outcome, hook⟩
  · exact keeps_pure _
  cases outcome with
  | unchanged => exact keeps_pure _
  | transferred => exact keeps_pure _
  | resumed =>
      cases hook with
      | none => exact keeps_pure _
      | some hook =>
          rintro w ⟨less, hless, hw⟩
          refine Leads.bind (hcall less hless hook) (fun _ => ?_) w hw
          exact leads_pure fun _ hw => hw.mono (Nat.le_of_lt hless)

theorem keeps_switchThen (h : Machine.Tallies μ) {call : RefreshHook → WatchedM μ Unit}
    (hcall : ∀ less < depth, ∀ hook, Leads (Settled start) (Awaits start less (.called hook))
      (call hook) fun _ => Stands start less none) (number : Nat) :
    Keeps start depth (switchThen call number) :=
  keeps_service ((leads_switchLocked h number).bind (leads_callIfResumed hcall))

/-- However deep hooks switch, the pending resumes go deeper. -/
theorem keeps_switchWithin (h : Machine.Tallies μ) {depth bound : Nat} (hdepth : depth ≤ bound)
    (number : Nat) : Keeps start depth (switchWithin bound number : WatchedM μ _) := by
  induction bound generalizing depth number with
  | zero =>
      refine keeps_switchThen h (fun less hless => ?_) number
      exact absurd (Nat.lt_of_lt_of_le hless hdepth) (Nat.not_lt_zero _)
  | succ bound ih =>
      refine keeps_switchThen h (fun less hless hook => ?_) number
      have hless := Nat.le_of_lt_succ (Nat.lt_of_lt_of_le hless hdepth)
      exact leads_callHook h (ih hless) hook

theorem keeps_switchTo (h : Machine.Tallies μ) (number : Nat) :
    Keeps start depth (switchTo number : WatchedM μ _) := by
  intro w hw
  refine Leads.imp (keeps_switchWithin h (Nat.le_refl _) number) (fun _ hw => hw)
    (fun _ _ hend => hend.mono hw.quiet.pending) w ?_
  exact { hw with quiet := { hw.quiet with pending := Nat.le_refl _ } }

/-- Between two calls the machine may become any other. -/
theorem leads_call (h : Machine.Tallies μ) (made : ServiceCall μ) :
    Leads (Settled start) (fun w => ∃ depth, w.Stands start depth none) (call made)
      fun _ w => ∃ depth, w.Stands start depth none := by
  rintro w ⟨depth, hw⟩
  have hkeeps {act : WatchedM μ Unit} (hact : Keeps start depth act) :
      EndsIn (Settled start) (fun _ w => ∃ depth, w.Stands start depth none) (act w) :=
    hact.imp (fun _ hw => hw) (fun _ _ hend => ⟨depth, hend⟩) w hw
  cases made with
  | request made => exact hkeeps (keeps_perform h (keeps_switchTo h) made)
  | shellActiveProcess =>
      exact hkeeps ((keeps_service (keeps_watch serves_activeProcess)).bind fun _ => keeps_pure ())
  | shellSwitchTo number => exact hkeeps ((keeps_switchTo h _).bind fun _ => keeps_pure ())
  | shellSetRefreshHook requests => exact hkeeps (keeps_registerShellHook requests)
  | shellViewportBase =>
      exact hkeeps ((keeps_service (keeps_watch serves_viewportBase)).bind fun _ => keeps_pure ())
  | shellMapPhysical phys =>
      exact hkeeps ((keeps_service (keeps_watch (serves_mapPhysical h _))).bind fun _ =>
        keeps_pure ())
  | turn machine =>
      obtain ⟨⟨hfree, hinstalled, hshell, -⟩, horderly, hdue⟩ := hw
      exact ⟨_, ⟨hfree, hinstalled, hshell, Nat.le_refl _⟩, horderly, hdue⟩

end WatchedM

/-- On a machine that counts its pending resumes, whatever services are called and whatever hooks do
in turn: no service begins or returns with a lock held, and the run waits for none. A switch that
comes back calls the hook that is registered by then, at once and only once, and nothing else calls
one; the shell's hook calls what the shell registered last. With the locks free, as they are when a
hook is called, a service sees and changes the kernel as it is. -/
theorem hooks_run_when_due :
    (Machine.Tallies Simulated ∧ Machine.Tallies Rearmed ∧ Machine.Tallies Processor) ∧
    (∀ (μ : Type) (system : System μ) (k : Kernel), system.Free → system.installed = some k →
      SystemM.activeProcess system = .ok (some k.active) system ∧
      SystemM.processCount system = .ok (some k.config.processCount) system ∧
      SystemM.viewportBase system = .ok (k.viewport.map (·.base)) system ∧
      (∀ hook, SystemM.setRefreshHook hook system =
        .ok true { system with installed := some { k with refreshHook := some hook } }) ∧
      ∀ requests, Shell.setRefreshHook requests system =
        .ok () { system with
          installed := some { k with refreshHook := some .shell }
          shellHook := some requests }) ∧
    ∀ (μ : Type) [Machine μ], Machine.Tallies μ → ∀ system : System μ, system.Free →
      system.installed.isSome = true → ∀ calls : List (ServiceCall μ),
        (∀ w, calls.forM WatchedM.call ⟨system, []⟩ = .ok () w →
          calls.forM ServiceCall.perform system = .ok () w.system ∧
            w.Settled system.shellHook ∧ w.system.Free) ∧
        ∀ stop w, calls.forM WatchedM.call ⟨system, []⟩ = .error stop w →
          calls.forM ServiceCall.perform system = .error stop w.system ∧
            w.Settled system.shellHook ∧ stop ≠ .deadlocked ∧ stop ≠ .hooksNested := by
  refine ⟨⟨Simulated.tallies, Rearmed.tallies, Processor.tallies⟩, ?_, ?_⟩
  · rintro μ ⟨board, installed, locked, shellHook, shellLocked, journal, tracing⟩ k ⟨hfree, hshell⟩
      hinstalled
    cases hfree
    cases hshell
    cases hinstalled
    exact ⟨rfl, rfl, rfl, fun _ => rfl, fun _ => rfl⟩
  · intro μ _ htallies system hfree hinstalled calls
    have hstart : Watched.Stands system.shellHook (Machine.pendingResumes system.board.machine)
        none ⟨system, []⟩ :=
      ⟨⟨hfree, hinstalled, rfl, Nat.le_refl _⟩, trivial, rfl⟩
    have hends := leads_forM (WatchedM.leads_call htallies) calls ⟨system, []⟩ ⟨_, hstart⟩
    have hwatches := WatchedM.watches_forM WatchedM.watches_call calls ⟨system, []⟩
    refine ⟨fun w hrun => ?_, fun stop w hrun => ?_⟩
    · rw [hrun] at hends hwatches
      obtain ⟨depth, hend⟩ := hends
      exact ⟨hwatches, hend.settled, hend.quiet.free⟩
    · rw [hrun] at hends hwatches
      exact ⟨hwatches, hends.2, hends.1⟩

/-- A system that is booted on a machine whose captures all answer `resumed`. The hook asks for the
state, registers another hook in its own place and switches again. -/
def nestingSystem : System Rearmed where
  board := ⟨{ machine := .new 2, plan := [true, true] }, {}⟩
  installed := some {
    config := .halves
    replicated := true
    refreshHook := some (.requests [.status, .register (.requests [.note "back"]), .switchTo 1]) }

def Mark.isCalled {μ : Type} : Mark μ → Bool
  | .called _ _ => true
  | _ => false

/-- How many hooks the kernel called in a run that returned. -/
def hooksCalled {μ : Type} : EStateM.Result Stop (Watched μ) Unit → Nat
  | .ok _ w => w.marks.countP Mark.isCalled
  | .error _ _ => 0

/-- Both switches come back, so both hooks are called. -/
theorem hooks_run_when_due_nested :
    Machine.Tallies Rearmed ∧ nestingSystem.Free ∧ nestingSystem.installed.isSome = true ∧
      hooksCalled ([.request (.switchTo 1)].forM WatchedM.call ⟨nestingSystem, []⟩) = 2 ∧
      ∃ w, [ServiceCall.request (.switchTo 1)].forM WatchedM.call ⟨nestingSystem, []⟩ = .ok () w ∧
        [ServiceCall.request (.switchTo 1)].forM ServiceCall.perform nestingSystem =
          .ok () w.system ∧ w.Settled none ∧ w.system.Free := by
  have hcalled : hooksCalled
      ([.request (.switchTo 1)].forM WatchedM.call ⟨nestingSystem, []⟩) = 2 := by
    decide +kernel
  refine ⟨Rearmed.tallies, ⟨rfl, rfl⟩, rfl, hcalled, ?_⟩
  cases hrun : [ServiceCall.request (.switchTo 1)].forM WatchedM.call ⟨nestingSystem, []⟩ with
  | error stop w =>
      rw [hrun] at hcalled
      cases hcalled
  | ok _ w =>
      exact ⟨w, rfl, (hooks_run_when_due.2.2 Rearmed Rearmed.tallies nestingSystem ⟨rfl, rfl⟩ rfl
        [.request (.switchTo 1)]).1 w hrun⟩

end SlotKernel

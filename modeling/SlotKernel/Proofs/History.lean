import SlotKernel.Proofs.Inversion
import SlotKernel.Proofs.Replication
import Mathlib.Data.List.Chain

/-!
The event log and the history that it is taken from. A boot and the calls after it have a history,
an event or two for each thing that happened, and the log holds its first 256 events: what is pushed
onto a log with room goes to its end, and what comes later is dropped. The switches in the history
form a chain from process 0 on, and its last target is the active process.
-/

namespace SlotKernel

open KernelM

/-! ### The log of a history -/

namespace EventLog

/-- The log holds the first events of a history, as many as it has room for. -/
def Records (log : EventLog) (history : List Event) : Prop :=
  log.entries.toList = history.take 256

variable {log : EventLog} {history : List Event}

theorem Records.push (h : log.Records history) (event : Event) :
    (log.push event).Records (history ++ [event]) := by
  have hsize : log.entries.size = min 256 history.length := by
    rw [← Array.length_toList, h, List.length_take]
  unfold Records
  by_cases hroom : log.entries.size < 256
  · calc (log.push event).entries.toList
      _ = log.entries.toList ++ [event] := by rw [entries_push, if_pos hroom, Array.toList_push]
      _ = history ++ [event] := by rw [h, List.take_of_length_le (by omega)]
      _ = (history ++ [event]).take 256 := by
        rw [List.take_of_length_le]
        rw [List.length_append, List.length_singleton]
        omega
  · calc (log.push event).entries.toList
      _ = log.entries.toList := by rw [entries_push, if_neg hroom]
      _ = history.take 256 := h
      _ = (history ++ [event]).take 256 := by rw [List.take_append_of_le_length (by omega)]

theorem Records.pushAll (h : log.Records history) (events : List Event) :
    (log.pushAll events).Records (history ++ events) := by
  induction events generalizing log history with
  | nil => rwa [List.append_nil]
  | cons event events ih =>
      rw [← List.singleton_append, ← List.append_assoc]
      exact ih (h.push event)

end EventLog

/-! ### The chain of switches -/

section Chain

variable {events more : List Event} {process : Nat}

/-- The switches among some events, by source and target. -/
def switches (events : List Event) : List (Nat × Nat) :=
  events.filterMap fun
    | .taskSwitched source target => some (source, target)
    | _ => none

theorem switches_append (first second : List Event) :
    switches (first ++ second) = switches first ++ switches second :=
  List.filterMap_append

/-- Each switch starts from the target of the one before it, the first one from process 0. -/
def Chained (events : List Event) : Prop :=
  ((0, 0) :: switches events).IsChain fun before after => after.1 = before.2

/-- The target of the last switch, or process 0. -/
def lastTarget (events : List Event) : Option Nat :=
  ((0, 0) :: switches events).getLast?.map (·.2)

theorem Chained.of_prefix (h : Chained events) {first : List Event} (hstart : first <+: events) :
    Chained first := by
  apply List.IsChain.prefix h
  exact (List.prefix_cons_inj _).mpr (hstart.filterMap _)

/-- The switches among the events are a chain that has come to this process. -/
structure EndsAt (events : List Event) (process : Nat) : Prop where
  chained : Chained events
  last : lastTarget events = some process

theorem endsAt_zero (hnone : switches events = []) : EndsAt events 0 := by
  constructor
  · rw [Chained, hnone]
    exact .singleton _
  · rw [lastTarget, hnone]
    rfl

theorem EndsAt.append_idle (h : EndsAt events process) (hnone : switches more = []) :
    EndsAt (events ++ more) process := by
  constructor
  · rw [Chained, switches_append, hnone, List.append_nil]
    exact h.chained
  · rw [lastTarget, switches_append, hnone, List.append_nil]
    exact h.last

theorem EndsAt.append_switch (h : EndsAt events process) {target : Nat}
    (hswitch : switches more = [(process, target)]) : EndsAt (events ++ more) target := by
  constructor
  · rw [Chained, switches_append, hswitch, ← List.cons_append]
    apply h.chained.append (.singleton _)
    intro before hbefore after hafter
    cases hafter
    have hlast := h.last
    rw [lastTarget, Option.mem_def.mp hbefore] at hlast
    exact (Option.some.inj hlast).symm
  · rw [lastTarget, switches_append, hswitch, ← List.cons_append, List.getLast?_append_cons]
    rfl

end Chain

/-! ### The history of a session -/

/-- What a call that returned adds to the history, for the kernel that it was made in. -/
def Kernel.eventsOf (k : Kernel) : Call → Answer → List Event
  | .switchTo target, .switched .transferred =>
      [.taskSwitched k.active target, .windowMoved k.active target k.config.window.pageCount]
  | .switchTo _, .switched .resumed => [.taskResumed k.active]
  | .mapPhysical phys, .mapped (.ok _) => [.viewportMapped phys]
  | _, _ => []

def Turn.events (turn : Turn) : List Event :=
  turn.before.kernel.eventsOf turn.call turn.answer

/-- What has happened since the start of a boot. -/
def history (config : Config) (base : PhysAddr) (turns : List Turn) : List Event :=
  config.bootEvents base ++ turns.reverse.flatMap Turn.events

theorem history_cons (config : Config) (base : PhysAddr) (turn : Turn) (turns : List Turn) :
    history config base (turn :: turns) = history config base turns ++ turn.events := by
  simp [history]

theorem switches_bootEvents (config : Config) (base : PhysAddr) :
    switches (config.bootEvents base) = [] := by
  have hcopies : switches ((List.range' 1 (config.processCount - 1)).map config.copyEvent) = [] := by
    rw [switches, List.filterMap_map]
    exact List.filterMap_eq_nil_iff.mpr fun _ _ => rfl
  rw [Config.bootEvents, switches_append]
  split_ifs
  · rw [Config.forkEvents, switches_append, hcopies]
    rfl
  · rfl

namespace Simulated.Effect

variable {k k' : Kernel} {m m' : Simulated} {call : Call} {answer : Answer}
  (heffect : Effect k m call answer k' m')

include heffect

/-- A call pushes its events, in order. -/
theorem events_eq (hsettled : k.Settled) :
    k'.events = k.events.pushAll (k.eventsOf call answer) := by
  cases heffect with
  | forked _ _ _ _ hmulti _ _ hfirst =>
      exact absurd hsettled (Kernel.not_settled_of_first hmulti hfirst)
  | _ => rfl

theorem endsAt {events : List Event} (h : EndsAt events k.active) :
    EndsAt (events ++ k.eventsOf call answer) k'.active := by
  cases heffect with
  | transferred => exact h.append_switch rfl
  | _ => exact h.append_idle rfl

end Simulated.Effect

/-- The log of a session holds the start of its history, and the chain of its switches has come to
the active process. -/
theorem Session.records {config : Config} {base : PhysAddr} {start w : World Simulated}
    {turns : List Turn} (hup : start.kernel.Up) (hsettled : start.kernel.Settled)
    (hevents : start.kernel.events.Records (config.bootEvents base))
    (hactive : start.kernel.active = 0) (hsession : Session start turns w) :
    w.kernel.events.Records (history config base turns) ∧
      EndsAt (history config base turns) w.kernel.active := by
  have hall := hsession.invariant
    (fun turns w => w.kernel.Settled ∧ w.kernel.events.Records (history config base turns) ∧
      EndsAt (history config base turns) w.kernel.active) hup ?_ ?_ (fun _ _ ih => ih)
  · exact hall.2
  · have hnone : history config base [] = config.bootEvents base := List.append_nil _
    rw [hnone, hactive]
    exact ⟨hsettled, hevents, endsAt_zero (switches_bootEvents config base)⟩
  · rintro turns w call answer w' - ⟨hsettled, hrecords, hends⟩ heffect
    rw [history_cons]
    refine ⟨hsettled.step heffect.step, ?_, heffect.endsAt hends⟩
    rw [heffect.events_eq hsettled]
    exact hrecords.pushAll _

/-- A boot with no resume pending leaves the log of its events, and after any calls the log holds
the first 256 events of the history, in order. The switches in it form a chain from process 0 on,
and as long as no event was dropped, the chain has come to the active process. A call that does not
return leaves the kernel as it was. -/
theorem log_of_session (config : Config) (base : PhysAddr) (viewport : Option VirtAddr)
    {m : Simulated} (hresume : m.resumeNext = false) (console : Console) (tracing : Bool) :
    (base.isPageAligned = true → m.HasRoom (config.processCount + 1) → m.captures < 2 ^ 27 →
      ∃ outcome start,
        boot base viewport ⟨{ config := config }, ⟨m, console⟩, tracing⟩ = .ok outcome start) ∧
    ∀ outcome start,
      boot base viewport ⟨{ config := config }, ⟨m, console⟩, tracing⟩ = .ok outcome start →
      ∀ turns w, Session start turns w →
        w.kernel.events.entries.toList = (history config base turns).take 256 ∧
        Chained w.kernel.events.entries.toList ∧ Chained (history config base turns) ∧
        ((history config base turns).length ≤ 256 →
          lastTarget w.kernel.events.entries.toList = some w.kernel.active) ∧
        ∀ (call : Call) stop w', call.perform w = .error stop w' → w'.kernel = w.kernel := by
  refine ⟨fun hbase hroom hcaptures =>
    Simulated.returns_boot config hbase viewport hroom hcaptures console tracing, ?_⟩
  intro outcome start hboot turns w hsession
  obtain ⟨_, _, k, pages, -, -, hprepared, heffect⟩ := Simulated.effect_of_boot hboot
  have hup := hprepared.up.step heffect.step
  have hsettled := heffect.settled_of_first hprepared.replicated_eq hresume
  obtain ⟨-, hactive, hevents⟩ := of_boot_eq_ok rfl hboot fun hmulti =>
    ⟨_, Simulated.outcome_of_boot hmulti hresume hboot⟩
  have hempty : EventLog.Records {} [] := rfl
  have hbooted : start.kernel.events.Records (config.bootEvents base) := by
    rw [hevents]
    exact hempty.pushAll _
  obtain ⟨hrecords, hends⟩ := hsession.records hup hsettled hbooted hactive
  have hlog : w.kernel.events.entries.toList = (history config base turns).take 256 := hrecords
  refine ⟨hlog, ?_, hends.chained, ?_, fun call stop w' hstop =>
    (hsession.same_of_stop hup hsettled hstop).1⟩
  · rw [hlog]
    exact hends.chained.of_prefix (List.take_prefix _ _)
  · intro hlength
    rw [hlog, List.take_of_length_le hlength]
    exact hends.last

/-- Two processes, after the switch from the first to the second one. -/
theorem log_of_session_halves :
    (Simulated.new 2).resumeNext = false ∧
      ∃ start w, boot ⟨0x90000⟩ (some ⟨0x108000⟩)
          ⟨{ config := .halves }, ⟨Simulated.new 2, .ready⟩, false⟩ = .ok (.forked 1) start ∧
        (Call.switchTo 1).perform start = .ok (.switched .transferred) w ∧
        w.kernel.events.entries.toList = [.tablesBuilt 1 768, .pagingEnabled ⟨0x90000⟩,
          .slotReplicated 1 ⟨0x280000⟩ 0x80000, .contextsSeeded 1, .taskSwitched 0 1,
          .windowMoved 0 1 128] := by
  obtain ⟨start, w, hboot, hswitch, hforked, -⟩ := Simulated.switched_halves
  refine ⟨rfl, start, w, hboot, hswitch, ?_⟩
  have hactive := (Simulated.seed_of_boot hboot).2.2.2.2.1
  have hsession : Session start [⟨start, .switchTo 1, .switched .transferred, w⟩] w :=
    .called .started hswitch
  have hlog := (log_of_session .halves ⟨0x90000⟩ (some ⟨0x108000⟩) rfl .ready false).2 _ _ hboot _ _
    hsession
  rw [hlog.1, history_cons, Turn.events, Kernel.eventsOf, hactive, hforked.config_eq]
  rfl

end SlotKernel

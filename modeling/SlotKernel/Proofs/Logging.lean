import SlotKernel.Proofs.Terminals
import SlotKernel.Proofs.Transmitters

/-!
The log on the serial line. A call that logs a line sends its text and a carriage return and a line
feed, byte by byte, and what it sends to the screen is the same text with its own line end. Over any
transmitter nothing else passes than this: for each byte the status reads that find the line busy,
one that finds it ready, and the byte. The line may be made slower or faster between calls, and a
line that is programmed once is never programmed again.
-/

namespace SlotKernel

open Serial

namespace LogCall

/-- The bytes that a call sends over the serial line. -/
def wire (call : LogCall) : List UInt8 :=
  match call.line? with
  | some line => Console.textBytes (line ++ "\r\n")
  | none => []

end LogCall

namespace Console

/-- The devices have sent some bytes, and a line that was programmed stays so. -/
structure Sends (console : Console) (bytes : List UInt8) (console' : Console) : Prop where
  devices : console'.devices = writeBytes console.devices bytes
  serialReady : console'.serialReady = console.serialReady

/-- Once the line is programmed, blanking the screen leaves the devices alone. -/
theorem sends_init {console : Console} (h : console.serialReady = true) :
    console.Sends [] console.init := by
  rw [init, refresh, if_pos h]
  exact ⟨rfl, rfl⟩

end Console

/-- A call sends its line, and only the first initialisation programs the serial line. -/
theorem LogCall.sends_perform {console : Console} {call : LogCall}
    (h : call = .init → console.serialReady = true) :
    console.Sends call.wire (call.perform console) := by
  cases hline : call.line? with
  | some line =>
      rw [wire, hline, perform_eq_logged hline]
      exact ⟨rfl, rfl⟩
  | none =>
      cases call with
      | init => exact Console.sends_init (h rfl)
      | refresh => exact ⟨rfl, rfl⟩
      | _ => cases hline

/-- What happens to the serial line: a call of the log, or the line gets slower or faster. -/
inductive LineStep where
  | call (made : LogCall)
  | slowDown (hold : Nat)

namespace LineStep

def perform (console : Console) : LineStep → Console
  | .call made => made.perform console
  | .slowDown hold => console.slowSerial hold

def wire : LineStep → List UInt8
  | .call made => made.wire
  | .slowDown _ => []

/-- Take a step with any transmitter; a call sends its bytes as the log does. -/
def send? {σ : Type} [Bus σ] (line : Transmitter σ) (traced : Traced σ) :
    LineStep → Option (Traced σ)
  | .call made => writeBytes? traced made.wire
  | .slowDown hold => some { traced with bus := line.slowDown traced.bus hold }

/-- The wait for a byte, and the byte. -/
def delivery (hold : Nat) (byte : UInt8) : List PortUse :=
  waiting hold ++ [.put dataRegister byte]

/-- All that is to pass over the bus, if bytes are kept for so many status reads at first. -/
def passage : Nat → List LineStep → List PortUse
  | _, [] => []
  | hold, .call made :: rest => made.wire.flatMap (delivery hold) ++ passage hold rest
  | _, .slowDown hold :: rest => passage hold rest

theorem written_delivery (hold : Nat) (byte : UInt8) :
    (delivery hold byte).filterMap PortUse.written? = [(dataRegister, byte)] := by
  rw [delivery, List.filterMap_append, written_waiting]
  rfl

/-- What is to be written are the bytes of the lines, and all of them to the data register. -/
theorem written_passage (hold : Nat) (steps : List LineStep) :
    (passage hold steps).filterMap PortUse.written? =
      (steps.flatMap wire).map (Prod.mk dataRegister) := by
  induction steps generalizing hold with
  | nil => rfl
  | cons step steps ih =>
      cases step with
      | slowDown slower => exact ih slower
      | call made =>
          have hline : (made.wire.flatMap (delivery hold)).filterMap PortUse.written? =
              made.wire.map (Prod.mk dataRegister) := by
            simp only [List.filterMap_flatMap, written_delivery, List.map_eq_flatMap]
          rw [passage, List.filterMap_append, hline, ih hold, List.flatMap_cons, List.map_append]
          rfl

end LineStep

section Transmission

variable {σ : Type} [Bus σ] (line : Transmitter σ) {traced : Traced σ} {hold : Nat}

theorem Transmitter.writeByte?_traced (h : line.Keeps traced.bus hold hold) (byte : UInt8) :
    ∃ next, writeByte? traced byte = some next ∧ line.Keeps next.bus hold hold ∧
      next.uses = traced.uses ++ LineStep.delivery hold byte := by
  obtain ⟨free, hawait, hkeeps, huses⟩ := line.await?_traced h
  refine ⟨Bus.write free dataRegister byte, ?_, line.sent byte hkeeps, ?_⟩
  · rw [writeByte?, hawait]
    rfl
  · rw [Traced.uses_write, huses, List.append_assoc, LineStep.delivery]

theorem Transmitter.writeBytes?_traced (h : line.Keeps traced.bus hold hold)
    (bytes : List UInt8) :
    ∃ next, writeBytes? traced bytes = some next ∧ line.Keeps next.bus hold hold ∧
      next.uses = traced.uses ++ bytes.flatMap (LineStep.delivery hold) := by
  induction bytes generalizing traced with
  | nil => exact ⟨traced, rfl, h, (List.append_nil _).symm⟩
  | cons byte bytes ih =>
      obtain ⟨first, hfirst, hkeeps, huses⟩ := line.writeByte?_traced h byte
      obtain ⟨next, hnext, hkept, hall⟩ := ih hkeeps
      refine ⟨next, ?_, hkept, ?_⟩
      · rw [writeBytes?, List.foldlM_cons, hfirst]
        exact hnext
      · rw [hall, huses, List.flatMap_cons, List.append_assoc]

/-- Every run of calls comes to an end, and this is what has passed over the bus by then. The line
keeps the last byte for a whole hold whenever a call begins. -/
theorem Transmitter.foldlM_send? (h : line.Keeps traced.bus hold hold) (steps : List LineStep) :
    ∃ next, steps.foldlM (LineStep.send? line) traced = some next ∧
      next.uses = traced.uses ++ LineStep.passage hold steps := by
  induction steps generalizing traced hold with
  | nil => exact ⟨traced, rfl, (List.append_nil _).symm⟩
  | cons step steps ih =>
      cases step with
      | call made =>
          obtain ⟨first, hfirst, hkeeps, huses⟩ := line.writeBytes?_traced h made.wire
          obtain ⟨next, hnext, hall⟩ := ih hkeeps
          refine ⟨next, ?_, ?_⟩
          · rw [List.foldlM_cons, LineStep.send?, hfirst]
            exact hnext
          · rw [hall, huses, LineStep.passage, List.append_assoc]
      | slowDown slower =>
          obtain ⟨next, hnext, hall⟩ :=
            @ih { traced with bus := line.slowDown traced.bus slower } slower (line.slowed slower h)
          exact ⟨next, hnext, hall⟩

end Transmission

namespace Traced

section Erasure

variable {σ : Type} [Bus σ] (traced : Traced σ)

theorem writeByte?_bus (byte : UInt8) :
    (writeByte? traced byte).map Traced.bus = writeByte? traced.bus byte := by
  rw [writeByte?, writeByte?, ← traced.await?_bus]
  cases await? lineStatusRegister acceptsByte traced <;> rfl

theorem writeBytes?_bus (bytes : List UInt8) :
    (writeBytes? traced bytes).map Traced.bus = writeBytes? traced.bus bytes := by
  induction bytes generalizing traced with
  | nil => rfl
  | cons byte bytes ih =>
      rw [writeBytes?, writeBytes?, List.foldlM_cons, List.foldlM_cons, ← traced.writeByte?_bus]
      cases writeByte? traced byte with
      | none => rfl
      | some next => exact ih next

end Erasure

/-- What is written down along a run of the log changes nothing for its devices. -/
theorem foldlM_send?_bus {traced : Traced Devices} {console : Console} {steps : List LineStep}
    (hbus : traced.bus = console.devices)
    (hready : .call .init ∈ steps → console.serialReady = true) :
    (steps.foldlM (LineStep.send? Devices.line) traced).map Traced.bus =
      some (steps.foldl LineStep.perform console).devices := by
  induction steps generalizing traced console with
  | nil => exact congrArg some hbus
  | cons step steps ih =>
      cases step with
      | slowDown hold =>
          -- nothing passes over the bus, so only the two devices have to change alike
          refine @ih { traced with bus := Devices.line.slowDown traced.bus hold }
            (console.slowSerial hold) ?_ fun hinit => hready (List.mem_cons_of_mem _ hinit)
          rw [hbus]
          rfl
      | call made =>
          have hsends : console.Sends made.wire (made.perform console) :=
            LogCall.sends_perform fun hinit => hready (by rw [hinit]; exact List.mem_cons_self)
          have hline := traced.writeBytes?_bus made.wire
          rw [hbus, writeBytes?_eq console.devices, ← hsends.devices] at hline
          obtain ⟨next, hnext, hbus'⟩ := Option.map_eq_some_iff.mp hline
          rw [List.foldlM_cons, LineStep.send?, hnext]
          exact @ih next (made.perform console) hbus' fun hinit =>
            hsends.serialReady.trans (hready (List.mem_cons_of_mem _ hinit))

end Traced

namespace Console

theorem serialReady_init (console : Console) : console.init.serialReady = true := by
  by_cases h : console.serialReady = true
  · exact (sends_init h).serialReady.trans h
  · rw [init, refresh, if_neg h]

/-- The first initialisation closes the divisor latch again and sends nothing. -/
theorem keeps_init {console : Console} (h : console.serialReady = false) :
    Devices.line.Keeps console.init.devices console.devices.serial.hold
      console.devices.serial.pending := by
  obtain ⟨shadow, screen, ⟨⟨hold, pending, reads, sent, latch⟩, script, passed, writes⟩, ready⟩ :=
    console
  cases h
  exact ⟨rfl, rfl, rfl⟩

end Console

/-- The serial line carries the lines of the log, each byte once, in order and after a status read
that found it ready, and nothing else is written; its lines are those of the screen. -/
theorem serial_carries_log {σ : Type} [Bus σ] (line : Transmitter σ) {bus : σ} {console : Console}
    {hold : Nat} {steps : List LineStep} (hbus : line.Keeps bus hold hold)
    (hdevices : Devices.line.Keeps console.devices hold hold)
    (hready : .call .init ∈ steps → console.serialReady = true) :
    (∃ final, steps.foldlM (LineStep.send? line) ⟨bus, []⟩ = some final ∧
        final.uses = LineStep.passage hold steps) ∧
      (∃ final, steps.foldlM (LineStep.send? Devices.line) ⟨console.devices, []⟩ = some final ∧
        final.uses = LineStep.passage hold steps ∧
        final.bus = (steps.foldl LineStep.perform console).devices) ∧
      (LineStep.passage hold steps).filterMap PortUse.written? =
        (steps.flatMap LineStep.wire).map (Prod.mk 0x3f8) ∧
      (∀ left, (waiting left).length = left + 1) ∧
      (∀ c : Console, c.init.serialReady = true ∧ c.init.init.devices = c.init.devices ∧
        (c.serialReady = false → Devices.line.Keeps c.init.devices c.devices.serial.hold
          c.devices.serial.pending)) ∧
      ∀ (c : Console) (made : LogCall) (text : String), made.line? = some text →
        (made.perform c).shadow = c.shadow.writeBytes (Console.textBytes (text ++ "\n")) ∧
          made.wire = Console.textBytes (text ++ "\r\n") := by
  refine ⟨?_, ?_, LineStep.written_passage hold steps, length_waiting, fun c => ?_,
    fun c made text htext => ⟨?_, ?_⟩⟩
  · exact line.foldlM_send? hbus steps
  · obtain ⟨final, hfinal, huses⟩ := @Transmitter.foldlM_send? _ _ Devices.line
      ⟨console.devices, []⟩ hold hdevices steps
    have hsame := @Traced.foldlM_send?_bus ⟨console.devices, []⟩ console steps rfl hready
    rw [hfinal] at hsame
    exact ⟨final, hfinal, huses, Option.some.inj hsame⟩
  · exact ⟨c.serialReady_init, (Console.sends_init c.serialReady_init).devices, Console.keeps_init⟩
  · rw [LogCall.perform_eq_logged htext]
    rfl
  · rw [LogCall.wire, htext]

/-- Two lines and an initialisation between which the line gets slower. -/
theorem serial_carries_log_slowed :
    Devices.line.Keeps Console.ready.devices 0 0 ∧ Console.ready.serialReady = true ∧
      ∃ final, [LineStep.call (.info "up"), .slowDown 2, .call .init,
          .call (.number "" 7)].foldlM (LineStep.send? Devices.line)
          ⟨Console.ready.devices, []⟩ = some final ∧
        final.uses.filterMap PortUse.written? =
          (Console.textBytes "[INFO] up\r\n[INFO] 7\r\n").map (Prod.mk 0x3f8) := by
  have hkeeps : Devices.line.Keeps Console.ready.devices 0 0 := ⟨rfl, rfl, rfl⟩
  obtain ⟨-, ⟨final, hfinal, huses, -⟩, hwritten, -⟩ := @serial_carries_log _ _ Devices.line
    Console.ready.devices .ready 0 [.call (.info "up"), .slowDown 2, .call .init,
      .call (.number "" 7)] hkeeps hkeeps fun _ => rfl
  refine ⟨hkeeps, rfl, final, hfinal, ?_⟩
  rw [huses, hwritten]
  decide

end SlotKernel

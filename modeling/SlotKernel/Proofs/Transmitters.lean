import Mathlib.Data.List.Basic
import SlotKernel.Device.Serial
import SlotKernel.Proofs.Waiting
import SlotKernel.Word

/-!
Transmitters. A transmitter keeps each byte for a number of status reads, in which bit 5 of the
status is clear, and then it is ready for the next byte. Nothing else is said of it: the other bits
of its status may be anything. So what passes over the bus is looked at with one bit of every answer
only, and in that view a wait is fixed by the number of reads that the transmitter still asks for.
The serial line of these devices is such a transmitter while its divisor latch is closed.
-/

namespace SlotKernel

namespace Serial

/-- The line takes a byte while bit 5 of its status is set. -/
theorem acceptsByte_eq (status : UInt8) : acceptsByte status = status.toNat.testBit 5 := by
  revert status
  exact Word.forall_byte (by decide +kernel)

/-- The eight registers of the line. -/
def Owns (register : UInt16) : Prop :=
  0x3f8 ≤ register ∧ register ≤ 0x3ff

instance (register : UInt16) : Decidable (Owns register) :=
  inferInstanceAs (Decidable (_ ∧ _))

end Serial

open Serial

/-- What passes over a bus, with bit 5 of an answer only. -/
inductive PortUse where
  | look (register : UInt16) (free : Bool)
  | put (register : UInt16) (value : UInt8)
  deriving DecidableEq

/-- What is written, and to which register. -/
def PortUse.written? : PortUse → Option (UInt16 × UInt8)
  | .look _ _ => none
  | .put register value => some (register, value)

def BusEvent.use : BusEvent → PortUse
  | .read register answer => .look register (answer.toNat.testBit 5)
  | .write register value => .put register value

/-- All that passed over a bus, with bit 5 of the answers only. -/
def Traced.uses {σ : Type} (traced : Traced σ) : List PortUse :=
  traced.trace.map BusEvent.use

theorem Traced.uses_write {σ : Type} [Bus σ] (traced : Traced σ) (register : UInt16)
    (value : UInt8) :
    (Bus.write traced register value).uses = traced.uses ++ [.put register value] :=
  List.map_append

/-- A transmitter on a bus. -/
structure Transmitter (σ : Type) [Bus σ] where
  /-- Bytes are kept for so many status reads, and so many of them are left. -/
  Keeps : σ → Nat → Nat → Prop
  /-- Change for how many reads bytes are kept, and keep the last byte as long from now on. -/
  slowDown : σ → Nat → σ
  busy {bus : σ} {hold left : Nat} : Keeps bus hold (left + 1) →
    (Bus.read bus lineStatusRegister).1.toNat.testBit 5 = false ∧
      Keeps (Bus.read bus lineStatusRegister).2 hold left
  ready {bus : σ} {hold : Nat} : Keeps bus hold 0 →
    (Bus.read bus lineStatusRegister).1.toNat.testBit 5 = true ∧
      Keeps (Bus.read bus lineStatusRegister).2 hold 0
  sent {bus : σ} {hold left : Nat} (byte : UInt8) : Keeps bus hold left →
    Keeps (Bus.write bus dataRegister byte) hold hold
  elsewhere {bus : σ} {hold left : Nat} {register : UInt16} (value : UInt8) : ¬ Owns register →
    Keeps bus hold left → Keeps (Bus.write bus register value) hold left
  slowed {bus : σ} {hold left : Nat} (next : Nat) : Keeps bus hold left →
    Keeps (slowDown bus next) next next

/-- The status reads of a wait that finds the line busy so many times. -/
def waiting (left : Nat) : List PortUse :=
  List.replicate left (.look lineStatusRegister false) ++ [.look lineStatusRegister true]

/-- The status reads of a wait with a bound. -/
def polling (bound left : Nat) : List PortUse :=
  if left < bound then waiting left else List.replicate bound (.look lineStatusRegister false)

theorem written_waiting (left : Nat) : (waiting left).filterMap PortUse.written? = [] := by
  rw [waiting, List.filterMap_append, List.filterMap_replicate_of_none rfl]
  rfl

theorem written_polling (bound left : Nat) :
    (polling bound left).filterMap PortUse.written? = [] := by
  unfold polling
  split
  · exact written_waiting left
  · exact List.filterMap_replicate_of_none rfl

theorem length_waiting (left : Nat) : (waiting left).length = left + 1 := by
  rw [waiting, List.length_append, List.length_replicate, List.length_singleton]

theorem length_polling (bound left : Nat) : (polling bound left).length = min (left + 1) bound := by
  unfold polling
  split
  · rw [length_waiting]
    omega
  · rw [List.length_replicate]
    omega

namespace Transmitter

variable {σ : Type} [Bus σ] (line : Transmitter σ) {bus : σ} {hold left : Nat}

theorem keeps_after (h : line.Keeps bus hold left) {n : Nat} (hn : n ≤ left) :
    line.Keeps (Bus.after lineStatusRegister bus n) hold (left - n) := by
  induction n with
  | zero => exact h
  | succ n ih =>
      have hleft : left - n = left - (n + 1) + 1 := by omega
      have hbefore := ih (Nat.le_of_succ_le hn)
      rw [hleft] at hbefore
      rw [Bus.after_succ]
      exact (line.busy hbefore).2

theorem answer_busy (h : line.Keeps bus hold left) {n : Nat} (hn : n < left) :
    (Bus.answer lineStatusRegister bus n).toNat.testBit 5 = false := by
  have hbefore := line.keeps_after h (Nat.le_of_lt hn)
  have hleft : left - n = left - (n + 1) + 1 := by omega
  rw [hleft] at hbefore
  exact (line.busy hbefore).1

theorem answer_ready (h : line.Keeps bus hold left) :
    (Bus.answer lineStatusRegister bus left).toNat.testBit 5 = true ∧
      line.Keeps (Bus.after lineStatusRegister bus (left + 1)) hold 0 := by
  have hdone := line.keeps_after h (Nat.le_refl left)
  rw [Nat.sub_self] at hdone
  rw [Bus.after_succ]
  exact line.ready hdone

theorem firstGood (h : line.Keeps bus hold left) :
    Bus.FirstGood lineStatusRegister acceptsByte bus left where
  busy _ hi := (acceptsByte_eq _).trans (line.answer_busy h hi)
  ready := (acceptsByte_eq _).trans (line.answer_ready h).1

/-- Reads that find the line busy. -/
theorem uses_looks (h : line.Keeps bus hold left) {n : Nat} (hn : n ≤ left) :
    (Traced.looks lineStatusRegister bus n).map BusEvent.use =
      List.replicate n (.look lineStatusRegister false) := by
  rw [Traced.looks, List.map_map]
  refine List.eq_replicate_iff.mpr ⟨by rw [List.length_map, List.length_range], fun use huse => ?_⟩
  obtain ⟨i, hi, rfl⟩ := List.mem_map.mp huse
  exact congrArg (PortUse.look lineStatusRegister)
    (line.answer_busy h (Nat.lt_of_lt_of_le (List.mem_range.mp hi) hn))

/-- Reads until the line is ready. -/
theorem uses_looks_ready (h : line.Keeps bus hold left) :
    (Traced.looks lineStatusRegister bus (left + 1)).map BusEvent.use = waiting left := by
  have hbusy := line.uses_looks h (Nat.le_refl left)
  rw [Traced.looks] at hbusy ⊢
  rw [List.range_succ, List.map_append, List.map_append, hbusy, waiting]
  exact congrArg (fun free => _ ++ [PortUse.look lineStatusRegister free]) (line.answer_ready h).1

variable {traced : Traced σ}

theorem await?_traced (h : line.Keeps traced.bus hold left) :
    ∃ next, await? lineStatusRegister acceptsByte traced = some next ∧
      line.Keeps next.bus hold 0 ∧ next.uses = traced.uses ++ waiting left := by
  refine ⟨_, Bus.await?_of_firstGood (Traced.firstGood_iff.mpr (line.firstGood h)), ?_⟩
  rw [Traced.after_eq, Traced.uses, List.map_append, line.uses_looks_ready h]
  exact ⟨(line.answer_ready h).2, rfl⟩

theorem poll_traced (h : line.Keeps traced.bus hold left) (bound : Nat) :
    ∃ next reads left', poll lineStatusRegister acceptsByte bound traced = (reads, next) ∧
      line.Keeps next.bus hold left' ∧ next.uses = traced.uses ++ polling bound left := by
  by_cases hbound : left < bound
  -- the line gets ready within the bound, or the bound is reached with reads still left
  · refine ⟨_, _, 0, Bus.poll_of_firstGood (Traced.firstGood_iff.mpr (line.firstGood h)) hbound, ?_⟩
    rw [Traced.after_eq, Traced.uses, List.map_append, line.uses_looks_ready h, polling,
      if_pos hbound]
    exact ⟨(line.answer_ready h).2, rfl⟩
  · have hle := Nat.not_lt.mp hbound
    have hbusy : ∀ i < bound, acceptsByte (Bus.answer lineStatusRegister traced i) = false :=
      fun i hi => by
        rw [acceptsByte_eq, Traced.answer_eq, line.answer_busy h (Nat.lt_of_lt_of_le hi hle)]
    refine ⟨_, _, left - bound, Bus.poll_of_busy hbusy, ?_⟩
    rw [Traced.after_eq, Traced.uses, List.map_append, line.uses_looks h hle, polling,
      if_neg hbound]
    exact ⟨line.keeps_after h hle, rfl⟩

end Transmitter

/-- Writes that are not for the line are put on record. -/
theorem Devices.write_of_not_owns {register : UInt16} (h : ¬ Owns register) (devices : Devices)
    (value : UInt8) : Bus.write devices register value =
      { devices with writes := devices.writes.push (register, value) } := by
  have hdata : (register == dataRegister) = false :=
    beq_false_of_ne fun hregister => h (by rw [hregister]; decide)
  have hcontrol : (register == lineControlRegister) = false :=
    beq_false_of_ne fun hregister => h (by rw [hregister]; decide)
  change devices.write register value = _
  simp only [Devices.write, hdata, hcontrol, Bool.false_and, Bool.false_eq_true, if_false]

/-- The serial line of the devices, with its divisor latch closed. -/
def Devices.line : Transmitter Devices where
  Keeps devices hold left :=
    devices.serial.hold = hold ∧ devices.serial.pending = left ∧
      devices.serial.divisorLatch = false
  slowDown devices hold := { devices with serial := devices.serial.slowDown hold }
  busy := by
    rintro ⟨⟨hold, pending, reads, sent, latch⟩, script, controllerReads, writes⟩ _ left
      ⟨rfl, rfl, rfl⟩
    have hbusy : busyStatus.toNat.testBit 5 = false := by decide
    exact ⟨hbusy, rfl, rfl, rfl⟩
  ready := by
    rintro ⟨⟨hold, pending, reads, sent, latch⟩, script, controllerReads, writes⟩ _ ⟨rfl, rfl, rfl⟩
    have hready : transmitterEmpty.toNat.testBit 5 = true := by decide
    exact ⟨hready, rfl, rfl, rfl⟩
  sent := by
    rintro ⟨⟨hold, pending, reads, sent, latch⟩, script, controllerReads, writes⟩ _ _ byte
      ⟨rfl, rfl, rfl⟩
    exact ⟨rfl, rfl, rfl⟩
  elsewhere := by
    intro devices hold left register value howns hkeeps
    rwa [Devices.write_of_not_owns howns]
  slowed := by
    rintro ⟨⟨hold, pending, reads, sent, latch⟩, script, controllerReads, writes⟩ _ _ next
      ⟨rfl, rfl, rfl⟩
    exact ⟨rfl, rfl, rfl⟩

end SlotKernel

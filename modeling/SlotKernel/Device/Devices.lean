import SlotKernel.Device.Reset

/-!
The devices on the bus: the first serial line and the keyboard controller. The serial line sends one
byte at a time and answers its line status with a busy value for a number of reads after each byte.
While bit 7 of its line control is on, its data register addresses the divisor latch instead. The
controller answers its status from a script and with zero afterwards. All other registers read zero,
and every write that is not a byte of serial text is kept in a record.
-/

namespace SlotKernel

namespace Serial

def dataRegister : UInt16 := 0x3f8

def lineControlRegister : UInt16 := 0x3fb

def lineStatusRegister : UInt16 := 0x3fd

/-- The status bit that is set while the line can take a byte. -/
def transmitterEmpty : UInt8 := 0x20

def busyStatus : UInt8 := 0xdf

def divisorLatchAccess : UInt8 := 0x80

def acceptsByte (status : UInt8) : Bool :=
  status &&& transmitterEmpty != 0

theorem acceptsByte_transmitterEmpty : acceptsByte transmitterEmpty = true := rfl

theorem acceptsByte_busyStatus : acceptsByte busyStatus = false := rfl

end Serial

/-- The serial line. -/
structure SerialLine where
  /-- The status reads that find the line busy after each byte. -/
  hold : Nat := 0
  /-- Those that are left after the last byte. -/
  pending : Nat := 0
  statusReads : Nat := 0
  sent : Array UInt8 := #[]
  divisorLatch : Bool := false

namespace SerialLine

/-- Make every byte keep the line busy for so many reads, and the line busy now. -/
def slowDown (line : SerialLine) (hold : Nat) : SerialLine :=
  { line with hold := hold, pending := hold }

def status (line : SerialLine) : UInt8 × SerialLine :=
  match line.pending with
  | 0 => (Serial.transmitterEmpty, { line with statusReads := line.statusReads + 1 })
  | left + 1 =>
      (Serial.busyStatus, { line with pending := left, statusReads := line.statusReads + 1 })

def send (line : SerialLine) (byte : UInt8) : SerialLine :=
  { line with sent := line.sent.push byte, pending := line.hold }

end SerialLine

/-- The devices together. -/
structure Devices where
  serial : SerialLine := {}
  /-- What the controller answers to the next status reads. -/
  controllerScript : List UInt8 := []
  controllerReads : Nat := 0
  /-- The writes that were not serial text, in order. -/
  writes : Array (UInt16 × UInt8) := #[]

namespace Devices

def read (devices : Devices) (register : UInt16) : UInt8 × Devices :=
  if register == Serial.lineStatusRegister then
    let (status, serial) := devices.serial.status
    (status, { devices with serial := serial })
  else if register == Reset.controllerRegister then
    (devices.controllerScript.headD 0,
      { devices with
        controllerScript := devices.controllerScript.tail
        controllerReads := devices.controllerReads + 1 })
  else
    (0, devices)

def write (devices : Devices) (register : UInt16) (value : UInt8) : Devices :=
  if register == Serial.dataRegister && !devices.serial.divisorLatch then
    { devices with serial := devices.serial.send value }
  else
    let devices := { devices with writes := devices.writes.push (register, value) }
    if register == Serial.lineControlRegister then
      let latch := value &&& Serial.divisorLatchAccess != 0
      { devices with serial := { devices.serial with divisorLatch := latch } }
    else
      devices

instance : Bus Devices where
  read := read
  write := write

/-- The devices once the serial line is ready, after the reads that found it busy and the one that
did not. -/
def idle (devices : Devices) : Devices :=
  { devices with
    serial := { devices.serial with
      pending := 0
      statusReads := devices.serial.statusReads + (devices.serial.pending + 1) } }

/-- The line is ready after the reads that are left. -/
theorem await?_line (devices : Devices) :
    await? Serial.lineStatusRegister Serial.acceptsByte devices = some devices.idle := by
  obtain ⟨⟨hold, pending, statusReads, sent, latch⟩, script, controllerReads, writes⟩ := devices
  induction pending generalizing statusReads with
  | zero =>
      rw [await?_eq]
      exact if_pos Serial.acceptsByte_transmitterEmpty
  | succ pending ih =>
      rw [await?_eq]
      refine (if_neg (ne_true_of_eq_false Serial.acceptsByte_busyStatus)).trans ?_
      refine (ih (statusReads + 1)).trans ?_
      simp only [idle, Nat.add_comm, Nat.add_left_comm]

instance : Responsive Devices Serial.lineStatusRegister Serial.acceptsByte where
  isSome_await? devices := by
    rw [await?_line]
    rfl

theorem await_line (devices : Devices) :
    await Serial.lineStatusRegister Serial.acceptsByte devices = devices.idle :=
  Option.get_of_eq_some _ devices.await?_line

/-- The devices with their records started afresh. -/
def forget (devices : Devices) : Devices :=
  { devices with
    serial := { devices.serial with sent := #[], statusReads := 0 }
    controllerReads := 0
    writes := #[] }

end Devices

end SlotKernel

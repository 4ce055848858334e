import SlotKernel.Device.Devices

/-!
Text on the serial line. The line is programmed once for 115200 bits a second and eight bits without
parity; then each byte waits for the transmitter and is written to the data register.
-/

namespace SlotKernel.Serial

/-- The writes that program the line: interrupts off, the divisor through the latch, the frame
format, the queues and the modem control. -/
def setup : List (UInt16 × UInt8) :=
  [(0x3f9, 0x00), (0x3fb, 0x80), (0x3f8, 0x01), (0x3f9, 0x00), (0x3fb, 0x03), (0x3fa, 0xc7),
    (0x3fc, 0x0b)]

def program {σ : Type} [Bus σ] (bus : σ) : σ :=
  setup.foldl (fun bus (register, value) => Bus.write bus register value) bus

/-- Wait for the transmitter and send one byte. There is no result if it never gets ready. -/
def writeByte? {σ : Type} [Bus σ] (bus : σ) (byte : UInt8) : Option σ := do
  let bus ← await? lineStatusRegister acceptsByte bus
  return Bus.write bus dataRegister byte

def writeBytes? {σ : Type} [Bus σ] (bus : σ) (bytes : List UInt8) : Option σ :=
  bytes.foldlM writeByte? bus

section Ready

variable {σ : Type} [Bus σ] [Responsive σ lineStatusRegister acceptsByte]

/-- Send one byte over a transmitter that gets ready at last. -/
def writeByte (bus : σ) (byte : UInt8) : σ :=
  Bus.write (await lineStatusRegister acceptsByte bus) dataRegister byte

def writeBytes (bus : σ) (bytes : List UInt8) : σ :=
  bytes.foldl writeByte bus

theorem writeByte?_eq (bus : σ) (byte : UInt8) : writeByte? bus byte = some (writeByte bus byte) := by
  rw [writeByte?, ← Option.some_get (Responsive.isSome_await? bus)]
  rfl

theorem writeBytes?_eq (bus : σ) (bytes : List UInt8) :
    writeBytes? bus bytes = some (writeBytes bus bytes) := by
  induction bytes generalizing bus with
  | nil => rfl
  | cons byte bytes ih =>
      rw [writeBytes?, List.foldlM_cons, writeByte?_eq]
      exact ih (writeByte bus byte)

end Ready

end SlotKernel.Serial

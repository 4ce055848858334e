import SlotKernel.Console.Log
import SlotKernel.Machine.Run

/-!
The last words of a kernel that cannot go on. They use neither the shadow nor the log, since the
window may be half moved: each byte goes to the debug register and to the serial line, and the wait
for the serial line is bounded, so that the output ends on any hardware. Then the machine halts with
interrupts off. A panic inside the handler says only that and halts.
-/

namespace SlotKernel.Emergency

def debugRegister : UInt16 := 0xe9

/-- The status reads that a byte waits for the serial line at most. -/
def pollBound : Nat := 10000

/-- A place in the program text. -/
structure Location where
  line : UInt32
  column : UInt32

/-- The state of the handler, over some bus. -/
structure Handler (σ : Type := Devices) where
  devices : σ
  interrupts : Bool := true
  inProgress : Bool := false

section Output

variable {σ : Type} [Bus σ]

def writeByte (bus : σ) (byte : UInt8) : σ :=
  let bus := Bus.write bus debugRegister byte
  let (_, bus) := poll Serial.lineStatusRegister Serial.acceptsByte pollBound bus
  Bus.write bus Serial.dataRegister byte

def writeText (bus : σ) (text : String) : σ :=
  (Console.textBytes text).foldl writeByte bus

def writeWord (bus : σ) (word : UInt32) : σ :=
  (Numeral.wordDigits word).foldl writeByte (writeText bus "0x")

end Output

namespace Handler

variable {σ : Type} [Bus σ]

def say (text : String) : Run (Handler σ) Unit :=
  modify fun handler => { handler with devices := writeText handler.devices text }

def sayWord (word : UInt32) : Run (Handler σ) Unit :=
  modify fun handler => { handler with devices := writeWord handler.devices word }

/-- Say where the first panic happened. -/
def sayLocation : Option Location → Run (Handler σ) Unit
  | some location => do
      say "[PANIC] location line="
      sayWord location.line
      say " col="
      sayWord location.column
      say "\n"
  | none => say "[PANIC] location unknown\n"

/-- Turn interrupts off, say what happened and halt. -/
def handle (location : Option Location) : Run (Handler σ) Unit := do
  modify fun handler => { handler with interrupts := false }
  let inProgress := (← get).inProgress
  modify fun handler => { handler with inProgress := true }
  if inProgress then
    say "[PANIC] re-entered => halt\n"
  else
    say "[PANIC] kernel panic\n"
    sayLocation location
  throw .halted

/-- The state in which the machine halts after an entry into the handler. -/
def enter (handler : Handler σ) (location : Option Location) : Handler σ :=
  match handle location handler with
  | .ok _ handler => handler
  | .error _ handler => handler

end Handler

end SlotKernel.Emergency

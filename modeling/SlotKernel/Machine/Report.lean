import SlotKernel.Console.Log
import SlotKernel.Machine.Run

/-!
Log calls inside computations. Whatever state a computation works on, it can write to the log if a
console is part of that state.
-/

namespace SlotKernel

/-- The state has a console that can be changed. -/
class HasConsole (σ : Type) where
  onConsole : (Console → Console) → Run σ Unit

namespace Report

variable {σ : Type} [HasConsole σ]

def info (message : String) : Run σ Unit :=
  HasConsole.onConsole (·.info message)

def error (message : String) : Run σ Unit :=
  HasConsole.onConsole (·.error message)

/-- Log a count or another number in decimal. -/
def number (key : String) (value : Nat) : Run σ Unit :=
  HasConsole.onConsole (·.infoNumber key value)

/-- Log an address or a register in hexadecimal. -/
def hex (key : String) (value : UInt32) : Run σ Unit :=
  HasConsole.onConsole (·.infoHex key value.toNat)

end Report

end SlotKernel

import SlotKernel.Device.Bus
import SlotKernel.Machine.Run
import SlotKernel.Word

/-!
Resetting the machine through the keyboard controller. The controller takes a command only while its
input buffer is empty, which bit 1 of its status tells; then one command byte pulses the reset line.
The reads of the status are counted in a machine word, so there is an end to the wait either way: a
controller that is busy for more reads than the word can count makes the machine panic.
-/

namespace SlotKernel.Reset

/-- Status and commands of the controller share a register. -/
def controllerRegister : UInt16 := 0x64

/-- The status bit that is set while the controller has not taken the last byte. -/
def inputBufferFull : UInt8 := 0x02

def pulseCommand : UInt8 := 0xfe

def acceptsCommand (status : UInt8) : Bool :=
  status &&& inputBufferFull == 0

variable {σ : Type} [Bus σ]

/-- Read the status until the controller takes a command. The next read has this number, and the
answer is the number of the last one. -/
def awaitEmpty {width : Nat} (polls : BitVec width) : Run σ (BitVec width) := do
  let status ← modifyGet (Bus.read · controllerRegister)
  if acceptsCommand status then
    return polls
  else
    match _counted : Word.succ? polls with
    | some polls => awaitEmpty polls
    | none => Run.panic .addOverflow
termination_by (~~~polls).toNat
decreasing_by exact Word.toNat_not_of_succ? _counted

theorem awaitEmpty_eq {width : Nat} (polls : BitVec width) (bus : σ) :
    awaitEmpty polls bus =
      if acceptsCommand (Bus.read bus controllerRegister).1 then
        .ok polls (Bus.read bus controllerRegister).2
      else
        match Word.succ? polls with
        | some polls => awaitEmpty polls (Bus.read bus controllerRegister).2
        | none => .error (.panicked .addOverflow) (Bus.read bus controllerRegister).2 := by
  rw [awaitEmpty]
  change (if acceptsCommand (Bus.read bus controllerRegister).1 = true then _ else _ :
    Run σ (BitVec width)) (Bus.read bus controllerRegister).2 = _
  split
  · rfl
  · cases Word.succ? polls <;> rfl

/-- Wait for the controller and send the command; the answer counts the status reads in a word of
this width. -/
def pulse (width : Nat) : Run σ (BitVec width) := do
  let polls ← awaitEmpty (BitVec.ofNat width 1)
  modify (Bus.write · controllerRegister pulseCommand)
  return polls

end SlotKernel.Reset

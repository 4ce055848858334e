import SlotKernel.Machine.Basic
import SlotKernel.Machine.Memory

/-!
The bare processor. What the kernel asks for becomes single instructions, and these are recorded in
the order in which they are executed. Interrupts are turned off and on only where that changes
something. Restoring a context and halting end the computation: nothing after them is executed. What
is in the registers when a context is captured is up to the code around the kernel, so a processor
comes with the registers that each of its captures finds.
-/

namespace SlotKernel

inductive Instruction where
  | disableInterrupts
  | enableInterrupts
  | halt
  /-- A write to control register 0. -/
  | loadControl (value : UInt32)
  /-- A write to control register 3, the address of the page directory. -/
  | loadRoot (value : UInt32)
  | invalidate (addr : VirtAddr)
  | capture (context : Context)
  | resume
  | restore (context : Context)

structure Processor where
  /-- Control register 0. Bit 31 turns paging on. -/
  control : UInt32 := 0x11
  /-- Control register 3. -/
  root : UInt32 := 0
  interrupts : Bool := true
  memory : Memory
  executed : Array Instruction := #[]
  captures : Nat := 0
  /-- What each capture finds in the registers, from the first one on. -/
  registers : Nat → Context
  /-- Whether the next capture answers `resumed`. -/
  resumeNext : Bool := false
  /-- The request that waits for the switch stack. -/
  parked : Option SwitchRequest := none

namespace Processor

/-- Registers by which the captures can be told apart, with a stack close to the ceiling. -/
def labels (capture : Nat) : Context :=
  let label := UInt32.ofNat (capture + 1)
  { ebx := label
    esi := 0
    edi := 0
    ebp := windowCeiling - 0x20
    esp := windowCeiling - 0x40
    eip := 0x102000 + label * 16 }

/-- A processor with nine MiB of memory above the first MiB. -/
def new : Processor :=
  { memory := .zeroed 0x100000 9, registers := labels }

/-- The bit of control register 0 that turns paging on. -/
def pagingBit : UInt32 := 0x80000000

def execute (instruction : Instruction) : Run Processor Unit :=
  modify fun p => { p with executed := p.executed.push instruction }

def loadRoot (value : UInt32) : Run Processor Unit := do
  execute (.loadRoot value)
  modify fun p => { p with root := value }

def loadControl (value : UInt32) : Run Processor Unit := do
  execute (.loadControl value)
  modify fun p => { p with control := value }

def disableInterrupts : Run Processor Unit := do
  execute .disableInterrupts
  modify fun p => { p with interrupts := false }

def enableInterrupts : Run Processor Unit := do
  execute .enableInterrupts
  modify fun p => { p with interrupts := true }

def activatePaging (directory : PhysAddr) : Run Processor Unit := do
  loadRoot directory.val
  loadControl ((← get).control ||| pagingBit)

/-- Loading the page directory again drops every cached mapping. -/
def flushMappings : Run Processor Unit := do
  loadRoot (← get).root

def mask : Run Processor Bool := do
  let was := (← get).interrupts
  if was then
    disableInterrupts
  return was

/-- What the next capture finds in the registers. -/
def nextContext (p : Processor) : Context :=
  p.registers p.captures

def capture : Run Processor Capture := do
  let p ← get
  if p.resumeNext then
    set { p with resumeNext := false }
    execute .resume
    return .resumed
  else
    set { p with captures := p.captures + 1 }
    execute (.capture p.nextContext)
    return .saved p.nextContext

def copyToPhysical (target : PhysAddr) (source : VirtAddr) (count : UInt32) :
    Run Processor Unit := do
  let p ← get
  let memory ← p.memory.copy target.val.toNat source.val.toNat count.toNat
  set { p with memory := memory }

/-- Leave the request where the switch stack finds it, outside the window. -/
def park (request : SwitchRequest) : Run Processor Unit :=
  modify fun p => { p with parked := some request }

/-- Take the parked request, on the switch stack. -/
def takeParked : Run Processor SwitchRequest := do
  let some request := (← get).parked | Run.panic .noSwitchRequest
  modify fun p => { p with parked := none }
  return request

instance : Machine Processor where
  activatePaging := activatePaging
  invalidatePage page := execute (.invalidate page.start)
  flushMappings := flushMappings
  mask := mask
  unmask was := if was then enableInterrupts else pure ()
  disableInterrupts := disableInterrupts
  copyToPhysical := copyToPhysical
  capture := capture
  handOver request := do
    park request
    takeParked
  restore ctx := do
    execute (.restore ctx)
    throw .restored
  halt := do
    execute .halt
    throw .halted
  pendingResumes p := if p.resumeNext then 1 else 0

/-- The processor with its record of instructions started afresh. -/
def forget (p : Processor) : Processor :=
  { p with executed := #[] }

end Processor

end SlotKernel

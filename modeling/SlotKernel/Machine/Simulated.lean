import SlotKernel.Machine.Basic
import SlotKernel.Machine.Memory

/-!
A machine that records what is asked of it. Its captures save made-up contexts that tell them apart,
numbered from one. Restoring a context is only recorded, so control comes back to the caller; a
resume is played by making the next capture answer `resumed`. Dropping a cached mapping or moving
the window while interrupts are on is counted, since that must not happen.
-/

namespace SlotKernel

/-- A copy between slots. -/
structure CopyRecord where
  target : PhysAddr
  source : VirtAddr
  count : UInt32

structure Simulated where
  memory : Memory
  /-- The page directory, once it is loaded. -/
  root : Option PhysAddr := none
  interrupts : Bool := true
  invalidated : Array Page := #[]
  flushes : Nat := 0
  copies : Array CopyRecord := #[]
  captures : Nat := 0
  restored : Array Context := #[]
  /-- How often cached mappings or the window were touched with interrupts on. -/
  unmasked : Nat := 0
  /-- Whether the next capture answers `resumed`. -/
  resumeNext : Bool := false

namespace Simulated

/-- A machine with one MiB more memory than it has slots. -/
def new (slots : Nat) : Simulated :=
  { memory := .zeroed 0 (slots + 1) }

/-- Where the contexts of captures go on, sixteen bytes apart. -/
def codeBase : UInt32 := 0x102000

/-- Count a change that ought to be masked. -/
def noteMutation (m : Simulated) : Simulated :=
  if m.interrupts then { m with unmasked := m.unmasked + 1 } else m

/-- The context of the capture of this number. -/
def capturedContext (label : Nat) : Except Panic Context := do
  let label := UInt32.ofNat label
  let distance ← orPanic .multiplyOverflow (Word.mul? label 16)
  let address ← orPanic .addOverflow (Word.add? codeBase distance)
  return {
    ebx := label
    esi := 0
    edi := 0
    ebp := windowCeiling - 0x20
    esp := windowCeiling - 0x40
    eip := address }

def capture : Run Simulated Capture := do
  let m ← get
  if m.resumeNext then
    set { m with resumeNext := false }
    return .resumed
  else
    set { m with captures := m.captures + 1 }
    return .saved (← capturedContext (m.captures + 1))

def copyToPhysical (target : PhysAddr) (source : VirtAddr) (count : UInt32) :
    Run Simulated Unit := do
  let m ← get
  let memory ← m.memory.copy target.val.toNat source.val.toNat count.toNat
  set { m with memory := memory, copies := m.copies.push ⟨target, source, count⟩ }

instance : Machine Simulated where
  activatePaging directory := modify fun m => { m with root := some directory }
  invalidatePage page := modify fun m =>
    let m := m.noteMutation
    { m with invalidated := m.invalidated.push page }
  flushMappings := modify fun m =>
    let m := m.noteMutation
    { m with flushes := m.flushes + 1 }
  mask := modifyGet fun m => (m.interrupts, { m with interrupts := false })
  unmask was := modify fun m => { m with interrupts := was }
  disableInterrupts := modify fun m => { m with interrupts := false }
  copyToPhysical := copyToPhysical
  capture := capture
  handOver request := do
    modify noteMutation
    return request
  restore ctx := modify fun m => { m with restored := m.restored.push ctx }
  halt := throw .halted
  pendingResumes m := if m.resumeNext then 1 else 0

/-- The machine with its records of single operations started afresh. Counts of captures and of
unmasked changes go on. -/
def forget (m : Simulated) : Simulated :=
  { m with invalidated := #[], flushes := 0, copies := #[], restored := #[] }

end Simulated

end SlotKernel

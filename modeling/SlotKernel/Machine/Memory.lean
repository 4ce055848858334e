import SlotKernel.Error

/-!
Physical memory as a stretch of bytes that starts at some address. Reading, filling and copying name
their range by its first address and its length; a range that leaves the memory is refused. Reading
and filling look at both ends of their range and blame the start first; a copy looks at the end of
its source and then at its target. A copy takes its bytes as they were before it, also where source
and target overlap.
-/

namespace SlotKernel

structure Memory where
  /-- The address of the first byte. -/
  base : Nat
  bytes : ByteArray

namespace Memory

/-- A MiB of zeros. -/
def zeroMib : ByteArray :=
  Nat.fold 0x100000 (fun _ _ bytes => bytes.push 0) (ByteArray.emptyWithCapacity 0x100000)

/-- So many MiB of zeros from an address on. -/
def zeroed (base megabytes : Nat) : Memory :=
  ⟨base, Nat.fold megabytes (fun _ _ bytes => bytes ++ zeroMib) .empty⟩

def size (memory : Memory) : Nat :=
  memory.bytes.size

/-- Where a range starts in the memory, if all of it lies there. -/
def place? (memory : Memory) (start count : Nat) : Option Nat :=
  if memory.base ≤ start ∧ start + count ≤ memory.base + memory.size then
    some (start - memory.base)
  else
    none

/-- Where a range to read or to fill starts in the memory. -/
def place (memory : Memory) (start count : Nat) : Except Panic Nat :=
  let cause :=
    if memory.base + memory.size < start then
      .rangeStartOutside start memory.size
    else
      .rangeEndOutside (start + count) memory.size
  orPanic cause (memory.place? start count)

def read (memory : Memory) (start count : Nat) : Except Panic ByteArray := do
  let offset ← memory.place start count
  return memory.bytes.extract offset (offset + count)

/-- The pattern that a fill writes: it grows by 31 from byte to byte. -/
def pattern (seed : UInt8) (count : Nat) : ByteArray :=
  Nat.fold count (fun i _ bytes => bytes.push (UInt8.ofNat i * 31 + seed))
    (ByteArray.emptyWithCapacity count)

def fill (memory : Memory) (start count : Nat) (seed : UInt8) : Except Panic Memory := do
  let offset ← memory.place start count
  return { memory with bytes := (pattern seed count).copySlice 0 memory.bytes offset count }

/-- Copy `count` bytes from `source` to `target`. -/
def copy (memory : Memory) (target source count : Nat) : Except Panic Memory := do
  let source ← orPanic (.rangeEndOutside (source + count) memory.size) (memory.place? source count)
  let target ← orPanic .copyTargetOutOfRange (memory.place? target count)
  return { memory with bytes := memory.bytes.copySlice source memory.bytes target count }

end Memory

end SlotKernel

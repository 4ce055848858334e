/-!
The bus to the devices, with registers of one byte. A device answers reads and takes writes; reading
may change it. Waiting for a device is reading its status register until the answer is a good one.
`poll` gives up after so many reads. `await?` goes on for ever if it has to, so it has a result only
if the device gets ready at last; for a register that gets ready in every state of the bus, `await`
is that result.
-/

namespace SlotKernel

class Bus (σ : Type) where
  read : σ → UInt16 → UInt8 × σ
  write : σ → UInt16 → UInt8 → σ

/-- Read a register until the answer is good, at most so many times, and count the reads. -/
def poll {σ : Type} [Bus σ] (register : UInt16) (good : UInt8 → Bool) : Nat → σ → Nat × σ
  | 0, bus => (0, bus)
  | bound + 1, bus =>
      let (answer, bus) := Bus.read bus register
      if good answer then
        (1, bus)
      else
        let (reads, bus) := poll register good bound bus
        (reads + 1, bus)

/-- What a device is waited for: a register, and the answers by which it tells that it is ready. -/
structure Readiness where
  register : UInt16
  good : UInt8 → Bool

section Waiting

variable {σ : Type} [Bus σ]

/-- Go on reading the register until the answer is good. -/
def Readiness.await? (sought : Readiness) (bus : σ) : Option σ :=
  let (answer, bus) := Bus.read bus sought.register
  if sought.good answer then
    some bus
  else
    sought |>.await? bus
partial_fixpoint

/-- Read a register until the answer is good. -/
def await? (register : UInt16) (good : UInt8 → Bool) (bus : σ) : Option σ :=
  Readiness.await? ⟨register, good⟩ bus

theorem await?_eq {register : UInt16} {good : UInt8 → Bool} (bus : σ) :
    await? register good bus =
      if good (Bus.read bus register).1 then
        some (Bus.read bus register).2
      else
        await? register good (Bus.read bus register).2 := by
  rw [await?, Readiness.await?]
  rfl

end Waiting

/-- In every state of the bus a register gives a good answer at last. -/
class Responsive (σ : Type) [Bus σ] (register : UInt16) (good : UInt8 → Bool) : Prop where
  isSome_await? : ∀ bus : σ, (await? register good bus).isSome

/-- Wait for a good answer that will come. -/
def await {σ : Type} [Bus σ] (register : UInt16) (good : UInt8 → Bool)
    [Responsive σ register good] (bus : σ) : σ :=
  (await? register good bus).get (Responsive.isSome_await? bus)

/-- A bus that answers every read with the next byte of a script and with zero after its end, and
that keeps a record of what was asked of it. -/
structure ScriptedBus where
  script : List UInt8
  reads : Array UInt16 := #[]
  writes : Array (UInt16 × UInt8) := #[]

instance : Bus ScriptedBus where
  read bus register :=
    (bus.script.headD 0, { bus with script := bus.script.tail, reads := bus.reads.push register })
  write bus register value := { bus with writes := bus.writes.push (register, value) }

end SlotKernel

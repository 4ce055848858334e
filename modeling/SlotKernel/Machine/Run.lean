import SlotKernel.Error

/-!
Computations that may stop. A `Run` works on a state and ends with a value, or it stops: the kernel
panics, the machine halts, control leaves through a restored context, or a lock is taken by its own
holder. The state at the stop is kept, since the memory of a stopped machine can still be looked at.
-/

namespace SlotKernel

inductive Stop where
  | panicked (cause : Panic)
  /-- The machine waits with nothing left to do. -/
  | halted
  /-- A saved context goes on in place of this computation. -/
  | restored
  /-- A lock would be waited for that is never released. -/
  | deadlocked
  /-- Refresh hooks called one another more often than processes can resume. -/
  | hooksNested
  deriving DecidableEq

/-- A computation on `σ` that ends with an `α` or stops. -/
abbrev Run (σ : Type) := EStateM Stop σ

namespace Run

/-- Stop with a panic. -/
def panic {σ α : Type} (cause : Panic) : Run σ α :=
  throw (.panicked cause)

instance {σ : Type} : MonadLift (Except Panic) (Run σ) where
  monadLift
    | .ok a => pure a
    | .error cause => panic cause

end Run

end SlotKernel

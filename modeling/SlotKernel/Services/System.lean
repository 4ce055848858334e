import SlotKernel.Kernel.Boot

/-!
The whole system: the board, and the one kernel state that may be installed on it behind a lock.
Every access to the kernel takes the lock, works on the state if there is one, and releases the
lock; a computation that stops in between leaves it taken. What the shell registered as its hook has
a lock of its own. The journal keeps the answers to the requests of hooks.
-/

namespace SlotKernel

/-- The answer to a request of a hook. -/
inductive Reply where
  | note (text : String)
  | status (active count : Option Nat) (base : Option VirtAddr)
  | switched (outcome : Option SwitchOutcome)
  | mapped (result : Except MappingError VirtAddr)
  | registered (accepted : Bool)

structure System (μ : Type) where
  board : Board μ
  installed : Option Kernel := none
  /-- Whether someone holds the lock of the kernel state. -/
  locked : Bool := false
  shellHook : Option (List Request) := none
  /-- Whether someone holds the lock of the shell's hook. -/
  shellLocked : Bool := false
  journal : Array Reply := #[]
  tracing : Bool := false

/-- The system with its kernel and its board as the kernel's work left them. -/
def System.withWorld {μ : Type} (system : System μ) (world : World μ) : System μ :=
  { system with installed := some world.kernel, board := world.board, tracing := world.tracing }

abbrev SystemM (μ : Type) := Run (System μ)

namespace SystemM

variable {μ : Type}

/-- Let the board work. -/
def onBoard {α : Type} (act : Run (Board μ) α) : SystemM μ α := fun system =>
  match act system.board with
  | .ok a board => .ok a { system with board := board }
  | .error stop board => .error stop { system with board := board }

instance : MonadLift (Run (Board μ)) (SystemM μ) where
  monadLift := onBoard

instance : HasConsole (System μ) where
  onConsole change := onBoard (Board.onConsole change)

/-- Take the lock of the kernel state. -/
def lock : SystemM μ Unit := do
  if (← get).locked then
    throw .deadlocked
  modify fun system => { system with locked := true }

def unlock : SystemM μ Unit :=
  modify fun system => { system with locked := false }

/-- Let the installed kernel work, if there is one. -/
def onKernel {α : Type} (act : KernelM μ α) : SystemM μ (Option α) := fun system =>
  match system.installed with
  | none => .ok none system
  | some kernel =>
      match act ⟨kernel, system.board, system.tracing⟩ with
      | .ok a world => .ok (some a) (system.withWorld world)
      | .error stop world => .error stop (system.withWorld world)

/-- Let the installed kernel work under the lock. -/
def withKernel {α : Type} (act : KernelM μ α) : SystemM μ (Option α) := do
  lock
  let answer ← onKernel act
  unlock
  return answer

/-- Install a kernel with nothing set up, unless there is one. -/
def install (config : Config) : SystemM μ Bool := do
  lock
  let vacant := (← get).installed.isNone
  if vacant then
    modify fun system => { system with installed := some { config := config } }
  unlock
  return vacant

def uninstall : SystemM μ Unit := do
  lock
  modify fun system => { system with installed := none }
  unlock

/-- Replace the hook of the shell. -/
def setShellHook (requests : List Request) : SystemM μ Unit := do
  if (← get).shellLocked then
    throw .deadlocked
  modify fun system => { system with shellLocked := true }
  modify fun system => { system with shellHook := some requests, shellLocked := false }

/-- The hook of the shell. Its lock is free again before anyone calls the hook. -/
def getShellHook : SystemM μ (Option (List Request)) := do
  if (← get).shellLocked then
    throw .deadlocked
  modify fun system => { system with shellLocked := true }
  let hook := (← get).shellHook
  modify fun system => { system with shellLocked := false }
  return hook

/-- Add an answer to the journal. -/
def record (reply : Reply) : SystemM μ Unit :=
  modify fun system => { system with journal := system.journal.push reply }

end SystemM

end SlotKernel

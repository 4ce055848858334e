import SlotKernel.Address

/-!
What can go wrong. An operation that refuses its arguments answers with a typed error and changes
nothing: `MappingError` for single pages and the viewport, `MoveError` for the process window,
`ContextError` for a saved context, `ConfigError` for a configuration. Where the kernel cannot go on
it panics, and `Panic` lists the causes with the wording of each. `Failure` joins the two for
operations that can end in both ways.
-/

namespace SlotKernel

inductive MappingError where
  /-- No page table covers the page. -/
  | notMapped (page : Page)
  /-- Page 0 stays unmapped, so that a null access faults. -/
  | nullPage
  /-- The frames that would follow the address do not exist. -/
  | frameOutOfRange (addr : PhysAddr)
  /-- The page belongs to the process window, which only a switch changes. -/
  | overlapsWindow (page : Page)
  /-- There is no viewport yet. -/
  | noViewport
  deriving DecidableEq

inductive MoveError where
  /-- The page has no table entry, or its entry is not present. -/
  | notMapped (page : Page)
  /-- The page does not show the frame that belongs to the slot it is moved from. -/
  | frameMismatch (page : Page) (found expected : Frame)
  /-- A frame of the page, before or after the move, lies outside the mapped memory. -/
  | outOfRange (page : Page)
  deriving DecidableEq

def MoveError.describe : MoveError → String
  | .notMapped page => "NotMapped(" ++ page.describe ++ ")"
  | .frameMismatch page found expected =>
      "FrameMismatch \x7b page: " ++ page.describe ++ ", found: " ++ found.describe
        ++ ", expected: " ++ expected.describe ++ " \x7d"
  | .outOfRange page => "OutOfRange(" ++ page.describe ++ ")"

inductive ContextError where
  /-- Nothing was ever saved. -/
  | notSeeded
  /-- The saved stack pointer is not in the process window. -/
  | stackOutsideWindow (stack : VirtAddr)
  deriving DecidableEq

def ContextError.describe : ContextError → String
  | .notSeeded => "NotSeeded"
  | .stackOutsideWindow stack => "StackOutsideWindow(" ++ stack.describe ++ ")"

inductive ConfigError where
  | tooManyProcesses (requested max : Nat)
  | imageStartMisaligned (addr : VirtAddr)
  | imageStartOutsideWindow (addr : VirtAddr)
  | insufficientMemory (required available : UInt32)
  deriving DecidableEq

/-- Why the kernel stopped for good. -/
inductive Panic where
  | addOverflow
  | multiplyOverflow
  | subtractOverflow
  | misalignedDirectory
  | tablesNotBuilt
  | pagingNotEnabled
  | notRunnable (target : Nat)
  | badContext (error : ContextError)
  | windowMove (error : MoveError)
  | noSwitchRequest
  | noContextSlot (index : Nat)
  /-- A place of a buffer lies beyond its end. -/
  | indexOutside (index size : Nat)
  /-- A range of memory starts beyond its end. -/
  | rangeStartOutside (start size : Nat)
  /-- A range of memory ends beyond its end. -/
  | rangeEndOutside (stop size : Nat)
  | copyTargetOutOfRange
  | invalidConfiguration
  | installedTwice
  | stateMissing
  deriving DecidableEq

def Panic.message : Panic → String
  | .addOverflow => "attempt to add with overflow"
  | .multiplyOverflow => "attempt to multiply with overflow"
  | .subtractOverflow => "attempt to subtract with overflow"
  | .misalignedDirectory => "assertion failed: base.is_page_aligned()"
  | .tablesNotBuilt => "enable_paging: page tables not built"
  | .pagingNotEnabled => "replicate: paging not enabled"
  | .notRunnable target => "switch_task: target " ++ Numeral.decimal target ++ " is not runnable"
  | .badContext error => "switch_task: bad saved context: " ++ error.describe
  | .windowMove error => "window patch failed: " ++ error.describe
  | .noSwitchRequest => "switch_on_private_stack: no pending request"
  | .noContextSlot index =>
      "index out of bounds: the len is 8 but the index is " ++ Numeral.decimal index
  | .indexOutside index size =>
      "index out of bounds: the len is " ++ Numeral.decimal size ++ " but the index is "
        ++ Numeral.decimal index
  | .rangeStartOutside start size =>
      "range start index " ++ Numeral.decimal start ++ " out of range for slice of length "
        ++ Numeral.decimal size
  | .rangeEndOutside stop size =>
      "range end index " ++ Numeral.decimal stop ++ " out of range for slice of length "
        ++ Numeral.decimal size
  | .copyTargetOutOfRange => "dest is out of bounds"
  | .invalidConfiguration => "invalid kernel configuration"
  | .installedTwice => "kernel state installed twice"
  | .stateMissing => "kernel state missing"

/-- The value, or a panic where there is none. -/
def orPanic {α : Type} (cause : Panic) : Option α → Except Panic α
  | some a => .ok a
  | none => .error cause

/-- The end of an operation that may be refused or may panic. -/
inductive Failure (ε : Type) where
  | refused (error : ε)
  | panicked (cause : Panic)

instance {ε : Type} : MonadLift (Except Panic) (Except (Failure ε)) where
  monadLift
    | .ok a => .ok a
    | .error cause => .error (.panicked cause)

end SlotKernel

import SlotKernel.Paging.Tables

/-!
Moving the process window from one slot to another. A page that shows the frame at its own number
above the base of the one slot comes to show the frame at the same distance above the base of the
other. All pages of the window are checked before the first is changed: each has to be present,
to show exactly the frame of the slot it is moved from, and to land below the limit of the mapped
frames. So a refused move has changed nothing.
-/

namespace SlotKernel

/-- A request to move the window from slot `source` to slot `target`. -/
structure WindowMove where
  window : Window
  source : Nat
  target : Nat
  /-- The frames from this number on are not mapped. -/
  frameLimit : UInt32
  deriving DecidableEq

namespace WindowMove

/-- The frame that a page is to show when it shows `current` now. -/
def targetFrame (move : WindowMove) (page : Page) (current : Frame) :
    Except (Failure MoveError) Frame := do
  let sourceBase ← slotBase move.source
  let some expected := sourceBase.add? page.number | throw (.refused (.outOfRange page))
  if current ≠ expected then
    throw (.refused (.frameMismatch page current expected))
  let targetBase ← slotBase move.target
  let some moved := current.rebase? sourceBase targetBase | throw (.refused (.outOfRange page))
  if move.frameLimit ≤ moved.number then
    throw (.refused (.outOfRange page))
  return moved

/-- Check that a page can be moved. -/
def checkPage (move : WindowMove) (s : PageTables) (page : Page) :
    Except (Failure MoveError) Unit := do
  let some entry := s.entry? page | throw (.refused (.notMapped page))
  unless entry.isPresent do
    throw (.refused (.notMapped page))
  let _ ← move.targetFrame page entry.frame

/-- Point one page into the other slot, where it has an entry. -/
def repointPage (move : WindowMove) (s : PageTables) (page : Page) :
    Except (Failure MoveError) PageTables := do
  let some entry := s.entry? page | return s
  let moved ← move.targetFrame page entry.frame
  return (s.modify? page (·.setFrame moved)).getD s

/-- Check every page of the window, then change them in ascending order. -/
def apply (move : WindowMove) (s : PageTables) :
    Except (Failure MoveError) (PageTables × PageRange) := do
  move.window.pages.forM (move.checkPage s)
  let moved ← move.window.pages.foldlM move.repointPage s
  return (moved, move.window.range)

end WindowMove

end SlotKernel

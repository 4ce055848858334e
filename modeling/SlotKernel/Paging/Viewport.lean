import SlotKernel.Paging.Tables

/-!
The viewport: four pages of virtual memory that can be pointed at any physical address, to reach
device registers or the memory of another slot. Its pages are not cached. It must keep clear of the
process window, whose pages a switch expects to find unchanged. Placing the viewport and pointing it
somewhere both look at all four pages before they change one.
-/

namespace SlotKernel

/-- A viewport that was placed at an address. -/
structure Viewport where
  base : VirtAddr
  deriving DecidableEq

namespace Viewport

/-- The number of pages in a viewport. -/
def pageCount : UInt32 := 4

/-- The pages from that of the base on. -/
def pages (view : Viewport) : List Page :=
  view.base.page.span pageCount.toNat

def range (view : Viewport) : PageRange :=
  ⟨view.base.page, pageCount⟩

/-- Refuse a page that cannot be part of a viewport: page 0, a page that starts in the process
window, or a page without an entry. -/
def checkPage (s : PageTables) (window : Window) (page : Page) : Except MappingError Unit :=
  if page.number == 0 then
    .error .nullPage
  else if window.contains page.start then
    .error (.overlapsWindow page)
  else if (s.entry? page).isNone then
    .error (.notMapped page)
  else
    .ok ()

/-- Place a viewport at an address and stop caching its pages. -/
def place (s : PageTables) (base : VirtAddr) (window : Window) :
    Except MappingError (Viewport × PageTables) := do
  let view : Viewport := ⟨base⟩
  view.pages.forM (checkPage s window)
  let placed ← view.pages.foldlM (fun s page => s.disableCacheForPage page.start) s
  return (view, placed)

/-- The addresses that the four pages are to show, in order. -/
def targets (view : Viewport) (s : PageTables) (phys : PhysAddr) :
    Except MappingError (List (Page × PhysAddr)) :=
  view.pages.zipIdx.mapM fun (page, i) => do
    let some target := phys.add? (UInt32.ofNat i * pageSize) | throw (.frameOutOfRange phys)
    if (s.entry? page).isNone then
      throw (.notMapped page)
    return (page, target)

/-- Point the viewport at the frame of an address and the three that follow. -/
def map (view : Viewport) (s : PageTables) (phys : PhysAddr) :
    Except MappingError (PageTables × PageRange) := do
  let targets ← view.targets s phys.alignDown
  let mapped ← targets.foldlM (fun s (page, target) => s.mapPhysicalPage page.start target) s
  return (mapped, view.range)

end Viewport

end SlotKernel

import SlotKernel.Kernel.World

/-!
The viewport in the hands of the kernel. It is placed once at boot, may be placed anew, and is
pointed at physical addresses on demand; each change of its pages drops their cached mappings with
interrupts off. A refused call leaves everything as it was.
-/

namespace SlotKernel.KernelM

variable {μ : Type} [Machine μ]

/-- Drop the cached mappings of some pages one by one. -/
def invalidatePages (pages : List Page) : KernelM μ Unit :=
  pages.forM fun page => Machine.invalidatePage (μ := μ) page

/-- Place the viewport at an address. -/
def placeViewport (base : VirtAddr) : KernelM μ (Except MappingError Unit) := do
  let k ← kernel
  match Viewport.place k.paging base k.config.window with
  | .error error => return .error error
  | .ok (view, paging) =>
      modifyKernel fun k => { k with paging := paging }
      if k.pagingEnabled then
        withoutInterrupts (invalidatePages view.pages)
      modifyKernel fun k => { k with viewport := some view }
      Report.hex "kernel: phys window at" base.val
      return .ok ()

/-- Point the pages of a viewport at an address. -/
def pointViewport (view : Viewport) (phys : PhysAddr) :
    KernelM μ (Except MappingError PageRange) := do
  match view.map (← kernel).paging phys with
  | .error error => return .error error
  | .ok (paging, range) =>
      modifyKernel fun k => { k with paging := paging }
      invalidatePages range.pages
      return .ok range

/-- Show a physical address through the viewport; the answer is where it can be seen. -/
def mapPhysical (phys : PhysAddr) : KernelM μ (Except MappingError VirtAddr) := do
  match (← kernel).viewport with
  | none => return .error .noViewport
  | some view =>
      match ← withoutInterrupts (pointViewport view phys) with
      | .error error => return .error error
      | .ok range =>
          pushEvent (.viewportMapped phys)
          let offset := phys.val - phys.alignDown.val
          let addr : UInt32 ← orPanic .addOverflow (Word.add? range.first.start.val offset)
          return .ok ⟨addr⟩

end SlotKernel.KernelM

import SlotKernel.Paging.Viewport

/-!
Refresh hooks. A process that comes back finds another process's text on the screen, and the kernel
calls the registered hook so that the process can draw its own. A hook may call the services of the
kernel, in any order and also to register another hook; such a hook is the list of its requests.
-/

namespace SlotKernel

mutual

/-- A call of the kernel's services. -/
inductive Request where
  /-- Leave a note and ask for nothing. -/
  | note (text : String)
  /-- Ask for the active process, the number of processes and the viewport. -/
  | status
  | switchTo (process : Nat)
  | mapPhysical (phys : PhysAddr)
  | register (hook : RefreshHook)
  | registerShell (requests : List Request)

/-- What the kernel calls when a process comes back. -/
inductive RefreshHook where
  /-- Copy the shadow of the process to the screen. -/
  | redraw
  /-- Call what the shell registered last. -/
  | shell
  | requests (requests : List Request)

end

end SlotKernel

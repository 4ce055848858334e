import SlotKernel.Services.Calls

/-!
The services as the shell calls them, with words in place of typed answers. A missing kernel, a
missing window and a refused mapping all answer zero.
-/

namespace SlotKernel.Shell

variable {μ : Type}

def activeProcess : SystemM μ UInt32 :=
  return UInt32.ofNat ((← SystemM.activeProcess).getD 0)

def switchTo [Machine μ] (number : UInt32) : SystemM μ Unit := do
  let _ ← SystemM.switchTo number.toNat

def setRefreshHook (requests : List Request) : SystemM μ Unit :=
  SystemM.registerShellHook requests

def viewportBase : SystemM μ UInt32 := do
  match ← SystemM.viewportBase with
  | some base => return base.val
  | none => return 0

def mapPhysical [Machine μ] (phys : UInt32) : SystemM μ UInt32 := do
  match ← SystemM.mapPhysical ⟨phys⟩ with
  | .ok addr => return addr.val
  | .error _ => return 0

def reboot [Machine μ] : SystemM μ Unit :=
  SystemM.reboot

end SlotKernel.Shell

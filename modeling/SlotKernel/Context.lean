import SlotKernel.Layout

/-!
Saved contexts. A process that gives up the machine leaves the registers that a call preserves, its
stack pointer and the address where it goes on. An instruction pointer of zero means that nothing
was saved. A context may be restored only if its stack lies in the process window, which is where
the slot of the process is shown.
-/

namespace SlotKernel

structure Context where
  ebx : UInt32
  esi : UInt32
  edi : UInt32
  ebp : UInt32
  esp : UInt32
  eip : UInt32
  deriving DecidableEq

namespace Context

def empty : Context :=
  ⟨0, 0, 0, 0, 0, 0⟩

def isSeeded (ctx : Context) : Bool :=
  ctx.eip != 0

/-- Refuse a context that cannot be restored: one that was never saved, or one whose stack pointer
is not above the start of the window and at most at its ceiling. -/
def validate (ctx : Context) (window : Window) : Except ContextError Unit :=
  if !ctx.isSeeded then
    .error .notSeeded
  else if ctx.esp ≤ window.start.val || window.ceiling.val < ctx.esp then
    .error (.stackOutsideWindow ⟨ctx.esp⟩)
  else
    .ok ()

/-- The registers in the order in which they are stored. -/
def registers (ctx : Context) : List UInt32 :=
  [ctx.ebx, ctx.esi, ctx.edi, ctx.ebp, ctx.esp, ctx.eip]

def describe (ctx : Context) : String :=
  let field (name : String) (value : UInt32) := name ++ ": " ++ Numeral.decimal value.toNat
  "SavedContext \x7b " ++ ", ".intercalate [field "ebx" ctx.ebx, field "esi" ctx.esi,
    field "edi" ctx.edi, field "ebp" ctx.ebp, field "esp" ctx.esp, field "eip" ctx.eip] ++ " \x7d"

end Context

end SlotKernel

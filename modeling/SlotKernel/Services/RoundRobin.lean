import SlotKernel.Services.Start

/-!
The shell of the boot image. Each process says its number and the round it is in and passes the
machine on to the next process, for three rounds; in the fourth it stops the machine.
-/

namespace SlotKernel.RoundRobin

variable {μ : Type} [Machine μ]

/-- The rounds in which a process passes the machine on. -/
def rounds : Nat := 3

/-- Say which process runs in a round. The answer is the process after it. -/
def visit (round : Nat) : SystemM μ (Option Nat) := do
  let active ← SystemM.activeProcess
  let count ← SystemM.processCount
  match active, count with
  | some active, some count =>
      Report.number "shell: running process" active
      Report.number " round" round
      return some ((active + 1) % count)
  | _, _ =>
      Report.error "shell: kernel state not installed"
      return none

/-- Run for the rounds that are left and then once more without passing the machine on. -/
def run : Nat → SystemM μ Unit
  | 0 => do
      let _ ← visit (rounds + 1)
  | left + 1 => do
      if let some next ← visit (rounds - left) then
        let _ ← SystemM.switchTo next
        run left

/-- The shell, to the end. -/
def shell : SystemM μ Unit := do
  run rounds
  Report.info "shell: demo finished; halting"
  SystemM.onBoard (Board.onMachine Machine.halt)

/-- The boot image from its entry until it halts. -/
def image : SystemM μ Unit := do
  SystemM.start .standard
  shell

end SlotKernel.RoundRobin

import SlotKernel.Services.Calls

/-!
From the entry of the boot image to the shell: the console is set up, the configuration is checked,
the kernel is installed and booted. Process 0 writes out the events of the boot; a replicated
process that comes here for the first time redraws its screen instead. Both go on into the shell.
-/

namespace SlotKernel

/-- Where the boot image lies, and how much memory it counts on. -/
structure Image where
  /-- The start of the data that each process has of its own. -/
  dataStart : VirtAddr
  /-- Four pages reserved below it for the viewport. -/
  viewport : VirtAddr
  /-- The physical address of the paging structures. -/
  pagingBase : PhysAddr
  memory : UInt32

def Image.standard : Image where
  dataStart := ⟨0x180000⟩
  viewport := ⟨0x108000⟩
  pagingBase := ⟨0x90000⟩
  memory := 0x2000000

namespace SystemM

variable {μ : Type} [Machine μ]

/-- Log why the configuration was refused. -/
def reportConfigError (error : ConfigError) : SystemM μ Unit := do
  Report.error "entry: invalid kernel configuration"
  match error with
  | .tooManyProcesses requested max =>
      Report.number " requested_processes" requested
      Report.number " max_processes" max
  | .imageStartMisaligned start => Report.hex " misaligned_image_start" start.val
  | .imageStartOutsideWindow start => Report.hex " image_start_outside_window" start.val
  | .insufficientMemory required available =>
      Report.number " required_bytes" required.toNat
      Report.number " available_bytes" available.toNat

/-- The configuration of an image, or a panic with a report. -/
def imageConfig (image : Image) : SystemM μ Config := do
  match Config.check defaultProcessCount image.dataStart image.memory .standard with
  | .ok config => return config
  | .error (.refused error) =>
      reportConfigError error
      Run.panic .invalidConfiguration
  | .error (.panicked cause) => Run.panic cause

/-- Boot the installed kernel and fetch its hook. -/
def bootImage (image : Image) : KernelM μ (ReplicateOutcome × Option RefreshHook) := do
  let outcome ← KernelM.boot image.pagingBase (some image.viewport)
  return (outcome, (← KernelM.kernel).refreshHook)

/-- Everything that happens before the shell is entered. -/
def start (image : Image) : SystemM μ Unit := do
  HasConsole.onConsole Console.init
  Report.info "kernel::start()"
  let config ← imageConfig image
  unless ← install config do
    Report.error "entry: kernel state installed twice"
    Run.panic .installedTwice
  match ← withKernel (bootImage image) with
  | some (.resumed, hook) =>
      Report.info "entry: replicated process started"
      if let some hook := hook then
        callHook switchTo hook
  | some _ =>
      let _ ← withKernel (μ := μ) KernelM.dump
  | none =>
      Report.error "entry: kernel state disappeared during boot"
      Run.panic .stateMissing

end SystemM

end SlotKernel

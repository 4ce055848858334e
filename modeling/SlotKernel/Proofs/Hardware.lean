import SlotKernel.Proofs.Images
import SlotKernel.Proofs.Switching

/-!
The bare processor under a kernel that is up. Its steps are first given in full: what each executes
and what it changes. Then what they leave alone: only a copy changes the memory, only a resumed capture
changes how captures are answered, and only masking and unmasking change the interrupt flag, which
unmasking puts back to what masking found.
-/

namespace SlotKernel

open KernelM

namespace Processor

/-! ### The steps of the processor -/

def executing (p : Processor) (instruction : Instruction) : Processor :=
  { p with executed := p.executed.push instruction }

def masked (p : Processor) : Processor :=
  if p.interrupts then { p.executing .disableInterrupts with interrupts := false } else p

def unmasked (p : Processor) (was : Bool) : Processor :=
  if was then { p.executing .enableInterrupts with interrupts := true } else p

/-- The processor after the cached mappings of some pages were dropped one by one. -/
def dropped (p : Processor) (pages : List Page) : Processor :=
  { p with executed := p.executed ++ (pages.map fun page => .invalidate page.start).toArray }

/-- The processor after the cached mappings of some pages were dropped in the configured way. -/
def droppedBy (p : Processor) (pages : List Page) : Invalidation → Processor
  | .perPage => p.dropped pages
  | .fullFlush => p.executing (.loadRoot p.root)

def captured (p : Processor) : Processor :=
  { p.executing (.capture p.nextContext) with captures := p.captures + 1 }

def woken (p : Processor) : Processor :=
  { p.executing .resume with resumeNext := false }

/-- The processor on the switch stack, with the request taken. -/
def onStack (p : Processor) : Processor :=
  { p with parked := none }

variable {p p₁ p₂ : Processor} {k : Kernel}

theorem mask_eq_masked (p : Processor) : Machine.mask p = .ok p.interrupts p.masked := by
  obtain ⟨control, root, interrupts, memory, executed, captures, registers, resumeNext, parked⟩ := p
  cases interrupts <;> rfl

theorem unmask_eq_unmasked (was : Bool) (p : Processor) :
    Machine.unmask was p = .ok () (p.unmasked was) := by
  cases was <;> rfl

@[simp]
theorem resumeNext_masked (p : Processor) : p.masked.resumeNext = p.resumeNext := by
  unfold masked
  split <;> rfl

@[simp]
theorem memory_masked (p : Processor) : p.masked.memory = p.memory := by
  unfold masked
  split <;> rfl

@[simp]
theorem nextContext_masked (p : Processor) : p.masked.nextContext = p.nextContext := by
  unfold masked
  split <;> rfl

@[simp]
theorem parked_masked (p : Processor) : p.masked.parked = p.parked := by
  unfold masked
  split <;> rfl

@[simp]
theorem interrupts_masked (p : Processor) : p.masked.interrupts = false := by
  unfold masked
  split
  · rfl
  · next hoff => exact eq_false_of_ne_true hoff

@[simp]
theorem registers_masked (p : Processor) : p.masked.registers = p.registers := by
  unfold masked
  split <;> rfl

@[simp]
theorem memory_unmasked (p : Processor) (was : Bool) : (p.unmasked was).memory = p.memory := by
  cases was <;> rfl

@[simp]
theorem registers_unmasked (p : Processor) (was : Bool) :
    (p.unmasked was).registers = p.registers := by
  cases was <;> rfl

@[simp]
theorem resumeNext_unmasked (p : Processor) (was : Bool) :
    (p.unmasked was).resumeNext = p.resumeNext := by
  cases was <;> rfl

@[simp]
theorem parked_unmasked (p : Processor) (was : Bool) : (p.unmasked was).parked = p.parked := by
  cases was <;> rfl

theorem interrupts_unmasked (hoff : p.interrupts = false) (was : Bool) :
    (p.unmasked was).interrupts = was := by
  cases was with
  | true => rfl
  | false => exact hoff

theorem capture_resumed (hresume : p.resumeNext = true) :
    Machine.capture p = .ok .resumed p.woken := by
  obtain ⟨control, root, interrupts, memory, executed, captures, registers, resumeNext, parked⟩ := p
  cases hresume
  rfl

theorem capture_saved (hresume : p.resumeNext = false) :
    Machine.capture p = .ok (.saved p.nextContext) p.captured := by
  obtain ⟨control, root, interrupts, memory, executed, captures, registers, resumeNext, parked⟩ := p
  cases hresume
  rfl

theorem handOver_eq_onStack (request : SwitchRequest) (p : Processor) :
    Machine.handOver request p = .ok request p.onStack :=
  rfl

/-! ### What the steps leave alone -/

/-- Captures are answered as on `p`, from the same registers, and the interrupt flag is this one. -/
structure KeptWith (p : Processor) (flag : Bool) (p' : Processor) : Prop where
  interrupts_eq : p'.interrupts = flag
  registers_eq : p'.registers = p.registers
  resumeNext_eq : p'.resumeNext = p.resumeNext

theorem KeptWith.refl (p : Processor) : p.KeptWith p.interrupts p :=
  ⟨rfl, rfl, rfl⟩

theorem KeptWith.trans {flag flag' : Bool} (h : p.KeptWith flag p₁) (h' : p₁.KeptWith flag' p₂) :
    p.KeptWith flag' p₂ :=
  ⟨h'.interrupts_eq, h'.registers_eq.trans h.registers_eq, h'.resumeNext_eq.trans h.resumeNext_eq⟩

/-- The same memory, the same interrupt flag and the same answers to captures. -/
structure Alike (p p' : Processor) : Prop extends p.KeptWith p.interrupts p' where
  memory_eq : p'.memory = p.memory

theorem Alike.refl (p : Processor) : p.Alike p :=
  ⟨.refl p, rfl⟩

theorem KeptWith.alike {flag : Bool} (h : p.KeptWith flag p₁) (h' : p₁.Alike p₂) :
    p.KeptWith flag p₂ :=
  ⟨h'.interrupts_eq.trans h.interrupts_eq, h'.registers_eq.trans h.registers_eq,
    h'.resumeNext_eq.trans h.resumeNext_eq⟩

theorem Alike.trans (h : p.Alike p₁) (h' : p₁.Alike p₂) : p.Alike p₂ :=
  ⟨h.toKeptWith.alike h', h'.memory_eq.trans h.memory_eq⟩

theorem mask_eq (p : Processor) : ∃ p', Machine.mask p = .ok p.interrupts p' ∧
    p'.memory = p.memory ∧ p.KeptWith false p' :=
  ⟨p.masked, p.mask_eq_masked, p.memory_masked, p.interrupts_masked, p.registers_masked,
    p.resumeNext_masked⟩

theorem unmask_eq (was : Bool) (hoff : p.interrupts = false) :
    ∃ p', Machine.unmask was p = .ok () p' ∧ p'.memory = p.memory ∧ p.KeptWith was p' :=
  ⟨_, unmask_eq_unmasked was p, p.memory_unmasked was, interrupts_unmasked hoff was,
    p.registers_unmasked was, p.resumeNext_unmasked was⟩

theorem handOver_eq (request : SwitchRequest) (p : Processor) :
    ∃ p', Machine.handOver request p = .ok request p' ∧ p.Alike p' :=
  ⟨p.onStack, handOver_eq_onStack request p, ⟨rfl, rfl, rfl⟩, rfl⟩

theorem activatePaging_eq (directory : PhysAddr) (p : Processor) :
    ∃ p', Machine.activatePaging directory p = .ok () p' ∧ p.Alike p' :=
  ⟨_, rfl, ⟨rfl, rfl, rfl⟩, rfl⟩

/-! ### Cached mappings -/

theorem dropped_nil (p : Processor) : p.dropped [] = p := by
  rw [dropped, List.map_nil, Array.append_empty]

theorem dropped_cons (p : Processor) (page : Page) (pages : List Page) :
    p.dropped (page :: pages) = (p.executing (.invalidate page.start)).dropped pages := by
  simp [dropped, executing]

theorem returns_invalidatePages_dropped (pages : List Page) (p : Processor) :
    Returns (invalidatePages pages) k p () k (p.dropped pages) := by
  induction pages generalizing p with
  | nil =>
      rw [dropped_nil]
      exact returns_pure _
  | cons page pages ih =>
      rw [dropped_cons]
      refine Ends.forM_cons ?_ (ih (p.executing (.invalidate page.start)))
      exact returns_machine rfl

theorem returns_invalidate_dropped (range : PageRange) (invalidation : Invalidation)
    (p : Processor) :
    Returns (liftM (Board.invalidate (μ := Processor) range invalidation)) k p () k
      (p.droppedBy range.pages invalidation) := by
  cases invalidation with
  | fullFlush => exact returns_machine rfl
  | perPage =>
      rw [invalidate_perPage]
      exact returns_invalidatePages_dropped range.pages p

theorem returns_invalidatePages (pages : List Page) (p : Processor) :
    ∃ p', (∀ k, Returns (invalidatePages pages) k p () k p') ∧ p.Alike p' :=
  ⟨p.dropped pages, fun _ => returns_invalidatePages_dropped pages p, ⟨rfl, rfl, rfl⟩, rfl⟩

theorem returns_invalidate (range : PageRange) (invalidation : Invalidation) (p : Processor) :
    ∃ p', (∀ k, Returns (liftM (Board.invalidate (μ := Processor) range invalidation)) k p () k p') ∧
      p.Alike p' := by
  refine ⟨_, fun _ => returns_invalidate_dropped range invalidation p, ?_⟩
  cases invalidation with
  | fullFlush => exact ⟨⟨rfl, rfl, rfl⟩, rfl⟩
  | perPage => exact ⟨⟨rfl, rfl, rfl⟩, rfl⟩

/-! ### The viewport -/

theorem returns_placeViewport (hup : k.Up) (base : VirtAddr) (p : Processor) :
    ∃ answer k' p', Returns (placeViewport base) k p answer k' p' ∧ k.Places base k' ∧
      p.Alike p' := by
  rcases Viewport.place_cases k.paging base k.config.window with ⟨error, hplace⟩ | ⟨hchecks, hplace⟩
  · exact ⟨_, k, p, returns_placeViewport_refused hplace, Or.inl rfl, .refl p⟩
  · obtain ⟨p₁, hmask, hmemory₁, hoff₁⟩ := mask_eq p
    obtain ⟨p₂, hdrop, halike₂⟩ := returns_invalidatePages (Viewport.mk base).pages p₁
    have hoff₂ := hoff₁.alike halike₂
    obtain ⟨p₃, hunmask, hmemory₃, hkept⟩ := unmask_eq p.interrupts hoff₂.interrupts_eq
    exact ⟨_, _, p₃, KernelM.returns_placeViewport hup.pagingEnabled hplace hmask (hdrop _) hunmask,
      Or.inr ⟨hchecks, rfl⟩, hoff₂.trans hkept, hmemory₃.trans (halike₂.memory_eq.trans hmemory₁)⟩

/-- Pointing the viewport somewhere is refused or done. -/
theorem returns_mapPhysical (hup : k.Up) (phys : PhysAddr) (p : Processor) :
    ∃ answer k' p', Returns (mapPhysical phys) k p answer k' p' ∧
      (k' = k ∨ ∃ view, k.viewport = some view ∧ k' = k.pointedAt view phys) ∧ p.Alike p' := by
  cases hview : k.viewport with
  | none => exact ⟨_, k, p, returns_mapPhysical_noViewport hview, Or.inl rfl, .refl p⟩
  | some view =>
      obtain ⟨p₁, hmask, hmemory₁, hoff₁⟩ := mask_eq p
      have hnull : ∀ page ∈ view.pages, page.number ≠ 0 := fun page hpage =>
        (hup.viewport view hview page hpage).1
      rcases view.map_cases k.paging phys hnull with ⟨error, hmap⟩ | hmap
      · obtain ⟨p₂, hunmask, hmemory₂, hkept⟩ := unmask_eq p.interrupts hoff₁.interrupts_eq
        exact ⟨_, k, p₂, returns_mapPhysical_refused hview hmap hmask hunmask, Or.inl rfl,
          hoff₁.trans hkept, hmemory₂.trans hmemory₁⟩
      · obtain ⟨p₂, hdrop, halike₂⟩ := returns_invalidatePages view.pages p₁
        have hoff₂ := hoff₁.alike halike₂
        obtain ⟨p₃, hunmask, hmemory₃, hkept⟩ := unmask_eq p.interrupts hoff₂.interrupts_eq
        exact ⟨_, _, p₃, KernelM.returns_mapPhysical hview hmap hmask (hdrop _) hunmask,
          Or.inr ⟨view, rfl, rfl⟩, hoff₂.trans hkept,
          hmemory₃.trans (halike₂.memory_eq.trans hmemory₁)⟩

/-! ### Booting -/

/-- The memory holds the window and every slot of the configuration. -/
def HasRoom (p : Processor) (config : Config) : Prop :=
  p.memory.base ≤ config.window.start.val.toNat ∧
    0x100000 * (config.processCount + 1) ≤ p.memory.base + p.memory.size

theorem Alike.hasRoom {config : Config} (h : p.Alike p₁) (hroom : p.HasRoom config) :
    p₁.HasRoom config := by
  rw [HasRoom, h.memory_eq]
  exact hroom

/-- With room for the slots, the window can be copied to each of them. -/
theorem copyToPhysical_eq {config : Config} (hroom : p.HasRoom config) {slot : Nat}
    {start : PhysAddr} (hslot : slot < config.processCount)
    (hstart : slotStart config.window slot = .ok start) :
    ∃ p', Machine.copyToPhysical start config.window.start config.window.byteCount p = .ok () p' ∧
      p'.HasRoom config ∧ p.KeptWith p.interrupts p' := by
  obtain ⟨_, hplace, hnumber⟩ := slotStart_eq_ok config hslot
  cases hplace.symm.trans hstart
  have hbytes := config.start_add_byteCount
  obtain ⟨hbase, hsize⟩ := hroom
  obtain ⟨copied, hcopy, hcopiedBase, hcopiedSize, -⟩ := @Memory.copy_eq_ok p.memory
    start.val.toNat config.window.start.val.toNat config.window.byteCount.toNat
    ⟨by omega, by omega⟩ ⟨by omega, by omega⟩
  refine ⟨{ p with memory := copied }, ?_, ⟨?_, ?_⟩, rfl, rfl, rfl⟩
  · change (liftM (p.memory.copy start.val.toNat config.window.start.val.toNat
      config.window.byteCount.toNat) >>= fun memory => set { p with memory := memory } :
        Run Processor Unit) p = _
    rw [hcopy]
    rfl
  · change copied.base ≤ _
    rw [hcopiedBase]
    exact hbase
  · change _ ≤ copied.base + copied.size
    rw [hcopiedBase, hcopiedSize]
    exact hsize

/-- The boot comes to the replication with the memory and the interrupt flag as they were. -/
theorem returns_prepare (config : Config) {base : PhysAddr} (hbase : base.isPageAligned = true)
    (viewport : Option VirtAddr) (p : Processor) :
    ∃ built k p', Kernel.Prepared config built k ∧ k.refreshHook = some .redraw ∧ p.Alike p' ∧
      Returns (prepare base viewport) { config := config } p () k p' := by
  obtain ⟨p₁, hactivate, halike⟩ := activatePaging_eq base p
  obtain ⟨built, _, k, p₂, -, -, hprepared, hhook, hkept, hprepare⟩ :=
    returns_prepare_prepared config hbase hactivate (Alike.refl p₁)
      (fun addr k hup => returns_placeViewport hup addr p₁) viewport
  exact ⟨built, k, p₂, hprepared, hhook, halike.trans hkept, hprepare⟩

end Processor

end SlotKernel

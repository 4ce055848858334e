import SlotKernel.Proofs.Startup

/-!
Which configurations are accepted, and why nothing behind the check has to look at slots again. The
rules of the check are written once more in natural numbers, where nothing can wrap; the check
answers by the first of them that is broken and never panics. In an accepted configuration the slots
are apart from one another and from everything below the window, they lie in memory and in the mapped
part, and no sum or product that the kernel takes of them leaves its word.
-/

namespace SlotKernel

/-- The operation may be refused, but it does not panic. -/
def PanicFree {ε α : Type} (act : Except (Failure ε) α) : Prop :=
  ∀ cause, act ≠ .error (.panicked cause)

section PanicFree

variable {ε α β : Type}

theorem panicFree_ok (a : α) : PanicFree (ε := ε) (.ok a) :=
  fun _ h => nomatch h

theorem panicFree_refused (error : ε) : PanicFree (α := α) (.error (.refused error)) :=
  fun _ h => nomatch h

theorem PanicFree.bind {act : Except (Failure ε) α} {next : α → Except (Failure ε) β}
    (h : PanicFree act) (hnext : ∀ a, PanicFree (next a)) : PanicFree (act >>= next) := by
  intro cause
  cases act with
  | ok a => exact hnext a cause
  | error failure =>
      cases failure with
      | refused error => exact panicFree_refused error cause
      | panicked other => exact absurd rfl (h other)

theorem panicFree_forM {check : α → Except (Failure ε) Unit} (h : ∀ item, PanicFree (check item))
    (items : List α) : PanicFree (items.forM check) := by
  induction items with
  | nil => exact panicFree_ok ()
  | cons item items ih => exact (h item).bind fun _ => ih

theorem panicFree_foldlM {step : β → α → Except (Failure ε) β}
    (h : ∀ b item, PanicFree (step b item)) (items : List α) (b : β) :
    PanicFree (items.foldlM step b) := by
  induction items generalizing b with
  | nil => exact panicFree_ok b
  | cons item items ih =>
      rw [List.foldlM_cons]
      exact (h b item).bind ih

end PanicFree

namespace WindowMove

variable {move : WindowMove} (hsource : move.source < 2 ^ 24) (htarget : move.target < 2 ^ 24)

include hsource htarget

theorem panicFree_targetFrame (page : Page) (current : Frame) :
    PanicFree (move.targetFrame page current) := by
  unfold targetFrame
  simp only [slotBase_eq hsource, slotBase_eq htarget, bind_lift_ok]
  split
  · split
    · exact panicFree_refused _
    · split
      · split
        · exact panicFree_refused _
        · exact panicFree_ok _
      · exact panicFree_refused _
  · exact panicFree_refused _

/-- Whatever the tables look like, a move between slots whose frames can be counted is done or
refused. -/
theorem panicFree_apply (s : PageTables) : PanicFree (move.apply s) := by
  have hframe := panicFree_targetFrame hsource htarget
  have hcheck : ∀ page, PanicFree (move.checkPage s page) := by
    intro page
    unfold checkPage
    split
    · split
      · exact (hframe page _).bind fun _ => panicFree_ok ()
      · exact panicFree_refused _
    · exact panicFree_refused _
  have hrepoint : ∀ t page, PanicFree (move.repointPage t page) := by
    intro t page
    unfold repointPage
    split
    · exact (hframe page _).bind fun _ => panicFree_ok _
    · exact panicFree_ok t
  exact (panicFree_forM hcheck _).bind fun _ =>
    (panicFree_foldlM hrepoint _ s).bind fun _ => panicFree_ok _

end WindowMove

/-! ### The rules of the check -/

namespace Config

/-- The first rule that a configuration breaks, for a count of processes that is at least one. -/
def firstBroken? (count : Nat) (start : VirtAddr) (memory : UInt32) : Option ConfigError :=
  if 8 < count then
    some (.tooManyProcesses count 8)
  else if start.val.toNat % 4096 ≠ 0 then
    some (.imageStartMisaligned start)
  else if start.val.toNat < 0x100000 ∨ 0x200000 ≤ start.val.toNat then
    some (.imageStartOutsideWindow start)
  else if memory.toNat < 0x100000 * (count + 1) then
    some (.insufficientMemory (UInt32.ofNat (0x100000 * (count + 1))) memory)
  else
    none

theorem firstBroken?_eq_none_iff {count : Nat} {start : VirtAddr} {memory : UInt32} :
    firstBroken? count start memory = none ↔
      count ≤ 8 ∧ start.val.toNat % 4096 = 0 ∧ 0x100000 ≤ start.val.toNat ∧
        start.val.toNat < 0x200000 ∧ 0x100000 * (count + 1) ≤ memory.toNat := by
  unfold firstBroken?
  split_ifs <;> simp only [true_iff, false_iff] <;> omega

/-- The memory for the boot MiB and the slots is counted without overflow. -/
theorem required_eq {count : Nat} (h : count ≤ 8) :
    ∃ pages required, identityMappedPages count = .ok pages ∧
      orPanic .multiplyOverflow (Word.mul? pages pageSize) = .ok required ∧
        required = UInt32.ofNat (0x100000 * (count + 1)) := by
  have hpages : (UInt32.ofNat (256 * (count + 1))).toNat = 256 * (count + 1) :=
    UInt32.toNat_ofNat_of_lt' (by simp only [UInt32.size]; omega)
  have hsize : UInt32.toNat pageSize = 4096 := rfl
  refine ⟨_, UInt32.ofNat (256 * (count + 1)) * pageSize,
    SlotKernel.identityMappedPages_eq (by omega), ?_, ?_⟩
  · rw [Word.mul?, hpages, hsize, if_pos (by simp only [UInt32.size]; omega), orPanic]
  · rw [← UInt32.toNat_inj, UInt32.toNat_mul, hpages, hsize, UInt32.toNat_ofNat']
    omega

section Check

variable (processCount : Nat) (start : VirtAddr) (memory : UInt32) (invalidation : Invalidation)

/-- The check answers with the first rule that is broken, and otherwise it accepts what it was
given. -/
theorem check_cases :
    match firstBroken? (max 1 processCount) start memory with
    | some error => check processCount start memory invalidation = .error (.refused error)
    | none => ∃ config, check processCount start memory invalidation = .ok config ∧
        config.processCount = max 1 processCount ∧ config.window.start = start ∧
        config.invalidation = invalidation := by
  by_cases hcount : max 1 processCount ≤ maxProcesses
  · have hmany : ¬ 8 < max 1 processCount := Nat.not_lt.mpr hcount
    have htables : ¬ maxPageTables < max 1 ((256 * (max 1 processCount + 1) + 1023) / 1024) := by
      simp only [maxPageTables]
      omega
    obtain ⟨pages, required, hpages, hmul, hrequired⟩ :=
      @required_eq (max 1 processCount) hcount
    unfold check firstBroken?
    simp only [hcount, hmany, pageTablesNeeded_eq (show max 1 processCount + 1 < 2 ^ 24 by omega),
      bind_lift_ok, htables, if_false, dite_true, start.isPageAligned_iff, ne_eq]
    by_cases haligned : start.val.toNat % 4096 = 0
    · have hlow : slotStride ≤ start.val ↔ 0x100000 ≤ start.val.toNat := UInt32.le_iff_toNat_le
      have hhigh : start.val < windowCeiling ↔ start.val.toNat < 0x200000 :=
        UInt32.lt_iff_toNat_lt
      simp only [haligned, dite_true, not_true_eq_false, if_false]
      by_cases hplace : slotStride ≤ start.val ∧ start.val < windowCeiling
      · have hinside : ¬ (start.val.toNat < 0x100000 ∨ 0x200000 ≤ start.val.toNat) := by
          rw [hlow, hhigh] at hplace
          omega
        have hroom : memory < required ↔
            memory.toNat < 0x100000 * (max 1 processCount + 1) := by
          rw [UInt32.lt_iff_toNat_lt, hrequired,
            UInt32.toNat_ofNat_of_lt' (by simp only [UInt32.size]; omega)]
        simp only [hplace, hinside, and_self, dite_true, if_false, hpages, hmul, bind_lift_ok]
        by_cases hmemory : memory.toNat < 0x100000 * (max 1 processCount + 1)
        · simp only [hroom.mpr hmemory, hmemory, if_true, ← hrequired]
          rfl
        · simp only [mt hroom.mp hmemory, hmemory, if_false]
          exact ⟨_, rfl, rfl, rfl, rfl⟩
      · have houtside : start.val.toNat < 0x100000 ∨ 0x200000 ≤ start.val.toNat := by
          rw [hlow, hhigh] at hplace
          omega
        simp only [hplace, houtside, dite_false, if_true]
        rfl
    · simp only [haligned, dite_false, not_false_eq_true, if_true]
      rfl
  · have hmany : 8 < max 1 processCount := Nat.not_le.mp hcount
    unfold check firstBroken?
    simp only [hcount, hmany, dite_false, if_true]
    rfl

end Check

/-! ### Where the slots lie -/

section Slots

variable (config : Config)

/-- The frames of a slot, by number: those of the window's pages, so many MiB higher up. -/
def slotFrames (slot : Nat) : List Nat :=
  config.window.pages.map fun page => 256 * slot + page.number.toNat

theorem slotFrames_eq (slot : Nat) :
    config.slotFrames slot = List.range' (256 * slot + config.window.firstPage.number.toNat)
      config.window.pageCount.toNat := by
  have hmap : config.slotFrames slot =
      (config.window.pages.map (·.number.toNat)).map (256 * slot + ·) := by
    rw [List.map_map]
    rfl
  rw [hmap, config.window.numbers_pages, List.map_add_range']

theorem mem_slotFrames {slot frame : Nat} :
    frame ∈ config.slotFrames slot ↔
      256 * slot + config.window.firstPage.number.toNat ≤ frame ∧ frame < 256 * slot + 512 := by
  have hend := config.firstPage_add_pageCount
  rw [slotFrames_eq, List.mem_range'_1, ← hend, Nat.add_assoc]

theorem directoryIndex_of_mem_pages {page : Page} (h : page ∈ config.window.pages) :
    page.directoryIndex = 0 := by
  have hlt := (config.mem_pages.mp h).2
  have hnumber := page.number_eq
  omega

/-- What later steps rely on for the slots of a configuration, on a machine with so much memory. -/
structure SlotsFit (memory : UInt32) : Prop where
  pages : config.window.pages.map (·.number.toNat) =
    List.range' (config.window.start.val.toNat / 4096) (512 - config.window.start.val.toNat / 4096)
  firstTable : ∀ page ∈ config.window.pages, page.directoryIndex = 0
  nonempty : ∀ slot < config.processCount, config.slotFrames slot ≠ []
  disjoint : ∀ slot < config.processCount, ∀ other < config.processCount, slot ≠ other →
    List.Disjoint (config.slotFrames slot) (config.slotFrames other)
  /-- No slot holds a frame of anything that lies below the window. -/
  above : ∀ slot < config.processCount, ∀ addr : PhysAddr, addr.val < config.window.start.val →
    addr.frame.number.toNat ∉ config.slotFrames slot
  mapped : ∃ pages, identityMappedPages config.processCount = .ok pages ∧
    pages.toNat = 256 * (config.processCount + 1) ∧
      ∀ slot < config.processCount, ∀ frame ∈ config.slotFrames slot, frame < pages.toNat
  inMemory : ∀ slot < config.processCount, ∀ frame ∈ config.slotFrames slot,
    frame < memory.toNat / 4096
  tables : ∃ needed, pageTablesNeeded config.processCount = .ok needed ∧ needed ≤ maxPageTables
  base : ∀ slot < config.processCount, ∃ base, slotBase slot = .ok base ∧
    base.number.toNat = 256 * slot
  /-- The copy of a slot starts where it should and ends in memory. -/
  start : ∀ slot < config.processCount, ∃ start, KernelM.slotStart config.window slot = .ok start ∧
    start.val.toNat = config.window.start.val.toNat + 0x100000 * slot ∧
      start.val.toNat + config.window.byteCount.toNat ≤ memory.toNat
  frameLimit : ∀ k : Kernel, k.config = config → ∃ limit, k.frameLimit = .ok limit ∧
    limit.toNat = 256 * (config.processCount + 1)
  /-- A move between two slots never panics, and it takes a page from its frame in the one to its
  frame in the other. -/
  move : ∀ source < config.processCount, ∀ target < config.processCount, ∀ limit : UInt32,
    (∀ s, PanicFree (WindowMove.apply ⟨config.window, source, target, limit⟩ s)) ∧
      (limit.toNat = 256 * (config.processCount + 1) → ∀ page ∈ config.window.pages,
        (slotFrame source page).number.toNat = 256 * source + page.number.toNat ∧
          WindowMove.targetFrame ⟨config.window, source, target, limit⟩ page
            (slotFrame source page) = .ok (slotFrame target page))

theorem slotsFit {memory : UInt32}
    (hmemory : 0x100000 * (config.processCount + 1) ≤ memory.toNat) : config.SlotsFit memory := by
  have hcount : config.processCount ≤ 8 := config.processCount_le
  have hfirst := config.firstPage_bounds
  have hstart := config.toNat_windowStart
  obtain ⟨pages, hpages, hmapped⟩ := config.identityMappedPages_eq
  constructor
  case pages => exact config.numbers_pages_eq
  case firstTable =>
    intro page hpage
    exact config.directoryIndex_of_mem_pages hpage
  case nonempty =>
    intro slot hslot
    apply List.ne_nil_of_mem
    exact config.mem_slotFrames.mpr ⟨Nat.le_refl _, by omega⟩
  case disjoint =>
    intro slot hslot other hother hne frame hmem hmem'
    have hbounds := config.mem_slotFrames.mp hmem
    have hbounds' := config.mem_slotFrames.mp hmem'
    omega
  case above =>
    intro slot hslot addr hbelow hmem
    have hbounds := config.mem_slotFrames.mp hmem
    have hlt := UInt32.lt_iff_toNat_lt.mp hbelow
    rw [PhysAddr.number_frame] at hbounds
    omega
  case mapped =>
    refine ⟨pages, hpages, hmapped, fun slot hslot frame hmem => ?_⟩
    have hbounds := config.mem_slotFrames.mp hmem
    omega
  case inMemory =>
    intro slot hslot frame hmem
    have hbounds := config.mem_slotFrames.mp hmem
    omega
  case tables =>
    refine ⟨_, pageTablesNeeded_eq (by omega), ?_⟩
    show _ ≤ 4
    omega
  case base =>
    intro slot hslot
    refine ⟨_, slotBase_eq (by omega), ?_⟩
    exact UInt32.toNat_ofNat_of_lt' (by simp only [UInt32.size]; omega)
  case start =>
    intro slot hslot
    obtain ⟨start, hplace, hvalue⟩ := KernelM.slotStart_eq_ok config hslot
    have hbytes := config.start_add_byteCount
    exact ⟨start, hplace, hvalue, by omega⟩
  case frameLimit =>
    rintro k rfl
    exact ⟨pages, hpages, hmapped⟩
  case move =>
    intro source hsource target htarget limit
    refine ⟨WindowMove.panicFree_apply (by show source < _; omega) (by show target < _; omega),
      fun hlimit page hpage => ?_⟩
    have hpage' := (config.mem_pages.mp hpage).2
    refine ⟨number_slotFrame (by omega) (by omega), WindowMove.targetFrame_eq ?_ ?_ ?_⟩
    · show 256 * source + _ < _
      omega
    · show 256 * target + _ < _
      omega
    · show 256 * target + _ < limit.toNat
      omega

end Slots

/-- The check never panics. It accepts exactly the configurations that keep all its rules, for the
others it names the first rule that is broken, and the slots of what it accepts fit. -/
theorem check_sound (processCount : Nat) (start : VirtAddr) (memory : UInt32)
    (invalidation : Invalidation) :
    PanicFree (check processCount start memory invalidation) ∧
      ((∃ config, check processCount start memory invalidation = .ok config) ↔
        max 1 processCount ≤ 8 ∧ start.val.toNat % 4096 = 0 ∧ 0x100000 ≤ start.val.toNat ∧
          start.val.toNat < 0x200000 ∧ 0x100000 * (max 1 processCount + 1) ≤ memory.toNat) ∧
      (∀ error, check processCount start memory invalidation = .error (.refused error) ↔
        firstBroken? (max 1 processCount) start memory = some error) ∧
      ∀ config, check processCount start memory invalidation = .ok config →
        config.processCount = max 1 processCount ∧ config.window.start = start ∧
          config.invalidation = invalidation ∧ config.SlotsFit memory := by
  have hcases := check_cases processCount start memory invalidation
  rw [← firstBroken?_eq_none_iff]
  cases hbroken : firstBroken? (max 1 processCount) start memory with
  | some broken =>
      rw [hbroken] at hcases
      have hanswer : check processCount start memory invalidation = .error (.refused broken) :=
        hcases
      rw [hanswer]
      refine ⟨panicFree_refused broken, ?_, ?_, ?_⟩
      · exact iff_of_false (fun ⟨_, h⟩ => nomatch h) (fun h => nomatch h)
      · intro error
        constructor <;> rintro ⟨⟩ <;> rfl
      · rintro config ⟨⟩
  | none =>
      rw [hbroken] at hcases
      obtain ⟨config, hanswer, hcount, hstart, hinvalidation⟩ := hcases
      have hmemory := (firstBroken?_eq_none_iff.mp hbroken).2.2.2.2
      rw [hanswer]
      refine ⟨panicFree_ok config, ?_, ?_, ?_⟩
      · exact iff_of_true ⟨config, rfl⟩ rfl
      · intro error
        constructor <;> rintro ⟨⟩
      · rintro _ ⟨⟩
        exact ⟨hcount, hstart, hinvalidation, config.slotsFit (hcount ▸ hmemory)⟩

end Config

end SlotKernel

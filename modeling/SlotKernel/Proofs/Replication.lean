import SlotKernel.Proofs.Sessions

/-!
What a boot leaves in memory. The slot of every process but the first holds the bytes that the
window held before the boot, and no other byte has changed. Nothing that comes after the boot writes
to memory: there is nothing left to replicate, and no other call copies.
-/

namespace SlotKernel

open KernelM

/-! ### Calls after a boot -/

theorem Kernel.Settled.step {k k' : Kernel} (h : k.Settled) (hstep : k.Step k') : k'.Settled := by
  rcases h with hreplicated | hsingle
  · exact Or.inl (hstep.replicated hreplicated)
  · exact Or.inr (by rwa [hstep.config_eq])

/-- Only a replication that forks writes to memory. -/
theorem Simulated.Effect.memory_eq {k k' : Kernel} {m m' : Simulated} {call : Call}
    {answer : Answer} (heffect : Effect k m call answer k' m') (hsettled : k.Settled) :
    m'.memory = m.memory := by
  cases heffect with
  | transferred => cases k.config.invalidation <;> rfl
  | forked _ _ _ _ hmulti _ _ hfirst =>
      exact absurd hsettled (Kernel.not_settled_of_first hmulti hfirst)
  | _ => rfl

section Session

variable {start w : World Simulated} {turns : List Turn} (hup : start.kernel.Up)
  (hsettled : start.kernel.Settled) (hsession : Session start turns w)

include hup hsettled hsession

theorem Session.settled : w.kernel.Settled := by
  apply hsession.invariant (fun _ w => w.kernel.Settled) hup hsettled
  · intro _ _ _ _ _ _ ih heffect
    exact ih.step heffect.step
  · intro _ _ ih
    exact ih

theorem Session.memory_eq : w.board.machine.memory = start.board.machine.memory := by
  have hboth := hsession.invariant
    (fun _ w => w.kernel.Settled ∧ w.board.machine.memory = start.board.machine.memory) hup
    ⟨hsettled, rfl⟩
    (fun _ _ _ _ _ _ ih heffect =>
      ⟨ih.1.step heffect.step, (heffect.memory_eq ih.1).trans ih.2⟩)
    (fun _ _ ih => ih)
  exact hboth.2

/-- Nor does a call that does not return: it leaves the kernel and the memory as they were. -/
theorem Session.same_of_stop {w' : World Simulated} {call : Call} {stop : Stop}
    (hstop : call.perform w = .error stop w') :
    w'.kernel = w.kernel ∧ w'.board.machine.memory = w.board.machine.memory := by
  rcases Simulated.ends_perform_settled w.board.machine (hsession.up hup) call with
    ⟨_, _, _, hreturns, -⟩ | ⟨_, _, m', hstops, hsame⟩
  · obtain ⟨hanswer, -⟩ := hreturns.eq_of_error rfl rfl hstop
    cases hanswer
  · obtain ⟨-, hkernel, hmachine⟩ := hstops.eq_of_error rfl rfl hstop
    obtain ⟨hevents, hmemory⟩ := hsame (hsession.settled hup hsettled)
    rw [hkernel, hmachine, hevents]
    exact ⟨rfl, hmemory⟩

theorem Session.memory_eq_of_stop {w' : World Simulated} {call : Call} {stop : Stop}
    (hstop : call.perform w = .error stop w') :
    w'.board.machine.memory = start.board.machine.memory :=
  (hsession.same_of_stop hup hsettled hstop).2.trans (hsession.memory_eq hup hsettled)

end Session

/-! ### The first replication -/

section First

variable {k k' : Kernel} {m m' : Simulated} {outcome : ReplicateOutcome}
  (heffect : Simulated.Effect k m .replicate (.replicated outcome) k' m')
  (hfirst : k.replicated = false) (hresume : m.resumeNext = false)

include heffect hfirst hresume

/-- The first replication is skipped for a single process, and otherwise it forks. -/
theorem Simulated.Effect.first_cases :
    (k.config.isMultiprocess = false ∧ outcome = .skipped ∧ k' = k ∧ m' = m) ∨
      k.config.isMultiprocess = true ∧ outcome = .forked (k.config.processCount - 1) ∧
        CopiesOf k.config m.captured k.config.processCount m' ∧
        ∃ seed events, capturedContext (m.captures + 1) = .ok seed ∧ k' = k.seeded seed events := by
  cases heffect with
  | skipped hsingle => exact Or.inl ⟨hsingle, rfl, rfl, rfl⟩
  | alreadyDone hdone => cases hdone.symm.trans hfirst
  | forkResumed hresumed => cases hresumed.symm.trans hresume
  | forked seed events _ _ hmulti _ hseed _ hcopies =>
      exact Or.inr ⟨hmulti, rfl, hcopies, seed, events, hseed, rfl⟩

theorem Simulated.Effect.settled_of_first : k'.Settled := by
  rcases heffect.first_cases hfirst hresume with ⟨hsingle, -, rfl, -⟩ | ⟨-, -, -, seed, events, -, rfl⟩
  · exact Or.inr hsingle
  · exact Or.inl rfl

theorem Simulated.Effect.paging_of_first : k'.paging = k.paging := by
  rcases heffect.first_cases hfirst hresume with ⟨-, -, rfl, -⟩ | ⟨-, -, -, seed, events, -, rfl⟩
  · rfl
  · rfl

/-- On a machine that has not copied or captured anything, it leaves the images in the slots, with
one copy for each of them, and the context of its only capture for every process but the first. -/
theorem Simulated.Effect.images_of_first (hempty : ∀ p, k.context p = .empty)
    (hroom : m.HasRoom (k.config.processCount + 1)) (hcopies : m.copies = #[])
    (hcaptures : m.captures = 0) :
    m.memory.HasImages k.config k.config.processCount m'.memory ∧
      m'.copies.toList = (List.range' 1 (k.config.processCount - 1)).map k.config.slotCopy ∧
      (2 ≤ k.config.processCount → outcome = .forked (k.config.processCount - 1) ∧
        m'.captures = 1 ∧ ∃ seed, capturedContext 1 = .ok seed ∧ ∀ p, k'.context p =
          if 1 ≤ p ∧ p < k.config.processCount then seed else .empty) ∧
      (k.config.processCount < 2 → outcome = .skipped ∧ m'.captures = 0 ∧
        ∀ p, k'.context p = .empty) := by
  rcases heffect.first_cases hfirst hresume with
    ⟨hsingle, rfl, rfl, rfl⟩ | ⟨hmulti, rfl, hcopied, seed, events, hseed, rfl⟩
  · -- a single process: nothing has happened
    have hone := k'.config.one_le_processCount
    have hcount : k'.config.processCount < 2 := by
      simpa [Config.isMultiprocess] using hsingle
    have hlast : k'.config.processCount = 1 := by omega
    rw [hlast, hcopies]
    exact ⟨.refl k'.config m'.memory, rfl, fun h => absurd h (by decide),
      fun _ => ⟨rfl, hcaptures, hempty⟩⟩
  · have hcount : 2 ≤ k.config.processCount := by
      simpa [Config.isMultiprocess] using hmulti
    obtain ⟨himages, hlist⟩ := hcopied.images hroom
    obtain ⟨memory, copies, rfl⟩ := hcopied.machine_eq
    rw [hcaptures] at hseed
    refine ⟨himages, ?_, fun _ => ⟨rfl, congrArg (· + 1) hcaptures, seed, hseed, ?_⟩,
      fun h => absurd hcount (Nat.not_le.mpr h)⟩
    · have hnone : m.captured.copies.toList = [] := congrArg Array.toList hcopies
      rw [hlist, hnone, List.nil_append]
    · intro p
      split
      · next hp => exact Kernel.context_seeded hp.1 hp.2
      · next hp => exact (Kernel.context_seeded_of_not hp).trans (hempty p)

end First

/-! ### Booting -/

/-- The slots lie between the start of the window and the end of the mapped part, apart from one
another, and they are mapped one to one by the time of the replication. -/
theorem Kernel.Prepared.slot_apart {config : Config} {built : PageTables} {k : Kernel}
    (h : Prepared config built k) {slot address : Nat} (hslot : slot < config.processCount)
    (hin : config.InSlot slot address) :
    config.window.start.val.toNat ≤ address ∧ address < 0x100000 * (config.processCount + 1) ∧
      (∀ other, config.InSlot other address → other = slot) ∧
      k.paging.resolve? ⟨UInt32.ofNat address⟩ = some ⟨UInt32.ofNat address⟩ := by
  have hcount : config.processCount ≤ 8 := config.processCount_le
  have hstart := UInt32.le_iff_toNat_le.mp config.slotStride_le_start
  have hstride : UInt32.toNat slotStride = 0x100000 := rfl
  obtain ⟨hlow, hhigh⟩ := id hin
  have hpage := VirtAddr.number_page ⟨UInt32.ofNat address⟩
  have haddress : (UInt32.ofNat address).toNat = address :=
    UInt32.toNat_ofNat_of_lt' (by simp only [UInt32.size]; omega)
  simp only [haddress] at hpage
  exact ⟨by omega, by omega, fun other hother => config.eq_of_inSlot hother hin,
    (h.identity _ (by omega) (by omega)).resolve?_eq⟩

/-- A boot copies the window to the slot of every process but the first and changes no other byte.
The slots are apart from one another and from the window, end with the mapped part and are mapped
one to one; with a single process there is no copy, no capture and no context. No later call changes
a byte. -/
theorem images_of_boot (config : Config) {base : PhysAddr} (hbase : base.isPageAligned = true)
    (viewport : Option VirtAddr) {slots : Nat} (hslots : config.processCount ≤ slots)
    {bytes : ByteArray} (hbytes : bytes.size = (slots + 1) * 0x100000) (console : Console)
    (tracing : Bool) :
    ∃ outcome start,
      boot base viewport ⟨{ config := config },
        ⟨{ Simulated.new slots with memory := ⟨0, bytes⟩ }, console⟩, tracing⟩ =
          .ok outcome start ∧
      Memory.HasImages config ⟨0, bytes⟩ config.processCount start.board.machine.memory ∧
      (∀ slot address, slot < config.processCount → config.InSlot slot address →
        config.window.start.val.toNat ≤ address ∧
          address < 0x100000 * (config.processCount + 1) ∧
          (∀ other, config.InSlot other address → other = slot) ∧
          start.kernel.paging.resolve? ⟨UInt32.ofNat address⟩ = some ⟨UInt32.ofNat address⟩) ∧
      start.board.machine.copies.toList =
        (List.range' 1 (config.processCount - 1)).map config.slotCopy ∧
      (2 ≤ config.processCount → outcome = .forked (config.processCount - 1) ∧
        start.board.machine.captures = 1 ∧
        ∃ seed, Simulated.capturedContext 1 = .ok seed ∧ ∀ p, start.kernel.context p =
          if 1 ≤ p ∧ p < config.processCount then seed else .empty) ∧
      (config.processCount < 2 → outcome = .skipped ∧ start.board.machine.captures = 0 ∧
        ∀ p, start.kernel.context p = .empty) ∧
      ∀ turns w, Session start turns w →
        w.board.machine.memory = start.board.machine.memory ∧
        ∀ (call : Call) stop w', call.perform w = .error stop w' →
          w'.board.machine.memory = start.board.machine.memory := by
  have hroom : Simulated.HasRoom { Simulated.new slots with memory := ⟨0, bytes⟩ }
      (config.processCount + 1) := by
    refine ⟨rfl, ?_⟩
    change _ ≤ bytes.size
    rw [hbytes]
    exact Nat.mul_le_mul_right _ (Nat.succ_le_succ hslots)
  obtain ⟨outcome, start, hboot⟩ :=
    Simulated.returns_boot config hbase viewport hroom (Nat.two_pow_pos 27) console tracing
  obtain ⟨built, _, k, pages, -, -, hprepared, heffect⟩ := Simulated.effect_of_boot hboot
  have hconfig := hprepared.config_eq
  subst hconfig
  have hfirst := hprepared.replicated_eq
  have hup := hprepared.up.step heffect.step
  have hsettled := heffect.settled_of_first hfirst rfl
  have hpaging := heffect.paging_of_first hfirst rfl
  obtain ⟨himages, hcopies, hmany, hsingle⟩ :=
    heffect.images_of_first hfirst rfl hprepared.contexts_eq hroom rfl rfl
  refine ⟨outcome, start, hboot, himages, ?_, hcopies, hmany, hsingle, ?_⟩
  · intro slot address hslot hin
    rw [hpaging]
    exact hprepared.slot_apart hslot hin
  · intro turns w hsession
    exact ⟨hsession.memory_eq hup hsettled, fun call stop w' => hsession.memory_eq_of_stop hup hsettled⟩

/-- Three MiB in which every byte is the number of its block of 64 KiB. -/
def numberedBlocks : ByteArray :=
  ⟨Array.ofFn fun i : Fin 0x300000 => UInt8.ofNat (i.val / 0x10000)⟩

theorem size_numberedBlocks : numberedBlocks.size = 0x300000 := by
  rw [numberedBlocks, ByteArray.size, Array.size_ofFn]

theorem byte?_numberedBlocks {address : Nat} (h : address < 0x300000) :
    Memory.byte? ⟨0, numberedBlocks⟩ address = some (UInt8.ofNat (address / 0x10000)) := by
  rw [Memory.byte?, if_pos (Nat.zero_le _), Nat.sub_zero, Memory.getElem?_eq_data, numberedBlocks,
    Array.getElem?_ofFn, dif_pos h]

/-- Two processes on a machine that was made for them. Before the boot the slot of the second one
holds other bytes than the window, and afterwards those of the window. -/
theorem images_of_boot_halves :
    (PhysAddr.mk 0x90000).isPageAligned = true ∧ Config.halves.processCount ≤ 2 ∧
      numberedBlocks.size = (2 + 1) * 0x100000 ∧
      ∃ outcome start,
        boot ⟨0x90000⟩ (some ⟨0x108000⟩) ⟨{ config := .halves },
          ⟨{ Simulated.new 2 with memory := ⟨0, numberedBlocks⟩ }, .ready⟩, false⟩ =
            .ok outcome start ∧
        outcome = .forked 1 ∧ start.board.machine.copies.toList = [Config.halves.slotCopy 1] ∧
        ∀ offset, offset < 0x80000 →
          Memory.byte? ⟨0, numberedBlocks⟩ (0x280000 + offset) =
            some (UInt8.ofNat (0x28 + offset / 0x10000)) ∧
          start.board.machine.memory.byte? (0x280000 + offset) =
            some (UInt8.ofNat (0x18 + offset / 0x10000)) := by
  refine ⟨by decide, by decide, size_numberedBlocks, ?_⟩
  obtain ⟨outcome, start, hboot, himages, -, hcopies, hmany, -⟩ :=
    images_of_boot .halves (by decide : (PhysAddr.mk 0x90000).isPageAligned = true)
      (some ⟨0x108000⟩) (by decide : Config.halves.processCount ≤ 2) size_numberedBlocks .ready
      false
  refine ⟨outcome, start, hboot, (hmany (by decide)).1, hcopies, ?_⟩
  intro offset hoffset
  have hblock : ∀ first, (0x10000 * first + offset) / 0x10000 = first + offset / 0x10000 := by
    intro first
    omega
  have hcopied := himages.image 1 (by decide) (by decide) offset hoffset
  change _ = Memory.byte? _ (0x180000 + offset) at hcopied
  refine ⟨?_, hcopied.trans ?_⟩
  · rw [byte?_numberedBlocks (by omega), hblock 0x28]
  · rw [byte?_numberedBlocks (by omega), hblock 0x18]

end SlotKernel

import SlotKernel.Machine.Simulated
import SlotKernel.Proofs.Startup

/-!
What the copies of a replication do to the memory of the simulated machine. A copy inside the memory
moves its bytes as they were before it and leaves every other byte alone. The window ends at the
2 MiB ceiling and slot `k` lies `k` MiB higher, so no slot meets another one or the window itself,
and the copies may be taken one after the other: after each of them, the slots up to there hold the
bytes that the window held at first.
-/

namespace SlotKernel

namespace Memory

/-! ### Bytes -/

theorem size_fold_push (count : Nat) (bytes : ByteArray) :
    (Nat.fold count (fun _ _ bytes => bytes.push 0) bytes).size = bytes.size + count := by
  induction count with
  | zero => rw [Nat.fold_zero, Nat.add_zero]
  | succ count ih => rw [Nat.fold_succ, ByteArray.size_push, ih, Nat.add_assoc]

theorem size_fold_append (count : Nat) (chunk bytes : ByteArray) :
    (Nat.fold count (fun _ _ bytes => bytes ++ chunk) bytes).size =
      bytes.size + count * chunk.size := by
  induction count with
  | zero => rw [Nat.fold_zero, Nat.zero_mul, Nat.add_zero]
  | succ count ih => rw [Nat.fold_succ, ByteArray.size_append, ih, Nat.succ_mul, Nat.add_assoc]

theorem size_zeroMib : zeroMib.size = 0x100000 := by
  rw [zeroMib, size_fold_push]
  exact Nat.zero_add _

theorem size_zeroed (base megabytes : Nat) :
    (zeroed base megabytes).size = megabytes * 0x100000 := by
  rw [size, zeroed, size_fold_append, size_zeroMib]
  exact Nat.zero_add _

/-- The byte at an address. -/
def byte? (memory : Memory) (address : Nat) : Option UInt8 :=
  if memory.base ≤ address then memory.bytes[address - memory.base]? else none

theorem getElem?_eq_data (bytes : ByteArray) (i : Nat) : bytes[i]? = bytes.data[i]? := by
  simp [getElem?_def, ByteArray.getElem_eq_getElem_data]

theorem getElem?_copySlice {bytes : ByteArray} {source target count : Nat}
    (hsource : source + count ≤ bytes.size) (htarget : target + count ≤ bytes.size) (i : Nat) :
    (bytes.copySlice source bytes target count)[i]? =
      if target ≤ i ∧ i < target + count then bytes[source + (i - target)]? else bytes[i]? := by
  change source + count ≤ bytes.data.size at hsource
  change target + count ≤ bytes.data.size at htarget
  have hfront : min target bytes.data.size - 0 = target := by omega
  have hmiddle : min (source + count) bytes.data.size - source = count := by omega
  have hskip : min count (bytes.data.size - source) = count := by omega
  simp only [getElem?_eq_data, ByteArray.copySlice, Array.getElem?_append, Array.getElem?_extract,
    Array.size_extract, Array.size_append, hfront, hmiddle, hskip]
  by_cases hbefore : i < target
  · rw [if_pos (by omega), if_pos hbefore, if_pos hbefore, if_neg (by omega), Nat.zero_add]
  · by_cases hcopied : i < target + count
    · rw [if_pos hcopied, if_neg hbefore, if_pos (by omega), if_pos (by omega)]
    · have hplace : target + count + (i - (target + count)) = i := by omega
      have hkept : ¬ (target ≤ i ∧ i < target + count) := fun h => hcopied h.2
      rw [if_neg hcopied, if_neg hkept, hplace]
      by_cases hinside : i < bytes.data.size
      · rw [if_pos (by omega)]
      · rw [if_neg (by omega), Array.getElem?_eq_none (by omega)]

theorem copy_eq_ok {memory : Memory} {target source count : Nat}
    (hsource : memory.base ≤ source ∧ source + count ≤ memory.base + memory.size)
    (htarget : memory.base ≤ target ∧ target + count ≤ memory.base + memory.size) :
    ∃ copied, memory.copy target source count = .ok copied ∧ copied.base = memory.base ∧
      copied.size = memory.size ∧ ∀ address, copied.byte? address =
        if target ≤ address ∧ address < target + count then
          memory.byte? (source + (address - target))
        else memory.byte? address := by
  refine ⟨⟨memory.base, memory.bytes.copySlice (source - memory.base) memory.bytes
    (target - memory.base) count⟩, ?_, rfl, ?_, ?_⟩
  · rw [copy, place?, if_pos hsource, place?, if_pos htarget]
    rfl
  · have hdata : memory.bytes.data.size = memory.bytes.size := rfl
    simp only [size, ByteArray.copySlice_eq_append, ByteArray.size_append, ByteArray.size_extract]
    simp only [size] at hsource htarget
    omega
  · intro address
    simp only [size] at hsource htarget
    simp only [byte?]
    rw [getElem?_copySlice (by omega) (by omega)]
    by_cases hbase : memory.base ≤ address
    · rw [if_pos hbase]
      by_cases hin : target ≤ address ∧ address < target + count
      · rw [if_pos hin, if_pos (by omega), if_pos (by omega)]
        congr 1
        omega
      · rw [if_neg hin, if_pos hbase, if_neg (by omega)]
    · have houtside : ¬ (target ≤ address ∧ address < target + count) := by omega
      rw [if_neg hbase, if_neg houtside, if_neg hbase]

end Memory

/-! ### Slots -/

namespace Config

variable (config : Config)

/-- The address lies where a slot holds the window. -/
def InSlot (slot address : Nat) : Prop :=
  config.window.start.val.toNat + 0x100000 * slot ≤ address ∧ address < 0x200000 + 0x100000 * slot

theorem inSlot_iff {slot address : Nat} :
    config.InSlot slot address ↔ ∃ offset, offset < config.window.byteCount.toNat ∧
      address = config.window.start.val.toNat + 0x100000 * slot + offset := by
  have hbytes := config.start_add_byteCount
  constructor
  · rintro ⟨hlow, hhigh⟩
    exact ⟨address - (config.window.start.val.toNat + 0x100000 * slot), by omega, by omega⟩
  · rintro ⟨offset, hoffset, rfl⟩
    exact ⟨by omega, by omega⟩

/-- No address lies in two slots. -/
theorem eq_of_inSlot {slot other address : Nat} (h : config.InSlot slot address)
    (hother : config.InSlot other address) : slot = other := by
  have hstart := UInt32.le_iff_toNat_le.mp config.slotStride_le_start
  have hstride : UInt32.toNat slotStride = 0x100000 := rfl
  obtain ⟨hlow, hhigh⟩ := h
  obtain ⟨hlow', hhigh'⟩ := hother
  omega

/-- The copy of the window to a slot. -/
def slotCopy (slot : Nat) : CopyRecord :=
  ⟨⟨UInt32.ofNat (config.window.start.val.toNat + 0x100000 * slot)⟩, config.window.start,
    config.window.byteCount⟩

theorem slotCopy_eq {slot : Nat} {start : PhysAddr}
    (hstart : start.val.toNat = config.window.start.val.toNat + 0x100000 * slot) :
    (⟨start, config.window.start, config.window.byteCount⟩ : CopyRecord) = config.slotCopy slot := by
  rw [slotCopy, ← hstart, UInt32.ofNat_toNat]

end Config

/-! ### Images -/

/-- What a memory is after the window was copied to the slots from 1 on and below `stop`. -/
structure Memory.HasImages (config : Config) (before : Memory) (stop : Nat) (after : Memory) :
    Prop where
  base_eq : after.base = before.base
  size_eq : after.size = before.size
  image : ∀ slot, 1 ≤ slot → slot < stop → ∀ offset, offset < config.window.byteCount.toNat →
    after.byte? (config.window.start.val.toNat + 0x100000 * slot + offset) =
      before.byte? (config.window.start.val.toNat + offset)
  elsewhere : ∀ address, (∀ slot, 1 ≤ slot → slot < stop → ¬ config.InSlot slot address) →
    after.byte? address = before.byte? address

namespace Memory.HasImages

variable {config : Config} {before after : Memory} {slot : Nat}

theorem refl (config : Config) (memory : Memory) : memory.HasImages config 1 memory where
  base_eq := rfl
  size_eq := rfl
  image := fun _ hlow hhigh => absurd hlow (Nat.not_le.mpr hhigh)
  elsewhere := fun _ _ => rfl

/-- The next copy finds the window as it was, and it spares the slots that are filled already. -/
theorem copy (h : before.HasImages config slot after) (hslot : 1 ≤ slot)
    (hbase : before.base ≤ config.window.start.val.toNat)
    (hend : 0x200000 + 0x100000 * slot ≤ before.base + before.size) :
    ∃ copied, after.copy (config.window.start.val.toNat + 0x100000 * slot)
        config.window.start.val.toNat config.window.byteCount.toNat = .ok copied ∧
      before.HasImages config (slot + 1) copied := by
  have hbytes := config.start_add_byteCount
  obtain ⟨hsame, hsize, himage, helsewhere⟩ := h
  obtain ⟨copied, hcopy, hcopiedBase, hcopiedSize, hbyte⟩ := @Memory.copy_eq_ok after
    (config.window.start.val.toNat + 0x100000 * slot) config.window.start.val.toNat
    config.window.byteCount.toNat ⟨by omega, by omega⟩ ⟨by omega, by omega⟩
  refine ⟨copied, hcopy, hcopiedBase.trans hsame, hcopiedSize.trans hsize, ?_, ?_⟩
  · intro other hlow hhigh offset hoffset
    rw [hbyte]
    rcases Nat.lt_or_eq_of_le (Nat.le_of_lt_succ hhigh) with hfilled | rfl
    · -- a slot that was filled earlier
      have hin : config.InSlot other (config.window.start.val.toNat + 0x100000 * other + offset) :=
        config.inSlot_iff.mpr ⟨offset, hoffset, rfl⟩
      rw [if_neg]
      · exact himage other hlow hfilled offset hoffset
      · rintro ⟨hfrom, hto⟩
        have hsecond : config.InSlot slot
            (config.window.start.val.toNat + 0x100000 * other + offset) := ⟨hfrom, by omega⟩
        have heq := config.eq_of_inSlot hin hsecond
        omega
    · rw [if_pos (by omega), Nat.add_sub_cancel_left]
      -- the window itself is slot 0 and is never written
      apply helsewhere
      intro filled hone hfilled hin
      have hwindow : config.InSlot 0 (config.window.start.val.toNat + offset) :=
        config.inSlot_iff.mpr ⟨offset, hoffset, by omega⟩
      have heq := config.eq_of_inSlot hin hwindow
      omega
  · intro address houtside
    rw [hbyte, if_neg]
    · exact helsewhere address fun filled hone hfilled =>
        houtside filled hone (Nat.lt_succ_of_lt hfilled)
    · rintro ⟨hfrom, hto⟩
      exact houtside slot hslot (Nat.lt_succ_self slot) ⟨hfrom, by omega⟩

end Memory.HasImages

namespace Simulated

/-- The memory starts at address 0 and has so many MiB. -/
def HasRoom (m : Simulated) (megabytes : Nat) : Prop :=
  m.memory.base = 0 ∧ megabytes * 0x100000 ≤ m.memory.size

theorem hasRoom_new (slots : Nat) : (new slots).HasRoom (slots + 1) :=
  ⟨rfl, Nat.le_of_eq (Memory.size_zeroed 0 (slots + 1)).symm⟩

theorem copyToPhysical_eq (target : PhysAddr) (source : VirtAddr) (count : UInt32) (m : Simulated) :
    Machine.copyToPhysical target source count m =
      match m.memory.copy target.val.toNat source.val.toNat count.toNat with
      | .ok memory =>
          .ok () { m with memory := memory, copies := m.copies.push ⟨target, source, count⟩ }
      | .error cause => .error (.panicked cause) m := by
  change (liftM (m.memory.copy target.val.toNat source.val.toNat count.toNat) >>= fun memory =>
    set { m with memory := memory, copies := m.copies.push ⟨target, source, count⟩ } :
      Run Simulated Unit) m = _
  cases m.memory.copy target.val.toNat source.val.toNat count.toNat <;> rfl

/-- What the copies to the slots below `stop` leave of a machine. -/
structure CopiesOf (config : Config) (start : Simulated) (stop : Nat) (m : Simulated) : Prop where
  machine_eq : ∃ memory copies, m = { start with memory := memory, copies := copies }
  /-- Where the memory has room for every slot. -/
  images : start.HasRoom (config.processCount + 1) →
    start.memory.HasImages config stop m.memory ∧
      m.copies.toList = start.copies.toList ++ (List.range' 1 (stop - 1)).map config.slotCopy

theorem copiesOf_refl (config : Config) (m : Simulated) : CopiesOf config m 1 m where
  machine_eq := ⟨m.memory, m.copies, rfl⟩
  images := fun _ => ⟨.refl config m.memory, (List.append_nil _).symm⟩

/-- Each copy adds its slot, and it panics only for want of room. -/
theorem copiesOf_copyToPhysical {config : Config} {slot : Nat} {start : PhysAddr}
    {m m' : Simulated} (hlow : 1 ≤ slot) (hslot : slot < config.processCount)
    (hstart : KernelM.slotStart config.window slot = .ok start)
    (hkept : CopiesOf config m slot m') :
    (Machine.copyToPhysical (μ := Simulated) start config.window.start
      config.window.byteCount).Keeps
      (CopiesOf config m (slot + 1))
      (fun stop => (∃ cause, stop = .panicked cause) ∧ ¬ m.HasRoom (config.processCount + 1))
      m' := by
  obtain ⟨_, hplace, hnumber⟩ := KernelM.slotStart_eq_ok config hslot
  cases hplace.symm.trans hstart
  obtain ⟨⟨memory, copies, rfl⟩, himages⟩ := hkept
  have hfits : m.HasRoom (config.processCount + 1) → ∃ copied,
      memory.copy start.val.toNat config.window.start.val.toNat
        config.window.byteCount.toNat = .ok copied ∧
      m.memory.HasImages config (slot + 1) copied := by
    intro hroom
    rw [hnumber]
    have hbase : m.memory.base = 0 := hroom.1
    have hsize := hroom.2
    exact (himages hroom).1.copy hlow (by omega) (by omega)
  rw [Run.Keeps, copyToPhysical_eq]
  cases hcopy : memory.copy start.val.toNat config.window.start.val.toNat
      config.window.byteCount.toNat with
  | ok copied =>
      refine ⟨⟨copied, _, rfl⟩, fun hroom => ⟨?_, ?_⟩⟩
      · obtain ⟨_, hcopied, hmemory⟩ := hfits hroom
        cases hcopied.symm.trans hcopy
        exact hmemory
      · have hcopies : copies.toList =
            m.copies.toList ++ (List.range' 1 (slot - 1)).map config.slotCopy := (himages hroom).2
        have hrange : List.range' 1 (slot + 1 - 1) = List.range' 1 (slot - 1) ++ [slot] := by
          have hcount : slot + 1 - 1 = (slot - 1) + 1 := by omega
          have hlast : 1 + (slot - 1) = slot := by omega
          rw [hcount, List.range'_1_concat, hlast]
        change (copies.push _).toList = _
        rw [Array.toList_push, hcopies, hrange, List.map_append, List.map_singleton,
          config.slotCopy_eq hnumber, List.append_assoc]
  | error cause =>
      refine ⟨⟨cause, rfl⟩, ?_⟩
      intro hroom
      obtain ⟨_, hcopied, -⟩ := hfits hroom
      cases hcopied.symm.trans hcopy

end Simulated

end SlotKernel

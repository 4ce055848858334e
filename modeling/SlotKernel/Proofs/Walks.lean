import SlotKernel.Proofs.InitialTables
import SlotKernel.Proofs.TableCalls

/-!
The walk of the memory management unit beside that of `resolve?`. The unit knows nothing but physical
memory: it reads the word of the directory entry, and if that word is present it reads the word of
the table entry in the frame which the first word names. `resolve?` takes the table by its index and
never looks at that frame. The two agree because every call that changes the structures leaves the
directory to be the one that belongs to the base and the number of tables, so that the frames it
names are those in which the tables lie.
-/

namespace SlotKernel

/-! ### Physical memory -/

/-- The words of physical memory, by address. -/
abbrev PhysicalWords := PhysAddr → UInt32

/-- The place of a 32-bit word in the frame that another word names. -/
def wordPlace (word index : UInt32) : PhysAddr :=
  ⟨(word &&& 0xfffff000) ||| (index * 4)⟩

/-- The two levels of a walk: the upper ten bits of the address choose the directory entry, the
middle ten the table entry in the frame that the first one names, and the lower twelve the byte in
the frame that the second one names. Either entry ends the walk if its lowest bit is clear. -/
def PhysicalWords.walk (memory : PhysicalWords) (root : PhysAddr) (addr : VirtAddr) :
    Option PhysAddr :=
  let directoryWord := memory (wordPlace root.val (addr.val / 0x400000))
  if directoryWord &&& 1 = 0 then
    none
  else
    let tableWord := memory (wordPlace directoryWord (addr.val / 0x1000 % 0x400))
    if tableWord &&& 1 = 0 then
      none
    else
      some ⟨(tableWord &&& 0xfffff000) ||| (addr.val &&& 0xfff)⟩

namespace PageTables

/-- The structures lie in memory from their base on: the 1024 words of the directory, and behind it
one table after the other. -/
structure LiesIn (s : PageTables) (memory : PhysicalWords) : Prop where
  directory : ∀ (place : PhysAddr) (i : Fin 1024),
    place.val.toNat = s.base.val.toNat + 4 * i.val → memory place = (s.directory.get i).raw
  tables : ∀ (place : PhysAddr) (table : Fin maxPageTables) (i : Fin 1024),
    place.val.toNat = s.base.val.toNat + 4096 * (1 + table.val) + 4 * i.val →
      memory place = ((s.tables.get table).get i).raw

/-- Memory with the structures at their base, and zero elsewhere. -/
def layOut (s : PageTables) : PhysicalWords := fun place =>
  let word := (place.val.toNat - s.base.val.toNat) / 4
  match s.directory[word]? with
  | some entry => entry.raw
  | none => ((s.tables[word / 1024 - 1]?.bind (·[word % 1024]?)).map (·.raw)).getD 0

theorem liesIn_layOut (s : PageTables) : s.LiesIn s.layOut := by
  constructor
  · intro place i hplace
    have hword : (place.val.toNat - s.base.val.toNat) / 4 = i.val := by omega
    simp only [layOut, hword, Vector.getElem?_eq_getElem i.isLt]
    rfl
  · intro place table i hplace
    have hword : (place.val.toNat - s.base.val.toNat) / 4 = 1024 * (1 + table.val) + i.val := by
      omega
    have hbehind : s.directory[1024 * (1 + table.val) + i.val]? = none := by
      rw [Vector.getElem?_eq_none_iff]
      omega
    have htable : (1024 * (1 + table.val) + i.val) / 1024 - 1 = table.val := by omega
    have hindex : (1024 * (1 + table.val) + i.val) % 1024 = i.val := by omega
    simp only [layOut, hword, hbehind, htable, hindex, Vector.getElem?_eq_getElem table.isLt,
      Vector.getElem?_eq_getElem i.isLt, Option.bind_some, Option.map_some, Option.getD_some]
    rfl

end PageTables

/-! ### The words of entries -/

theorem toNat_frameMask_or {word low : UInt32} (hlow : low.toNat < 4096) :
    ((word &&& frameMask) ||| low).toNat = 4096 * (word.toNat / 4096) + low.toNat := by
  have hhigh : (word &&& frameMask).toNat = (word.toNat / 4096) <<< 12 := by
    rw [toNat_and_frameMask, Nat.shiftLeft_eq]
    omega
  rw [UInt32.toNat_or, hhigh, ← Nat.shiftLeft_add_eq_or_of_lt hlow, Nat.shiftLeft_eq]
  omega

theorem and_one_eq_zero_iff (word : UInt32) : word &&& 1 = 0 ↔ word.toNat % 2 = 0 := by
  have hone : UInt32.toNat 1 = 2 ^ 1 - 1 := rfl
  have hzero : UInt32.toNat 0 = 0 := rfl
  rw [← UInt32.toNat_inj, UInt32.toNat_and, hone, Nat.and_two_pow_sub_one_eq_mod, hzero]

theorem TableEntry.isPresent_eq_false_iff (e : TableEntry) :
    e.isPresent = false ↔ e.raw &&& 1 = 0 := by
  rw [← Bool.not_eq_true, e.isPresent_iff, and_one_eq_zero_iff]
  omega

/-- The address that an entry gives for an offset joins the frame field with the offset. -/
theorem TableEntry.start_frame_add? (e : TableEntry) (addr : VirtAddr) :
    e.frame.start.add? addr.offset = some ⟨(e.raw &&& frameMask) ||| (addr.val &&& flagMask)⟩ := by
  have hshift : UInt32.toNat 12 % 32 = 12 := rfl
  have hraw := e.raw.toNat_lt
  have hoffset : addr.offset = addr.val &&& flagMask := rfl
  have hlow : (addr.val &&& flagMask).toNat = addr.val.toNat % 4096 := toNat_and_flagMask addr.val
  have hstart : e.frame.start.val.toNat = 4096 * (e.raw.toNat / 4096) := by
    rw [Frame.start, UInt32.toNat_shiftLeft, e.number_frame, pageShift, hshift, Nat.shiftLeft_eq]
    omega
  rw [PhysAddr.add?, hoffset, Word.add?,
    if_pos (by rw [hstart, hlow]; simp only [UInt32.size]; omega), Option.map_some]
  congr 2
  rw [← UInt32.toNat_inj, UInt32.toNat_add, toNat_frameMask_or (by rw [hlow]; omega), hstart, hlow]
  omega

/-! ### What every change keeps -/

namespace PageTables

/-- The directory, the number of tables and the base are those of the other structures. -/
structure SameSkeleton (s' s : PageTables) : Prop where
  directory : s'.directory = s.directory
  tableCount : s'.tableCount = s.tableCount
  base : s'.base = s.base

theorem sameSkeleton_edit (s : PageTables) (edits : List Edit) :
    PageTables.SameSkeleton (s.edit edits) s :=
  ⟨s.directory_edit edits, s.tableCount_edit edits, s.base_edit edits⟩

/-- The directory is the initial one for the base and the number of tables, and all tables lie below
the end of the address space. -/
structure Linked (s : PageTables) : Prop where
  directory_eq : s.directory = initialDirectory s.base s.tableCount
  aligned : s.base.val.toNat % 4096 = 0
  room : s.base.val.toNat / 4096 + 4 < 2 ^ 20

theorem Linked.of_sameSkeleton {s s' : PageTables} (h : s.Linked) (hsame : s'.SameSkeleton s) :
    s'.Linked where
  directory_eq := by rw [hsame.directory, hsame.base, hsame.tableCount, h.directory_eq]
  aligned := by rw [hsame.base]; exact h.aligned
  room := by rw [hsame.base]; exact h.room

theorem linked_empty : empty.Linked where
  directory_eq := by
    ext i hi
    simp [empty, Directory.empty, initialDirectory]
  aligned := rfl
  room := by decide

theorem linked_of_build {base : PhysAddr} {processCount : Nat} {built : PageTables}
    {summary : BuildSummary} (hroom : base.val.toNat / 4096 + 4 < 2 ^ 20)
    (h : build base processCount = .ok (built, summary)) : built.Linked := by
  obtain ⟨haligned, count, mapped, rfl⟩ := of_build_eq_ok h
  exact ⟨rfl, base.isPageAligned_iff.mp haligned, hroom⟩

theorem Linked.perform {s : PageTables} (h : s.Linked) {call : TableCall}
    (hcall : call.Admissible) : (call.perform s).Linked := by
  apply TableCall.perform_keeps h linked_empty
  · rintro base processCount built summary rfl hbuild
    exact linked_of_build hcall.2.1 hbuild
  · intro edits _
    exact h.of_sameSkeleton (s.sameSkeleton_edit edits)

theorem linked_afterCalls {calls : List TableCall} (hcalls : ∀ call ∈ calls, call.Admissible) :
    (afterCalls calls).Linked :=
  List.foldlRecOn calls TableCall.perform linked_empty fun _ h call hmem =>
    h.perform (hcalls call hmem)

end PageTables

/-! ### The two walks -/

theorem toNat_wordPlace {word index : UInt32} (hindex : index.toNat < 1024) :
    (wordPlace word index).val.toNat = 4096 * (word.toNat / 4096) + 4 * index.toNat := by
  have hfour : UInt32.toNat 4 = 4 := rfl
  have hlow : (index * 4).toNat = 4 * index.toNat := by
    rw [UInt32.toNat_mul, hfour]
    omega
  rw [wordPlace, ← hlow]
  exact toNat_frameMask_or (by rw [hlow]; omega)

theorem VirtAddr.toNat_directoryIndex (addr : VirtAddr) :
    (addr.val / 0x400000).toNat = addr.page.directoryIndex := by
  have hsize : UInt32.toNat 0x400000 = 4096 * 1024 := rfl
  have hpage := addr.number_page
  have hnumber := addr.page.number_eq
  have hindex := addr.page.tableIndex.isLt
  rw [UInt32.toNat_div, hsize]
  omega

theorem VirtAddr.toNat_tableIndex (addr : VirtAddr) :
    (addr.val / 0x1000 % 0x400).toNat = addr.page.tableIndex.val := by
  have hsize : UInt32.toNat 0x1000 = 4096 := rfl
  have hcount : UInt32.toNat 0x400 = 1024 := rfl
  have hpage := addr.number_page
  rw [UInt32.toNat_mod, UInt32.toNat_div, hsize, hcount, ← hpage]
  rfl

namespace DirectoryEntry

theorem toNat_new_initial (table : Frame) :
    (new table PageTables.initialDirectoryFlags).raw.toNat =
      4096 * (table.number.toNat % 2 ^ 20) + 11 := by
  have hbits : (attributesOf PageTables.initialDirectoryFlags.bits).toNat = 11 := rfl
  rw [(tells_new table _).raw_eq, hbits, Nat.mul_comm]

theorem not_largePage_new_initial (table : Frame) :
    (new table PageTables.initialDirectoryFlags).flags.contains .largePage = false := by
  have hlarge : (attributesOf PageTables.initialDirectoryFlags.bits).getLsbD 7 = false := by decide
  rw [← Bool.not_eq_true, DirectoryFlags.contains, beq_iff_eq, and_eq_right_iff]
  intro hall
  have hset := ((tells_new table _).bits_iff 7).mp (hall 7 (by decide))
  cases hlarge.symm.trans hset.2

end DirectoryEntry

namespace PageTables

variable {s : PageTables} {memory : PhysicalWords}

theorem Linked.directory_eq_new (h : s.Linked) {i : Fin 1024} (hi : i.val < s.tableCount.val) :
    s.directory[i] = .new (tableFrame s.base i.val) initialDirectoryFlags := by
  simp only [h.directory_eq, initialDirectory, Fin.getElem_fin, Vector.getElem_ofFn, if_pos hi]

theorem Linked.toNat_directory (h : s.Linked) {i : Fin 1024} (hi : i.val < s.tableCount.val) :
    s.directory[i].raw.toNat = s.base.val.toNat + 4096 * (1 + i.val) + 11 := by
  have hcount := s.tableCount.isLt
  have haligned := h.aligned
  have hroom := h.room
  have hshift : UInt32.toNat 12 % 32 = 12 := rfl
  have hone : UInt32.toNat 1 = 1 := rfl
  simp only [maxPageTables] at hcount
  have hframe : s.base.frame.number.toNat = s.base.val.toNat / 4096 := by
    simp only [PhysAddr.frame, pageShift, UInt32.toNat_shiftRight, hshift,
      Nat.shiftRight_eq_div_pow]
  rw [h.directory_eq_new hi, DirectoryEntry.toNat_new_initial, tableFrame, UInt32.toNat_add,
    UInt32.toNat_add, UInt32.toNat_ofNat', hframe, hone]
  omega

theorem Linked.directory_eq_empty (h : s.Linked) {i : Fin 1024} (hi : s.tableCount.val ≤ i.val) :
    s.directory[i] = .empty := by
  simp only [h.directory_eq, initialDirectory, Fin.getElem_fin, Vector.getElem_ofFn,
    if_neg (Nat.not_lt.mpr hi)]

/-- What the unit reads as the directory entry of an address. -/
theorem LiesIn.directoryWord (hmemory : s.LiesIn memory) (h : s.Linked) (addr : VirtAddr) :
    ∃ i : Fin 1024, i.val = addr.page.directoryIndex ∧
      memory (wordPlace s.directoryAddress.val (addr.val / 0x400000)) = s.directory[i].raw := by
  obtain ⟨i, hi⟩ : ∃ i : Fin 1024, i.val = addr.page.directoryIndex := by
    have hnumber := addr.page.number_eq
    have hlt := addr.number_page_lt
    exact ⟨⟨addr.page.directoryIndex, by omega⟩, rfl⟩
  have hindex := addr.toNat_directoryIndex
  have haligned := h.aligned
  refine ⟨i, hi, hmemory.directory _ i ?_⟩
  rw [toNat_wordPlace (by omega), hindex, directoryAddress]
  omega

/-- What the unit reads as the table entry of an address below a built table. -/
theorem LiesIn.tableWord (hmemory : s.LiesIn memory) (h : s.Linked) (addr : VirtAddr)
    {i : Fin 1024} (hi : i.val < s.tableCount.val) (table : Fin maxPageTables)
    (htable : table.val = i.val) :
    memory (wordPlace s.directory[i].raw (addr.val / 0x1000 % 0x400)) =
      s.tables[table][addr.page.tableIndex].raw := by
  have hindex := addr.toNat_tableIndex
  have hlt := addr.page.tableIndex.isLt
  have haligned := h.aligned
  refine hmemory.tables _ table addr.page.tableIndex ?_
  rw [toNat_wordPlace (by omega), h.toNat_directory hi, hindex, htable]
  omega

/-- A present entry gives the address that joins its frame field with the offset. -/
theorem resolve?_of_present {addr : VirtAddr} {entry : TableEntry}
    (hentry : s.entry? addr.page = some entry) (hpresent : entry.isPresent = true) :
    s.resolve? addr = some ⟨(entry.raw &&& frameMask) ||| (addr.val &&& flagMask)⟩ := by
  rw [resolve?, hentry]
  change (guard (entry.isPresent = true) >>= fun _ => entry.frame.start.add? addr.offset) = _
  rw [hpresent, entry.start_frame_add? addr]
  rfl

theorem resolve?_of_absent {addr : VirtAddr} {entry : TableEntry}
    (hentry : s.entry? addr.page = some entry) (habsent : entry.isPresent = false) :
    s.resolve? addr = none := by
  rw [resolve?, hentry]
  change (guard (entry.isPresent = true) >>= fun _ => entry.frame.start.add? addr.offset) = _
  rw [habsent]
  rfl

/-- The unit and `resolve?` find the same for every address. -/
theorem Linked.walk_eq (h : s.Linked) (hmemory : s.LiesIn memory) (addr : VirtAddr) :
    memory.walk s.directoryAddress addr = s.resolve? addr := by
  obtain ⟨i, hi, hdirectory⟩ := hmemory.directoryWord h addr
  unfold PhysicalWords.walk
  rw [hdirectory]
  by_cases hbuilt : i.val < s.tableCount.val
  · have hraw := h.toNat_directory hbuilt
    have haligned := h.aligned
    have hset : ¬ s.directory[i].raw &&& 1 = 0 := by
      rw [and_one_eq_zero_iff]
      omega
    have hbound : i.val < maxPageTables := by
      have := s.tableCount.isLt
      omega
    have htable : s.tableOf? addr.page = some ⟨i.val, hbound⟩ := by
      have hpresent := DirectoryEntry.isPresent_new_initial (tableFrame s.base i.val)
      rw [← h.directory_eq_new hbuilt, Fin.getElem_fin] at hpresent
      simp only [tableOf?, ← hi, dif_pos hbuilt, hpresent, if_true]
    have hentry : s.entry? addr.page =
        some s.tables[(⟨i.val, hbound⟩ : Fin maxPageTables)][addr.page.tableIndex] := by
      rw [PageTables.entry?, htable, Option.map_some]
    simp only [if_neg hset]
    rw [hmemory.tableWord h addr hbuilt ⟨i.val, hbound⟩ rfl]
    generalize s.tables[(⟨i.val, hbound⟩ : Fin maxPageTables)][addr.page.tableIndex] = entry
      at hentry ⊢
    cases hpresent : entry.isPresent with
    | false =>
        rw [if_pos (entry.isPresent_eq_false_iff.mp hpresent), resolve?_of_absent hentry hpresent]
    | true =>
        have hlow : ¬ entry.raw &&& 1 = 0 := by
          rw [← entry.isPresent_eq_false_iff, hpresent]
          simp
        rw [if_neg hlow, resolve?_of_present hentry hpresent]
        rfl
  · have hempty := h.directory_eq_empty (Nat.le_of_not_lt hbuilt)
    have hnone : s.tableOf? addr.page = none := by
      rw [tableOf?, dif_neg (by omega)]
    have hentry : s.entry? addr.page = none := by
      rw [PageTables.entry?, hnone, Option.map_none]
    rw [hempty, resolve?, hentry]
    rfl

/-- Whatever calls have made of new structures, the unit finds in them what `resolve?` finds, with
any memory around them. No present entry of the directory maps a large page, and those from the
number of tables on are not present. -/
theorem walk_afterCalls {calls : List TableCall} (hcalls : ∀ call ∈ calls, call.Admissible) :
    (∀ memory : PhysicalWords, (afterCalls calls).LiesIn memory → ∀ addr : VirtAddr,
      memory.walk (afterCalls calls).directoryAddress addr = (afterCalls calls).resolve? addr) ∧
    (∀ i : Fin 1024, (afterCalls calls).directory[i].isPresent = true →
      (afterCalls calls).directory[i].flags.contains .largePage = false) ∧
    ∀ i : Fin 1024, (afterCalls calls).tableCount.val ≤ i.val →
      (afterCalls calls).directory[i].isPresent = false := by
  have hlinked := linked_afterCalls hcalls
  refine ⟨fun memory hmemory addr => hlinked.walk_eq hmemory addr, ?_, ?_⟩
  · intro i hpresent
    by_cases hbuilt : i.val < (afterCalls calls).tableCount.val
    · rw [hlinked.directory_eq_new hbuilt]
      exact DirectoryEntry.not_largePage_new_initial _
    · rw [hlinked.directory_eq_empty (Nat.le_of_not_lt hbuilt)] at hpresent
      exact absurd hpresent (by decide)
  · intro i hbehind
    rw [hlinked.directory_eq_empty hbehind]
    rfl

/-- A page above the boot code, pointed at the registers of a device. -/
def deviceCalls : List TableCall :=
  [.build ⟨0x90000⟩ 2, .mapPhysicalPage ⟨0x105000⟩ ⟨0xfee00000⟩]

/-- The unit finds the registers there. -/
theorem walk_deviceCalls :
    (∀ call ∈ deviceCalls, call.Admissible) ∧
    (afterCalls deviceCalls).layOut.walk (afterCalls deviceCalls).directoryAddress ⟨0x105abc⟩ =
      some ⟨0xfee00abc⟩ := by
  have hcalls : ∀ call ∈ deviceCalls, call.Admissible := by
    intro call hmem
    rcases List.mem_pair.mp hmem with rfl | rfl
    · exact ⟨by decide, by decide, 768, rfl⟩
    · trivial
  obtain ⟨built, summary, hbuild, hbase, hentries⟩ := @build_eq_ok
    ⟨2, ⟨⟨0x180000⟩⟩, .perPage, by decide, by decide, by decide, by decide, by decide⟩ ⟨0x90000⟩
    (by decide)
  have hentry := hentries ⟨0x105⟩ (by decide)
  have hafter : afterCalls deviceCalls = (built.modify? ⟨0x105⟩ fun entry =>
      (entry.setFrame (PhysAddr.frame ⟨0xfee00000⟩)).insertFlags
        (.present ||| .writable)).getD built := by
    have hmap := mapPhysicalPage_start hentry (by decide) ⟨0xfee00000⟩
    rw [afterCalls, deviceCalls, List.foldl_cons, TableCall.perform, TableCall.changed?, hbuild]
    change ((built.mapPhysicalPage (Page.start ⟨0x105⟩) ⟨0xfee00000⟩).toOption).getD built = _
    rw [hmap]
    rfl
  have hfound := entry?_modify_self built ⟨0x105⟩ fun entry =>
    (entry.setFrame (PhysAddr.frame ⟨0xfee00000⟩)).insertFlags (.present ||| .writable)
  rw [← hafter, hentry, Option.map_some] at hfound
  refine ⟨hcalls, ?_⟩
  have hresolve := @resolve?_of_present (afterCalls deviceCalls) ⟨0x105abc⟩ _ hfound (by decide)
  rw [(walk_afterCalls hcalls).1 _ (liesIn_layOut _), hresolve]
  decide

end PageTables

end SlotKernel

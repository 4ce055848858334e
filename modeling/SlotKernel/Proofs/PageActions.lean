import SlotKernel.Proofs.Sessions
import SlotKernel.Proofs.Walks

/-!
Mapping one page. Page 0 and a page without an entry are refused, and otherwise the entry comes to
show a frame with the requested attributes on top of the old ones, and no other word of the
structures changes. The frame is the requested one as far as the field of the entry can name it: a
frame number is a word, the field has 20 bits, and nothing on the way looks at the rest. The check
that would stands in front of `mapPhysicalPage`, where the number comes from an address and always
fits.
-/

namespace SlotKernel

/-- Addition of flags acts on the twelve attribute bits alone, also where a frame was set before. -/
theorem TableEntry.flags_mapped (e : TableEntry) (frame : Frame) (flags : PageFlags) :
    ((e.setFrame frame).insertFlags flags).raw &&& flagMask =
      (e.raw ||| flags.bits) &&& flagMask := by
  have hset : attributesOf ((e.setFrame frame).insertFlags flags).raw =
      attributesOf e.raw ||| attributesOf flags.bits := by
    have hfields := (e.setFrame frame).fields_insertFlags flags
    rw [fields_setFrame] at hfields
    exact congrArg EntryFields.attributes hfields
  have hor : attributesOf (e.raw ||| flags.bits) = attributesOf e.raw ||| attributesOf flags.bits :=
    BitVec.setWidth_or
  rw [EntryFields.and_flagMask, EntryFields.and_flagMask, hset, hor]

/-- The frame field takes the lower 20 bits of the number. -/
theorem TableEntry.number_mapped (e : TableEntry) (frame : Frame) (flags : PageFlags) :
    ((e.setFrame frame).insertFlags flags).frame.number.toNat = frame.number.toNat % 2 ^ 20 := by
  have hfield := e.toNat_setFrame frame
  rw [frame_insertFlags, number_frame]
  omega

namespace PageTables

/-- The second structures are the first with a page mapped. -/
structure MappedPage (s : PageTables) (page : Page) (frame : Frame) (flags : PageFlags)
    (s' : PageTables) : Prop where
  entry : ∃ before after : TableEntry, s.entry? page = some before ∧ s'.entry? page = some after ∧
    after.frame.number.toNat = frame.number.toNat % 2 ^ 20 ∧
    after.raw &&& flagMask = (before.raw ||| flags.bits) &&& flagMask
  elsewhere : ∀ table index, pageAt table index ≠ page →
    s'.entryAt table index = s.entryAt table index
  skeleton : s'.SameSkeleton s

variable {s s' : PageTables} {page : Page} {frame : Frame} {flags : PageFlags}

theorem apply_map_null (hnull : page.number = 0) :
    s.apply (.map page frame flags) = .error .nullPage := by
  rw [PageTables.apply, if_pos (by rw [hnull]; rfl)]

theorem apply_map_of_none (hnull : page.number ≠ 0) (hentry : s.entry? page = none) :
    s.apply (.map page frame flags) = .error (.notMapped page) := by
  rw [PageTables.apply, if_neg (by rwa [beq_iff_eq]), modify?_eq_none hentry]
  rfl

theorem apply_map_of_some (hnull : page.number ≠ 0) {entry : TableEntry}
    (hentry : s.entry? page = some entry) :
    s.apply (.map page frame flags) =
      .ok (s.edit [(page, fun entry => (entry.setFrame frame).insertFlags flags)]) := by
  rw [PageTables.apply, if_neg (by rwa [beq_iff_eq]), modify?_eq_some hentry]
  rfl

theorem mappedPage_edit {entry : TableEntry} (hentry : s.entry? page = some entry) :
    s.MappedPage page frame flags
      (s.edit [(page, fun entry => (entry.setFrame frame).insertFlags flags)]) where
  entry := by
    refine ⟨entry, _, hentry, ?_, entry.number_mapped frame flags, entry.flags_mapped frame flags⟩
    exact (entry?_modify_self s page _).trans (by rw [hentry, Option.map_some])
  elsewhere table index hne := entryAt_modify_ne _ hne
  skeleton := s.sameSkeleton_edit _

/-- A mapping of one page is refused for page 0 and for a page without an entry, and for nothing
else. Where it is done, the entry shows the requested frame exactly when its number fits 20 bits,
and for a longer number it shows another frame. Mapping by address never asks for such a number. -/
theorem map_keeps_low_bits (s : PageTables) (page : Page) (frame : Frame) (flags : PageFlags) :
    (∀ error, s.apply (.map page frame flags) = .error error ↔
      page.number = 0 ∧ error = .nullPage ∨
        page.number ≠ 0 ∧ s.entry? page = none ∧ error = .notMapped page) ∧
    (∀ s', s.apply (.map page frame flags) = .ok s' → s.MappedPage page frame flags s' ∧
      ∀ entry, s'.entry? page = some entry →
        (entry.frame = frame ↔ frame.number ≤ maxFrameNumber)) ∧
    ∀ virt phys, s.mapPhysicalPage virt phys =
      s.apply (.map virt.page phys.frame (.present ||| .writable)) ∧
        phys.frame.number ≤ maxFrameNumber := by
  have hmax : UInt32.toNat maxFrameNumber = 2 ^ 20 - 1 := rfl
  refine ⟨fun error => ?_, fun s' h => ?_, fun virt phys => ?_⟩
  · by_cases hnull : page.number = 0
    · simp [apply_map_null hnull, hnull, eq_comm]
    · cases hentry : s.entry? page with
      | none => simp [apply_map_of_none hnull hentry, hnull, eq_comm]
      | some entry => simp [apply_map_of_some hnull hentry, hnull]
  · have hnull : page.number ≠ 0 := by
      intro hnull
      cases (apply_map_null hnull).symm.trans h
    cases hentry : s.entry? page with
    | none => cases (apply_map_of_none hnull hentry).symm.trans h
    | some before =>
        cases (apply_map_of_some hnull hentry).symm.trans h
        have hmapped : s.MappedPage page frame flags _ := mappedPage_edit hentry
        refine ⟨hmapped, fun entry hafter => ?_⟩
        obtain ⟨_, after, -, hfound, hnumber, -⟩ := hmapped.entry
        cases hafter.symm.trans hfound
        have hlt := frame.number.toNat_lt
        rw [UInt32.le_iff_toNat_le, hmax]
        constructor
        · intro hshown
          rw [hshown] at hnumber
          omega
        · intro hfits
          exact Frame.eq_of_number_eq (hnumber.trans (Nat.mod_eq_of_lt (by omega)))
  · refine ⟨s.mapPhysicalPage_eq_apply virt phys, ?_⟩
    have hlt := phys.val.toNat_lt
    rw [UInt32.le_iff_toNat_le, hmax, phys.number_frame]
    omega

/-- A page that is to show frame 0x100123 is not refused, and shows frame 0x123. -/
theorem frame_lost_halves :
    ∃ built summary s' entry, build ⟨0x90000⟩ Config.halves.processCount = .ok (built, summary) ∧
      built.apply (.map ⟨0x105⟩ ⟨0x100123⟩ (.present ||| .writable)) = .ok s' ∧
      s'.entry? ⟨0x105⟩ = some entry ∧ maxFrameNumber < 0x100123 ∧ entry.frame = ⟨0x123⟩ := by
  obtain ⟨built, summary, hbuild, -, hentries⟩ := @build_eq_ok .halves ⟨0x90000⟩ (by decide)
  have hentry := hentries ⟨0x105⟩ (by decide)
  have hmapped : built.MappedPage ⟨0x105⟩ ⟨0x100123⟩ (.present ||| .writable) _ :=
    mappedPage_edit hentry
  obtain ⟨_, after, -, hafter, hnumber, -⟩ := hmapped.entry
  exact ⟨built, summary, _, after, hbuild, apply_map_of_some (by decide) hentry, hafter, by decide,
    Frame.eq_of_number_eq hnumber⟩

end PageTables

end SlotKernel

import Mathlib.Algebra.Group.Nat.Defs
import Mathlib.Logic.Function.Defs
import SlotKernel.Paging.Entry

/-!
An entry as a pair. The upper 20 bits of its word are the number of a frame and the lower twelve are
a set of attributes. Every pair of the two is the word of exactly one entry, and each operation on an
entry is an operation on one of the two: a frame replaces the frame, and flags join the set or leave
it. What does not fit its field never gets in. So after any edits the entry has the frame that was
given last and the attributes that the flags alone lead to.
-/

namespace SlotKernel

/-! ### Words and masks -/

theorem toNat_and_flagMask (word : UInt32) : (word &&& flagMask).toNat = word.toNat % 4096 := by
  have hmask : UInt32.toNat flagMask = 2 ^ 12 - 1 := rfl
  rw [UInt32.toNat_and, hmask, Nat.and_two_pow_sub_one_eq_mod]

theorem toNat_and_frameMask (word : UInt32) :
    (word &&& frameMask).toNat = 4096 * (word.toNat / 4096) := by
  have hdisjoint : frameMask &&& flagMask = 0 := by decide
  have hlow : (word &&& frameMask).toNat % 4096 = 0 := by
    rw [← toNat_and_flagMask, UInt32.and_assoc, hdisjoint, UInt32.and_zero]
    rfl
  have hmask : UInt32.toNat frameMask >>> 12 = 2 ^ 20 - 1 := rfl
  have hlt := word.toNat_lt
  have hhigh : (word &&& frameMask).toNat / 4096 = word.toNat / 4096 := by
    have hshift : (word &&& frameMask).toNat >>> 12 = (word.toNat >>> 12) % 2 ^ 20 := by
      rw [UInt32.toNat_and, Nat.shiftRight_and_distrib, hmask, Nat.and_two_pow_sub_one_eq_mod]
    rw [Nat.shiftRight_eq_div_pow, Nat.shiftRight_eq_div_pow] at hshift
    omega
  omega

theorem toNat_frameMask_shiftRight (word : UInt32) :
    ((word &&& frameMask) >>> pageShift).toNat = word.toNat / 4096 := by
  have hshift : UInt32.toNat pageShift % 32 = 12 := rfl
  rw [UInt32.toNat_shiftRight, hshift, toNat_and_frameMask, Nat.shiftRight_eq_div_pow]
  omega

/-- The frame mask only cuts what a shifted frame number does not have. -/
theorem shiftLeft_and_frameMask (number : UInt32) :
    (number <<< pageShift) &&& frameMask = number <<< pageShift := by
  have hmask : frameMask = (-1 : UInt32) <<< pageShift := by decide
  rw [hmask, UInt32.and_comm, UInt32.neg_one_shiftLeft_and_shiftLeft]

theorem toNat_shiftLeft_or {number bits : UInt32} (hbits : bits.toNat < 4096) :
    ((number <<< pageShift) ||| bits).toNat = 4096 * (number.toNat % 2 ^ 20) + bits.toNat := by
  have hshift : UInt32.toNat pageShift % 32 = 12 := rfl
  have hnumber : number.toNat <<< 12 % 2 ^ 32 = (number.toNat % 2 ^ 20) <<< 12 := by
    simp only [Nat.shiftLeft_eq]
    omega
  rw [UInt32.toNat_or, UInt32.toNat_shiftLeft, hshift, hnumber,
    ← Nat.shiftLeft_add_eq_or_of_lt hbits, Nat.shiftLeft_eq]
  omega

theorem Frame.eq_of_number_eq {f g : Frame} (h : f.number.toNat = g.number.toNat) : f = g := by
  cases f
  cases g
  simpa only [Frame.mk.injEq] using UInt32.toNat_inj.mp h

/-! ### The two fields -/

/-- What the word of an entry is made of. -/
structure EntryFields where
  frame : BitVec 20
  /-- The set of attributes. Bit `i` says whether the attribute `2 ^ i` is in it. -/
  attributes : BitVec 12

/-- The bits of a frame number that fit the field. -/
def Frame.field (frame : Frame) : BitVec 20 :=
  frame.number.toBitVec.setWidth 20

/-- The attributes among the bits of a flag set. -/
def attributesOf (bits : UInt32) : BitVec 12 :=
  bits.toBitVec.setWidth 12

theorem Frame.toNat_field (frame : Frame) : frame.field.toNat = frame.number.toNat % 2 ^ 20 :=
  BitVec.toNat_setWidth 20 frame.number.toBitVec

theorem toNat_attributesOf (bits : UInt32) : (attributesOf bits).toNat = bits.toNat % 4096 :=
  BitVec.toNat_setWidth 12 bits.toBitVec

theorem getLsbD_attributesOf (bits : UInt32) {i : Nat} (hi : i < 12) :
    (attributesOf bits).getLsbD i = bits.toNat.testBit i := by
  rw [attributesOf, BitVec.getLsbD_setWidth, decide_eq_true hi, Bool.true_and]
  rfl

namespace EntryFields

/-- The word of the two fields, the frame in front. -/
def word (fields : EntryFields) : UInt32 :=
  ⟨fields.frame ++ fields.attributes⟩

def ofWord (word : UInt32) : EntryFields :=
  ⟨word.toBitVec.extractLsb' 12 20, attributesOf word⟩

theorem toNat_word (fields : EntryFields) :
    fields.word.toNat = fields.frame.toNat * 4096 + fields.attributes.toNat := by
  change (fields.frame ++ fields.attributes).toNat = _
  rw [BitVec.toNat_append, ← Nat.shiftLeft_add_eq_or_of_lt fields.attributes.isLt, Nat.shiftLeft_eq]

theorem toNat_frame_ofWord (word : UInt32) : (ofWord word).frame.toNat = word.toNat / 4096 := by
  have hlt := word.toNat_lt
  change (word.toBitVec.extractLsb' 12 20).toNat = _
  rw [BitVec.extractLsb'_toNat, UInt32.toNat_toBitVec, Nat.shiftRight_eq_div_pow]
  omega

theorem ofWord_word (fields : EntryFields) : ofWord fields.word = fields := by
  have hframe : (fields.frame ++ fields.attributes).extractLsb' 12 20 = fields.frame :=
    BitVec.extractLsb'_append_eq_left
  have hattributes : (fields.frame ++ fields.attributes).setWidth 12 = fields.attributes :=
    BitVec.setWidth_append_eq_right
  change EntryFields.mk _ _ = _
  congr

theorem word_ofWord (word : UInt32) : (ofWord word).word = word := by
  have hframe := toNat_frame_ofWord word
  have hattributes : (ofWord word).attributes.toNat = word.toNat % 4096 := toNat_attributesOf word
  rw [← UInt32.toNat_inj, toNat_word]
  omega

/-! ### Words field by field -/

section Bitwise

variable (p q : EntryFields)

theorem word_or : p.word ||| q.word = word ⟨p.frame ||| q.frame, p.attributes ||| q.attributes⟩ :=
  congrArg UInt32.ofBitVec BitVec.or_append

theorem word_and : p.word &&& q.word = word ⟨p.frame &&& q.frame, p.attributes &&& q.attributes⟩ :=
  congrArg UInt32.ofBitVec BitVec.and_append

theorem word_not : ~~~p.word = word ⟨~~~p.frame, ~~~p.attributes⟩ :=
  congrArg UInt32.ofBitVec BitVec.not_append

end Bitwise

theorem and_flagMask (bits : UInt32) : bits &&& flagMask = word ⟨0, attributesOf bits⟩ := by
  have hzero : BitVec.toNat (0 : BitVec 20) = 0 := rfl
  rw [← UInt32.toNat_inj, toNat_and_flagMask, toNat_word, toNat_attributesOf, hzero, Nat.zero_mul,
    Nat.zero_add]

/-- A frame number in front of some flags, both cut down to their fields. -/
theorem ofWord_or (frame : Frame) (bits : UInt32) :
    ofWord (((frame.number <<< pageShift) &&& frameMask) ||| (bits &&& flagMask)) =
      ⟨frame.field, attributesOf bits⟩ := by
  have hlow := toNat_and_flagMask bits
  have hword : ((frame.number <<< pageShift) &&& frameMask) ||| (bits &&& flagMask) =
      word ⟨frame.field, attributesOf bits⟩ := by
    rw [← UInt32.toNat_inj, shiftLeft_and_frameMask, toNat_shiftLeft_or (by omega), hlow,
      toNat_word, frame.toNat_field, toNat_attributesOf, Nat.mul_comm]
  rw [hword, ofWord_word]

end EntryFields

/-! ### What a word says -/

/-- The bit has a name of its own. -/
def IsNamed (names : List (UInt32 × String)) (i : Nat) : Prop :=
  ∃ name ∈ names, name.1.toNat = 2 ^ i

instance (names : List (UInt32 × String)) (i : Nat) : Decidable (IsNamed names i) :=
  inferInstanceAs (Decidable (∃ name ∈ names, name.1.toNat = 2 ^ i))

/-- The mask has the bits with a name, among them the lowest, and no bit above the attributes. -/
structure Masks (names : List (UInt32 × String)) (known : UInt32) : Prop where
  lt : known.toNat < 2 ^ 12
  present : known.toNat.testBit 0 = true
  isNamed_iff : ∀ i, IsNamed names i ↔ known.toNat.testBit i = true

/-- The bits above the attributes have no names, so only the others need to be looked at. -/
theorem masks_of_low {names : List (UInt32 × String)} {known : UInt32}
    (hknown : known.toNat < 2 ^ 12) (hpresent : known.toNat.testBit 0 = true)
    (hnames : ∀ name ∈ names, name.1.toNat < 2 ^ 12)
    (hlow : ∀ i < 12, IsNamed names i ↔ known.toNat.testBit i = true) : Masks names known where
  lt := hknown
  present := hpresent
  isNamed_iff i := by
    by_cases hi : i < 12
    · exact hlow i hi
    · have hpow : 2 ^ 12 ≤ 2 ^ i := Nat.pow_le_pow_right (by decide) (Nat.le_of_not_lt hi)
      rw [Nat.testBit_lt_two_pow (Nat.lt_of_lt_of_le hknown hpow)]
      refine ⟨?_, fun h => nomatch h⟩
      rintro ⟨name, hmem, hname⟩
      have hlt := hnames name hmem
      omega

theorem PageFlags.masks : Masks names known :=
  masks_of_low (by decide) (by decide) (by decide) (by decide)

theorem DirectoryFlags.masks : Masks names known :=
  masks_of_low (by decide) (by decide) (by decide) (by decide)

/-- A word and what is read off it are those of a frame number and a set of attributes: the frame, the
flags among the attributes that have names, and whether the lowest is there. -/
structure Tells (names : List (UInt32 × String)) (raw : UInt32) (shown : Frame) (bits : UInt32)
    (isPresent : Bool) (frame : Frame) (attributes : BitVec 12) : Prop where
  raw_eq : raw.toNat = frame.number.toNat % 2 ^ 20 * 4096 + attributes.toNat
  shown_eq : shown.number.toNat = frame.number.toNat % 2 ^ 20
  bits_iff : ∀ i, bits.toNat.testBit i = true ↔ IsNamed names i ∧ attributes.getLsbD i = true
  present_eq : isPresent = attributes.getLsbD 0

/-- The bits of a word that a mask lets through are bits of its attributes. -/
theorem Masks.testBit_and {names : List (UInt32 × String)} {known : UInt32}
    (hknown : Masks names known) (word : UInt32) (i : Nat) :
    (word &&& known).toNat.testBit i =
      (known.toNat.testBit i && (attributesOf word).getLsbD i) := by
  rw [UInt32.toNat_and, Nat.testBit_and, Bool.and_comm]
  by_cases hi : i < 12
  · rw [getLsbD_attributesOf word hi]
  · have hpow : 2 ^ 12 ≤ 2 ^ i := Nat.pow_le_pow_right (by decide) (Nat.le_of_not_lt hi)
    rw [Nat.testBit_lt_two_pow (Nat.lt_of_lt_of_le hknown.lt hpow), Bool.false_and, Bool.false_and]

theorem and_one_beq_one (word : UInt32) : (word &&& 1 == 1) = word.toNat.testBit 0 := by
  have hone : UInt32.toNat 1 = 2 ^ 1 - 1 := rfl
  rw [Bool.eq_iff_iff, beq_iff_eq, ← UInt32.toNat_inj, UInt32.toNat_and, hone,
    Nat.and_two_pow_sub_one_eq_mod, Nat.testBit_zero, decide_eq_true_iff, Nat.pow_one]

theorem Masks.present_and {names : List (UInt32 × String)} {known : UInt32}
    (hknown : Masks names known) (word : UInt32) :
    ((word &&& known) &&& 1 == 1) = (attributesOf word).getLsbD 0 := by
  rw [and_one_beq_one, hknown.testBit_and, hknown.present, Bool.true_and]

theorem tells_of_fields {names : List (UInt32 × String)} {known raw : UInt32}
    (hknown : Masks names known) {frame : Frame} {attributes : BitVec 12}
    (hfields : EntryFields.ofWord raw = ⟨frame.field, attributes⟩) :
    Tells names raw ⟨(raw &&& frameMask) >>> pageShift⟩ (raw &&& known)
      ((raw &&& known) &&& 1 == 1) frame attributes := by
  have hattributes : attributesOf raw = attributes := congrArg EntryFields.attributes hfields
  have hraw : raw.toNat = frame.number.toNat % 2 ^ 20 * 4096 + attributes.toNat := by
    rw [← EntryFields.word_ofWord raw, hfields, EntryFields.toNat_word, frame.toNat_field]
  have hlow := attributes.isLt
  refine ⟨hraw, ?_, fun i => ?_, ?_⟩
  · rw [toNat_frameMask_shiftRight, hraw]
    omega
  · rw [hknown.testBit_and, Bool.and_eq_true, hknown.isNamed_iff, hattributes]
  · rw [hknown.present_and, hattributes]

/-! ### Entries -/

namespace DirectoryEntry

def fields (e : DirectoryEntry) : EntryFields :=
  .ofWord e.raw

theorem fields_new (table : Frame) (flags : DirectoryFlags) :
    (new table flags).fields = ⟨table.field, attributesOf flags.bits⟩ :=
  EntryFields.ofWord_or table flags.bits

def TellsOf (e : DirectoryEntry) (table : Frame) (attributes : BitVec 12) : Prop :=
  Tells DirectoryFlags.names e.raw e.tableFrame e.flags.bits e.isPresent table attributes

theorem tells_new (table : Frame) (flags : DirectoryFlags) :
    (new table flags).TellsOf table (attributesOf flags.bits) :=
  tells_of_fields DirectoryFlags.masks (fields_new table flags)

end DirectoryEntry

namespace TableEntry

theorem eq_of_toNat_eq {e e' : TableEntry} (h : e.raw.toNat = e'.raw.toNat) : e = e' := by
  cases e
  cases e'
  simpa only [TableEntry.mk.injEq] using UInt32.toNat_inj.mp h

def fields (e : TableEntry) : EntryFields :=
  .ofWord e.raw

theorem word_fields (e : TableEntry) : e.fields.word = e.raw :=
  EntryFields.word_ofWord e.raw

theorem toNat_raw (e : TableEntry) :
    e.raw.toNat = e.fields.frame.toNat * 4096 + e.fields.attributes.toNat := by
  rw [← e.fields.toNat_word, word_fields]

theorem number_frame (e : TableEntry) : e.frame.number.toNat = e.raw.toNat / 4096 :=
  toNat_frameMask_shiftRight e.raw

theorem toNat_frame_fields (e : TableEntry) : e.fields.frame.toNat = e.frame.number.toNat := by
  rw [number_frame]
  exact EntryFields.toNat_frame_ofWord e.raw

theorem isPresent_eq (e : TableEntry) : e.isPresent = e.fields.attributes.getLsbD 0 :=
  PageFlags.masks.present_and e.raw

theorem bijective_fields : Function.Bijective fields := by
  constructor
  · intro e e' h
    apply eq_of_toNat_eq
    rw [← e.word_fields, h, e'.word_fields]
  · intro p
    exact ⟨⟨p.word⟩, p.ofWord_word⟩

variable (e : TableEntry)

theorem fields_new (frame : Frame) (flags : PageFlags) :
    (new frame flags).fields = ⟨frame.field, attributesOf flags.bits⟩ :=
  EntryFields.ofWord_or frame flags.bits

theorem fields_setFrame (frame : Frame) :
    (e.setFrame frame).fields = ⟨frame.field, e.fields.attributes⟩ :=
  EntryFields.ofWord_or frame e.raw

theorem fields_insertFlags (flags : PageFlags) :
    (e.insertFlags flags).fields =
      ⟨e.fields.frame, e.fields.attributes ||| attributesOf flags.bits⟩ := by
  rw [fields, insertFlags, EntryFields.and_flagMask, ← e.word_fields, EntryFields.word_or,
    EntryFields.ofWord_word]
  congr
  exact BitVec.or_zero

theorem fields_removeFlags (flags : PageFlags) :
    (e.removeFlags flags).fields =
      ⟨e.fields.frame, e.fields.attributes &&& ~~~attributesOf flags.bits⟩ := by
  rw [fields, removeFlags, EntryFields.and_flagMask, EntryFields.word_not,
    ← e.word_fields, EntryFields.word_and, EntryFields.ofWord_word]
  congr
  change e.fields.frame &&& ~~~0#20 = e.fields.frame
  rw [BitVec.not_zero, BitVec.and_allOnes]

end TableEntry

/-! ### Edits of an entry -/

/-- A change of one entry, from outside its table. -/
inductive EntryEdit where
  | new (frame : Frame) (flags : PageFlags)
  | setFrame (frame : Frame)
  | insertFlags (flags : PageFlags)
  | removeFlags (flags : PageFlags)

namespace EntryEdit

/-- The entry after the change. A new entry takes the place of the old one. -/
def apply (e : TableEntry) : EntryEdit → TableEntry
  | new frame flags => .new frame flags
  | setFrame frame => e.setFrame frame
  | insertFlags flags => e.insertFlags flags
  | removeFlags flags => e.removeFlags flags

/-- The frame that the change gives, if it gives one. -/
def frame? : EntryEdit → Option Frame
  | new frame _ => some frame
  | setFrame frame => some frame
  | insertFlags _ => none
  | removeFlags _ => none

/-- The attributes after the change. -/
def attributes (before : BitVec 12) : EntryEdit → BitVec 12
  | new _ flags => attributesOf flags.bits
  | setFrame _ => before
  | insertFlags flags => before ||| attributesOf flags.bits
  | removeFlags flags => before &&& ~~~attributesOf flags.bits

/-- The frame that was given last, and where none was given the one of the start. -/
def lastFrame (start : Frame) (edits : List EntryEdit) : Frame :=
  (edits.filterMap frame?).getLast?.getD start

def attributesAfter (start : BitVec 12) (edits : List EntryEdit) : BitVec 12 :=
  edits.foldl attributes start

theorem lastFrame_cons (start : Frame) (edit : EntryEdit) (edits : List EntryEdit) :
    lastFrame start (edit :: edits) = lastFrame (edit.frame?.getD start) edits := by
  rw [lastFrame, lastFrame]
  cases hframe : edit.frame? with
  | none => rw [List.filterMap_cons_none hframe, Option.getD_none]
  | some frame =>
      rw [List.filterMap_cons_some hframe, List.getLast?_cons, Option.getD_some, Option.getD_some]

/-- One change acts on the two fields apart. -/
theorem fields_apply {e : TableEntry} {frame : Frame} {before : BitVec 12}
    (h : e.fields = ⟨frame.field, before⟩) (edit : EntryEdit) :
    (edit.apply e).fields = ⟨(edit.frame?.getD frame).field, edit.attributes before⟩ := by
  cases edit with
  | new given flags => exact TableEntry.fields_new given flags
  | setFrame given =>
      rw [apply, e.fields_setFrame, h]
      rfl
  | insertFlags flags =>
      rw [apply, e.fields_insertFlags, h]
      rfl
  | removeFlags flags =>
      rw [apply, e.fields_removeFlags, h]
      rfl

end EntryEdit

namespace TableEntry

def afterEdits (e : TableEntry) (edits : List EntryEdit) : TableEntry :=
  edits.foldl EntryEdit.apply e

theorem fields_afterEdits {e : TableEntry} {frame : Frame} {before : BitVec 12}
    (h : e.fields = ⟨frame.field, before⟩) (edits : List EntryEdit) :
    (e.afterEdits edits).fields =
      ⟨(EntryEdit.lastFrame frame edits).field, EntryEdit.attributesAfter before edits⟩ := by
  induction edits generalizing e frame before with
  | nil => exact h
  | cons edit edits ih =>
      rw [EntryEdit.lastFrame_cons]
      exact ih (EntryEdit.fields_apply h edit)

/-- An entry starts with the frame that it shows. -/
theorem field_frame (e : TableEntry) : e.frame.field = e.fields.frame := by
  rw [← BitVec.toNat_inj, Frame.toNat_field, ← toNat_frame_fields]
  exact Nat.mod_eq_of_lt e.fields.frame.isLt

def TellsOf (e : TableEntry) (frame : Frame) (attributes : BitVec 12) : Prop :=
  Tells PageFlags.names e.raw e.frame e.flags.bits e.isPresent frame attributes

end TableEntry

/-- An entry is a pair of a frame number and a set of attributes, cut down to 20 and 12 bits: after
any edits it tells of the frame that was given last and of what the flags make of the attributes,
and no change of the one touches the other. A new directory entry tells of what it was made from. -/
theorem fields_stay_apart :
    Function.Bijective TableEntry.fields ∧
    (∀ (start : TableEntry) (edits : List EntryEdit),
      (start.afterEdits edits).TellsOf (EntryEdit.lastFrame start.frame edits)
        (EntryEdit.attributesAfter start.fields.attributes edits)) ∧
    (∀ (e : TableEntry) (frame : Frame) (flags : PageFlags),
      (e.setFrame frame).fields.attributes = e.fields.attributes ∧
      (e.insertFlags flags).fields.frame = e.fields.frame ∧
      (e.removeFlags flags).fields.frame = e.fields.frame) ∧
    ∀ (table : Frame) (flags : DirectoryFlags),
      (DirectoryEntry.new table flags).TellsOf table (attributesOf flags.bits) := by
  refine ⟨TableEntry.bijective_fields, fun start edits => ?_, fun e frame flags => ?_,
    DirectoryEntry.tells_new⟩
  · have hstart : start.fields = ⟨start.frame.field, start.fields.attributes⟩ := by
      rw [start.field_frame]
    exact tells_of_fields PageFlags.masks (TableEntry.fields_afterEdits hstart edits)
  · rw [e.fields_setFrame, e.fields_insertFlags, e.fields_removeFlags]
    exact ⟨rfl, rfl, rfl⟩

example : (TableEntry.empty.afterEdits [.new ⟨0xfff00123⟩ ⟨0x100b⟩, .insertFlags ⟨0xffff0010⟩,
    .setFrame ⟨0x40000323⟩, .removeFlags ⟨0xfffff001⟩]).raw = 0x0032301a := by decide

end SlotKernel

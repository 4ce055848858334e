import SlotKernel.Error

/-!
Numerals in log lines. They are written where no memory can be had, into a buffer of a fixed size:
the last digit comes first, at the end of the buffer, and every further byte goes before the others.
The numeral is the part from the last byte that was written to the end of the buffer; whatever the
buffer held before stays in front of it. The buffers have room for the longest numerals of 64 bits,
so no write misses them, and what is found in them is the numeral.
-/

namespace SlotKernel

namespace Numeral

/-- The digits of a number in a base, as bytes of a text. -/
def digits (base n : Nat) : List UInt8 :=
  (Nat.toDigits base n).map fun digit => digit.val.toUInt8

/-- The text of bytes that are all characters of one byte. -/
def asciiText (bytes : List UInt8) : String :=
  String.ofList (bytes.map Char.ofUInt8)

/-- The two ways to find the character of a digit agree. -/
theorem digitByte_eq {digit : Nat} (h : digit < 16) :
    digitByte (UInt8.ofNat digit) = (Nat.digitChar digit).val.toUInt8 ∧
      Char.ofUInt8 (Nat.digitChar digit).val.toUInt8 = Nat.digitChar digit := by
  revert digit
  decide

theorem toNat_ne_zero {value : UInt64} (h : value ≠ 0) : value.toNat ≠ 0 :=
  fun hzero => h (UInt64.toNat_inj.mp hzero)

theorem toNat_shiftRight_four (value : UInt64) : (value >>> 4).toNat = value.toNat / 16 := by
  rw [UInt64.toNat_shiftRight]
  exact Nat.shiftRight_eq_div_pow value.toNat 4

/-- What holds of the character of every digit holds of all of a numeral. -/
theorem forall_mem_toDigits {base : Nat} (hbase : 1 < base) {P : Char → Prop}
    (h : ∀ digit < base, P (Nat.digitChar digit)) (n : Nat) : ∀ c ∈ Nat.toDigits base n, P c := by
  induction n using Nat.strongRecOn with
  | _ n ih =>
      by_cases hsmall : n < base
      · rw [Nat.toDigits_of_lt_base hsmall]
        exact fun c hc => List.mem_singleton.mp hc ▸ h n hsmall
      · have hlarge := Nat.not_lt.mp hsmall
        have hlast := h (n % base) (Nat.mod_lt n (Nat.zero_lt_of_lt hbase))
        have hfirst := ih (n / base)
          (Nat.div_lt_self (Nat.lt_of_lt_of_le (Nat.zero_lt_of_lt hbase) hlarge) hbase)
        rw [Nat.toDigits_of_base_le hbase hlarge]
        intro c hc
        rcases List.mem_append.mp hc with hc | hc
        · exact hfirst c hc
        · exact List.mem_singleton.mp hc ▸ hlast

/-- Nothing is lost when digits become bytes and the bytes a text. -/
theorem asciiText_digits {base : Nat} (hbase : 1 < base) (hle : base ≤ 16) (n : Nat) :
    asciiText (digits base n) = String.ofList (Nat.toDigits base n) := by
  have hsame : ∀ c ∈ Nat.toDigits base n, Char.ofUInt8 c.val.toUInt8 = c :=
    forall_mem_toDigits hbase
      (fun digit hdigit => (digitByte_eq (Nat.lt_of_lt_of_le hdigit hle)).2) n
  rw [asciiText, digits, List.map_map]
  exact congrArg String.ofList ((List.map_congr_left hsame).trans (List.map_id' _))

/-- The digits of a number, none for zero. -/
def significant (base n : Nat) : List UInt8 :=
  if n = 0 then [] else digits base n

/-- The last digit of a number stands behind those of the quotient. -/
theorem digits_eq {base : Nat} (hbase : 1 < base) (n : Nat) :
    digits base n = significant base (n / base) ++ [(Nat.digitChar (n % base)).val.toUInt8] := by
  by_cases hsmall : n < base
  · rw [digits, Nat.toDigits_of_lt_base hsmall, Nat.div_eq_of_lt hsmall, Nat.mod_eq_of_lt hsmall]
    rfl
  · have hlarge := Nat.not_lt.mp hsmall
    have hquotient : n / base ≠ 0 :=
      Nat.ne_of_gt (Nat.div_pos hlarge (Nat.zero_lt_of_lt hbase))
    rw [digits, Nat.toDigits_of_base_le hbase hlarge, List.map_append, significant,
      if_neg hquotient]
    rfl

/-- A number below a power of the base has no more digits than the exponent says. -/
theorem length_digits_le {base n k : Nat} (hbase : 1 < base) (hk : 0 < k) (h : n < Nat.pow base k) :
    (digits base n).length ≤ k := by
  rw [digits, List.length_map]
  exact (Nat.length_toDigits_le_iff hbase hk).mpr h

end Numeral

/-- A buffer in which the bytes from an index on are written. -/
structure NumeralBuffer (size : Nat) where
  bytes : Vector UInt8 size
  index : Nat := size

namespace NumeralBuffer

variable {size : Nat}

/-- Write one byte before the others. -/
def push (buffer : NumeralBuffer size) (byte : UInt8) : Except Panic (NumeralBuffer size) :=
  match buffer.index with
  | 0 => .error .subtractOverflow
  | index + 1 =>
      if h : index < size then
        .ok ⟨buffer.bytes.set index byte, index⟩
      else
        .error (.indexOutside index size)

/-- The bytes that are written. -/
def written (buffer : NumeralBuffer size) : Except Panic (List UInt8) :=
  if buffer.index ≤ size then
    .ok (buffer.bytes.toList.drop buffer.index)
  else
    .error (.rangeStartOutside buffer.index size)

/-- Write the decimal digits of a number. Zero has none here. -/
def pushDecimal (buffer : NumeralBuffer size) (value : UInt64) :
    Except Panic (NumeralBuffer size) :=
  if value = 0 then
    .ok buffer
  else do
    let buffer ← buffer.push (0x30 + (value % 10).toUInt8)
    buffer.pushDecimal (value / 10)
termination_by value.toNat
decreasing_by
  rw [UInt64.toNat_div]
  exact Nat.div_lt_self (Nat.pos_of_ne_zero (Numeral.toNat_ne_zero ‹_›)) (by decide)

/-- Write the hexadecimal digits of a number. Zero has one. -/
def pushHex (buffer : NumeralBuffer size) (value : UInt64) : Except Panic (NumeralBuffer size) := do
  let buffer ← buffer.push (Numeral.digitByte (value &&& 0xf).toUInt8)
  if value >>> 4 = 0 then
    return buffer
  else
    buffer.pushHex (value >>> 4)
termination_by value.toNat
decreasing_by
  have hrest := Numeral.toNat_shiftRight_four value
  have hleft := Numeral.toNat_ne_zero ‹¬value >>> 4 = 0›
  omega

/-- The decimal numeral of a number, written into a buffer. -/
def decimal (bytes : Vector UInt8 21) (value : UInt64) : Except Panic (List UInt8) := do
  let buffer : NumeralBuffer 21 := { bytes := bytes }
  if value = 0 then
    (← buffer.push 0x30).written
  else
    (← buffer.pushDecimal value).written

/-- The hexadecimal numeral of a number behind `0x`, written into a buffer. -/
def hex (bytes : Vector UInt8 18) (value : UInt64) : Except Panic (List UInt8) := do
  let buffer : NumeralBuffer 18 := { bytes := bytes }
  let buffer ← buffer.pushHex value
  let buffer ← buffer.push 0x78
  let buffer ← buffer.push 0x30
  buffer.written

/-- The buffer ends with a text, which is what was written. -/
structure Holds (buffer : NumeralBuffer size) (text : List UInt8) : Prop where
  index_add : buffer.index + text.length = size
  drop_eq : buffer.bytes.toList.drop buffer.index = text

variable {buffer : NumeralBuffer size} {text : List UInt8}

theorem holds_nil (bytes : Vector UInt8 size) : Holds ⟨bytes, size⟩ [] where
  index_add := rfl
  drop_eq := List.drop_eq_nil_iff.mpr (Nat.le_of_eq bytes.length_toList)

theorem Holds.push (h : buffer.Holds text) (hroom : text.length < size) (byte : UInt8) :
    ∃ next, buffer.push byte = .ok next ∧ next.Holds (byte :: text) := by
  obtain ⟨bytes, index⟩ := buffer
  obtain ⟨hindex, hdrop⟩ := h
  simp only at hindex hdrop
  cases index with
  | zero => omega
  | succ index =>
      have hfits : index < size := by omega
      refine ⟨⟨bytes.set index byte, index⟩, dif_pos hfits, ?_, ?_⟩
      · simp only [List.length_cons]
        omega
      · have hlength : index < (bytes.toList.set index byte).length := by
          rwa [List.length_set, Vector.length_toList]
        simp only [Vector.toList_set]
        rw [List.drop_eq_getElem_cons hlength, List.getElem_set_self,
          List.drop_set_of_lt (Nat.lt_succ_self index), hdrop]

theorem Holds.written (h : buffer.Holds text) : buffer.written = .ok text := by
  rw [NumeralBuffer.written, if_pos (Nat.le.intro h.index_add), h.drop_eq]

/-- A last decimal digit as it is written. -/
theorem decimalByte_eq (value : UInt64) :
    0x30 + (value % 10).toUInt8 = (Nat.digitChar (value.toNat % 10)).val.toUInt8 := by
  have hdigit : (value % 10).toUInt8 = UInt8.ofNat (value.toNat % 10) := by
    rw [← UInt8.toNat_inj, UInt64.toNat_toUInt8, UInt64.toNat_mod, UInt8.toNat_ofNat']
    rfl
  have hsmall : value.toNat % 10 < 10 := Nat.mod_lt _ (by decide)
  rw [hdigit]
  revert hsmall
  generalize value.toNat % 10 = digit
  revert digit
  decide

/-- A last hexadecimal digit as it is written. -/
theorem hexByte_eq (value : UInt64) :
    Numeral.digitByte (value &&& 0xf).toUInt8 =
      (Nat.digitChar (value.toNat % 16)).val.toUInt8 := by
  have hdigit : (value &&& 0xf).toUInt8 = UInt8.ofNat (value.toNat % 16) := by
    rw [← UInt8.toNat_inj, UInt64.toNat_toUInt8, UInt64.toNat_and, UInt8.toNat_ofNat']
    exact congrArg (· % 2 ^ 8) (Nat.and_two_pow_sub_one_eq_mod value.toNat 4)
  rw [hdigit]
  exact (Numeral.digitByte_eq (Nat.mod_lt value.toNat (by decide))).1

theorem Holds.pushDecimal (h : buffer.Holds text) (value : UInt64)
    (hroom : (Numeral.significant 10 value.toNat).length + text.length ≤ size) :
    ∃ next, buffer.pushDecimal value = .ok next ∧
      next.Holds (Numeral.significant 10 value.toNat ++ text) := by
  induction buffer, value using NumeralBuffer.pushDecimal.induct generalizing text with
  | case1 buffer =>
      rw [NumeralBuffer.pushDecimal]
      exact ⟨buffer, rfl, h⟩
  | case2 buffer value hvalue ih =>
      have hdigits : Numeral.significant 10 value.toNat =
          Numeral.significant 10 (value / 10).toNat ++ [0x30 + (value % 10).toUInt8] := by
        rw [Numeral.significant, if_neg (Numeral.toNat_ne_zero hvalue),
          Numeral.digits_eq (by decide), UInt64.toNat_div, decimalByte_eq]
        rfl
      rw [hdigits, List.length_append, List.length_singleton] at hroom
      obtain ⟨pushed, hpush, hpushed⟩ :=
        h.push (by omega) (0x30 + (value % 10).toUInt8)
      obtain ⟨next, hnext, hholds⟩ := ih pushed hpushed (by rw [List.length_cons]; omega)
      refine ⟨next, ?_, ?_⟩
      · rw [NumeralBuffer.pushDecimal, if_neg hvalue, hpush]
        exact hnext
      · rwa [hdigits, List.append_assoc]

theorem Holds.pushHex (h : buffer.Holds text) (value : UInt64)
    (hroom : (Numeral.digits 16 value.toNat).length + text.length ≤ size) :
    ∃ next, buffer.pushHex value = .ok next ∧
      next.Holds (Numeral.digits 16 value.toNat ++ text) := by
  induction buffer, value using NumeralBuffer.pushHex.induct generalizing text with
  | case1 buffer value ih =>
      have hdigits : Numeral.digits 16 value.toNat =
          Numeral.significant 16 (value >>> 4).toNat ++
            [Numeral.digitByte (value &&& 0xf).toUInt8] := by
        rw [Numeral.digits_eq (by decide), Numeral.toNat_shiftRight_four, hexByte_eq]
      rw [hdigits, List.length_append, List.length_singleton] at hroom
      obtain ⟨pushed, hpush, hpushed⟩ :=
        h.push (by omega) (Numeral.digitByte (value &&& 0xf).toUInt8)
      rw [NumeralBuffer.pushHex, hpush, hdigits, List.append_assoc]
      by_cases hrest : value >>> 4 = 0
      · refine ⟨pushed, if_pos hrest, ?_⟩
        rwa [hrest]
      · have hleft : Numeral.significant 16 (value >>> 4).toNat =
            Numeral.digits 16 (value >>> 4).toNat :=
          if_neg (Numeral.toNat_ne_zero hrest)
        rw [hleft] at hroom ⊢
        obtain ⟨next, hnext, hholds⟩ := ih pushed hrest hpushed (by rw [List.length_cons]; omega)
        exact ⟨next, (if_neg hrest).trans hnext, hholds⟩

/-- Whatever the buffer held, the decimal numeral is found. -/
theorem decimal_eq (bytes : Vector UInt8 21) (value : UInt64) :
    decimal bytes value = .ok (Numeral.digits 10 value.toNat) := by
  by_cases hzero : value = 0
  · obtain ⟨next, hnext, hholds⟩ := (holds_nil bytes).push (by decide) 0x30
    rw [decimal, if_pos hzero, hnext, hzero]
    exact hholds.written
  · have hdigits : Numeral.significant 10 value.toNat = Numeral.digits 10 value.toNat :=
      if_neg (Numeral.toNat_ne_zero hzero)
    have hfits : value.toNat < Nat.pow 10 20 := Nat.lt_trans value.toNat_lt (by decide)
    have hlength := Numeral.length_digits_le (by decide) (by decide) hfits
    obtain ⟨next, hnext, hholds⟩ := (holds_nil bytes).pushDecimal value (by
      rw [hdigits, List.length_nil]
      omega)
    rw [decimal, if_neg hzero, hnext, ← hdigits, ← List.append_nil (Numeral.significant _ _)]
    exact hholds.written

/-- Whatever the buffer held, the hexadecimal numeral is found. -/
theorem hex_eq (bytes : Vector UInt8 18) (value : UInt64) :
    hex bytes value = .ok (0x30 :: 0x78 :: Numeral.digits 16 value.toNat) := by
  have hlength : (Numeral.digits 16 value.toNat).length ≤ 16 :=
    Numeral.length_digits_le (by decide) (by decide) value.toNat_lt
  obtain ⟨first, hfirst, hdigits⟩ := (holds_nil bytes).pushHex value (by
    rw [List.length_nil]
    omega)
  rw [List.append_nil] at hdigits
  obtain ⟨second, hsecond, hcross⟩ := hdigits.push (by omega) 0x78
  obtain ⟨third, hthird, hzero⟩ := hcross.push (by rw [List.length_cons]; omega) 0x30
  have hwritten := hzero.written
  rw [hex]
  simp only [hfirst, bind, Except.bind, hsecond, hthird, hwritten]

/-- A number in decimal, as a text. -/
def decimalText (value : UInt64) : String :=
  match h : decimal (Vector.replicate 21 0) value with
  | .ok text => Numeral.asciiText text
  | .error _ => absurd h (by rw [decimal_eq]; exact nofun)

theorem decimalText_eq_asciiText (value : UInt64) :
    decimalText value = Numeral.asciiText (Numeral.digits 10 value.toNat) := by
  unfold decimalText
  split
  · next h =>
    rw [decimal_eq] at h
    cases h
    rfl
  · next h =>
    rw [decimal_eq] at h
    cases h

theorem decimalText_eq (value : UInt64) : decimalText value = Numeral.decimal value.toNat := by
  rw [decimalText_eq_asciiText, Numeral.asciiText_digits (by decide) (by decide), Numeral.decimal]

/-- A number in hexadecimal behind `0x`, as a text. -/
def hexText (value : UInt64) : String :=
  match h : hex (Vector.replicate 18 0) value with
  | .ok text => Numeral.asciiText text
  | .error _ => absurd h (by rw [hex_eq]; exact nofun)

theorem hexText_eq_asciiText (value : UInt64) :
    hexText value = Numeral.asciiText (0x30 :: 0x78 :: Numeral.digits 16 value.toNat) := by
  unfold hexText
  split
  · next h =>
    rw [hex_eq] at h
    cases h
    rfl
  · next h =>
    rw [hex_eq] at h
    cases h

theorem hexText_eq (value : UInt64) : hexText value = Numeral.hex value.toNat := by
  rw [hexText_eq_asciiText, Numeral.hex, ← Numeral.asciiText_digits (by decide) (by decide)]
  exact @String.ofList_append ['0', 'x'] _

end NumeralBuffer

end SlotKernel

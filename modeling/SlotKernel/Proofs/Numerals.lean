import Mathlib.Data.List.Basic
import Mathlib.Data.List.Induction
import SlotKernel.Console.Log
import SlotKernel.Word

/-!
Numerals and their readers. `read?` takes a numeral apart again, digit by digit from the left, and
`Canonical` says which texts are numerals at all: some digits of the base in lower case, and no zero
in front of others. Of these a number has exactly one. The log finds it in its buffer for every
number of 64 bits and for whatever the buffer held, no write misses the buffer, and since all of its
bytes are ASCII they are the UTF-8 of the text that is logged.
-/

namespace SlotKernel

namespace Numeral

/-- The value of a digit. -/
def digitValue? (byte : UInt8) : Option Nat :=
  if 0x30 ≤ byte ∧ byte ≤ 0x39 then
    some (byte.toNat - 0x30)
  else if 0x61 ≤ byte ∧ byte ≤ 0x66 then
    some (byte.toNat - 0x61 + 10)
  else
    none

/-- A number with one more digit of the base behind it. -/
def readDigit? (base n : Nat) (byte : UInt8) : Option Nat := do
  let digit ← digitValue? byte
  if digit < base then some (n * base + digit) else none

/-- The number that a text denotes, if it has digits of the base only and at least one. -/
def read? (base : Nat) (text : List UInt8) : Option Nat :=
  if text = [] then none else text.foldlM (readDigit? base) 0

/-- A text that a number can be written as: there is no zero in front of other digits. -/
structure Canonical (base : Nat) (text : List UInt8) : Prop where
  isSome_read? : (read? base text).isSome
  leading : text.head? = some 0x30 → text = [0x30]

/-- The character of a digit, as a byte. -/
def charByte (digit : Nat) : UInt8 :=
  (Nat.digitChar digit).val.toUInt8

theorem digitValue?_charByte {digit : Nat} (h : digit < 16) :
    digitValue? (charByte digit) = some digit ∧ charByte digit < 0x80 ∧
      (charByte digit = 0x30 → digit = 0) := by
  revert digit
  decide

theorem charByte_of_digitValue? {byte : UInt8} {digit : Nat} (h : digitValue? byte = some digit) :
    charByte digit = byte := by
  have hall : ∀ byte, ∀ digit ∈ digitValue? byte, charByte digit = byte :=
    Word.forall_byte (by decide +kernel)
  exact hall byte digit h

section Base

variable {base : Nat}

theorem readDigit?_charByte (hle : base ≤ 16) (n : Nat) {digit : Nat} (h : digit < base) :
    readDigit? base n (charByte digit) = some (n * base + digit) := by
  rw [readDigit?, (digitValue?_charByte (Nat.lt_of_lt_of_le h hle)).1]
  exact if_pos h

theorem readDigit?_eq_some {n m : Nat} {byte : UInt8} (h : readDigit? base n byte = some m) :
    ∃ digit < base, byte = charByte digit ∧ m = n * base + digit := by
  rw [readDigit?, Option.bind_eq_bind, Option.bind_eq_some_iff] at h
  obtain ⟨digit, hdigit, hm⟩ := h
  obtain ⟨hbase, hm⟩ := Option.ite_none_right_eq_some.mp hm
  exact ⟨digit, hbase, (charByte_of_digitValue? hdigit).symm, (Option.some.inj hm).symm⟩

theorem foldlM_concat (text : List UInt8) (byte : UInt8) :
    (text ++ [byte]).foldlM (readDigit? base) 0 =
      (text.foldlM (readDigit? base) 0).bind fun n => readDigit? base n byte := by
  simp only [List.foldlM_append, List.foldlM_cons, List.foldlM_nil, bind_pure, Option.bind_eq_bind]

variable (hbase : 1 < base)
include hbase

theorem digits_ne_nil (n : Nat) : digits base n ≠ [] := by
  rw [digits_eq hbase]
  exact List.append_ne_nil_of_right_ne_nil _ (List.cons_ne_nil _ _)

/-- Reading the digits of a number gives the number. -/
theorem foldlM_digits (hle : base ≤ 16) (n : Nat) :
    (digits base n).foldlM (readDigit? base) 0 = some n := by
  induction n using Nat.strongRecOn with
  | _ n ih =>
      have hquotient : (significant base (n / base)).foldlM (readDigit? base) 0 =
          some (n / base) := by
        unfold significant
        split
        · next hzero =>
          rw [hzero]
          rfl
        · next hpos =>
          have hn : 0 < n := Nat.pos_of_ne_zero fun hzero => hpos (by rw [hzero, Nat.zero_div])
          exact ih (n / base) (Nat.div_lt_self hn hbase)
      have hlast : n % base < base := Nat.mod_lt n (Nat.zero_lt_of_lt hbase)
      rw [digits_eq hbase, foldlM_concat, hquotient, Option.bind_some]
      exact (readDigit?_charByte hle (n / base) hlast).trans
        (congrArg some (Nat.div_add_mod' n base))

theorem read?_digits (hle : base ≤ 16) (n : Nat) : read? base (digits base n) = some n := by
  rw [read?, if_neg (digits_ne_nil hbase n), foldlM_digits hbase hle]

/-- Only zero is written with a zero in front. -/
theorem eq_zero_of_head?_digits (hle : base ≤ 16) {n : Nat}
    (h : (digits base n).head? = some 0x30) : n = 0 := by
  induction n using Nat.strongRecOn with
  | _ n ih =>
      have hdigit := digitValue?_charByte
        (Nat.lt_of_lt_of_le (Nat.mod_lt n (Nat.zero_lt_of_lt hbase)) hle)
      rw [digits_eq hbase] at h
      by_cases hquotient : n / base = 0
      · have hlast : n % base = 0 := by
          rw [hquotient] at h
          exact hdigit.2.2 (Option.some.inj h)
        rw [← Nat.div_add_mod n base, hquotient, hlast, Nat.mul_zero]
      · have hn : 0 < n := Nat.pos_of_ne_zero fun hzero => hquotient (by rw [hzero, Nat.zero_div])
        rw [significant, if_neg hquotient,
          List.head?_append_of_ne_nil _ (digits_ne_nil hbase _)] at h
        exact absurd (ih (n / base) (Nat.div_lt_self hn hbase) h) hquotient

theorem canonical_digits (hle : base ≤ 16) (n : Nat) : Canonical base (digits base n) where
  isSome_read? := by
    rw [read?_digits hbase hle]
    rfl
  leading h := by
    rw [eq_zero_of_head?_digits hbase hle h, digits_eq hbase, Nat.zero_div, Nat.zero_mod]
    rfl

/-- A number has one numeral: what reads as the number, without zeros in front, are its digits. -/
theorem eq_digits_of_read? {text : List UInt8} {n : Nat} (hne : text ≠ [])
    (hleading : text.head? = some 0x30 → text = [0x30])
    (hread : text.foldlM (readDigit? base) 0 = some n) : text = digits base n := by
  induction text using List.reverseRecOn generalizing n with
  | nil => exact absurd rfl hne
  | append_singleton text byte ih =>
      rw [foldlM_concat, Option.bind_eq_some_iff] at hread
      obtain ⟨quotient, hquotient, hbyte⟩ := hread
      obtain ⟨digit, hdigit, rfl, rfl⟩ := readDigit?_eq_some hbyte
      have hdiv : (quotient * base + digit) / base = quotient := by
        rw [Nat.mul_comm, Nat.mul_add_div (Nat.zero_lt_of_lt hbase), Nat.div_eq_of_lt hdigit,
          Nat.add_zero]
      have hmod : (quotient * base + digit) % base = digit := by
        rw [Nat.mul_comm, Nat.mul_add_mod, Nat.mod_eq_of_lt hdigit]
      rw [digits_eq hbase, hdiv, hmod]
      by_cases hnil : text = []
      · subst hnil
        cases hquotient
        rfl
      · -- a zero in front of the shorter text would be in front of the longer one
        have hhead : text.head? ≠ some 0x30 := fun hzero => by
          have hlength := congrArg List.length
            (hleading ((List.head?_append_of_ne_nil text hnil).trans hzero))
          rw [List.length_append] at hlength
          exact hnil (List.length_eq_zero_iff.mp (Nat.succ.inj hlength))
        have htext := ih hnil (fun hzero => absurd hzero hhead) hquotient
        have hpos : quotient ≠ 0 := fun hzero => hhead (by
          rw [htext, hzero, digits_eq hbase, Nat.zero_div, Nat.zero_mod]
          rfl)
        rw [significant, if_neg hpos, ← htext]
        rfl

end Base

/-- The text is the one numeral of a number, in ASCII. -/
structure Denotes (base : Nat) (text : List UInt8) (n : Nat) : Prop where
  canonical : Canonical base text
  read? : read? base text = some n
  unique : ∀ other, Canonical base other → Numeral.read? base other = some n → other = text
  ascii : ∀ byte ∈ text, byte < 0x80

theorem denotes_digits {base : Nat} (hbase : 1 < base) (hle : base ≤ 16) (n : Nat) :
    Denotes base (digits base n) n where
  canonical := canonical_digits hbase hle n
  read? := read?_digits hbase hle n
  unique other hother hread := by
    have hne : other ≠ [] := fun hnil => by
      rw [Numeral.read?, if_pos hnil] at hread
      cases hread
    rw [Numeral.read?, if_neg hne] at hread
    exact eq_digits_of_read? hbase hne hother.leading hread
  ascii byte hbyte := by
    have hall : ∀ c ∈ Nat.toDigits base n, c.val.toUInt8 < 0x80 :=
      forall_mem_toDigits hbase (fun digit hdigit =>
        (digitValue?_charByte (Nat.lt_of_lt_of_le hdigit hle)).2.1) n
    obtain ⟨c, hc, rfl⟩ := List.mem_map.mp hbyte
    exact hall c hc

/-- ASCII bytes are the UTF-8 of their text. -/
theorem textBytes_asciiText {text : List UInt8} (h : ∀ byte ∈ text, byte < 0x80) :
    Console.textBytes (asciiText text) = text := by
  have hbytes : Console.textBytes (asciiText text) =
      (text.map Char.ofUInt8).flatMap String.utf8EncodeChar := by
    rw [Console.textBytes, asciiText, String.toUTF8, String.toByteArray_ofList, List.utf8Encode,
      List.data_toByteArray]
  have hone : ∀ byte : UInt8, byte < 0x80 → String.utf8EncodeChar (Char.ofUInt8 byte) = [byte] :=
    Word.forall_byte (by decide +kernel)
  rw [hbytes, List.flatMap_map]
  exact (List.flatMap_congr fun byte hbyte => hone byte (h byte hbyte)).trans
    (List.flatMap_singleton' text)

/-- The one reader undoes the other writer: equal numerals are those of equal numbers. -/
theorem digits_inj {base : Nat} (hbase : 1 < base) (hle : base ≤ 16) {n m : Nat} :
    digits base n = digits base m ↔ n = m := by
  refine ⟨fun h => ?_, congrArg (digits base)⟩
  have hread := read?_digits hbase hle n
  rw [h, read?_digits hbase hle] at hread
  exact (Option.some.inj hread).symm

end Numeral

open NumeralBuffer Numeral

/-- Every number of 64 bits is found in its buffer, whatever that held, as its one numeral. -/
theorem numerals_exact (value : UInt64) :
    (∃ text, (∀ buffer, decimal buffer value = .ok text) ∧ Denotes 10 text value.toNat ∧
        Console.textBytes (decimalText value) = text) ∧
      (∃ text, (∀ buffer, hex buffer value = .ok (0x30 :: 0x78 :: text)) ∧
        Denotes 16 text value.toNat ∧
        Console.textBytes (hexText value) = 0x30 :: 0x78 :: text) ∧
      (∀ other buffer buffer', decimal buffer value = decimal buffer' other ↔ value = other) ∧
      ∀ other buffer buffer', hex buffer value = hex buffer' other ↔ value = other := by
  have hdecimal := @denotes_digits 10 (by decide) (by decide) value.toNat
  have hhex := @denotes_digits 16 (by decide) (by decide) value.toNat
  refine ⟨⟨digits 10 value.toNat, (decimal_eq · value), hdecimal, ?_⟩,
    ⟨digits 16 value.toNat, (hex_eq · value), hhex, ?_⟩, fun other buffer buffer' => ?_,
    fun other buffer buffer' => ?_⟩
  · rw [decimalText_eq_asciiText, textBytes_asciiText hdecimal.ascii]
  · have hascii : ∀ byte ∈ 0x30 :: 0x78 :: digits 16 value.toNat, byte < 0x80 :=
      List.forall_mem_cons.mpr ⟨by decide, List.forall_mem_cons.mpr ⟨by decide, hhex.ascii⟩⟩
    rw [hexText_eq_asciiText, textBytes_asciiText hascii]
  · rw [decimal_eq, decimal_eq, Except.ok.injEq, digits_inj (by decide) (by decide),
      UInt64.toNat_inj]
  · rw [hex_eq, hex_eq, Except.ok.injEq, List.cons.injEq, List.cons.injEq,
      digits_inj (by decide) (by decide), UInt64.toNat_inj]
    exact ⟨fun h => h.2.2, fun h => ⟨rfl, rfl, h⟩⟩

end SlotKernel

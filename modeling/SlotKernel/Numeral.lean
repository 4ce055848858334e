/-!
Numerals as they appear in log lines and in descriptions of values: decimal digits without leading
zeros, hexadecimal digits in lower case behind `0x`, and the fixed eight hexadecimal digits that the
emergency output uses for a word.
-/

namespace SlotKernel.Numeral

/-- The decimal numeral of a number. -/
def decimal (n : Nat) : String :=
  String.ofList (Nat.toDigits 10 n)

/-- The hexadecimal numeral of a number, behind `0x`. -/
def hex (n : Nat) : String :=
  "0x" ++ String.ofList (Nat.toDigits 16 n)

/-- The character of a digit below sixteen. -/
def digitByte (digit : UInt8) : UInt8 :=
  if digit < 10 then 0x30 + digit else 0x61 + (digit - 10)

/-- The eight hexadecimal digits of a word, leading zeros included. -/
def wordDigits (word : UInt32) : List UInt8 :=
  (List.range 8).reverse.map fun i => digitByte ((word >>> (UInt32.ofNat i * 4)) &&& 0xf).toUInt8

end SlotKernel.Numeral

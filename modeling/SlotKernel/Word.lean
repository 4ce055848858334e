/-!
Arithmetic on words that reports when the result does not fit. Addresses, frame numbers and page
numbers are words of 32 bits, and counters are words of some width; where an operation of this
library may leave the range, it goes through one of these functions and the caller says what a
missing result means. Of bytes there are so few that a fact about all of them can be checked one by
one.
-/

namespace SlotKernel.Word

/-- The sum of two words, if it is a word. -/
def add? (a b : UInt32) : Option UInt32 :=
  if a.toNat + b.toNat < UInt32.size then some (a + b) else none

/-- The difference of two words, if it is not negative. -/
def sub? (a b : UInt32) : Option UInt32 :=
  if b.toNat ≤ a.toNat then some (a - b) else none

/-- The product of two words, if it is a word. -/
def mul? (a b : UInt32) : Option UInt32 :=
  if a.toNat * b.toNat < UInt32.size then some (a * b) else none

/-- The next number, if a word of that width holds it. -/
def succ? {width : Nat} (n : BitVec width) : Option (BitVec width) :=
  if n = BitVec.allOnes width then none else some (n + BitVec.ofNat width 1)

/-- A sum that is a word is the sum of the numbers. -/
theorem toNat_of_add? {a b c : UInt32} (h : add? a b = some c) : c.toNat = a.toNat + b.toNat := by
  unfold add? at h
  split at h
  · next fits =>
    cases h
    rw [UInt32.toNat_add]
    exact Nat.mod_eq_of_lt fits
  · contradiction

theorem toNat_of_sub? {a b c : UInt32} (h : sub? a b = some c) : b.toNat + c.toNat = a.toNat := by
  unfold sub? at h
  split at h
  · next le =>
    cases h
    rw [UInt32.toNat_sub_of_le a b le]
    omega
  · contradiction

theorem toNat_of_mul? {a b c : UInt32} (h : mul? a b = some c) : c.toNat = a.toNat * b.toNat := by
  unfold mul? at h
  split at h
  · next fits =>
    cases h
    rw [UInt32.toNat_mul]
    exact Nat.mod_eq_of_lt fits
  · contradiction

theorem toNat_of_succ? {width : Nat} {n next : BitVec width} (h : succ? n = some next) :
    next.toNat = n.toNat + 1 := by
  unfold succ? at h
  split at h
  · contradiction
  · next hmax =>
    cases h
    have hne : n.toNat ≠ (BitVec.allOnes width).toNat :=
      fun heq => hmax (BitVec.eq_of_toNat_eq heq)
    rw [BitVec.toNat_allOnes] at hne
    have hn := n.isLt
    have hone : (BitVec.ofNat width 1).toNat ≤ 1 := Nat.mod_le 1 _
    have hwidth : width ≠ 0 := by
      rintro rfl
      omega
    rw [BitVec.toNat_add_of_lt (by omega), BitVec.toNat_one (Nat.pos_of_ne_zero hwidth)]

/-- Counting comes closer to the largest word. -/
theorem toNat_not_of_succ? {width : Nat} {n next : BitVec width} (h : succ? n = some next) :
    (~~~next).toNat < (~~~n).toNat := by
  have hnext := toNat_of_succ? h
  have hbound := next.isLt
  rw [BitVec.toNat_not, BitVec.toNat_not]
  omega

/-- The difference of two words, or zero where it would be negative. -/
def monus (a b : UInt32) : UInt32 :=
  (sub? a b).getD 0

/-- What holds of the byte of every number below 256 holds of every byte. -/
theorem forall_byte {P : UInt8 → Prop} (h : ∀ n < 256, P (UInt8.ofNat n)) : ∀ byte, P byte := by
  intro byte
  have hbyte := h byte.toNat byte.toNat_lt
  rwa [UInt8.ofNat_toNat] at hbyte

end SlotKernel.Word

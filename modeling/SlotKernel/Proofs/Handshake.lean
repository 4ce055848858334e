import Mathlib.Algebra.Group.Nat.Defs
import SlotKernel.Device.Reset
import SlotKernel.Proofs.Waiting

/-!
The reset pulse on any controller. The command goes out once, right after the first status in which
bit 1 is clear: no status is read after that one, and no other bit of any status makes a difference.
For that the count of the reads has to fit into its word. A controller that is busy for longer stops
the machine: it panics after as many reads as the word can count, and the command is not sent.
-/

namespace SlotKernel

namespace Word

variable {width n : Nat}

theorem succ?_ofNat (h : n + 1 < 2 ^ width) :
    succ? (BitVec.ofNat width n) = some (BitVec.ofNat width (n + 1)) := by
  rw [succ?, if_neg, BitVec.ofNat_add]
  intro hmax
  have hnumber := congrArg BitVec.toNat hmax
  rw [BitVec.toNat_allOnes, BitVec.toNat_ofNat, Nat.mod_eq_of_lt (Nat.lt_of_succ_lt h)] at hnumber
  omega

theorem succ?_ofNat_largest (h : n + 1 = 2 ^ width) : succ? (BitVec.ofNat width n) = none := by
  rw [succ?, if_pos]
  apply BitVec.eq_of_toNat_eq
  rw [BitVec.toNat_allOnes, BitVec.toNat_ofNat, Nat.mod_eq_of_lt (by omega)]
  omega

end Word

namespace Reset

/-- The controller takes a command while bit 1 of its status is clear. -/
theorem acceptsCommand_eq (status : UInt8) : acceptsCommand status = !status.toNat.testBit 1 := by
  revert status
  exact Word.forall_byte (by decide +kernel)

variable {σ : Type} [Bus σ] {bus : σ} {n : Nat}

/-! ### The wait -/

section Wait

variable {width count : Nat}

/-- A controller that gets ready while the reads can be counted. -/
theorem awaitEmpty_of_firstGood (h : Bus.FirstGood controllerRegister acceptsCommand bus n)
    (hcount : count + n < 2 ^ width) :
    awaitEmpty (BitVec.ofNat width count) bus =
      .ok (BitVec.ofNat width (count + n)) (Bus.after controllerRegister bus (n + 1)) := by
  induction n generalizing bus count with
  | zero =>
      rw [awaitEmpty_eq]
      exact if_pos h.ready
  | succ n ih =>
      rw [awaitEmpty_eq, Word.succ?_ofNat (by omega)]
      refine (if_neg (ne_true_of_eq_false (h.busy 0 (Nat.zero_lt_succ n)))).trans ?_
      have hnext := @ih (Bus.read bus controllerRegister).2 (count + 1) h.next (by omega)
      rwa [Nat.add_assoc, Nat.add_comm 1 n] at hnext

/-- A controller that is still busy when the largest number is reached. -/
theorem awaitEmpty_of_busy
    (h : ∀ i ≤ n, acceptsCommand (Bus.answer controllerRegister bus i) = false)
    (hcount : count + n + 1 = 2 ^ width) :
    awaitEmpty (BitVec.ofNat width count) bus =
      .error (.panicked .addOverflow) (Bus.after controllerRegister bus (n + 1)) := by
  induction n generalizing bus count with
  | zero =>
      rw [awaitEmpty_eq, Word.succ?_ofNat_largest hcount]
      exact if_neg (ne_true_of_eq_false (h 0 (Nat.le_refl 0)))
  | succ n ih =>
      rw [awaitEmpty_eq, Word.succ?_ofNat (by omega)]
      refine (if_neg (ne_true_of_eq_false (h 0 (Nat.zero_le _)))).trans ?_
      have hrest : ∀ i ≤ n, acceptsCommand
          (Bus.answer controllerRegister (Bus.read bus controllerRegister).2 i) = false :=
        fun i hi => h (i + 1) (Nat.succ_le_succ hi)
      exact @ih (Bus.read bus controllerRegister).2 (count + 1) hrest (by omega)

end Wait

/-! ### The pulse -/

/-- The buffer is full for so many status reads and then found empty. -/
structure EmptiesAfter {σ : Type} [Bus σ] (bus : σ) (n : Nat) : Prop where
  full : ∀ i < n, (Bus.answer controllerRegister bus i).toNat.testBit 1 = true
  empty : (Bus.answer controllerRegister bus n).toNat.testBit 1 = false

theorem emptiesAfter_iff :
    EmptiesAfter bus n ↔ Bus.FirstGood controllerRegister acceptsCommand bus n := by
  constructor
  · rintro ⟨hfull, hempty⟩
    constructor
    · intro i hi
      rw [acceptsCommand_eq, hfull i hi, Bool.not_true]
    · rw [acceptsCommand_eq, hempty, Bool.not_false]
  · rintro ⟨hbusy, hready⟩
    simp only [acceptsCommand_eq, Bool.not_eq_eq_eq_not, Bool.not_false, Bool.not_true]
      at hbusy hready
    exact ⟨hbusy, hready⟩

theorem exists_emptiesAfter {m : Nat}
    (h : (Bus.answer controllerRegister bus m).toNat.testBit 1 = false) :
    ∃ n, EmptiesAfter bus n := by
  have hready : acceptsCommand (Bus.answer controllerRegister bus m) = true := by
    rw [acceptsCommand_eq, h, Bool.not_false]
  obtain ⟨n, -, hfirst⟩ := Bus.exists_firstGood hready
  exact ⟨n, emptiesAfter_iff.mpr hfirst⟩

/-- Controllers that differ in other bits of their status only. -/
theorem EmptiesAfter.of_same {τ : Type} [Bus τ] {other : τ} (h : EmptiesAfter bus n)
    (hsame : ∀ i ≤ n, (Bus.answer controllerRegister other i).toNat.testBit 1 =
      (Bus.answer controllerRegister bus i).toNat.testBit 1) : EmptiesAfter other n where
  full i hi := (hsame i (Nat.le_of_lt hi)).trans (h.full i hi)
  empty := (hsame n (Nat.le_refl n)).trans h.empty

theorem EmptiesAfter.unique {m : Nat} (h : EmptiesAfter bus n) (h' : EmptiesAfter bus m) :
    n = m := by
  rcases Nat.lt_trichotomy n m with hbefore | heq | hbehind
  · exact absurd (h'.full n hbefore) (ne_true_of_eq_false h.empty)
  · exact heq
  · exact absurd (h.full m hbehind) (ne_true_of_eq_false h'.empty)

theorem emptiesAfter_traced : EmptiesAfter (⟨bus, []⟩ : Traced σ) n ↔ EmptiesAfter bus n := by
  rw [emptiesAfter_iff, emptiesAfter_iff, Traced.firstGood_iff]

section Width

variable {width : Nat}

theorem pulse_of_emptiesAfter (h : EmptiesAfter bus n) (hcount : n + 1 < 2 ^ width) :
    pulse width bus = .ok (BitVec.ofNat width (n + 1))
      (Bus.write (Bus.after controllerRegister bus (n + 1)) controllerRegister pulseCommand) := by
  have hwait := @awaitEmpty_of_firstGood _ _ _ _ width 1 (emptiesAfter_iff.mp h) (by omega)
  rw [pulse]
  change EStateM.bind (awaitEmpty (BitVec.ofNat width 1)) _ bus = _
  rw [EStateM.bind, hwait, Nat.add_comm 1 n]
  rfl

/-- All that passes over the bus are the status reads and one command. -/
theorem pulse_traced (h : EmptiesAfter bus n) (hcount : n + 1 < 2 ^ width) :
    pulse width (⟨bus, []⟩ : Traced σ) = .ok (BitVec.ofNat width (n + 1))
      ⟨Bus.write (Bus.after controllerRegister bus (n + 1)) controllerRegister pulseCommand,
        Traced.looks controllerRegister bus (n + 1) ++
          [.write controllerRegister pulseCommand]⟩ := by
  rw [pulse_of_emptiesAfter (emptiesAfter_traced.mpr h) hcount, Traced.after_eq]
  rfl

/-- A buffer that is full for as many reads as can be counted stops the machine before the
command. -/
theorem pulse_overflows (hwidth : 0 < width)
    (h : ∀ i < 2 ^ width - 1, (Bus.answer controllerRegister bus i).toNat.testBit 1 = true) :
    pulse width bus =
      .error (.panicked .addOverflow) (Bus.after controllerRegister bus (2 ^ width - 1)) := by
  have hpow : 2 ≤ 2 ^ width := Nat.le_self_pow (Nat.ne_of_gt hwidth) 2
  obtain ⟨n, hn⟩ : ∃ n, 2 ^ width - 1 = n + 1 := ⟨2 ^ width - 2, by omega⟩
  have hbusy : ∀ i ≤ n, acceptsCommand (Bus.answer controllerRegister bus i) = false := by
    intro i hi
    rw [acceptsCommand_eq, h i (by omega), Bool.not_true]
  have hwait := @awaitEmpty_of_busy _ _ _ _ width 1 hbusy (by omega)
  rw [pulse]
  change EStateM.bind (awaitEmpty (BitVec.ofNat width 1)) _ bus = _
  rw [EStateM.bind, hwait, hn]

theorem pulse_overflows_traced (hwidth : 0 < width) (h : EmptiesAfter bus n)
    (hcount : 2 ^ width ≤ n + 1) :
    pulse width (⟨bus, []⟩ : Traced σ) = .error (.panicked .addOverflow)
      ⟨Bus.after controllerRegister bus (2 ^ width - 1),
        Traced.looks controllerRegister bus (2 ^ width - 1)⟩ := by
  have hfull := (emptiesAfter_traced.mpr h).full
  rw [pulse_overflows hwidth fun i hi => hfull i (by omega), Traced.after_eq]
  rfl

end Width

theorem answer_scripted (register : UInt16) (bus : ScriptedBus) (n : Nat) :
    Bus.answer register bus n = bus.script.getD n 0 := by
  induction n generalizing bus with
  | zero =>
      obtain ⟨script, reads, writes⟩ := bus
      cases script <;> rfl
  | succ n ih =>
      refine (ih (Bus.read bus register).2).trans ?_
      obtain ⟨script, reads, writes⟩ := bus
      cases script <;> rfl

/-- A script of busy answers, which ends with an empty buffer. -/
theorem emptiesAfter_replicate (n : Nat) :
    EmptiesAfter (⟨List.replicate n 0x02, #[], #[]⟩ : ScriptedBus) n where
  full i hi := by
    rw [answer_scripted, List.getD_eq_getElem?_getD, List.getElem?_replicate_of_lt hi]
    rfl
  empty := by
    rw [answer_scripted, List.getD_eq_getElem?_getD,
      List.getElem?_eq_none (Nat.le_of_eq List.length_replicate)]
    rfl

end Reset

end SlotKernel

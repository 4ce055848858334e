import SlotKernel.Device.Bus

/-!
Waiting for a device, said in terms of what the device answers. A wait ends with the first good
answer, after as many reads as it takes to get there, and goes on for ever if there is none; a wait
with a bound stops at the first good answer or at the bound. What passes over a bus can be written
down without a change to anything: `Traced` is a bus that does so, and the devices behind it do not
notice.
-/

namespace SlotKernel

namespace Bus

variable {σ : Type} [Bus σ]

/-- The bus after so many reads of a register. -/
def after (register : UInt16) (bus : σ) : Nat → σ
  | 0 => bus
  | n + 1 => after register (Bus.read bus register).2 n

/-- What a register answers to the read that comes after `n` others. -/
def answer (register : UInt16) (bus : σ) (n : Nat) : UInt8 :=
  (Bus.read (after register bus n) register).1

theorem after_succ (register : UInt16) (bus : σ) (n : Nat) :
    after register bus (n + 1) = (Bus.read (after register bus n) register).2 := by
  induction n generalizing bus with
  | zero => rfl
  | succ n ih => exact ih (Bus.read bus register).2

/-- The answer with this number is the first good one. -/
structure FirstGood (register : UInt16) (good : UInt8 → Bool) (bus : σ) (n : Nat) : Prop where
  busy : ∀ i < n, good (answer register bus i) = false
  ready : good (answer register bus n) = true

section Waits

variable {register : UInt16} {good : UInt8 → Bool} {bus : σ} {n : Nat}

theorem FirstGood.next (h : FirstGood register good bus (n + 1)) :
    FirstGood register good (Bus.read bus register).2 n where
  busy i hi := h.busy (i + 1) (Nat.succ_lt_succ hi)
  ready := h.ready

theorem FirstGood.of_next (hbusy : good (Bus.read bus register).1 = false)
    (h : FirstGood register good (Bus.read bus register).2 n) :
    FirstGood register good bus (n + 1) where
  busy i hi := by
    cases i with
    | zero => exact hbusy
    | succ i => exact h.busy i (Nat.lt_of_succ_lt_succ hi)
  ready := h.ready

theorem firstGood_zero (h : good (Bus.read bus register).1 = true) :
    FirstGood register good bus 0 where
  busy _ hi := absurd hi (Nat.not_lt_zero _)
  ready := h

/-- A good answer comes after a first one. -/
theorem exists_firstGood (h : good (answer register bus n) = true) :
    ∃ m ≤ n, FirstGood register good bus m := by
  induction n generalizing bus with
  | zero => exact ⟨0, Nat.le_refl 0, firstGood_zero h⟩
  | succ n ih =>
      by_cases hfirst : good (Bus.read bus register).1 = true
      · exact ⟨0, Nat.zero_le _, firstGood_zero hfirst⟩
      · obtain ⟨m, hm, hgood⟩ := ih h
        exact ⟨m + 1, Nat.succ_le_succ hm, hgood.of_next (Bool.eq_false_iff.mpr hfirst)⟩

theorem await?_of_firstGood (h : FirstGood register good bus n) :
    await? register good bus = some (after register bus (n + 1)) := by
  induction n generalizing bus with
  | zero =>
      rw [await?_eq]
      exact if_pos h.ready
  | succ n ih =>
      rw [await?_eq]
      refine (if_neg (ne_true_of_eq_false (h.busy 0 (Nat.zero_lt_succ n)))).trans ?_
      exact ih h.next

/-- Whatever a wait comes to was the first good answer. -/
theorem exists_of_await?_eq_some {result : σ} (h : await? register good bus = some result) :
    ∃ n, FirstGood register good bus n := by
  refine Readiness.await?.partial_correctness ⟨register, good⟩
    (fun bus _ => ∃ n, FirstGood register good bus n) ?_ bus result h
  -- an end that the rest of the wait comes to is one answer further away from here
  intro await ih bus result hwait
  by_cases hfirst : good (Bus.read bus register).1 = true
  · exact ⟨0, firstGood_zero hfirst⟩
  · obtain ⟨n, hn⟩ := ih (Bus.read bus register).2 result ((if_neg hfirst).symm.trans hwait)
    exact ⟨n + 1, hn.of_next (Bool.eq_false_iff.mpr hfirst)⟩

/-- A wait never ends exactly if there is no good answer. -/
theorem await?_eq_none_iff :
    await? register good bus = none ↔ ∀ n, good (answer register bus n) = false := by
  constructor
  · refine fun hnone n => Bool.eq_false_iff.mpr fun hgood => ?_
    obtain ⟨m, -, hm⟩ := exists_firstGood hgood
    rw [await?_of_firstGood hm] at hnone
    cases hnone
  · intro hall
    cases hresult : await? register good bus with
    | none => rfl
    | some result =>
        obtain ⟨n, hn⟩ := exists_of_await?_eq_some hresult
        exact absurd hn.ready (ne_true_of_eq_false (hall n))

theorem poll_succ (bound : Nat) (bus : σ) :
    poll register good (bound + 1) bus =
      if good (Bus.read bus register).1 then
        (1, (Bus.read bus register).2)
      else
        ((poll register good bound (Bus.read bus register).2).1 + 1,
          (poll register good bound (Bus.read bus register).2).2) :=
  rfl

/-- A bounded wait ends like one without a bound if the bound allows it. -/
theorem poll_of_firstGood {bound : Nat} (h : FirstGood register good bus n) (hn : n < bound) :
    poll register good bound bus = (n + 1, after register bus (n + 1)) := by
  induction bound generalizing bus n with
  | zero => exact absurd hn (Nat.not_lt_zero n)
  | succ bound ih =>
      rw [poll_succ]
      cases n with
      | zero => exact if_pos h.ready
      | succ n =>
          refine (if_neg (ne_true_of_eq_false (h.busy 0 (Nat.zero_lt_succ n)))).trans ?_
          rw [ih h.next (Nat.lt_of_succ_lt_succ hn)]
          rfl

/-- A bounded wait gives up after so many reads. -/
theorem poll_of_busy {bound : Nat} (h : ∀ i < bound, good (answer register bus i) = false) :
    poll register good bound bus = (bound, after register bus bound) := by
  induction bound generalizing bus with
  | zero => rfl
  | succ bound ih =>
      rw [poll_succ]
      refine (if_neg (ne_true_of_eq_false (h 0 (Nat.zero_lt_succ bound)))).trans ?_
      have hrest : ∀ i < bound, good (answer register (Bus.read bus register).2 i) = false :=
        fun i hi => h (i + 1) (Nat.succ_lt_succ hi)
      rw [ih hrest]
      rfl

end Waits

end Bus

/-- What passes over a bus. -/
inductive BusEvent where
  | read (register : UInt16) (answer : UInt8)
  | write (register : UInt16) (value : UInt8)
  deriving DecidableEq

/-- A bus together with all that passed over it, in order. -/
structure Traced (σ : Type) where
  bus : σ
  trace : List BusEvent := []

namespace Traced

variable {σ : Type} [Bus σ]

instance : Bus (Traced σ) where
  read traced register :=
    let (value, bus) := Bus.read traced.bus register
    (value, ⟨bus, traced.trace ++ [.read register value]⟩)
  write traced register value :=
    ⟨Bus.write traced.bus register value, traced.trace ++ [.write register value]⟩

/-- So many reads of a register, as they pass. -/
def looks (register : UInt16) (bus : σ) (n : Nat) : List BusEvent :=
  (List.range n).map fun i => .read register (Bus.answer register bus i)

theorem after_eq (register : UInt16) (traced : Traced σ) (n : Nat) :
    Bus.after register traced n =
      ⟨Bus.after register traced.bus n, traced.trace ++ looks register traced.bus n⟩ := by
  induction n with
  | zero =>
      rw [looks, List.range_zero, List.map_nil, List.append_nil]
      rfl
  | succ n ih =>
      have hlooks : looks register traced.bus (n + 1) =
          looks register traced.bus n ++ [.read register (Bus.answer register traced.bus n)] := by
        rw [looks, List.range_succ, List.map_append]
        rfl
      rw [Bus.after_succ, ih, Bus.after_succ, hlooks, ← List.append_assoc]
      rfl

theorem answer_eq (register : UInt16) (traced : Traced σ) (n : Nat) :
    Bus.answer register traced n = Bus.answer register traced.bus n := by
  rw [Bus.answer, after_eq]
  rfl

theorem firstGood_iff {register : UInt16} {good : UInt8 → Bool} {traced : Traced σ} {n : Nat} :
    Bus.FirstGood register good traced n ↔ Bus.FirstGood register good traced.bus n := by
  constructor
  · rintro ⟨hbusy, hready⟩
    simp only [answer_eq] at hbusy hready
    exact ⟨hbusy, hready⟩
  · rintro ⟨hbusy, hready⟩
    constructor
    · simpa only [answer_eq] using hbusy
    · simpa only [answer_eq] using hready

/-- What is written down changes nothing for a wait. -/
theorem await?_bus (register : UInt16) (good : UInt8 → Bool) (traced : Traced σ) :
    (await? register good traced).map Traced.bus = await? register good traced.bus := by
  cases hresult : await? register good traced.bus with
  | none =>
      have hbusy := Bus.await?_eq_none_iff.mp hresult
      rw [Bus.await?_eq_none_iff.mpr fun n => (congrArg good (answer_eq register traced n)).trans
        (hbusy n)]
      rfl
  | some result =>
      obtain ⟨n, hn⟩ := Bus.exists_of_await?_eq_some hresult
      rw [Bus.await?_of_firstGood hn] at hresult
      rw [Bus.await?_of_firstGood (firstGood_iff.mpr hn), after_eq]
      exact hresult

end Traced

end SlotKernel

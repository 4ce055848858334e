import SlotKernel.Proofs.Sessions

/-!
Saved contexts over a session. The last context of a process is the one that its last capture inside
a switch saved, or the seed of the replication if it never gave up the machine; it is read off from
the calls of the session and not from the kernel. The kernel's table holds exactly these, and a
switch restores exactly the last context of its target.
-/

namespace SlotKernel

open KernelM

/-- The context that a capture inside the call saved for a process. Only a switch captures, for the
process that is active before it, and a capture that was resumed does not count. -/
def Call.saved? (call : Call) (k : Kernel) (m m' : Simulated) (p : Nat) : Option Context :=
  match call with
  | .switchTo _ =>
      if k.active = p ∧ m.captures < m'.captures then
        (Simulated.capturedContext m'.captures).toOption
      else none
  | _ => none

theorem Call.saved?_of_ne {call : Call} {k : Kernel} {m m' : Simulated} {p : Nat}
    (hne : k.active ≠ p) : call.saved? k m m' p = none := by
  cases call with
  | switchTo => exact if_neg fun h => hne h.1
  | _ => rfl

def Turn.saved? (turn : Turn) (p : Nat) : Option Context :=
  turn.call.saved? turn.before.kernel turn.before.board.machine turn.after.board.machine p

/-- The last context of a process, after these calls since the boot. The capture of the boot is the
seed for every process but the first. -/
def lastSaved (config : Config) (start : World Simulated) (turns : List Turn) (p : Nat) :
    Option Context :=
  (turns.findSome? (·.saved? p)).or
    (if 1 ≤ p ∧ p < config.processCount then
      (Simulated.capturedContext start.board.machine.captures).toOption
    else none)

namespace Simulated.Effect

variable {k k' : Kernel} {m m' : Simulated} {call : Call} {answer : Answer}
  (heffect : Effect k m call answer k' m')

include heffect

theorem saved?_eq_none (hanswer : answer ≠ .switched .transferred) (p : Nat) :
    call.saved? k m m' p = none := by
  cases heffect with
  | transferred => exact absurd rfl hanswer
  | unchanged | back => simp [Call.saved?, woken]
  | _ => rfl

theorem restored_eq (hanswer : answer ≠ .switched .transferred) : m'.restored = m.restored := by
  cases heffect with
  | transferred => exact absurd rfl hanswer
  | _ => rfl

theorem contexts_eq (hreplicated : k.replicated = true)
    (hanswer : answer ≠ .switched .transferred) :
    k'.contexts = k.contexts := by
  cases heffect with
  | transferred => exact absurd rfl hanswer
  | forked _ _ _ _ _ _ _ hfirst => cases hfirst.symm.trans hreplicated
  | _ => rfl

end Simulated.Effect

/-- A switch that transfers control saves one new context, for the process that was active, and
restores the context of its target. -/
theorem Simulated.Effect.transfers {k k' : Kernel} {m m' : Simulated} {target : Nat}
    (heffect : Effect k m (.switchTo target) (.switched .transferred) k' m') :
    target < k.config.processCount ∧ target ≠ k.active ∧ k.replicated = true ∧
      m'.captures = m.captures + 1 ∧ m'.restored = m.restored.push (k.context target) ∧
      ∃ ctx, capturedContext m'.captures = .ok ctx ∧ k'.contexts = (k.saved ctx).contexts ∧
        ∀ p, (Call.switchTo target).saved? k m m' p = if k.active = p then some ctx else none := by
  cases heffect with
  | transferred _ ctx _ hctx htarget hne hreplicated =>
      have hcaptures :=
        captures_transferred m k.config.window k.config.invalidation (k.context target)
      refine ⟨htarget, hne, hreplicated, hcaptures, restored_transferred _ _ _ _, ctx, ?_, rfl, ?_⟩
      · rw [hcaptures]
        exact hctx
      · intro p
        rw [Call.saved?, hcaptures, hctx]
        simp only [Nat.lt_succ_self, and_true]
        rfl

/-- The context of a process changes in a call only where a capture of the call saved it. -/
theorem Simulated.Effect.context_eq {k k' : Kernel} {m m' : Simulated} {call : Call}
    {answer : Answer} (heffect : Effect k m call answer k' m') (hup : k.Up)
    (hreplicated : k.replicated = true) (p : Nat) :
    k'.context p = (call.saved? k m m' p).getD (k.context p) := by
  by_cases hanswer : answer = .switched .transferred
  · subst hanswer
    obtain ⟨target, rfl⟩ : ∃ target, call = .switchTo target := by
      cases heffect
      exact ⟨_, rfl⟩
    obtain ⟨-, -, -, -, -, ctx, -, hcontexts, hsaved⟩ := heffect.transfers
    have hcontext : k'.context p = (k.saved ctx).context p := by
      rw [Kernel.context, hcontexts]
      rfl
    rw [hcontext, hsaved p]
    by_cases hp : k.active = p
    · subst hp
      rw [if_pos rfl]
      exact Kernel.context_saved_self (Nat.lt_of_lt_of_le hup.active_lt k.config.processCount_le)
    · rw [if_neg hp]
      exact Kernel.context_saved_ne (Ne.symm hp)
  · rw [heffect.saved?_eq_none hanswer p, Kernel.context, heffect.contexts_eq hreplicated hanswer]
    rfl

/-! ### Sessions -/

theorem lastSaved_cons (config : Config) (start : World Simulated) (turn : Turn)
    (turns : List Turn) (p : Nat) :
    lastSaved config start (turn :: turns) p =
      (turn.saved? p).or (lastSaved config start turns p) := by
  rw [lastSaved, List.findSome?_cons]
  cases turn.saved? p <;> rfl

theorem lastSaved_zero {config : Config} {start : World Simulated} {turns : List Turn}
    (hnone : ∀ turn ∈ turns, turn.saved? 0 = none) : lastSaved config start turns 0 = none := by
  rw [lastSaved, List.findSome?_eq_none_iff.mpr hnone, if_neg (by omega)]
  rfl

theorem lastSaved_isSome {config : Config} {start : World Simulated} {seed : Context}
    (hseed : Simulated.capturedContext start.board.machine.captures = .ok seed)
    (turns : List Turn) {p : Nat} (hlow : 1 ≤ p) (hhigh : p < config.processCount) :
    ∃ last, lastSaved config start turns p = some last := by
  rw [lastSaved, if_pos ⟨hlow, hhigh⟩, hseed]
  cases turns.findSome? (·.saved? p) with
  | none => exact ⟨seed, rfl⟩
  | some last => exact ⟨last, rfl⟩

namespace Session

variable {start w : World Simulated} {turns : List Turn}

theorem effects (hup : start.kernel.Up) (hsession : Session start turns w) :
    ∀ turn ∈ turns, Simulated.Effect turn.before.kernel turn.before.board.machine turn.call
      turn.answer turn.after.kernel turn.after.board.machine := by
  induction hsession with
  | started => exact fun turn hturn => absurd hturn List.not_mem_nil
  | called hbefore hreturn ih =>
      intro turn hturn
      rcases List.mem_cons.mp hturn with rfl | hearlier
      · exact Simulated.effect_of_perform (hbefore.up hup) hreturn
      · exact ih turn hearlier
  | resumed _ ih => exact ih

/-- The table of contexts holds the last context of every process. -/
theorem context_eq {config : Config} (hforked : start.kernel.Forked config) {seed : Context}
    (hseed : Simulated.capturedContext start.board.machine.captures = .ok seed)
    (hcontexts : ∀ p, start.kernel.context p =
      if 1 ≤ p ∧ p < config.processCount then seed else .empty)
    (hsession : Session start turns w) (p : Nat) :
    w.kernel.context p = (lastSaved config start turns p).getD .empty := by
  induction hsession with
  | started =>
      rw [hcontexts p, lastSaved, hseed]
      split <;> rfl
  | called hbefore hreturn ih =>
      obtain ⟨hup, -, hreplicated⟩ := hbefore.forked hforked
      have heffect := Simulated.effect_of_perform hup hreturn
      rw [lastSaved_cons, heffect.context_eq hup hreplicated p, ih]
      change _ = ((Call.saved? _ _ _ _ p).or _).getD .empty
      cases Call.saved? _ _ _ _ p <;> rfl
  | resumed _ ih => exact ih

/-- A process that waits has a last context, since it can be restored and the empty one cannot. -/
theorem exists_lastSaved {config : Config} (hforked : start.kernel.Forked config) {p : Nat}
    (hp : p < config.processCount)
    (hlast : w.kernel.context p = (lastSaved config start turns p).getD .empty)
    (hsession : Session start turns w) (hne : p ≠ w.kernel.active) :
    lastSaved config start turns p = some (w.kernel.context p) := by
  obtain ⟨hup, hconfig, hreplicated⟩ := hsession.forked hforked
  subst hconfig
  have hvalid := hup.restorable hreplicated p hp hne
  rw [hlast] at hvalid ⊢
  cases hold : lastSaved w.kernel.config start turns p with
  | some last => rfl
  | none =>
      rw [hold] at hvalid
      exact absurd rfl (Context.validate_eq_ok_iff.mp hvalid).1

theorem context_eq_empty {config : Config} (hforked : start.kernel.Forked config) {p : Nat}
    (hp : config.processCount ≤ p) (hempty : start.kernel.context p = .empty)
    (hsession : Session start turns w) : w.kernel.context p = .empty := by
  induction hsession with
  | started => exact hempty
  | called hbefore hreturn ih =>
      obtain ⟨hup, hconfig, hreplicated⟩ := hbefore.forked hforked
      subst hconfig
      have hactive := hup.active_lt
      rw [(Simulated.effect_of_perform hup hreturn).context_eq hup hreplicated p,
        Call.saved?_of_ne (by omega), ih]
      rfl
  | resumed _ ih => exact ih

end Session

/-- After a boot that forked, the table holds the last context of every process that has one and is
empty elsewhere. A switch that transfers control restores the last context of its target and gives
a new one to the process that was active; no other call restores anything or changes a context. -/
theorem contexts_eq_lastSaved {config : Config} {base : PhysAddr} {viewport : Option VirtAddr}
    {m : Simulated} {console : Console} {tracing : Bool} {copies : Nat} {start w : World Simulated}
    {turns : List Turn}
    (hboot : boot base viewport ⟨{ config := config }, ⟨m, console⟩, tracing⟩ =
      .ok (.forked copies) start)
    (hsession : Session start turns w) :
    start.board.machine.captures = m.captures + 1 ∧
      (∀ p, w.kernel.context p = (lastSaved config start turns p).getD .empty) ∧
      (∀ p, 1 ≤ p → p < config.processCount → ∃ last, lastSaved config start turns p = some last) ∧
      ((∀ turn ∈ turns, turn.before.kernel.active = 0 → turn.answer ≠ .switched .transferred) →
        w.kernel.context 0 = .empty) ∧
      (∀ p, config.processCount ≤ p → w.kernel.context p = .empty) ∧
      ∀ (call : Call) answer w', call.perform w = .ok answer w' →
        (answer ≠ .switched .transferred →
          w'.board.machine.restored = w.board.machine.restored ∧
            w'.kernel.contexts = w.kernel.contexts) ∧
        ∀ target, call = .switchTo target → answer = .switched .transferred →
          (∃ last, lastSaved config start turns target = some last ∧
            w'.board.machine.restored = w.board.machine.restored.push last) ∧
          (∃ saved, Simulated.capturedContext (w.board.machine.captures + 1) = .ok saved ∧
            lastSaved config start (⟨w, call, answer, w'⟩ :: turns) w.kernel.active = some saved) ∧
          ∀ p, p ≠ w.kernel.active →
            lastSaved config start (⟨w, call, answer, w'⟩ :: turns) p =
              lastSaved config start turns p := by
  obtain ⟨hforked, hcaptures, -, -, -, seed, hseed, hcontexts⟩ := Simulated.seed_of_boot hboot
  rw [← hcaptures] at hseed
  have hlast := hsession.context_eq hforked hseed hcontexts
  obtain ⟨hup, hconfig, hreplicated⟩ := hsession.forked hforked
  refine ⟨hcaptures, hlast, fun p => lastSaved_isSome hseed turns, ?_, ?_, ?_⟩
  · intro hstayed
    rw [hlast 0, lastSaved_zero]
    · rfl
    · intro turn hturn
      by_cases hactive : turn.before.kernel.active = 0
      · exact (hsession.effects hforked.up turn hturn).saved?_eq_none (hstayed turn hturn hactive) 0
      · exact Call.saved?_of_ne hactive
  · intro p hp
    refine hsession.context_eq_empty hforked hp ?_
    rw [hcontexts p, if_neg (by omega)]
  · intro call answer w' hreturn
    have heffect := Simulated.effect_of_perform hup hreturn
    refine ⟨fun hanswer =>
      ⟨heffect.restored_eq hanswer, heffect.contexts_eq hreplicated hanswer⟩, ?_⟩
    rintro target rfl rfl
    obtain ⟨htarget, hne, -, hcount, hrestored, ctx, hctx, -, hsaved⟩ := heffect.transfers
    rw [hconfig] at htarget
    rw [hcount] at hctx
    refine ⟨?_, ⟨ctx, hctx, ?_⟩, ?_⟩
    · exact ⟨_, hsession.exists_lastSaved hforked htarget (hlast target) hne, hrestored⟩
    · rw [lastSaved_cons, Turn.saved?, hsaved, if_pos rfl]
      rfl
    · intro p hp
      rw [lastSaved_cons, Turn.saved?, Call.saved?_of_ne (Ne.symm hp)]
      rfl

/-- Of two processes, the first switch restores the seed of the second one. -/
theorem contexts_eq_lastSaved_halves :
    ∃ start seed w', boot ⟨0x90000⟩ (some ⟨0x108000⟩)
        ⟨{ config := .halves }, ⟨Simulated.new 2, .ready⟩, false⟩ = .ok (.forked 1) start ∧
      start.kernel.context 0 = .empty ∧ Simulated.capturedContext 1 = .ok seed ∧
      (Call.switchTo 1).perform start = .ok (.switched .transferred) w' ∧
      w'.board.machine.restored = #[seed] := by
  obtain ⟨start, w', hboot, hreturn, -⟩ := Simulated.switched_halves
  obtain ⟨-, hcount, hnone, -⟩ := Simulated.seed_of_boot hboot
  obtain ⟨seed, hseed⟩ := @Simulated.capturedContext_eq_ok 1 (by decide)
  have hone : start.board.machine.captures = 1 := hcount
  obtain ⟨-, -, -, hempty, -, hcalls⟩ := contexts_eq_lastSaved hboot .started
  obtain ⟨⟨last, hlast, hrestored⟩, -⟩ := (hcalls _ _ _ hreturn).2 1 rfl rfl
  refine ⟨start, seed, w', hboot, hempty fun _ h => absurd h List.not_mem_nil, hseed, hreturn, ?_⟩
  rw [lastSaved, hone, hseed] at hlast
  cases hlast
  rw [hrestored, hnone]
  rfl

end SlotKernel

import Mathlib.Logic.Function.Basic
import SlotKernel.Proofs.Drops

/-!
Cached translations. Between any two calls the cache may load the entry of any page that is present;
it loses an entry only where the machine drops the mapping of its page or all mappings. No call
leaves a cached entry behind that differs from the tables: the pages whose entries a call changes
are among those that it drops afterwards, with interrupts off.
-/

namespace SlotKernel

open KernelM

/-- The pages whose cached mappings were dropped one by one since an earlier state. -/
def Simulated.droppedSince (m m' : Simulated) : List Page :=
  m'.invalidated.toList.drop m.invalidated.size

/-- What is cached of the tables. -/
abbrev Tlb := Page → Option TableEntry

namespace Tlb

def empty : Tlb := fun _ => none

/-- The cache after the machine dropped mappings, page by page or all of them. -/
def after (tlb : Tlb) (m m' : Simulated) : Tlb := fun page =>
  if m.flushes < m'.flushes ∨ page ∈ m.droppedSince m' then none else tlb page

/-- Every cached entry is the current one. -/
def Coherent (tlb : Tlb) (s : PageTables) : Prop :=
  ∀ page entry, tlb page = some entry → s.entry? page = some entry

end Tlb

/-- The worlds that calls lead to, with what may be cached there of the tables. -/
inductive Cached (start : World Simulated) : World Simulated → Tlb → Prop where
  | started : Cached start start .empty
  | loaded {w : World Simulated} {tlb : Tlb} {page : Page} {entry : TableEntry}
      (hcached : Cached start w tlb) (hentry : w.kernel.paging.entry? page = some entry)
      (hpresent : entry.isPresent = true) :
      Cached start w (Function.update tlb page (some entry))
  | called {w w' : World Simulated} {tlb : Tlb} {call : Call} {answer : Answer}
      (hcached : Cached start w tlb) (hreturn : call.perform w = .ok answer w') :
      Cached start w' (tlb.after w.board.machine w'.board.machine)
  | resumed {w : World Simulated} {tlb : Tlb} (hcached : Cached start w tlb) :
      Cached start w.playResume tlb

/-! ### What a call drops -/

namespace Simulated

theorem droppedSince_append {m m' : Simulated} {pages : List Page}
    (h : m'.invalidated = m.invalidated ++ pages.toArray) : m.droppedSince m' = pages := by
  rw [droppedSince, h]
  simp

section Effect

variable {k k' : Kernel} {m m' : Simulated} {call : Call} {answer : Answer}
  (heffect : Effect k m call answer k' m')

include heffect

/-- A call drops all cached mappings, or those of some pages one by one and changes the entry of no
other page. -/
theorem Effect.drops : m'.flushes = m.flushes + 1 ∨
    m'.flushes = m.flushes ∧ ∃ pages : List Page,
      m'.invalidated = m.invalidated ++ pages.toArray ∧
      ∀ page, page ∉ pages → k'.paging.entry? page = k.paging.entry? page := by
  cases heffect with
  | transferred target ctx =>
      cases hinvalidation : k.config.invalidation with
      | fullFlush => exact Or.inl rfl
      | perPage =>
          refine Or.inr ⟨rfl, k.config.window.pages, rfl, fun page hpage => ?_⟩
          apply PageTables.entry?_edit_of_not_mem
          rwa [Window.pages_moveEdits]
  | mapped phys view =>
      refine Or.inr ⟨rfl, view.pages, rfl, fun page hpage => ?_⟩
      apply PageTables.entry?_edit_of_not_mem
      rwa [Viewport.pages_mapEdits]
  | placed base =>
      refine Or.inr ⟨rfl, (Viewport.mk base).pages, rfl, fun page hpage => ?_⟩
      apply PageTables.entry?_edit_of_not_mem
      rwa [Viewport.pages_placeEdits]
  | _ => exact Or.inr ⟨rfl, [], (Array.append_empty).symm, fun _ _ => rfl⟩

/-- A page whose entry a call changes is dropped by it. -/
theorem Effect.dropped_of_changed {page : Page}
    (hchanged : k'.paging.entry? page ≠ k.paging.entry? page) :
    m.flushes < m'.flushes ∨ page ∈ m.droppedSince m' := by
  rcases heffect.drops with hflush | ⟨-, pages, happend, hothers⟩
  · exact Or.inl (by omega)
  · rw [droppedSince_append happend]
    exact Or.inr (by_contra fun hpage => hchanged (hothers page hpage))

theorem Effect.coherent_after {tlb : Tlb} (hcoherent : tlb.Coherent k.paging) :
    (tlb.after m m').Coherent k'.paging := by
  intro page entry hcached
  rw [Tlb.after] at hcached
  split at hcached
  · cases hcached
  · next hkept =>
      have hsame : k'.paging.entry? page = k.paging.entry? page :=
        by_contra fun hchanged => hkept (heffect.dropped_of_changed hchanged)
      rw [hsame]
      exact hcoherent page entry hcached

end Effect

end Simulated

/-- How often a switch drops all cached mappings, and the pages that it drops one by one. -/
def SwitchOutcome.drops (outcome : SwitchOutcome) (config : Config) : Nat × List Page :=
  match outcome, config.invalidation with
  | .transferred, .perPage => (0, config.window.pages)
  | .transferred, .fullFlush => (1, [])
  | _, _ => (0, [])

theorem Simulated.Effect.drops_eq {k k' : Kernel} {m m' : Simulated} {target : Nat}
    {outcome : SwitchOutcome}
    (heffect : Effect k m (.switchTo target) (.switched outcome) k' m') :
    m'.flushes = m.flushes + (outcome.drops k.config).1 ∧
      m'.invalidated = m.invalidated ++ (outcome.drops k.config).2.toArray := by
  cases heffect with
  | unchanged | back => exact ⟨rfl, (Array.append_empty).symm⟩
  | transferred =>
      unfold SwitchOutcome.drops
      cases k.config.invalidation with
      | perPage => exact ⟨rfl, rfl⟩
      | fullFlush => exact ⟨rfl, (Array.append_empty).symm⟩

namespace Cached

variable {start w : World Simulated} {tlb : Tlb}

theorem session (hcached : Cached start w tlb) : ∃ turns, Session start turns w := by
  induction hcached with
  | started => exact ⟨[], .started⟩
  | loaded _ _ _ ih => exact ih
  | called _ hreturn ih =>
      obtain ⟨turns, hsession⟩ := ih
      exact ⟨_, hsession.called hreturn⟩
  | resumed _ ih =>
      obtain ⟨turns, hsession⟩ := ih
      exact ⟨turns, hsession.resumed⟩

theorem up (hup : start.kernel.Up) (hcached : Cached start w tlb) : w.kernel.Up := by
  obtain ⟨turns, hsession⟩ := hcached.session
  exact hsession.up hup

theorem coherent (hup : start.kernel.Up) (hcached : Cached start w tlb) :
    tlb.Coherent w.kernel.paging := by
  induction hcached with
  | started => exact fun _ _ h => by cases h
  | @loaded w tlb page entry _ hentry _ ih =>
      intro other found hfound
      by_cases heq : other = page
      · subst heq
        rw [Function.update_self] at hfound
        cases hfound
        exact hentry
      · rw [Function.update_of_ne heq] at hfound
        exact ih other found hfound
  | called hbefore hreturn ih =>
      exact (Simulated.effect_of_perform (hbefore.up hup) hreturn).coherent_after ih
  | resumed _ ih => exact ih

theorem unmasked_eq (hup : start.kernel.Up) (hcached : Cached start w tlb) :
    w.board.machine.unmasked = start.board.machine.unmasked := by
  induction hcached with
  | started => rfl
  | loaded _ _ _ ih => exact ih
  | called hbefore hreturn ih =>
      exact (Simulated.effect_of_perform (hbefore.up hup) hreturn).unmasked_eq.trans ih
  | resumed _ ih => exact ih

end Cached

/-- After any boot every cached entry is the current one. A call drops every page whose entry it
changes, one by one or with all others, once it has changed all of them; it does so with interrupts
off and puts interrupts back. A switch that transfers control drops exactly the window. Pointing and
placing the viewport always return, and so does a switch: it transfers control to any process but the
active one unless a resume is pending. -/
theorem coherent_of_cached {config : Config} {base : PhysAddr} {viewport : Option VirtAddr}
    {m : Simulated} {console : Console} {tracing : Bool} {outcome : ReplicateOutcome}
    {start w : World Simulated} {tlb : Tlb}
    (hboot : boot base viewport ⟨{ config := config }, ⟨m, console⟩, tracing⟩ = .ok outcome start)
    (hcached : Cached start w tlb) :
    w.kernel.pagingEnabled = true ∧ tlb.Coherent w.kernel.paging ∧
      w.board.machine.unmasked = m.unmasked ∧
      config.window.pages.map (·.number.toNat) =
        List.range' (config.window.start.val.toNat / 4096)
          (512 - config.window.start.val.toNat / 4096) ∧
      (∀ phys, ∃ answer w', (Call.mapPhysical phys).perform w = .ok answer w') ∧
      (∀ addr, ∃ answer w', (Call.placeViewport addr).perform w = .ok answer w') ∧
      (m.resumeNext = false → w.board.machine.captures < 2 ^ 27 →
        ∀ target, target < config.processCount → ∃ w', (Call.switchTo target).perform w =
          .ok (.switched (w.board.machine.switchOutcome w.kernel target)) w') ∧
      ∀ (call : Call) answer w', call.perform w = .ok answer w' →
        (∀ page, w'.kernel.paging.entry? page ≠ w.kernel.paging.entry? page →
          w.board.machine.flushes < w'.board.machine.flushes ∨
            page ∈ w.board.machine.droppedSince w'.board.machine) ∧
        (∀ drops stop cut, call.perform (w.limited drops) = .error stop cut →
          cut.kernel.paging = w'.kernel.paging) ∧
        w'.board.machine.interrupts = w.board.machine.interrupts ∧
        w'.board.machine.unmasked = m.unmasked ∧
        ∀ target outcome, call = .switchTo target → answer = .switched outcome →
          w'.board.machine.flushes = w.board.machine.flushes + (outcome.drops config).1 ∧
            w'.board.machine.invalidated =
              w.board.machine.invalidated ++ (outcome.drops config).2.toArray := by
  obtain ⟨_, _, k, pages, -, -, hprepared, hforked⟩ := Simulated.effect_of_boot hboot
  have hstart := hprepared.up.step hforked.step
  have hup := hcached.up hstart
  have hunmasked : w.board.machine.unmasked = m.unmasked :=
    (hcached.unmasked_eq hstart).trans hforked.unmasked_eq
  obtain ⟨_, hsession⟩ := hcached.session
  have hconfig : w.kernel.config = config :=
    (hsession.config_eq hstart).trans (hforked.step.config_eq.trans hprepared.config_eq)
  refine ⟨hup.pagingEnabled, hcached.coherent hstart, hunmasked, config.numbers_pages_eq,
    Simulated.mapPhysical_returns hup, Simulated.placeViewport_returns hup, ?_, ?_⟩
  · intro hfirst hcaptures target htarget
    have hactive := hup.active_lt
    rw [hconfig] at hactive
    -- with a second process and no resume pending the boot forked
    have hreplicated : target ≠ w.kernel.active → w.kernel.replicated = true := by
      intro hne
      have hmulti : config.isMultiprocess = true := by
        rw [Config.isMultiprocess, decide_eq_true_iff]
        omega
      cases Simulated.outcome_of_boot hmulti hfirst hboot
      exact (hsession.forked (Simulated.seed_of_boot hboot).1).replicated
    rw [← hconfig] at htarget
    obtain ⟨w', hreturn⟩ := Simulated.switchTo_returns hup hcaptures htarget hreplicated
    exact ⟨w', Simulated.perform_switchTo hreturn⟩
  intro call answer w' hreturn
  have heffect := Simulated.effect_of_perform hup hreturn
  refine ⟨fun page => heffect.dropped_of_changed, fun _ _ _ => paging_of_limited hup hreturn,
    heffect.interrupts_eq, heffect.unmasked_eq.trans hunmasked, ?_⟩
  rintro target outcome rfl rfl
  rw [← hconfig]
  exact heffect.drops_eq

/-- The first page of the window is cached when the second process is switched to. The switch drops
the pages of the window one by one, and nothing that it changed is cached any more. -/
theorem coherent_of_cached_halves :
    ∃ start w entry entry' tlb, boot ⟨0x90000⟩ (some ⟨0x108000⟩)
        ⟨{ config := .halves }, ⟨Simulated.new 2, .ready⟩, false⟩ = .ok (.forked 1) start ∧
      Cached start start (Function.update Tlb.empty ⟨0x180⟩ (some entry)) ∧
      start.kernel.paging.entry? ⟨0x180⟩ = some entry ∧
      (Call.switchTo 1).perform start = .ok (.switched .transferred) w ∧
      w.board.machine.flushes = start.board.machine.flushes ∧
      (∃ pages : List Page,
        w.board.machine.invalidated = start.board.machine.invalidated ++ pages.toArray ∧
        pages.map (·.number.toNat) = List.range' 0x180 0x80) ∧
      w.kernel.paging.entry? ⟨0x180⟩ = some entry' ∧ entry' ≠ entry ∧
      Cached start w tlb ∧ tlb ⟨0x180⟩ = none ∧ tlb.Coherent w.kernel.paging := by
  obtain ⟨start, hboot⟩ := Simulated.boot_halves
  obtain ⟨hforked, hcaptures, -, hresume, hactive, -⟩ := Simulated.seed_of_boot hboot
  have hpage : (⟨0x180⟩ : Page) ∈ start.kernel.config.window.pages := by
    rw [hforked.config_eq, Config.mem_pages]
    decide
  have hcached : Cached start start (Function.update Tlb.empty ⟨0x180⟩ (some _)) :=
    .loaded .started (hforked.up.window _ hpage) (TableEntry.isPresent_new_initial _)
  have hroom : start.board.machine.captures < 2 ^ 27 := by
    rw [hcaptures]
    exact Nat.one_lt_two_pow (by decide)
  obtain ⟨-, hcoherent, -, hnumbers, -, -, hswitches, hcalls⟩ := coherent_of_cached hboot hcached
  obtain ⟨w, hswitch⟩ := hswitches rfl hroom 1 (by decide)
  rw [Simulated.switchOutcome_transferred (hforked.second_halves hactive).2 hresume] at hswitch
  obtain ⟨hdropped, -, -, -, hdrops⟩ := hcalls _ _ _ hswitch
  obtain ⟨hflushes, hinvalidated⟩ := hdrops 1 _ rfl rfl
  have heffect := Simulated.effect_of_perform hforked.up hswitch
  have hbefore := hforked.up.window _ hpage
  rw [← heffect.step.config_eq] at hpage
  have hafter := (hforked.up.step heffect.step).window _ hpage
  rw [hactive] at hbefore
  rw [heffect.active_eq] at hafter
  have hchanged : w.kernel.paging.entry? ⟨0x180⟩ ≠ start.kernel.paging.entry? ⟨0x180⟩ := by
    rw [hafter, hbefore]
    decide
  have hcached' := hcached.called hswitch
  refine ⟨start, w, _, _, _, hboot, hcached, hcoherent _ _ (Function.update_self _ _ _), hswitch,
    hflushes, ⟨_, hinvalidated, hnumbers⟩, hafter, ?_, hcached', ?_,
    (coherent_of_cached hboot hcached').2.1⟩
  · rw [hactive]
    decide
  · rw [Tlb.after, if_pos (hdropped _ hchanged)]

end SlotKernel

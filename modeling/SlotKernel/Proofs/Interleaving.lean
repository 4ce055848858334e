import SlotKernel.Proofs.Inversion
import SlotKernel.Proofs.Pointing
import Mathlib.Algebra.Order.Group.Multiset

/-!
Switching and looking at physical memory do not get in each other's way. Both rewrite entries of the
same tables and both drop cached mappings, but a switch does so for the pages of the window and a
mapping for those of the viewport. A digest is the state of kernel and machine with what was logged
and dropped set apart, in no order: on digests a mapping and a switch commute, so a run of them comes
to all of its switches followed by all of its mappings, and any two runs that differ only in how the
two are mixed end alike.
-/

namespace SlotKernel

open KernelM

section Map

variable {ε α β : Type} {f : α → β} {x : Except ε α}

theorem exists_of_map_eq_ok {b : β} (h : f <$> x = .ok b) : ∃ a, x = .ok a ∧ f a = b := by
  cases x with
  | error failure => cases h
  | ok a =>
      cases h
      exact ⟨a, rfl, rfl⟩

theorem error_of_map_eq_error {failure : ε} (h : f <$> x = .error failure) :
    x = .error failure := by
  cases x with
  | error other =>
      cases h
      rfl
  | ok a => cases h

end Map

/-! ### Runs -/

/-- Switch to a process, or point the viewport at an address. -/
def switchOrMap {μ : Type} [Machine μ] :
    Nat ⊕ PhysAddr → KernelM μ (SwitchOutcome ⊕ Except MappingError VirtAddr)
  | .inl target => return .inl (← switchTo target)
  | .inr phys => return .inr (← mapPhysical phys)

/-- One after the other. -/
def inTurn {μ : Type} [Machine μ] (calls : List (Nat ⊕ PhysAddr)) :
    KernelM μ (List (SwitchOutcome ⊕ Except MappingError VirtAddr)) :=
  calls.mapM switchOrMap

theorem inTurn_cons {μ : Type} [Machine μ] (call : Nat ⊕ PhysAddr)
    (calls : List (Nat ⊕ PhysAddr)) : inTurn (μ := μ) (call :: calls) = (do
      let answer ← switchOrMap call
      let answers ← inTurn calls
      return answer :: answers) :=
  List.mapM_cons

section Mixed

variable {α β : Type}

def firsts (mixed : List (α ⊕ β)) : List α :=
  mixed.filterMap Sum.getLeft?

def seconds (mixed : List (α ⊕ β)) : List β :=
  mixed.filterMap Sum.getRight?

/-- The members of two lists in one, each list in its own order. -/
def Interleaves (mixed : List (α ⊕ β)) (first : List α) (second : List β) : Prop :=
  firsts mixed = first ∧ seconds mixed = second

variable {mixed : List (α ⊕ β)} {first : List α} {second : List β}

theorem Interleaves.inl (h : Interleaves mixed first second) (a : α) :
    Interleaves (.inl a :: mixed) (a :: first) second :=
  ⟨congrArg (a :: ·) h.1, h.2⟩

theorem Interleaves.inr (h : Interleaves mixed first second) (b : β) :
    Interleaves (.inr b :: mixed) first (b :: second) :=
  ⟨h.1, congrArg (b :: ·) h.2⟩

end Mixed

/-- What a mapping answers. -/
def Viewport.answer (view : Viewport) (phys : PhysAddr) : Except MappingError VirtAddr :=
  if phys.val < 0xffffd000 then
    .ok ⟨view.range.first.start.val + (phys.val - phys.alignDown.val)⟩
  else
    .error (.frameOutOfRange phys.alignDown)

/-- The pages of a viewport show the frames from that of an address on. -/
def PageTables.ShowsFrom (s : PageTables) (view : Viewport) (phys : PhysAddr) : Prop :=
  ∀ page i, (page, i) ∈ view.pages.zipIdx → ∃ entry, s.entry? page = some entry ∧
    entry.isPresent = true ∧ entry.frame.number.toNat = phys.val.toNat / 4096 + i

theorem PageTables.showsFrom_edit {before : PageTables} {view : Viewport} {phys : PhysAddr}
    (hentries : ∀ page ∈ view.pages, ∃ entry,
      PageTables.entry? (before.edit (view.mapEdits phys)) page = some entry)
    (hphys : phys.val < 0xffffd000) : (before.edit (view.mapEdits phys)).ShowsFrom view phys := by
  have hmapped : ∀ page ∈ view.pages, ∃ entry, before.entry? page = some entry := by
    intro page hpage
    obtain ⟨item, hitem, rfl⟩ := Viewport.exists_item hpage
    obtain ⟨after, hafter⟩ := hentries item.1 hpage
    rw [Viewport.entry?_edit_mapEdits hitem] at hafter
    obtain ⟨entry, hentry, -⟩ := Option.map_eq_some_iff.mp hafter
    exact ⟨entry, hentry⟩
  intro page i hitem
  obtain ⟨_, entry, -, hentry, hframe, hflags⟩ :=
    (PageTables.repointed_edit hmapped (number_add_lt_of_lt hphys)).inside page i hitem
  exact ⟨entry, hentry, PageTables.isPresent_of_flags hflags, hframe⟩

/-- The pages that a move drops one by one. -/
def Invalidation.pages (window : Window) : Invalidation → List Page
  | .perPage => window.pages
  | .fullFlush => []

def Kernel.withEvents (k : Kernel) (events : EventLog) : Kernel :=
  { k with events := events }

def Simulated.withInvalidated (m : Simulated) (pages : Array Page) : Simulated :=
  { m with invalidated := pages }

/-- What a switch drops comes behind what was dropped before. -/
theorem Simulated.transferred_withInvalidated (m : Simulated) (window : Window)
    (invalidation : Invalidation) (ctx : Context) (earlier : Array Page) :
    (m.withInvalidated earlier).transferred window invalidation ctx =
      (m.transferred window invalidation ctx).withInvalidated
        (earlier ++ (invalidation.pages window).toArray) := by
  cases invalidation with
  | perPage => rfl
  | fullFlush =>
      rw [Invalidation.pages, Array.append_empty]
      rfl

/-! ### Digests -/

/-- A kernel and a machine whose logs stay as they are, and what was logged and dropped instead. -/
structure Digest where
  kernel : Kernel
  machine : Simulated
  logged : Multiset Event
  dropped : Multiset Page

namespace Digest

/-- Control goes to another process. -/
def switched (d : Digest) (ctx : Context) (target : Nat) : Digest where
  kernel := (d.kernel.switchedTo ctx target).withEvents d.kernel.events
  machine := (d.machine.transferred d.kernel.config.window d.kernel.config.invalidation
    (d.kernel.context target)).withInvalidated d.machine.invalidated
  logged := d.logged + ([.taskSwitched d.kernel.active target,
    .windowMoved d.kernel.active target d.kernel.config.window.pageCount] : List Event)
  dropped := d.dropped + d.kernel.config.invalidation.pages d.kernel.config.window

/-- The viewport is pointed at an address. -/
def pointed (view : Viewport) (d : Digest) (phys : PhysAddr) : Digest where
  kernel := d.kernel.withPaging (d.kernel.paging.edit (view.mapEdits phys))
  machine := d.machine
  logged := d.logged + ([.viewportMapped phys] : List Event)
  dropped := d.dropped + view.pages

def switchTo (d : Digest) (target : Nat) : Except Panic (SwitchOutcome × Digest) :=
  if target = d.kernel.active then
    .ok (.unchanged, d)
  else do
    let ctx ← Simulated.capturedContext (d.machine.captures + 1)
    return (.transferred, d.switched ctx target)

def mapPhysical (view : Viewport) (d : Digest) (phys : PhysAddr) : Digest :=
  if phys.val < 0xffffd000 then d.pointed view phys else d

def switchAll : Digest → List Nat → Except Panic (List SwitchOutcome × Digest)
  | d, [] => .ok ([], d)
  | d, target :: targets => do
      let (outcome, d) ← d.switchTo target
      let (outcomes, d) ← d.switchAll targets
      return (outcome :: outcomes, d)

theorem switchAll_cons {d d₁ : Digest} {target : Nat} {outcome : SwitchOutcome}
    (h : d.switchTo target = .ok (outcome, d₁)) (targets : List Nat) :
    d.switchAll (target :: targets) =
      Prod.map (outcome :: ·) id <$> d₁.switchAll targets := by
  rw [switchAll, h]
  change (d₁.switchAll targets >>= _) = _
  cases d₁.switchAll targets <;> rfl

def mapAll (view : Viewport) (d : Digest) (addrs : List PhysAddr) : Digest :=
  addrs.foldl (mapPhysical view) d

variable {d d' : Digest} {view : Viewport} {phys : PhysAddr} {target : Nat}

/-! ### Mappings and switches commute -/

section Commute

variable (hclear : ∀ page ∈ view.pages, page ∉ d.kernel.config.window.pages)

include hclear

theorem switched_pointed (ctx : Context) (target : Nat) (phys : PhysAddr) :
    (d.pointed view phys).switched ctx target = (d.switched ctx target).pointed view phys := by
  have hpaging : PageTables.edit (d.kernel.paging.edit (view.mapEdits phys))
        (d.kernel.config.window.moveEdits target) =
      PageTables.edit (d.kernel.paging.edit (d.kernel.config.window.moveEdits target))
        (view.mapEdits phys) := by
    apply PageTables.edit_comm
    · rw [view.pages_mapEdits]
      exact view.nodup_pages
    · rw [Window.pages_moveEdits]
      exact d.kernel.config.window.nodup_pages
    · rw [view.pages_mapEdits, Window.pages_moveEdits]
      exact hclear
  simp only [switched, pointed, Kernel.switchedTo, Kernel.movedTo, Kernel.saved, Kernel.withPaging,
    hpaging, add_right_comm]
  rfl

/-- Whether a mapping comes before a switch or after it makes no difference. -/
theorem switchTo_mapPhysical (target : Nat) (phys : PhysAddr) :
    (d.mapPhysical view phys).switchTo target =
      Prod.map id (mapPhysical view · phys) <$> d.switchTo target := by
  by_cases hphys : phys.val < 0xffffd000
  · simp only [mapPhysical, hphys, if_true]
    rw [switchTo, switchTo]
    change (if target = d.kernel.active then _ else
      Simulated.capturedContext (d.machine.captures + 1) >>= _) = _
    split_ifs
    · rfl
    · cases Simulated.capturedContext (d.machine.captures + 1) with
      | error cause => rfl
      | ok ctx =>
          change Except.ok (_, (d.pointed view phys).switched ctx target) = _
          rw [switched_pointed hclear]
          rfl
  · simp only [mapPhysical, hphys, if_false]
    cases d.switchTo target <;> rfl

end Commute

theorem switchTo_eq_ok {outcome : SwitchOutcome} (h : d.switchTo target = .ok (outcome, d')) :
    d' = d ∧ target = d.kernel.active ∨ ∃ ctx, d' = d.switched ctx target := by
  rw [switchTo] at h
  split_ifs at h with hself
  · cases h
    exact Or.inl ⟨rfl, hself⟩
  · obtain ⟨ctx, -, hfound⟩ := exists_of_bind_eq_ok h
    cases hfound
    exact Or.inr ⟨ctx, rfl⟩

theorem config_of_switchTo {outcome : SwitchOutcome} (h : d.switchTo target = .ok (outcome, d')) :
    d'.kernel.config = d.kernel.config := by
  rcases switchTo_eq_ok h with ⟨rfl, -⟩ | ⟨ctx, rfl⟩ <;> rfl

theorem active_of_switchTo {outcome : SwitchOutcome} (h : d.switchTo target = .ok (outcome, d')) :
    d'.kernel.active = target := by
  rcases switchTo_eq_ok h with ⟨rfl, hself⟩ | ⟨ctx, rfl⟩
  · exact hself.symm
  · rfl

theorem captures_of_switchTo {outcome : SwitchOutcome}
    (h : d.switchTo target = .ok (outcome, d')) :
    d'.machine.captures ≤ d.machine.captures + 1 := by
  rcases switchTo_eq_ok h with ⟨rfl, -⟩ | ⟨ctx, rfl⟩
  · exact Nat.le_succ _
  · exact Nat.le_of_eq (d.machine.captures_transferred _ _ (d.kernel.context target))

/-- A mapping may be put off until all switches are made. -/
theorem switchAll_mapPhysical (hclear : ∀ page ∈ view.pages, page ∉ d.kernel.config.window.pages)
    (targets : List Nat) (phys : PhysAddr) :
    (d.mapPhysical view phys).switchAll targets =
      Prod.map id (mapPhysical view · phys) <$> d.switchAll targets := by
  induction targets generalizing d with
  | nil => rfl
  | cons target targets ih =>
      have hcomm := switchTo_mapPhysical hclear target phys
      cases hswitch : d.switchTo target with
      | error cause =>
          rw [hswitch] at hcomm
          rw [switchAll, switchAll, hcomm, hswitch]
          rfl
      | ok found =>
          obtain ⟨outcome, d'⟩ := found
          rw [hswitch] at hcomm
          have hclear' : ∀ page ∈ view.pages, page ∉ d'.kernel.config.window.pages := by
            rwa [config_of_switchTo hswitch]
          rw [switchAll_cons hcomm, switchAll_cons hswitch, ih hclear']
          cases d'.switchAll targets <;> rfl

/-- The last target is active after all switches. -/
theorem active_of_switchAll {targets : List Nat} {outcomes : List SwitchOutcome}
    (h : d.switchAll targets = .ok (outcomes, d')) :
    d'.kernel.active = targets.getLastD d.kernel.active := by
  induction targets generalizing d outcomes with
  | nil =>
      cases h
      rfl
  | cons target targets ih =>
      obtain ⟨⟨outcome, d₁⟩, hswitch, -⟩ := exists_of_bind_eq_ok h
      rw [switchAll_cons hswitch] at h
      obtain ⟨⟨outcomes', _⟩, hrest, hfound⟩ := exists_of_map_eq_ok h
      cases hfound
      rw [ih hrest, active_of_switchTo hswitch, List.getLastD_cons]

/-- Mappings that are refused leave nothing. -/
theorem mapAll_eq_foldl (view : Viewport) (d : Digest) (addrs : List PhysAddr) :
    d.mapAll view addrs =
      (addrs.filter fun phys => phys.val < 0xffffd000).foldl (pointed view) d := by
  rw [List.foldl_filter, mapAll]
  congr 1
  funext d phys
  simp only [mapPhysical, decide_eq_true_iff]

theorem active_mapAll (view : Viewport) (d : Digest) (addrs : List PhysAddr) :
    (d.mapAll view addrs).kernel.active = d.kernel.active := by
  rw [mapAll_eq_foldl]
  exact List.foldlRecOn (motive := fun mapped : Digest => mapped.kernel.active = d.kernel.active)
    _ _ rfl fun mapped hmapped phys _ => hmapped

/-- What the last of them left is on top of the others. -/
theorem paging_mapAll {addrs : List PhysAddr}
    (hlast : (addrs.filter fun phys => phys.val < 0xffffd000).getLast? = some phys) :
    ∃ before : PageTables, (d.mapAll view addrs).kernel.paging =
      before.edit (view.mapEdits phys) := by
  obtain ⟨earlier, hfilter⟩ := List.getLast?_eq_some_iff.mp hlast
  refine ⟨(earlier.foldl (pointed view) d).kernel.paging, ?_⟩
  rw [mapAll_eq_foldl, hfilter, List.foldl_append]
  rfl

/-- The first captures have numbers, and so many switches go through. -/
theorem exists_switchAll {targets : List Nat}
    (hcaptures : d.machine.captures + targets.length ≤ 2 ^ 27) :
    ∃ outcomes d', d.switchAll targets = .ok (outcomes, d') := by
  induction targets generalizing d with
  | nil => exact ⟨[], d, rfl⟩
  | cons target targets ih =>
      rw [List.length_cons] at hcaptures
      obtain ⟨ctx, hctx⟩ := @Simulated.capturedContext_eq_ok (d.machine.captures + 1) (by omega)
      obtain ⟨outcome, d₁, hswitch⟩ : ∃ outcome d₁, d.switchTo target = .ok (outcome, d₁) := by
        rw [switchTo]
        split_ifs
        · exact ⟨_, _, rfl⟩
        · rw [hctx]
          exact ⟨_, _, rfl⟩
      have hcaptures₁ := captures_of_switchTo hswitch
      obtain ⟨outcomes, d', hrest⟩ := @ih d₁ (by omega)
      refine ⟨outcome :: outcomes, d', ?_⟩
      rw [switchAll_cons hswitch, hrest]
      rfl

/-! ### Digests of states -/

/-- A state with this digest: since some moment it logged and dropped what the digest says, in some
order. -/
structure Describes (d : Digest) (log : EventLog) (invalidated : Array Page) (k : Kernel)
    (m : Simulated) : Prop where
  kernel : ∃ events : List Event, k = d.kernel.withEvents (log.pushAll events) ∧ d.logged = events
  machine : ∃ pages : List Page,
    m = d.machine.withInvalidated (invalidated ++ pages.toArray) ∧ d.dropped = pages

variable {log : EventLog} {invalidated : Array Page} {k : Kernel} {m : Simulated}

theorem describes_self (k : Kernel) (m : Simulated) :
    Describes ⟨k, m, 0, 0⟩ k.events m.invalidated k m where
  kernel := ⟨[], rfl, rfl⟩
  machine := ⟨[], congrArg m.withInvalidated (Array.append_empty).symm, rfl⟩

theorem Describes.switched (h : d.Describes log invalidated k m) (ctx : Context) (target : Nat) :
    (d.switched ctx target).Describes log invalidated (k.switchedTo ctx target)
      (m.transferred k.config.window k.config.invalidation (k.context target)) := by
  obtain ⟨⟨events, rfl, hlogged⟩, pages, rfl, hdropped⟩ := h
  constructor
  · refine ⟨events ++ [.taskSwitched d.kernel.active target,
      .windowMoved d.kernel.active target d.kernel.config.window.pageCount], ?_, ?_⟩
    · rw [EventLog.pushAll_append]
      rfl
    · rw [Digest.switched, hlogged, Multiset.coe_add]
  · refine ⟨pages ++ d.kernel.config.invalidation.pages d.kernel.config.window, ?_, ?_⟩
    · rw [← List.append_toArray, ← Array.append_assoc]
      exact d.machine.transferred_withInvalidated _ _ _ _
    · rw [Digest.switched, hdropped, Multiset.coe_add]

theorem Describes.pointed (h : d.Describes log invalidated k m) (view : Viewport)
    (phys : PhysAddr) :
    (d.pointed view phys).Describes log invalidated (k.pointedAt view phys)
      (m.dropped view.pages) := by
  obtain ⟨⟨events, rfl, hlogged⟩, pages, rfl, hdropped⟩ := h
  constructor
  · refine ⟨events ++ [.viewportMapped phys], ?_, ?_⟩
    · rw [EventLog.pushAll_append]
      rfl
    · rw [Digest.pointed, hlogged, Multiset.coe_add]
  · refine ⟨pages ++ view.pages, ?_, ?_⟩
    · rw [← List.append_toArray, ← Array.append_assoc]
      rfl
    · rw [Digest.pointed, hdropped, Multiset.coe_add]

theorem Describes.config_eq (h : d.Describes log invalidated k m) :
    d.kernel.config = k.config := by
  obtain ⟨⟨events, rfl, -⟩, -⟩ := h
  rfl

theorem Describes.active_eq (h : d.Describes log invalidated k m) :
    d.kernel.active = k.active := by
  obtain ⟨⟨events, rfl, -⟩, -⟩ := h
  rfl

theorem Describes.paging_eq (h : d.Describes log invalidated k m) :
    d.kernel.paging = k.paging := by
  obtain ⟨⟨events, rfl, -⟩, -⟩ := h
  rfl

theorem Describes.captures_eq (h : d.Describes log invalidated k m) :
    d.machine.captures = m.captures := by
  obtain ⟨-, pages, rfl, -⟩ := h
  rfl

end Digest

/-! ### Calm states -/

/-- A forked kernel with a viewport, and nothing to resume. -/
structure Calm (config : Config) (view : Viewport) (k : Kernel) (m : Simulated) : Prop where
  forked : k.Forked config
  uncached : k.ViewUncached
  viewport : k.viewport = some view
  resumeNext : m.resumeNext = false

namespace Digest

variable {config : Config} {d d' : Digest} {view : Viewport} {phys : PhysAddr} {target : Nat}
  {log : EventLog} {invalidated : Array Page} {k : Kernel} {m : Simulated}

/-- How a run ends, by the digest of the state that it starts from: as if all of its switches came
first and then all of its mappings. -/
def Foretells (d : Digest) (config : Config) (view : Viewport) (log : EventLog)
    (invalidated : Array Page) (calls : List (Nat ⊕ PhysAddr)) (k : Kernel) (m : Simulated) :
    Prop :=
  (∃ outcomes d', d.switchAll (firsts calls) = .ok (outcomes, d') ∧ ∃ answers k' m',
    Returns (inTurn calls) k m answers k' m' ∧ Calm config view k' m' ∧
      Interleaves answers outcomes ((seconds calls).map view.answer) ∧
      (d'.mapAll view (seconds calls)).Describes log invalidated k' m') ∨
  ∃ cause, d.switchAll (firsts calls) = .error cause ∧
    ∃ k' m', Stops (inTurn calls) k m (.panicked cause) k' m'

namespace Foretells

variable {calls : List (Nat ⊕ PhysAddr)} {d₁ : Digest} {k₁ : Kernel} {m₁ : Simulated}

theorem switched {outcome : SwitchOutcome} (hswitch : d.switchTo target = .ok (outcome, d₁))
    (hreturns : Returns (KernelM.switchTo target) k m outcome k₁ m₁)
    (hrest : d₁.Foretells config view log invalidated calls k₁ m₁) :
    d.Foretells config view log invalidated (.inl target :: calls) k m := by
  have hfirst : Returns (switchOrMap (.inl target)) k m (.inl outcome) k₁ m₁ :=
    hreturns.bind (returns_pure _)
  have hall : d.switchAll (firsts (.inl target :: calls)) = _ :=
    switchAll_cons hswitch (firsts calls)
  rw [Foretells, hall, inTurn_cons]
  obtain ⟨outcomes, d', hrest, answers, k', m', hreturns', hcalm, hanswers, hd'⟩ |
    ⟨cause, hrest, k', m', hstops⟩ := hrest
  · rw [hrest]
    exact Or.inl ⟨outcome :: outcomes, d', rfl, .inl outcome :: answers, k', m',
      hfirst.bind (hreturns'.bind (returns_pure _)), hcalm, hanswers.inl outcome, hd'⟩
  · rw [hrest]
    exact Or.inr ⟨cause, rfl, k', m', hfirst.bind hstops.bind_stop⟩

theorem panicked {cause : Panic} (hswitch : d.switchTo target = .error cause)
    (hstops : Stops (KernelM.switchTo target) k m (.panicked cause) k₁ m₁) :
    d.Foretells config view log invalidated (.inl target :: calls) k m := by
  have hfirst : Stops (switchOrMap (.inl target)) k m (.panicked cause) k₁ m₁ := hstops.bind_stop
  have hall : d.switchAll (target :: firsts calls) = .error cause := by
    rw [switchAll, hswitch]
    rfl
  rw [Foretells, inTurn_cons]
  exact Or.inr ⟨cause, hall, k₁, m₁, hfirst.bind_stop⟩

/-- On the digest the mapping is made after the switches of the rest. -/
theorem mapped (hclear : ∀ page ∈ view.pages, page ∉ d.kernel.config.window.pages)
    (hreturns : Returns (KernelM.mapPhysical phys) k m (view.answer phys) k₁ m₁)
    (hrest : (d.mapPhysical view phys).Foretells config view log invalidated calls k₁ m₁) :
    d.Foretells config view log invalidated (.inr phys :: calls) k m := by
  have hfirst : Returns (switchOrMap (.inr phys)) k m (.inr (view.answer phys)) k₁ m₁ :=
    hreturns.bind (returns_pure _)
  rw [Foretells, switchAll_mapPhysical hclear] at hrest
  rw [Foretells, inTurn_cons]
  obtain ⟨outcomes, d', hall, answers, k', m', hreturns', hcalm, hanswers, hd'⟩ |
    ⟨cause, hall, k', m', hstops⟩ := hrest
  · obtain ⟨⟨outcomes', before⟩, hbefore, hfound⟩ := exists_of_map_eq_ok hall
    cases hfound
    exact Or.inl ⟨outcomes', before, hbefore, .inr (view.answer phys) :: answers, k', m',
      hfirst.bind (hreturns'.bind (returns_pure _)), hcalm, hanswers.inr _, hd'⟩
  · exact Or.inr ⟨cause, error_of_map_eq_error hall, k', m', hfirst.bind hstops.bind_stop⟩

/-- While captures have numbers, a run returns. -/
theorem returns (h : d.Foretells config view log invalidated calls k m)
    (hcaptures : d.machine.captures + (firsts calls).length ≤ 2 ^ 27) :
    ∃ answers k' m', Returns (inTurn calls) k m answers k' m' := by
  obtain ⟨_, _, hgoes⟩ := exists_switchAll hcaptures
  obtain ⟨_, _, -, answers, k', m', hreturns, -⟩ | ⟨cause, hall, -⟩ := h
  · exact ⟨answers, k', m', hreturns⟩
  · cases hall.symm.trans hgoes

end Foretells

end Digest

namespace Calm

variable {config : Config} {view : Viewport} {k : Kernel} {m : Simulated} {d : Digest}
  {log : EventLog} {invalidated : Array Page} (h : Calm config view k m)
  (hd : d.Describes log invalidated k m)

include h

theorem clear : ∀ page ∈ view.pages, page ∉ k.config.window.pages := fun page hpage =>
  (h.forked.up.viewport view h.viewport page hpage).2

theorem switched {ctx : Context} {label target : Nat}
    (hctx : Simulated.capturedContext label = .ok ctx) (htarget : target < config.processCount) :
    Calm config view (k.switchedTo ctx target)
      (m.transferred k.config.window k.config.invalidation (k.context target)) := by
  rw [← h.forked.config_eq] at htarget
  have hstep := Kernel.Step.switched k ctx target
    (Simulated.validate_capturedContext k.config hctx) htarget h.forked.replicated
  refine ⟨h.forked.step hstep, h.uncached.step h.forked.up hstep, h.viewport, ?_⟩
  cases k.config.invalidation <;> exact h.resumeNext

theorem pointed (phys : PhysAddr) :
    Calm config view (k.pointedAt view phys) (m.dropped view.pages) := by
  have hstep := Kernel.Step.mapped k view phys h.viewport
  exact ⟨h.forked.step hstep, h.uncached.step h.forked.up hstep, h.viewport, h.resumeNext⟩

include hd

/-- A switch ends as its digest says. -/
theorem ends_switchTo {target : Nat} (htarget : target < config.processCount) :
    (∃ outcome d', d.switchTo target = .ok (outcome, d') ∧ ∃ k' m',
      Returns (switchTo target) k m outcome k' m' ∧ Calm config view k' m' ∧
        d'.Describes log invalidated k' m') ∨
    ∃ cause, d.switchTo target = .error cause ∧
      ∃ m', Stops (switchTo target) k m (.panicked cause) k m' := by
  rw [Digest.switchTo, hd.active_eq, hd.captures_eq]
  split_ifs with hne
  · subst hne
    exact Or.inl ⟨_, _, rfl, k, m, returns_switchTo_self, h, hd⟩
  · have htarget' : target < k.config.processCount := h.forked.config_eq ▸ htarget
    have hdeparts := h.forked.up.departs htarget' hne h.forked.replicated
    cases hctx : Simulated.capturedContext (m.captures + 1) with
    | error cause =>
        exact Or.inr ⟨cause, rfl, _,
          Simulated.stops_switchTo_captured hdeparts.toLeaves h.resumeNext hctx⟩
    | ok ctx =>
        exact Or.inl ⟨_, _, rfl, _, _,
          Simulated.returns_switchTo_transferred hdeparts h.resumeNext hctx,
          h.switched hctx htarget, hd.switched ctx target⟩

/-- A mapping returns, and its digest says what it did. -/
theorem returns_mapPhysical (phys : PhysAddr) :
    ∃ k' m', Returns (mapPhysical phys) k m (view.answer phys) k' m' ∧ Calm config view k' m' ∧
      (d.mapPhysical view phys).Describes log invalidated k' m' := by
  rw [Viewport.answer, Digest.mapPhysical]
  split_ifs with hphys
  · exact ⟨_, _, Simulated.returns_mapPhysical_within h.viewport h.uncached h.forked.up hphys m,
      h.pointed phys, hd.pointed view phys⟩
  · exact ⟨k, m, Simulated.returns_mapPhysical_beyond h.viewport h.uncached
      (UInt32.not_lt.mp hphys) m, h, hd⟩

/-- Every run ends as its digest foretells. -/
theorem foretells {calls : List (Nat ⊕ PhysAddr)}
    (htargets : ∀ target ∈ firsts calls, target < config.processCount) :
    d.Foretells config view log invalidated calls k m := by
  induction calls generalizing k m d with
  | nil => exact Or.inl ⟨[], d, rfl, [], k, m, returns_pure _, h, ⟨rfl, rfl⟩, hd⟩
  | cons call calls ih =>
      cases call with
      | inl target =>
          obtain ⟨htarget, hrest⟩ := List.forall_mem_cons.mp htargets
          rcases h.ends_switchTo hd htarget with
            ⟨outcome, d₁, hswitch, k₁, m₁, hreturns, h₁, hd₁⟩ | ⟨cause, hswitch, m', hstops⟩
          · exact .switched hswitch hreturns (ih h₁ hd₁ hrest)
          · exact .panicked hswitch hstops
      | inr phys =>
          obtain ⟨k₁, m₁, hreturns, h₁, hd₁⟩ := h.returns_mapPhysical hd phys
          have hclear : ∀ page ∈ view.pages, page ∉ d.kernel.config.window.pages := by
            rw [hd.config_eq]
            exact h.clear
          exact .mapped hclear hreturns (ih h₁ hd₁ htargets)

end Calm

/-! ### Two runs -/

/-- Two worlds that came from a third one and are the same but for the order of the events and of the
dropped pages since then. -/
structure World.Agree (start w₁ w₂ : World Simulated) : Prop where
  kernel : w₂.kernel = w₁.kernel.withEvents w₂.kernel.events
  machine : w₂.board.machine = w₁.board.machine.withInvalidated w₂.board.machine.invalidated
  events : ∃ first second : List Event, w₁.kernel.events = start.kernel.events.pushAll first ∧
    w₂.kernel.events = start.kernel.events.pushAll second ∧ first.Perm second
  dropped : ∃ first second : List Page,
    w₁.board.machine.invalidated = start.board.machine.invalidated ++ first.toArray ∧
    w₂.board.machine.invalidated = start.board.machine.invalidated ++ second.toArray ∧
    first.Perm second

theorem World.agree_of_describes {start w₁ w₂ : World Simulated} {d : Digest}
    (h₁ : d.Describes start.kernel.events start.board.machine.invalidated w₁.kernel
      w₁.board.machine)
    (h₂ : d.Describes start.kernel.events start.board.machine.invalidated w₂.kernel
      w₂.board.machine) : start.Agree w₁ w₂ := by
  obtain ⟨⟨events₁, hk₁, hlogged₁⟩, pages₁, hm₁, hdropped₁⟩ := h₁
  obtain ⟨⟨events₂, hk₂, hlogged₂⟩, pages₂, hm₂, hdropped₂⟩ := h₂
  constructor
  · rw [hk₁, hk₂]
    rfl
  · rw [hm₁, hm₂]
    rfl
  · refine ⟨events₁, events₂, congrArg Kernel.events hk₁, congrArg Kernel.events hk₂, ?_⟩
    exact Multiset.coe_eq_coe.mp (hlogged₁.symm.trans hlogged₂)
  · refine ⟨pages₁, pages₂, congrArg Simulated.invalidated hm₁, congrArg Simulated.invalidated hm₂,
      ?_⟩
    exact Multiset.coe_eq_coe.mp (hdropped₁.symm.trans hdropped₂)

/-- Two runs from one world end alike: both return, with the same answers to the switches and to the
mappings and in worlds that agree, or both panic for the same cause. -/
def World.EndAlike (start : World Simulated) (calls others : List (Nat ⊕ PhysAddr)) : Prop :=
  (∃ answers₁ answers₂ w₁ w₂, inTurn calls start = .ok answers₁ w₁ ∧
    inTurn others start = .ok answers₂ w₂ ∧ firsts answers₁ = firsts answers₂ ∧
      seconds answers₁ = seconds answers₂ ∧ start.Agree w₁ w₂) ∨
  ∃ cause w₁ w₂, inTurn calls start = .error (.panicked cause) w₁ ∧
    inTurn others start = .error (.panicked cause) w₂

/-- Two runs with the same switches and the same mappings end alike, since one digest foretells the
same of both. -/
theorem World.endAlike_of_foretells {start : World Simulated} {d : Digest} {config : Config}
    {view : Viewport} {calls others : List (Nat ⊕ PhysAddr)} (hfirsts : firsts others = firsts calls)
    (hseconds : seconds others = seconds calls)
    (h : d.Foretells config view start.kernel.events start.board.machine.invalidated calls start.kernel
      start.board.machine)
    (h' : d.Foretells config view start.kernel.events start.board.machine.invalidated others start.kernel
      start.board.machine) : start.EndAlike calls others := by
  rw [Digest.Foretells, hfirsts, hseconds] at h'
  rcases h with ⟨_, _, hall, answers₁, k₁, m₁, hreturns₁, -, hanswers₁, hd₁⟩ |
    ⟨cause, hall, k₁, m₁, hstops₁⟩
  · rcases h' with ⟨_, _, hall', answers₂, k₂, m₂, hreturns₂, -, hanswers₂, hd₂⟩ | ⟨_, hall', -⟩
    · cases hall.symm.trans hall'
      obtain ⟨w₁, hrun₁⟩ := hreturns₁.ok rfl rfl
      obtain ⟨w₂, hrun₂⟩ := hreturns₂.ok rfl rfl
      obtain ⟨-, rfl, rfl⟩ := hreturns₁.eq_of_ok rfl rfl hrun₁
      obtain ⟨-, rfl, rfl⟩ := hreturns₂.eq_of_ok rfl rfl hrun₂
      exact Or.inl ⟨answers₁, answers₂, w₁, w₂, hrun₁, hrun₂, hanswers₁.1.trans hanswers₂.1.symm,
        hanswers₁.2.trans hanswers₂.2.symm, World.agree_of_describes hd₁ hd₂⟩
    · cases hall.symm.trans hall'
  · rcases h' with ⟨_, _, hall', -⟩ | ⟨_, hall', k₂, m₂, hstops₂⟩
    · cases hall.symm.trans hall'
    · cases hall.symm.trans hall'
      obtain ⟨console₁, hrun₁⟩ := hstops₁ start.board.console start.tracing
      obtain ⟨console₂, hrun₂⟩ := hstops₂ start.board.console start.tracing
      exact Or.inr ⟨cause, _, _, hrun₁, hrun₂⟩

/-- What a run of switches and mappings that returned leaves behind. -/
structure World.Ran (w : World Simulated) (view : Viewport) (targets : List Nat)
    (addrs : List PhysAddr) (answers : List (SwitchOutcome ⊕ Except MappingError VirtAddr))
    (w' : World Simulated) : Prop where
  answers_eq : seconds answers = addrs.map view.answer
  active_eq : w'.kernel.active = targets.getLastD w.kernel.active
  window : w'.kernel.Shows w'.kernel.active
  /-- The viewport shows the last of the addresses with four frames. -/
  viewport : ∀ phys, (addrs.filter fun phys => phys.val < 0xffffd000).getLast? = some phys →
    w'.kernel.paging.ShowsFrom view phys

theorem World.ran_of_foretells {w w' : World Simulated} {config : Config} {view : Viewport}
    {log : EventLog} {invalidated : Array Page} {calls : List (Nat ⊕ PhysAddr)}
    (h : Digest.Foretells ⟨w.kernel, w.board.machine, 0, 0⟩ config view log invalidated calls
      w.kernel w.board.machine)
    {answers : List (SwitchOutcome ⊕ Except MappingError VirtAddr)}
    (hrun : inTurn calls w = .ok answers w') :
    w.Ran view (firsts calls) (seconds calls) answers w' := by
  rcases h with ⟨outcomes, d, hall, _, k', m', hreturns, hcalm, hanswers, hd⟩ |
    ⟨cause, -, k', m', hstops⟩
  · obtain ⟨hsame, rfl, rfl⟩ := hreturns.eq_of_ok rfl rfl hrun
    cases hsame
    refine ⟨hanswers.2, ?_, hcalm.forked.up.shows, fun phys hlast => ?_⟩
    · rw [← hd.active_eq, Digest.active_mapAll, Digest.active_of_switchAll hall]
    · obtain ⟨before, hpaging⟩ := @Digest.paging_mapAll d view phys _ hlast
      have hfits : phys.val < 0xffffd000 := by
        have hmem := List.mem_of_getLast? hlast
        exact of_decide_eq_true (List.mem_filter.mp hmem).2
      have hentries := hcalm.uncached.mapped hcalm.viewport
      rw [← hd.paging_eq, hpaging] at hentries ⊢
      exact PageTables.showsFrom_edit hentries hfits
  · obtain ⟨hstop, -⟩ := hstops.eq_of_ok rfl rfl hrun
    cases hstop

/-- After a boot that forked and any calls, with a viewport and no resume pending, it makes no
difference how switches to the configured processes and mappings are mixed, as long as each of the
two lists keeps its order: all the ways end alike. While captures have numbers, they return. Then the
last target is active, and the viewport shows the last address that it can show. -/
theorem interleavings_end_alike {config : Config} {base : PhysAddr} {viewport : Option VirtAddr}
    {m : Simulated} {console : Console} {tracing : Bool} {copies : Nat} {start : World Simulated}
    (hboot : boot base viewport ⟨{ config := config }, ⟨m, console⟩, tracing⟩ =
      .ok (.forked copies) start)
    {turns : List Turn} {w : World Simulated} (hsession : Session start turns w) {view : Viewport}
    (hview : w.kernel.viewport = some view) (hresume : w.board.machine.resumeNext = false)
    {targets : List Nat} (htargets : ∀ target ∈ targets, target < config.processCount)
    {addrs : List PhysAddr} {calls others : List (Nat ⊕ PhysAddr)}
    (hcalls : Interleaves calls targets addrs) (hothers : Interleaves others targets addrs) :
    w.EndAlike calls others ∧
      (w.board.machine.captures + targets.length ≤ 2 ^ 27 →
        ∃ answers w', inTurn calls w = .ok answers w') ∧
      ∀ answers w', inTurn calls w = .ok answers w' → w.Ran view targets addrs answers w' := by
  have hforked := hsession.forked (Simulated.seed_of_boot hboot).1
  have huncached := (Session.viewUncached_of_boot hboot hsession).2
  have hcalm : Calm config view w.kernel w.board.machine := ⟨hforked, huncached, hview, hresume⟩
  have hself := Digest.describes_self w.kernel w.board.machine
  obtain ⟨rfl, rfl⟩ := hcalls
  have hforetold := hcalm.foretells hself htargets
  have hforetold' := hcalm.foretells hself (by rwa [hothers.1] : ∀ target ∈ firsts others, _)
  refine ⟨World.endAlike_of_foretells hothers.1 hothers.2 hforetold hforetold', ?_,
    fun _ _ => World.ran_of_foretells hforetold⟩
  intro hcaptures
  obtain ⟨answers, _, _, hreturns⟩ := hforetold.returns hcaptures
  exact ⟨answers, hreturns.ok rfl rfl⟩

/-- Two processes with a viewport in front of their window: a switch to the second of them and a look
at the display memory, in either order. -/
theorem interleavings_end_alike_halves :
    ∃ start turns w, boot ⟨0x90000⟩ (some ⟨0x108000⟩)
        ⟨{ config := .halves }, ⟨Simulated.new 2, .ready⟩, false⟩ = .ok (.forked 1) start ∧
      Session start turns w ∧ w.kernel.viewport = some ⟨⟨0x108000⟩⟩ ∧
      w.board.machine.resumeNext = false ∧
      (∀ target ∈ [1], target < Config.halves.processCount) ∧
      Interleaves [.inl 1, .inr ⟨0xa0010⟩] [1] [PhysAddr.mk 0xa0010] ∧
      Interleaves [.inr ⟨0xa0010⟩, .inl 1] [1] [PhysAddr.mk 0xa0010] ∧
      w.EndAlike [.inl 1, .inr ⟨0xa0010⟩] [.inr ⟨0xa0010⟩, .inl 1] ∧
      w.board.machine.captures + 1 ≤ 2 ^ 27 ∧
      ∃ answers w', inTurn [.inl 1, .inr ⟨0xa0010⟩] w = .ok answers w' ∧
        w.Ran ⟨⟨0x108000⟩⟩ [1] [⟨0xa0010⟩] answers w' := by
  obtain ⟨start, w, hboot, hplaced, hview, -⟩ :=
    @Simulated.placed_halves ⟨0x108000⟩ (by decide) (by decide)
  obtain ⟨hforked, hcaptures, -, hresume, -⟩ := Simulated.seed_of_boot hboot
  have hkept : w.board.machine.resumeNext = false ∧ w.board.machine.captures = 1 := by
    have heffect := Simulated.effect_of_perform hforked.up hplaced
    generalize w.kernel = k', w.board.machine = m' at heffect
    cases heffect
    exact ⟨hresume, hcaptures⟩
  have hroom : w.board.machine.captures + 1 ≤ 2 ^ 27 := by
    rw [hkept.2]
    decide
  have htargets : ∀ target ∈ [1], target < Config.halves.processCount := by decide
  have hfirst : Interleaves [.inl 1, .inr ⟨0xa0010⟩] [1] [PhysAddr.mk 0xa0010] := ⟨rfl, rfl⟩
  have hsecond : Interleaves [.inr ⟨0xa0010⟩, .inl 1] [1] [PhysAddr.mk 0xa0010] := ⟨rfl, rfl⟩
  have hsession := Session.called .started hplaced
  have halike := interleavings_end_alike hboot hsession hview hkept.1 htargets hfirst hsecond
  obtain ⟨answers, w', hrun⟩ := halike.2.1 hroom
  exact ⟨start, _, w, hboot, hsession, hview, hkept.1, htargets, hfirst, hsecond, halike.1, hroom,
    answers, w', hrun, halike.2.2 answers w' hrun⟩

end SlotKernel

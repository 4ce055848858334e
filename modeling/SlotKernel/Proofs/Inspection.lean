import SlotKernel.Proofs.InPlace
import SlotKernel.Proofs.Rebuilding
import SlotKernel.Proofs.Setup

/-!
What a silent check is worth. The check writes to the log exactly if one of its rules is broken, in
any state, and a line of the log never goes unnoticed: each of its bytes polls the serial line at
least once. A kernel in which no rule is broken need not come from a boot. It can switch all the
same, with one exception: the check does not look at the context of the first process, so a switch
back to that process may still find it broken. After a switch the check is silent again.
-/

namespace SlotKernel

/-! ### Lines of the log -/

namespace Devices

/-- The reads of the line status. -/
def polls (devices : Devices) : Nat :=
  devices.serial.statusReads

theorem polls_write (devices : Devices) (byte : UInt8) :
    (Bus.write devices Serial.dataRegister byte).polls = devices.polls := by
  change (devices.write Serial.dataRegister byte).polls = _
  unfold Devices.write
  split
  · rfl
  · split <;> rfl

/-- A byte is sent after at least one look at the line. -/
theorem polls_lt_writeByte (devices : Devices) (byte : UInt8) :
    devices.polls < (Serial.writeByte devices byte).polls := by
  rw [Serial.writeByte, await_line, polls_write]
  exact Nat.lt_add_of_pos_right (Nat.succ_pos devices.serial.pending)

theorem polls_le_writeBytes (bytes : List UInt8) (devices : Devices) :
    devices.polls ≤ (Serial.writeBytes devices bytes).polls :=
  List.foldlRecOn (motive := fun sent : Devices => devices.polls ≤ sent.polls) bytes
    Serial.writeByte (Nat.le_refl _) fun sent hsent byte _ =>
      Nat.le_trans hsent (Nat.le_of_lt (sent.polls_lt_writeByte byte))

theorem polls_lt_writeBytes {bytes : List UInt8} (h : bytes ≠ []) (devices : Devices) :
    devices.polls < (Serial.writeBytes devices bytes).polls := by
  cases bytes with
  | nil => exact absurd rfl h
  | cons byte bytes =>
      exact Nat.lt_of_lt_of_le (devices.polls_lt_writeByte byte) (polls_le_writeBytes bytes _)

end Devices

namespace Console

/-- How often the serial line was looked at. -/
def polls (console : Console) : Nat :=
  console.devices.polls

/-- Every line is noticed, if only by its end. -/
theorem polls_lt_lines (console : Console) (shown sent : List String) :
    console.polls < ((console.screenLine shown).serialLine sent).polls := by
  have hend : ["\r\n"].flatMap textBytes ≠ [] := by decide
  have hsent : (sent ++ ["\r\n"]).flatMap textBytes ≠ [] := by
    rw [List.flatMap_append]
    exact List.append_ne_nil_of_right_ne_nil _ hend
  rw [serialLine_screenLine]
  exact Devices.polls_lt_writeBytes hsent console.devices

theorem polls_lt_infoNumber (console : Console) (key : String) (value : Nat) :
    console.polls < (console.infoNumber key value).polls := by
  rw [infoNumber, logValue]
  split <;> exact console.polls_lt_lines _ _

end Console

/-! ### Complaints -/

namespace KernelM

variable {μ : Type}

/-- The computation writes to the log, if it returns, where something is wrong, and does nothing
where all is well. -/
structure Reports (act : KernelM μ Unit) (wrong : Prop) : Prop where
  quiet : ¬ wrong → ∀ w, act w = .ok () w
  loud : wrong → ∀ w w', act w = .ok () w' → w.board.console.polls < w'.board.console.polls

section Rules

variable {act first next : KernelM μ Unit} {wrong wrong' : Prop}

theorem Reports.silent_iff (h : Reports act wrong) (w : World μ) : act w = .ok () w ↔ ¬ wrong := by
  constructor
  · intro hsilent hwrong
    exact Nat.lt_irrefl _ (h.loud hwrong w w hsilent)
  · exact fun hwell => h.quiet hwell w

theorem Reports.congr (h : Reports act wrong) (hiff : wrong ↔ wrong') : Reports act wrong' where
  quiet hwell := h.quiet fun hwrong => hwell (hiff.mp hwrong)
  loud hwrong := h.loud (hiff.mpr hwrong)

theorem reports_pure : Reports (pure () : KernelM μ Unit) False :=
  ⟨fun _ _ => rfl, False.elim⟩

theorem reports_log {change : Console → Console}
    (hchange : ∀ console : Console, console.polls < (change console).polls) :
    Reports (HasConsole.onConsole change : KernelM μ Unit) True where
  quiet hwell := absurd trivial hwell
  loud _ w w' h := by
    cases h
    exact hchange w.board.console

theorem Reports.polls_le (h : Reports act wrong) {w w' : World μ} (hact : act w = .ok () w') :
    w.board.console.polls ≤ w'.board.console.polls := by
  by_cases hwrong : wrong
  · exact Nat.le_of_lt (h.loud hwrong w w' hact)
  · cases (h.quiet hwrong w).symm.trans hact
    exact Nat.le_refl _

theorem Reports.bind (hfirst : Reports first wrong) (hnext : Reports next wrong') :
    Reports (first >>= fun _ => next) (wrong ∨ wrong') where
  quiet hwell w := by
    rw [not_or] at hwell
    exact (bind_of_ok (hfirst.quiet hwell.1 w)).trans (hnext.quiet hwell.2 w)
  loud hwrong w w' h := by
    obtain ⟨_, w₁, h₁, h₂⟩ := Run.exists_of_bind_eq_ok h
    have hle₁ := hfirst.polls_le h₁
    have hle₂ := hnext.polls_le h₂
    rcases hwrong with hwrong | hwrong
    · have hlt := hfirst.loud hwrong w w₁ h₁
      omega
    · have hlt := hnext.loud hwrong w₁ w' h₂
      omega

theorem reports_if {c : Prop} [Decidable c] (h : Reports act wrong) :
    Reports (if c then act else pure ()) (c ∧ wrong) := by
  split
  · next hc => exact h.congr ⟨fun hwrong => ⟨hc, hwrong⟩, And.right⟩
  · next hc => exact reports_pure.congr ⟨False.elim, fun h => hc h.1⟩

/-- A computation that cannot come to its end has nothing to report. -/
theorem reports_panic {α : Type} (cause : Panic) (after : α → KernelM μ Unit) :
    Reports (liftM (.error cause : Except Panic α) >>= after) True where
  quiet hwell := absurd trivial hwell
  loud _ w w' h := by cases h

theorem reports_forM {α : Type} {step : α → KernelM μ Unit} {wrong : α → Prop} {items : List α}
    (h : ∀ item ∈ items, Reports (step item) (wrong item)) :
    Reports (items.forM step) (∃ item ∈ items, wrong item) := by
  induction items with
  | nil => exact reports_pure.congr (by simp)
  | cons item items ih =>
      have hrest := ih fun other hother => h other (List.mem_cons_of_mem _ hother)
      exact ((h item List.mem_cons_self).bind hrest).congr (by simp)

end Rules

/-! ### The check -/

/-- Complain with the number of a process. -/
def complain (message key : String) (process : Nat) : KernelM μ Unit := do
  Report.error message
  Report.number key process

theorem reports_complain (message key : String) (process : Nat) :
    Reports (complain (μ := μ) message key process) True :=
  ((reports_log fun console => console.polls_lt_lines _ _).bind
    (reports_log fun console => console.polls_lt_infoNumber key process)).congr (or_self_iff)

section Parts

variable (k : Kernel)

def checkActive : KernelM μ Unit :=
  if k.config.processCount ≤ k.active then
    complain "INVARIANT VIOLATION: active process out of range" " active" k.active
  else
    pure ()

def checkWindow : KernelM μ Unit :=
  if k.tablesBuilt then do
    unless ← k.windowMatchesActive do
      complain "INVARIANT VIOLATION: window is not mapped to the active slot" " active" k.active
  else
    pure ()

def checkContext (ctx : Context) (process : Nat) : KernelM μ Unit := do
  if let .error _ := ctx.validate k.config.window then
    complain "INVARIANT VIOLATION: context of a replicated process is not restorable" " process"
      process

def checkContexts : KernelM μ Unit :=
  if k.replicated then
    (k.processContexts.zipIdx.drop 1).forM fun (ctx, process) => checkContext k ctx process
  else
    pure ()

def checkSingle : KernelM μ Unit :=
  if !k.config.isMultiprocess && (k.replicated || k.active != 0) then
    Report.error "INVARIANT VIOLATION: single-process configuration was mutated"
  else
    pure ()

theorem guarded_bind (c : Prop) [Decidable c] (act : KernelM μ Unit) (next : Unit → KernelM μ Unit) :
    (if c then act else pure ()) >>= next = if c then act >>= next else next () := by
  split
  · rfl
  · exact pure_bind () next

theorem unless_bind (c : Prop) [Decidable c] (act : KernelM μ Unit) (next : Unit → KernelM μ Unit) :
    (if c then pure () else act) >>= next = if c then next () else act >>= next := by
  split
  · exact pure_bind () next
  · rfl

/-- The check asks for its four rules one after the other. -/
theorem check_eq : check (μ := μ) = (do
    let k ← kernel
    checkActive k
    checkWindow k
    checkContexts k
    checkSingle k) := by
  simp only [checkActive, checkWindow, checkContexts, checkContext, checkSingle, complain,
    guarded_bind, unless_bind, bind_assoc]
  rfl

end Parts

end KernelM

namespace Kernel

variable {k : Kernel}

/-- None of the rules of the check is broken. -/
structure InOrder (k : Kernel) : Prop where
  active_lt : k.active < k.config.processCount
  shows : k.tablesBuilt = true → k.Shows k.active
  /-- The context of the first process is not looked at, whether or not that process runs. -/
  restorable : k.replicated = true → ∀ p, 1 ≤ p → p < k.config.processCount →
    (k.context p).validate k.config.window = .ok ()
  single : k.config.isMultiprocess = false → k.replicated = false ∧ k.active = 0

theorem windowMatchesActive_iff (hactive : k.active < k.config.processCount) :
    k.windowMatchesActive = .ok true ↔ k.Shows k.active := by
  have hcount : k.config.processCount ≤ 8 := k.config.processCount_le
  constructor
  · intro hmatches
    rw [windowMatchesActive, slotBase_eq (by omega)] at hmatches
    have hall : k.config.window.pages.all (k.showsSlot ⟨UInt32.ofNat (256 * k.active)⟩) = true :=
      Except.ok.inj hmatches
    refine ⟨hactive, fun page hpage => ?_⟩
    have hrange := k.config.mem_pages.mp hpage
    have hshown := List.all_eq_true.mp hall page hpage
    rw [showsSlot, add?_slotBase (by omega), if_pos (by omega)] at hshown
    cases hentry : k.paging.entry? page with
    | none =>
        rw [hentry] at hshown
        cases hshown
    | some entry =>
        rw [hentry] at hshown
        rw [Bool.and_eq_true, beq_iff_eq] at hshown
        exact ⟨entry, rfl, hshown⟩
  · intro hshows
    rw [Kernel.windowMatchesActive_eq hactive hactive hshows.2, decide_eq_true rfl]

theorem mem_waitingContexts {ctx : Context} {p : Nat} :
    (ctx, p) ∈ k.processContexts.zipIdx.drop 1 ↔
      1 ≤ p ∧ p < k.config.processCount ∧ ctx = k.context p := by
  have hcount : k.config.processCount ≤ 8 := k.config.processCount_le
  have hmaxed : p < k.config.processCount → p < maxProcesses := fun hp =>
    Nat.lt_of_lt_of_le hp hcount
  simp only [List.mem_iff_getElem?, List.getElem?_drop, List.getElem?_zipIdx, processContexts,
    List.getElem?_take, Option.map_eq_some_iff, Prod.mk.injEq]
  constructor
  · rintro ⟨i, found, hfound, rfl, rfl⟩
    split at hfound
    · next hlt =>
      rw [Vector.getElem?_toList] at hfound
      refine ⟨by omega, by omega, ?_⟩
      rw [context, Nat.zero_add, hfound, Option.getD_some]
    · cases hfound
  · rintro ⟨hlow, hhigh, rfl⟩
    refine ⟨p - 1, k.context p, ?_, rfl, by omega⟩
    rw [Nat.add_sub_of_le hlow, if_pos hhigh, Vector.getElem?_toList, context,
      Vector.getElem?_eq_getElem (hmaxed hhigh), Option.getD_some]

end Kernel

namespace KernelM

variable (k : Kernel)

theorem reports_checkActive :
    Reports (checkActive (μ := μ) k) (k.config.processCount ≤ k.active) :=
  (reports_if (reports_complain _ _ _)).congr (and_iff_left trivial)

theorem reports_checkWindow :
    Reports (checkWindow (μ := μ) k)
      (k.tablesBuilt = true ∧ k.windowMatchesActive ≠ .ok true) := by
  apply reports_if
  cases hmatches : k.windowMatchesActive with
  | error cause => exact (reports_panic cause _).congr (by simp)
  | ok matching =>
      cases matching with
      | true => exact reports_pure.congr (by simp)
      | false => exact (reports_complain _ _ _).congr (by simp)

theorem reports_checkContext (ctx : Context) (process : Nat) :
    Reports (checkContext (μ := μ) k ctx process) (ctx.validate k.config.window ≠ .ok ()) := by
  rw [checkContext]
  cases hvalid : ctx.validate k.config.window with
  | error error => exact (reports_complain _ _ _).congr (by simp)
  | ok _ => exact reports_pure.congr (by simp)

theorem reports_checkContexts :
    Reports (checkContexts (μ := μ) k) (k.replicated = true ∧
      ∃ item ∈ k.processContexts.zipIdx.drop 1, item.1.validate k.config.window ≠ .ok ()) :=
  reports_if (reports_forM fun item _ => reports_checkContext k item.1 item.2)

theorem reports_checkSingle :
    Reports (checkSingle (μ := μ) k)
      ((!k.config.isMultiprocess && (k.replicated || k.active != 0)) = true) :=
  (reports_if (reports_log fun console => console.polls_lt_lines _ _)).congr
    (and_iff_left trivial)

/-- The check says nothing and changes nothing exactly while the kernel is in order. -/
theorem check_silent_iff (w : World μ) : check w = .ok () w ↔ w.kernel.InOrder := by
  have hrules := ((reports_checkActive (μ := μ) w.kernel).bind ((reports_checkWindow w.kernel).bind
    ((reports_checkContexts w.kernel).bind (reports_checkSingle w.kernel)))).silent_iff w
  rw [check_eq]
  refine hrules.trans ?_
  simp only [not_or, not_and, Nat.not_le, not_exists, not_not, Prod.forall,
    Kernel.mem_waitingContexts]
  constructor
  · rintro ⟨hactive, hwindow, hcontexts, hsingle⟩
    refine ⟨hactive, fun hbuilt => ?_, fun hreplicated p hlow hhigh => ?_, fun hone => ?_⟩
    · exact (Kernel.windowMatchesActive_iff hactive).mp (hwindow hbuilt)
    · exact hcontexts hreplicated _ p ⟨hlow, hhigh, rfl⟩
    · simpa [hone] using hsingle
  · intro h
    refine ⟨h.active_lt, fun hbuilt => ?_, fun hreplicated ctx p hctx => ?_, ?_⟩
    · exact (Kernel.windowMatchesActive_iff h.active_lt).mpr (h.shows hbuilt)
    · obtain ⟨hlow, hhigh, rfl⟩ := hctx
      exact h.restorable hreplicated p hlow hhigh
    · have hsingle := h.single
      cases hmulti : w.kernel.config.isMultiprocess with
      | true => simp
      | false => simpa [hmulti] using hsingle hmulti

end KernelM

/-! ### Switching after a silent check -/

namespace Kernel

variable {k : Kernel} {target : Nat}

/-- The kernel with another context for its first process. -/
def withFirst (k : Kernel) (ctx : Context) : Kernel :=
  { k with contexts := k.contexts.setIfInBounds 0 ctx }

theorem context_withFirst (k : Kernel) (ctx : Context) : (k.withFirst ctx).context 0 = ctx := by
  have hbound : 0 < maxProcesses := by decide
  simp [context, withFirst, hbound]

/-- After a boot that forked, no rule is broken. -/
theorem Forked.inOrder {config : Config} (h : k.Forked config) (hfirst : k.active = 0)
    (hmulti : config.isMultiprocess = true) : k.InOrder where
  active_lt := h.up.active_lt
  shows _ := h.up.shows
  restorable hreplicated p hlow hhigh := h.up.restorable hreplicated p hhigh (by omega)
  single hone := by
    rw [h.config_eq] at hone
    cases hone.symm.trans hmulti

/-- A window that shows a slot on all of its pages shows the slot that it is moved to. -/
theorem Shows.switchedTo (h : k.Shows k.active) (ctx : Context)
    (htarget : target < k.config.processCount) : (k.switchedTo ctx target).Shows target := by
  have hcount : k.config.processCount ≤ 8 := k.config.processCount_le
  refine ⟨htarget, fun page hpage => ?_⟩
  have hrange := k.config.mem_pages.mp hpage
  obtain ⟨entry, hentry, hpresent, -⟩ := h.2 page hpage
  have hnumber : (slotFrame target page).number.toNat < 2 ^ 20 := by
    rw [number_slotFrame (by omega) (by omega)]
    omega
  refine ⟨entry.setFrame (slotFrame target page), ?_, ?_, TableEntry.frame_setFrame _ hnumber⟩
  · exact (PageTables.entry?_edit_moveEdits hpage target).trans (by rw [hentry, Option.map_some])
  · rw [TableEntry.isPresent_setFrame, hpresent]

namespace InOrder

variable (h : k.InOrder)

include h

theorem noted (event : Event) : (k.pushEvent event).InOrder :=
  { h with }

/-- The context of the first process may be anything. -/
theorem withFirst (ctx : Context) : (k.withFirst ctx).InOrder := by
  refine { h with restorable := fun hreplicated p hlow hhigh => ?_ }
  have hother : (k.withFirst ctx).context p = k.context p := by
    rw [context, Kernel.withFirst, Vector.getElem?_setIfInBounds_ne (by omega)]
    rfl
  rw [hother]
  exact h.restorable hreplicated p hlow hhigh

variable (htarget : target < k.config.processCount)

include htarget

theorem switchedTo (hbuilt : k.tablesBuilt = true) {ctx : Context}
    (hctx : ctx.validate k.config.window = .ok ()) : (k.switchedTo ctx target).InOrder where
  active_lt := htarget
  shows _ := (h.shows hbuilt).switchedTo ctx htarget
  restorable hreplicated p hlow hhigh := by
    change ((k.saved ctx).context p).validate k.config.window = .ok ()
    by_cases hold : p = k.active
    · subst hold
      rwa [context_saved_self (Nat.lt_of_lt_of_le hhigh k.config.processCount_le)]
    · rw [context_saved_ne hold]
      exact h.restorable hreplicated p hlow hhigh
  single hone := by
    have hsingle : ¬ 2 ≤ k.config.processCount := of_decide_eq_false hone
    refine ⟨(h.single hone).1, ?_⟩
    change target = 0
    omega

variable (hreplicated : k.replicated = true) (hne : target ≠ k.active)

include hreplicated hne

theorem leaves : k.Leaves target :=
  ⟨h.active_lt, htarget, hne, hreplicated⟩

theorem departs (hbuilt : k.tablesBuilt = true)
    (hvalid : target ≠ 0 ∨ (k.context 0).validate k.config.window = .ok ()) :
    k.Departs target := by
  refine ⟨h.leaves htarget hreplicated hne, h.shows hbuilt, ?_⟩
  by_cases hfirst : target = 0
  · subst hfirst
    exact hvalid.resolve_left (fun hnot => hnot rfl)
  · exact h.restorable hreplicated target (Nat.pos_of_ne_zero hfirst) htarget

end InOrder

end Kernel

open KernelM

namespace Simulated

/-- Nothing that the check does not look at stands in the way of a switch: there is nothing to
switch, or the process is back, or else the machine has a context for the capture and the first
process, if it is the target, has one that can be restored. -/
def Unhindered (m : Simulated) (k : Kernel) (target : Nat) : Prop :=
  target = k.active ∨ m.resumeNext = true ∨
    (∃ ctx, capturedContext (m.captures + 1) = .ok ctx) ∧
      (target ≠ 0 ∨ (k.context 0).validate k.config.window = .ok ())

variable {k : Kernel} {m : Simulated} {target : Nat}

/-- A target whose context cannot be restored is found out once the own context was saved. -/
theorem stops_switchTo_badContext (h : k.Leaves target) (hresume : m.resumeNext = false)
    {ctx : Context} (hctx : capturedContext (m.captures + 1) = .ok ctx) {error : ContextError}
    (hinvalid : (k.context target).validate k.config.window = .error error) :
    Stops (switchTo target) k m (.panicked (.badContext error)) (k.saved ctx)
      m.masked.captured := by
  obtain ⟨limit, hlimit, -⟩ := k.config.identityMappedPages_eq
  have hinvalid' : ((k.saved ctx).context target).validate (k.saved ctx).config.window =
      .error error := by
    rw [Kernel.context_saved_ne h.ne]
    exact hinvalid
  have harrive : Stops (arrive k.active target limit ctx) k m.masked.captured
      (.panicked (.badContext error)) (k.saved ctx) m.masked.captured := by
    refine (returns_modifyKernel _).bind ?_
    refine (returns_trace _).bind ?_
    exact (stops_checkedContext hinvalid').bind_stop
  have hdepart : Stops (depart target limit) k m.masked (.panicked (.badContext error))
      (k.saved ctx) m.masked.captured := by
    rw [depart_eq]
    refine (returns_outgoing h.active_lt_max).bind ?_
    refine (returns_machine (capture_saved (m := m.masked) hresume hctx)).bind ?_
    exact harrive.bind_stop
  exact stops_switchTo h.not_skipped h.runnable hlimit
    (stops_withoutInterrupts (mask_eq m) hdepart)

section Switch

variable (horder : k.InOrder) (hbuilt : k.tablesBuilt = true) (hreplicated : k.replicated = true)
  (htarget : target < k.config.processCount)

include horder hbuilt hreplicated htarget

theorem returns_switchTo_unhindered (h : m.Unhindered k target) :
    ∃ outcome k' m', Returns (switchTo target) k m outcome k' m' ∧ k'.InOrder := by
  by_cases hne : target = k.active
  · subst hne
    exact ⟨_, k, m, returns_switchTo_self, horder⟩
  · cases hresume : m.resumeNext with
    | true =>
        exact ⟨_, _, _, returns_switchTo_resumed (horder.leaves htarget hreplicated hne) hresume,
          horder.noted _⟩
    | false =>
        obtain hself | hback | ⟨⟨ctx, hctx⟩, hvalid⟩ := h
        · exact absurd hself hne
        · cases hresume.symm.trans hback
        · have hdeparts := horder.departs htarget hreplicated hne hbuilt hvalid
          exact ⟨_, _, _, returns_switchTo_transferred hdeparts hresume hctx,
            horder.switchedTo htarget hbuilt (validate_capturedContext k.config hctx)⟩

omit hbuilt in
theorem stops_switchTo_hindered (h : ¬ m.Unhindered k target) :
    ∃ cause k' m', Stops (switchTo target) k m (.panicked cause) k' m' := by
  simp only [Unhindered, not_or, not_and_or, not_not, Bool.not_eq_true] at h
  obtain ⟨hne, hresume, hfault⟩ := h
  have hleaves := horder.leaves htarget hreplicated hne
  cases hctx : capturedContext (m.captures + 1) with
  | error cause => exact ⟨_, _, _, stops_switchTo_captured hleaves hresume hctx⟩
  | ok ctx =>
      rcases hfault with hnone | ⟨hfirst, hvalid⟩
      · exact absurd ⟨ctx, hctx⟩ hnone
      · subst hfirst
        cases hinvalid : (k.context 0).validate k.config.window with
        | ok _ => exact absurd hinvalid hvalid
        | error error =>
            exact ⟨_, _, _, stops_switchTo_badContext hleaves hresume hctx hinvalid⟩

end Switch

end Simulated

end SlotKernel

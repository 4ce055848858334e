import SlotKernel.Proofs.Edits

/-!
Page tables that are changed in place. An operation that checks first and changes afterwards is
written elsewhere as a function to new tables, and a refusal has no tables at all. Here its loops
run over one state: looking at the tables leaves them as they are, however much is looked at, and a
step that is refused leaves what the steps before it have changed. So that a refused operation has
changed nothing is something to be proved, and it comes down to its second loop being refused
nowhere.
-/

namespace SlotKernel

section Bind

variable {ε σ α β : Type} {act : EStateM ε σ α} {next : α → EStateM ε σ β} {s s' : σ}

theorem bind_of_ok {a : α} (h : act s = .ok a s') : (act >>= next) s = next a s' := by
  change EStateM.bind act next s = _
  unfold EStateM.bind
  rw [h]

theorem bind_of_error {error : ε} (h : act s = .error error s') :
    (act >>= next) s = .error error s' := by
  change EStateM.bind act next s = _
  unfold EStateM.bind
  rw [h]

end Bind

namespace PageTables

variable {ε α β : Type}

/-- Look at the tables. -/
def look (read : PageTables → Except ε α) : EStateM ε PageTables α := fun s =>
  match read s with
  | .ok a => .ok a s
  | .error error => .error error s

/-- Take a step on the tables. -/
def change (step : PageTables → Except ε PageTables) : EStateM ε PageTables Unit := fun s =>
  match step s with
  | .ok s' => .ok () s'
  | .error error => .error error s

section Look

variable {read : PageTables → Except ε α} {s : PageTables}

theorem look_of_ok {a : α} (h : read s = .ok a) : look read s = .ok a s := by
  rw [look, h]

theorem look_of_error {error : ε} (h : read s = .error error) : look read s = .error error s := by
  rw [look, h]

/-- Looking twice is looking once. -/
theorem look_bind (read : PageTables → Except ε α) (readNext : α → PageTables → Except ε β) :
    (look read >>= fun a => look (readNext a)) = look fun s => read s >>= (readNext · s) := by
  funext s
  cases hread : read s with
  | error error =>
      rw [bind_of_error (look_of_error hread), look, hread]
      rfl
  | ok a =>
      rw [bind_of_ok (look_of_ok hread), look, look, hread]
      rfl

/-- A loop of checks is one look, whatever the checks find. -/
theorem forM_look (check : PageTables → α → Except ε Unit) (items : List α) :
    (items.forM fun item => look (check · item)) = look fun s => items.forM (check s) := by
  induction items with
  | nil => rfl
  | cons item items ih =>
      change (look (check · item) >>= fun _ => items.forM fun item => look (check · item)) = _
      rw [ih]
      exact look_bind _ _

/-- So is a loop that collects what it reads. -/
theorem mapM_look (read : PageTables → α → Except ε β) (items : List α) :
    (items.mapM fun item => look (read · item)) = look fun s => items.mapM (read s) := by
  induction items with
  | nil => rfl
  | cons item items ih =>
      have hrest (b : β) : ((items.mapM fun item => look (read · item)) >>= fun bs =>
          pure (b :: bs)) = look fun s => items.mapM (read s) >>= fun bs => pure (b :: bs) := by
        rw [ih]
        exact look_bind _ fun bs _ => .ok (b :: bs)
      simp only [List.mapM_cons, hrest]
      exact look_bind _ _

end Look

/-- A loop of steps none of which is refused. -/
theorem forM_change {step : PageTables → α → Except ε PageTables} {items : List α}
    {s s' : PageTables} (h : items.foldlM step s = .ok s') :
    (items.forM fun item => change (step · item)) s = .ok () s' := by
  induction items generalizing s with
  | nil =>
      cases h
      rfl
  | cons item items ih =>
      rw [List.foldlM_cons] at h
      obtain ⟨next, hnext, hrest⟩ := exists_of_bind_eq_ok h
      have hitem : change (step · item) s = .ok () next := by rw [change, hnext]
      exact (bind_of_ok hitem).trans (ih hrest)

end PageTables

end SlotKernel

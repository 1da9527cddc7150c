import Mathlib.Data.List.Basic
import Mathlib.Data.Option.Basic

/-!
# Labelled machines and their runs

A concurrent program is modelled here as a **machine**: a partial step
function whose label resolves every choice – which thread moves, what the
kernel answers, whether a device call fails. A run is a list of labels all
of whose steps are enabled.

Two things make the notion useful. A step carries a guard `ok`, a predicate
on the state before the step and the label, so that "in every run whose
steps all meet a condition" is a run under that guard and the plain runs are
those under the guard that always holds. And the induction over runs is done
once (`Run.invariant`), so that a safety result is a statement about the
initial state and one about a single step.
-/

variable {σ α : Type}

/-- **A machine**: `step s a` is the state the label `a` leads to from `s`,
or `none` where that label is not enabled. -/
abbrev Machine (σ α : Type) := σ → α → Option σ

namespace Machine

/-- **A guarded run**: the labels are taken in order, each from a state in
which the guard `ok` holds of it. -/
inductive Run (step : Machine σ α) (ok : σ → α → Prop) : σ → List α → σ → Prop
  | nil (s : σ) : Run step ok s [] s
  | cons {s s' s'' : σ} {a : α} {as : List α} (hok : ok s a)
      (hstep : step s a = some s') (hrun : Run step ok s' as s'') :
      Run step ok s (a :: as) s''

/-- The guard of an unrestricted run. -/
def always : σ → α → Prop := fun _ _ => True

variable {step : Machine σ α} {ok : σ → α → Prop}

/-- **The invariant rule**: what holds at the start and is kept by every
step the guard admits holds at the end of every run. -/
theorem Run.invariant {I : σ → Prop}
    (hstep : ∀ s a s', I s → ok s a → step s a = some s' → I s')
    {s s' : σ} {as : List α} (hrun : Run step ok s as s') (hs : I s) : I s' := by
  induction hrun with
  | nil s => exact hs
  | cons hok hst _ ih => exact ih (hstep _ _ _ hs hok hst)

/-- **A property of the steps**: what an invariant gives of every step of a
run is a guard that the run meets. -/
theorem Run.guard {I : σ → Prop} {P : σ → α → Prop}
    (hstep : ∀ s a s', I s → ok s a → step s a = some s' → I s' ∧ P s a)
    {s s' : σ} {as : List α} (hrun : Run step ok s as s') (hs : I s) : Run step P s as s' := by
  induction hrun with
  | nil s => exact Run.nil s
  | cons hok hst _ ih =>
    obtain ⟨hI, hP⟩ := hstep _ _ _ hs hok hst
    exact Run.cons hP hst (ih hI)

/-- **The rank rule**: where every step lowers a rank, a run has no more steps
than the rank it starts with. -/
theorem Run.length_add_le {I : σ → Prop} {rank : σ → ℕ}
    (hstep : ∀ s a s', I s → ok s a → step s a = some s' → I s' ∧ rank s' < rank s)
    {s s' : σ} {as : List α} (hrun : Run step ok s as s') (hs : I s) :
    as.length + rank s' ≤ rank s := by
  induction hrun with
  | nil s => simp
  | cons hok hst _ ih =>
    obtain ⟨hI, hlt⟩ := hstep _ _ _ hs hok hst
    have hrest := ih hI
    rw [List.length_cons]
    omega

/-- A run extended by one step. -/
theorem Run.snoc {s s' s'' : σ} {as : List α} {a : α} (hrun : Run step ok s as s')
    (hok : ok s' a) (hst : step s' a = some s'') :
    Run step ok s (as ++ [a]) s'' := by
  induction hrun with
  | nil s => exact Run.cons hok hst (Run.nil _)
  | cons hok' hst' _ ih => exact Run.cons hok' hst' (ih hok hst)

/-- Two runs, one behind the other. -/
theorem Run.append {s s' s'' : σ} {as bs : List α} (hrun : Run step ok s as s')
    (hrun' : Run step ok s' bs s'') : Run step ok s (as ++ bs) s'' := by
  induction hrun with
  | nil s => exact hrun'
  | cons hok hst _ ih => exact Run.cons hok hst (ih hrun')

/-- The last step of a run. -/
theorem Run.of_snoc {s s'' : σ} {as : List α} {a : α} (hrun : Run step ok s (as ++ [a]) s'') :
    ∃ s', Run step ok s as s' ∧ ok s' a ∧ step s' a = some s'' := by
  induction as generalizing s with
  | nil =>
    cases hrun with
    | cons hok hst hrest =>
      cases hrest
      exact ⟨s, Run.nil s, hok, hst⟩
  | cons b as ih =>
    cases hrun with
    | cons hok hst hrest =>
      obtain ⟨s', hrun', hok', hst'⟩ := ih hrest
      exact ⟨s', Run.cons hok hst hrun', hok', hst'⟩

/-- Weakening the guard keeps the run. -/
theorem Run.mono {ok' : σ → α → Prop} (h : ∀ s a, ok s a → ok' s a) {s s' : σ}
    {as : List α} (hrun : Run step ok s as s') : Run step ok' s as s' := by
  induction hrun with
  | nil s => exact Run.nil s
  | cons hok hst _ ih => exact Run.cons (h _ _ hok) hst ih

/-- A run whose labels the guard admits in any state. -/
theorem Run.of_labels {s s' : σ} {as : List α} (hrun : Run step always s as s')
    (h : ∀ a ∈ as, ∀ s, ok s a) : Run step ok s as s' := by
  induction hrun with
  | nil s => exact Run.nil s
  | cons _ hst _ ih =>
    obtain ⟨ha, has⟩ := List.forall_mem_cons.mp h
    exact Run.cons (ha _) hst (ih has)

/-- **Executing a schedule**: the state a list of labels leads to. -/
def exec (step : Machine σ α) : σ → List α → Option σ
  | s, [] => some s
  | s, a :: as => (step s a).bind (fun s' => exec step s' as)

/-- Nothing is executed. -/
@[simp] theorem exec_nil (s : σ) : exec step s [] = some s := rfl

/-- The first label, and then the others. -/
@[simp] theorem exec_cons (s : σ) (a : α) (as : List α) :
    exec step s (a :: as) = (step s a).bind (fun s' => exec step s' as) := rfl

/-- The schedules that execute are the unrestricted runs, so that a
concrete run is found by evaluation. -/
theorem run_iff_exec {s s' : σ} {as : List α} :
    Run step always s as s' ↔ exec step s as = some s' := by
  constructor
  · intro hrun
    induction hrun with
    | nil s => rfl
    | cons _ hst _ ih => rw [exec_cons, hst]; exact ih
  · induction as generalizing s with
    | nil =>
      intro h
      cases Option.some.inj h
      exact Run.nil _
    | cons a as ih =>
      intro h
      rw [exec_cons, Option.bind_eq_some_iff] at h
      obtain ⟨t, hst, hrest⟩ := h
      exact Run.cons trivial hst (ih hrest)

/-- **A guarded schedule executes as it does unguarded**, and the guard is
checked along it. -/
def execOk (step : Machine σ α) (ok : σ → α → Prop) [∀ s a, Decidable (ok s a)] :
    σ → List α → Option σ
  | s, [] => some s
  | s, a :: as =>
    if ok s a then (step s a).bind (fun s' => execOk step ok s' as) else none

/-- A guarded execution is a guarded run. -/
theorem run_of_execOk [∀ s a, Decidable (ok s a)] {s s' : σ} {as : List α}
    (h : execOk step ok s as = some s') : Run step ok s as s' := by
  induction as generalizing s with
  | nil =>
    cases Option.some.inj h
    exact Run.nil _
  | cons a as ih =>
    rw [execOk] at h
    split at h
    · next hok =>
      obtain ⟨t, hst, hrest⟩ := Option.bind_eq_some_iff.mp h
      exact Run.cons hok hst (ih hrest)
    · exact absurd h (by simp)

end Machine

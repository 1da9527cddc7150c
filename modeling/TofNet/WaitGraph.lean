import Mathlib.Data.Set.Basic

/-!
# Who waits for whom

A thread that waits does so for a lock, for another thread, or for a channel,
and there are certain threads that could end it. **A deadlock** is a set of
threads that all wait, each for threads of the set alone.

A thread is free if it does not wait, or if a thread that could end its
waiting is free. `exists_deadlocked_iff` says that there is a deadlock exactly
if there is a thread that is not free, so that the absence of a deadlock is
shown by finding, for each thread that waits, one to go on with.
-/

variable {θ : Type*}

/-- **Who waits**: for a thread that does, those that could end it. -/
abbrev WaitGraph (θ : Type*) := θ → Option (List θ)

namespace WaitGraph

variable {w : WaitGraph θ} {S : Set θ} {t : θ} {us : List θ}

/-- **A deadlock.** -/
structure Deadlocked (w : WaitGraph θ) (S : Set θ) : Prop where
  nonempty : S.Nonempty
  waits : ∀ t ∈ S, ∃ us, w t = some us ∧ ∀ u ∈ us, u ∈ S

/-- **The thread will go on**, if those do that do not wait. -/
inductive Free (w : WaitGraph θ) : θ → Prop
  | of_none {t : θ} (h : w t = none) : Free w t
  | of_mem {t u : θ} {us : List θ} (h : w t = some us) (hu : u ∈ us) (hfree : Free w u) : Free w t

/-- A thread that is free is in no deadlock. -/
theorem Free.not_mem (hfree : w.Free t) (h : w.Deadlocked S) : t ∉ S := by
  induction hfree with
  | of_none hnone =>
    intro hmem
    obtain ⟨us, hus, -⟩ := h.waits _ hmem
    rw [hnone] at hus
    cases hus
  | of_mem hsome hu _ ih =>
    intro hmem
    obtain ⟨us, hus, hall⟩ := h.waits _ hmem
    cases hsome.symm.trans hus
    exact ih (hall _ hu)

/-- The threads that are not free wait for one another. -/
theorem deadlocked_not_free (h : ¬ w.Free t) : w.Deadlocked {t | ¬ w.Free t} where
  nonempty := ⟨t, h⟩
  waits := by
    intro u hu
    cases hw : w u with
    | none => exact absurd (.of_none hw) hu
    | some us => exact ⟨us, rfl, fun v hv hfree => hu (.of_mem hw hv hfree)⟩

/-- **There is a deadlock if a thread is not free**, and only then. -/
theorem exists_deadlocked_iff : (∃ S, w.Deadlocked S) ↔ ∃ t, ¬ w.Free t := by
  constructor
  · rintro ⟨S, hS⟩
    obtain ⟨t, ht⟩ := hS.nonempty
    exact ⟨t, fun hfree => hfree.not_mem hS ht⟩
  · rintro ⟨t, ht⟩
    exact ⟨_, deadlocked_not_free ht⟩

end WaitGraph

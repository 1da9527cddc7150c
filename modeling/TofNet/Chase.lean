import Mathlib.Data.Fintype.Pigeonhole
import Mathlib.Data.Option.Basic

/-!
# Going from one element to the next

A partial function on a type leads from an element to the next, until there is
none. In a finite type there is one way only not to come to an end, which is
to come back to an element that there was before: `ends_iff`.

The proof counts. If there is no end and no element comes twice, the elements at
the places `0, 1, 2, …` are all different, and there would be as many of them as
one likes in a finite type. In the other direction, an element that has come
back comes back again, any number of times, and so has another one behind it at
any distance (`after_mul`).
-/

namespace Chase

variable {α : Type} (next : α → Option α)

/-- The element `n` steps behind another. -/
def after : ℕ → Option α → Option α
  | 0, a => a
  | n + 1, a => (after n a).bind next

/-- There is an end. -/
def Ends (a : Option α) : Prop := ∃ n, after next n a = none

/-- **An element comes twice.** -/
def ComesBack (a : Option α) : Prop :=
  ∃ i j b, i < j ∧ after next i a = some b ∧ after next j a = some b

variable {next} {a : Option α}

theorem after_add (m n : ℕ) : after next (m + n) a = after next n (after next m a) := by
  induction n with
  | zero => rfl
  | succ n ih => exact congrArg (Option.bind · next) ih

/-- Behind the end there is nothing. -/
theorem after_none (n : ℕ) : after next n none = none := by
  induction n with
  | zero => rfl
  | succ n ih => rw [after, ih, Option.bind_none]

theorem after_eq_none_of_le {m n : ℕ} (hmn : m ≤ n) (h : after next m a = none) :
    after next n a = none := by
  obtain ⟨k, rfl⟩ := Nat.exists_eq_add_of_le hmn
  rw [after_add, h, after_none]

/-- What leads back to itself does so any number of times. -/
theorem after_mul {n : ℕ} (h : after next n a = a) (k : ℕ) : after next (k * n) a = a := by
  induction k with
  | zero => rw [Nat.zero_mul, after]
  | succ k ih => rw [Nat.succ_mul, after_add, ih, h]

/-- **The end is missed by coming back**, and by nothing else. -/
theorem ends_iff [Finite α] : Ends next a ↔ ¬ ComesBack next a := by
  constructor
  · rintro ⟨n, hn⟩ ⟨i, j, b, hij, hi, hj⟩
    obtain ⟨k, rfl⟩ := Nat.exists_eq_add_of_lt hij
    rw [Nat.add_assoc, after_add, hi] at hj
    have hfar : after next (i + n * (k + 1)) a = some b := by
      rw [after_add, hi, after_mul hj]
    have hle : n ≤ i + n * (k + 1) :=
      (Nat.le_mul_of_pos_right n (Nat.succ_pos k)).trans (Nat.le_add_left _ _)
    rw [after_eq_none_of_le hle hn] at hfar
    cases hfar
  · intro hback
    by_contra hends
    have hsome : ∀ n, ∃ b, after next n a = some b := fun n =>
      Option.ne_none_iff_exists'.mp (fun hnone => hends ⟨n, hnone⟩)
    choose visited hvisited using hsome
    -- infinitely many steps, and finitely many elements
    obtain ⟨i, j, hne, heq⟩ := Finite.exists_ne_map_eq_of_infinite visited
    rcases lt_or_gt_of_ne hne with hlt | hlt
    · exact hback ⟨i, j, visited i, hlt, hvisited i, heq ▸ hvisited j⟩
    · exact hback ⟨j, i, visited i, hlt, heq ▸ hvisited j, hvisited i⟩

end Chase

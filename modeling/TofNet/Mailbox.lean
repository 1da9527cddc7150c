import Mathlib.Data.List.Basic
import Mathlib.Data.List.Pairwise

/-!
# A box for the latest

A box holds one thing at most: what was put into it last, unless it has been
cleared or taken out since. A history lists what happened to a box, the newest
first, with what each attempt to take something out was told. It is
**consistent** if every attempt was told what was in the box.

That much decides everything about the box. What was taken is a subsequence of
what was put (`Consistent.sublist`), so that any order of the things put holds
of those taken; and what is put and neither replaced nor cleared is what is
taken next (`Consistent.took_put`).

The history has its newest event in front, since what is in the box depends on
that one alone: if it is a thing that was put, the thing is there, and otherwise
nothing is. All proofs are by induction on the history from its older end.
-/

variable {α : Type}

/-- Something that happens to a box. -/
inductive Mail (α : Type)
  | put (x : α)
  | clear
  /-- An attempt to take what is in it, and what it was told. -/
  | took (r : Option α)
  deriving DecidableEq, Repr

namespace Mail

/-- What is in the box after a history: only the newest event counts. -/
def pending : List (Mail α) → Option α
  | .put x :: _ => some x
  | .clear :: _ | .took _ :: _ | [] => none

/-- **Every attempt was told what was in the box.** -/
def Consistent : List (Mail α) → Prop
  | [] => True
  | .took r :: h => r = pending h ∧ Consistent h
  | .put _ :: h | .clear :: h => Consistent h

/-- What was put, in order. -/
def puts : List (Mail α) → List α
  | [] => []
  | .put x :: h => puts h ++ [x]
  | .clear :: h | .took _ :: h => puts h

/-- What was taken, in order. -/
def takes : List (Mail α) → List α
  | [] => []
  | .took (some x) :: h => takes h ++ [x]
  | .took none :: h | .clear :: h | .put _ :: h => takes h

variable {h later earlier : List (Mail α)} {x : α} {r : Option α} {R : α → α → Prop}

@[simp] theorem pending_put : pending (.put x :: h) = some x := rfl

@[simp] theorem pending_clear : pending (.clear :: h) = none := rfl

@[simp] theorem pending_took : pending (.took r :: h) = none := rfl

/-- What was taken and what is in the box come from what was put. -/
theorem Consistent.sublist_pending (hh : Consistent h) :
    (takes h ++ (pending h).toList).Sublist (puts h) := by
  induction h with
  | nil => exact List.Sublist.refl _
  | cons e h ih =>
    cases e with
    | put x =>
      show (takes h ++ [x]).Sublist (puts h ++ [x])
      exact ((List.sublist_append_left _ _).trans (ih hh)).append_right [x]
    | clear =>
      show (takes h ++ []).Sublist (puts h)
      rw [List.append_nil]
      exact (List.sublist_append_left _ _).trans (ih hh)
    | took r =>
      obtain ⟨hr, hh⟩ := hh
      have hsub := ih hh
      rw [← hr] at hsub
      cases r with
      | none =>
        show (takes h ++ []).Sublist (puts h)
        exact hsub
      | some x =>
        show ((takes h ++ [x]) ++ []).Sublist (puts h)
        rw [List.append_nil]
        exact hsub

/-- **What was taken is a subsequence of what was put.** -/
theorem Consistent.sublist (hh : Consistent h) : (takes h).Sublist (puts h) :=
  (List.sublist_append_left _ _).trans hh.sublist_pending

/-- An order of what was put puts what is in the box behind what was taken. -/
theorem Consistent.before_pending (hh : Consistent h) (hputs : (puts h).Pairwise R)
    (hx : pending h = some x) : ∀ y ∈ takes h, R y x := by
  have hpair := hputs.sublist hh.sublist_pending
  rw [hx] at hpair
  exact fun y hy => (List.pairwise_append.mp hpair).2.2 y hy x List.mem_cons_self

/-- The older part of a consistent history is consistent. -/
theorem Consistent.of_append (hh : Consistent (later ++ earlier)) : Consistent earlier := by
  induction later with
  | nil => exact hh
  | cons e later ih =>
    cases e with
    | put x => exact ih hh
    | clear => exact ih hh
    | took r => exact ih hh.2

/-- **What is put is what is taken next**, with nothing in between. -/
theorem Consistent.took_put (hh : Consistent (later ++ .took r :: .put x :: earlier)) :
    r = some x := hh.of_append.1

end Mail

import Mathlib.Data.List.Perm.Basic
import Mathlib.Data.List.Range
import Mathlib.Data.List.Nodup

/-!
# A ledger of what is acquired and released

A program acquires resources – descriptors, mappings, blocks of memory – and
keeps the handles it is given in its data. Whether it leaks one or releases
one twice is a question about the handles that its data still refers to and
those that have been released: together they are to be all that were ever
acquired, each once. `Accounts` says so as one permutation, which is what
makes it compositional: the handles of one part of the data can be exchanged
for others while the rest, whatever it is, stays.

Handles are numbers that are never given out again, so that a handle released
twice is in the ledger twice, even where a system would have reused it.

`Accounts` is kept by the two operations, under a condition on each: a handle
that is acquired has to be kept somewhere in the data, and a handle that is
released must not be in it any longer. A program then shows for each of its
steps what it does to the handles in its data; that nothing is released twice
follows once and for all (`nodup_released`).
-/

/-- **The ledger**: the next handle, and the handles that were released. -/
structure Ledger where
  /-- The next handle. -/
  next : ℕ := 0
  /-- The handles that were released, with repetitions. -/
  released : List ℕ := []
  deriving DecidableEq, Repr

namespace Ledger

/-- A resource is acquired; its handle is the old `next`. -/
def acquire (l : Ledger) : Ledger := { l with next := l.next + 1 }

/-- Handles are released, in turn. -/
def releaseAll (l : Ledger) (handles : List ℕ) : Ledger :=
  { l with released := handles.reverse ++ l.released }

/-- **Every handle is accounted for**: those in use and those released are all
that were acquired, each once. -/
def Accounts (l : Ledger) (used : List ℕ) : Prop :=
  (used ++ l.released).Perm (List.range l.next)

variable {l : Ledger} {used used' handles rest : List ℕ} {h : ℕ}

theorem accounts_initial : ({} : Ledger).Accounts [] := List.Perm.refl _

/-- The order of the handles in use does not matter. -/
theorem Accounts.perm (hl : l.Accounts used) (hused : used'.Perm used) : l.Accounts used' :=
  (hused.append_right l.released).trans hl

/-- An acquired handle has to be kept. -/
theorem Accounts.acquire (hl : l.Accounts used) : l.acquire.Accounts (l.next :: used) := by
  show (l.next :: (used ++ l.released)).Perm (List.range (l.next + 1))
  rw [List.range_succ]
  exact (hl.cons l.next).trans (List.perm_append_singleton _ _).symm

/-- **Released handles must no longer be used.** -/
theorem Accounts.releaseAll (hl : l.Accounts (handles ++ rest)) :
    (l.releaseAll handles).Accounts rest := by
  show (rest ++ (handles.reverse ++ l.released)).Perm (List.range l.next)
  have hswap : (rest ++ (handles.reverse ++ l.released)).Perm
      ((handles ++ rest) ++ l.released) := by
    rw [← List.append_assoc]
    refine List.Perm.append_right _ ?_
    exact List.perm_append_comm.trans ((List.reverse_perm handles).append_right rest)
  exact hswap.trans hl

/-- No handle is released twice. -/
theorem Accounts.nodup_released (hl : l.Accounts used) : l.released.Nodup :=
  (List.nodup_append'.mp (hl.nodup_iff.mpr List.nodup_range)).2.1

/-- **A handle is in use or has been released**, and not both. -/
theorem Accounts.exclusive (hl : l.Accounts used) (hh : h < l.next) :
    (h ∈ used ∧ h ∉ l.released) ∨ (h ∉ used ∧ l.released.count h = 1) := by
  have hmem : h ∈ used ++ l.released := hl.symm.subset (List.mem_range.mpr hh)
  have hdisjoint : used.Disjoint l.released :=
    List.disjoint_of_nodup_append (hl.nodup_iff.mpr List.nodup_range)
  rcases List.mem_append.mp hmem with hused | hreleased
  · exact .inl ⟨hused, hdisjoint hused⟩
  · exact .inr ⟨fun hused => hdisjoint hused hreleased,
      List.count_eq_one_of_mem hl.nodup_released hreleased⟩

/-- Handles in use were acquired. -/
theorem Accounts.lt_of_mem (hl : l.Accounts used) (hh : h ∈ used) : h < l.next :=
  List.mem_range.mp (hl.subset (List.mem_append_left _ hh))

end Ledger

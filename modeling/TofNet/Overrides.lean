import Mathlib.Data.List.Induction
import TofNet.Transition

/-!
# Settings that are overridden

A table of settings gives some keys a value and leaves the others out. Where
such a table is applied to a device, the keys it gives are set and the others
keep what they had, so that what is in force is the last value given – by
whichever table gave one. This module is about a machine each of whose steps
applies a table, and about the one question such a machine raises: does what
is in force depend on more than the last table?

It does exactly if a key that the last table leaves out can be given a value
by an earlier one that differs from what the key had at the start
(`Machine.pathIndependent_iff`).

Nothing here knows what the keys are, or that there is a device. A machine has
an invariant, a table for each label, and the values it shows; the one law is
that a step shows its table over what was there (`Machine.Applies`). By
induction a run shows the tables of its labels, the last one on top.

One direction of the theorem compares two short runs: the last step alone, and
the last step behind one that gives a key another value. The other direction is
that a key that is given the value it has, or none, keeps it.
-/

variable {κ ν σ α τ : Type}

/-- **One table over another**: a key has the value of the first that gives
it one. -/
def override (u v : κ → Option ν) : κ → Option ν := fun k => (u k).or (v k)

/-- The tables of a list applied in turn. -/
def overrideAll (us : List (κ → Option ν)) (v : κ → Option ν) : κ → Option ν :=
  us.foldl (fun v u => override u v) v

variable {u v : κ → Option ν} {us : List (κ → Option ν)} {k : κ}

/-- A key that is left out keeps what it has. -/
theorem override_of_none (h : u k = none) : override u v k = v k := by
  show (u k).or (v k) = v k
  rw [h]
  rfl

/-- A key that is given a value has it, whatever it had. -/
theorem override_of_isSome (h : u k ≠ none) : override u v k = u k := by
  obtain ⟨x, hx⟩ := Option.ne_none_iff_exists'.mp h
  show (u k).or (v k) = u k
  rw [hx]
  rfl

/-- A table that gives nothing changes nothing. -/
theorem override_none (h : ∀ k, u k = none) : override u v = v :=
  funext fun k => override_of_none (h k)

/-- What is in force already can be applied again. -/
theorem override_eq_self (h : ∀ k, u k = none ∨ u k = v k) : override u v = v := by
  funext k
  by_cases hk : u k = none
  · exact override_of_none hk
  · exact (override_of_isSome hk).trans ((h k).resolve_left hk)

/-- A table that was applied can be applied again. -/
theorem override_override (u v : κ → Option ν) : override u (override u v) = override u v := by
  refine override_eq_self (fun k => ?_)
  by_cases hk : u k = none
  · exact .inl hk
  · exact .inr (override_of_isSome hk).symm

/-- The last table of a list is on top. -/
theorem overrideAll_snoc (us : List (κ → Option ν)) (u v : κ → Option ν) :
    overrideAll (us ++ [u]) v = override u (overrideAll us v) := List.foldl_concat ..

/-- **A key keeps its value through tables that give it that value or none.** -/
theorem overrideAll_of_unchanged (h : ∀ u ∈ us, u k = none ∨ u k = v k) :
    overrideAll us v k = v k := by
  induction us using List.reverseRecOn with
  | nil => rfl
  | append_singleton us u ih =>
    rw [overrideAll_snoc]
    have hrest := ih (fun u' hu' => h u' (List.mem_append_left _ hu'))
    by_cases hk : u k = none
    · exact (override_of_none hk).trans hrest
    · have hu := h u (List.mem_append_right _ (List.mem_singleton_self u))
      exact (override_of_isSome hk).trans (hu.resolve_left hk)

namespace Machine

/-- **A machine whose steps apply tables**: while `I` holds, the label `a`
applies the table `update a`, one of those with `P`, to what `value` shows. -/
def Applies (step : Machine σ α) (ok : σ → α → Prop) (I : σ → Prop)
    (P : (κ → Option ν) → Prop) (update : α → κ → Option ν) (value : σ → κ → Option ν) : Prop :=
  ∀ s a s', I s → ok s a → step s a = some s' →
    I s' ∧ P (update a) ∧ value s' = override (update a) (value s)

/-- **Path independence**: what `obs` shows after two runs from one state that
end with a step of the kind `last` is the same. -/
def PathIndependent (step : Machine σ α) (ok : σ → α → Prop) (s : σ) (last : α → Prop)
    (obs : σ → τ) : Prop :=
  ∀ as bs a b s₁ s₂, last a → last b → Run step ok s (as ++ [a]) s₁ →
    Run step ok s (bs ++ [b]) s₂ → obs s₁ = obs s₂

variable {step : Machine σ α} {ok : σ → α → Prop} {I : σ → Prop} {P : (κ → Option ν) → Prop}
  {update : α → κ → Option ν} {value : σ → κ → Option ν} {s s' : σ}

/-- After a run the tables of its labels have been applied. -/
theorem Applies.run (h : Applies step ok I P update value) (hs : I s) {as : List α}
    (hrun : Run step ok s as s') :
    I s' ∧ (∀ a ∈ as, P (update a)) ∧ value s' = overrideAll (as.map update) (value s) := by
  induction hrun with
  | nil s => exact ⟨hs, fun a ha => absurd ha List.not_mem_nil, rfl⟩
  | cons hok hst _ ih =>
    obtain ⟨hI, hP, hvalue⟩ := h _ _ _ hs hok hst
    obtain ⟨hI', hall, hrest⟩ := ih hI
    refine ⟨hI', ?_, ?_⟩
    · exact List.forall_mem_cons.mpr ⟨hP, hall⟩
    · rw [hrest, hvalue]
      rfl

/-- What a last step leaves in force, where no earlier table leaks. -/
theorem Applies.value_last (h : Applies step ok I P update value) (hs : I s)
    (hleak : ∀ k, u k = none → ∀ w, P w → w k = none ∨ w k = value s k)
    {as : List α} {a : α} (ha : update a = u) (hrun : Run step ok s (as ++ [a]) s') :
    value s' = override u (value s) := by
  obtain ⟨-, hall, hvalue⟩ := h.run hs hrun
  funext k
  rw [hvalue, List.map_append, List.map_singleton, overrideAll_snoc, ha]
  by_cases hk : u k = none
  · rw [override_of_none hk, override_of_none hk]
    refine overrideAll_of_unchanged (fun w hw => ?_)
    obtain ⟨b, hb, rfl⟩ := List.mem_map.mp hw
    exact hleak k hk _ (hall b (List.mem_append_left _ hb))
  · rw [override_of_isSome hk, override_of_isSome hk]

/-- **What is in force depends on the last table alone exactly if no other
table leaks.** The last step applies `u`, and `g` then shows what is in
force and what follows from it; every table with `P` that gives a value and
is not `u` itself is applied by a step that the last one can follow. -/
theorem pathIndependent_iff (h : Applies step ok I P update value) (hs : I s)
    {L : α → Prop} {g : σ → τ} {f : (κ → Option ν) → τ} (hf : Function.Injective f)
    (hlast : ∀ a, L a → update a = u)
    (hobs : ∀ s a s', I s → ok s a → L a → step s a = some s' → g s' = f (value s'))
    (hone : ∃ b s', L b ∧ Run step ok s [b] s')
    (htwo : ∀ w, P w → (∀ k, w k = none) ∨
      ∃ a b s', update a = w ∧ L b ∧ Run step ok s [a, b] s') :
    PathIndependent step ok s L g ↔
      ∀ k, u k = none → ∀ w, P w → w k = none ∨ w k = value s k := by
  have hshown : ∀ as a s', L a → Run step ok s (as ++ [a]) s' → g s' = f (value s') := by
    intro as a s' ha hrun
    obtain ⟨t, hrun', hok, hst⟩ := hrun.of_snoc
    exact hobs t a s' (h.run hs hrun').1 hok ha hst
  constructor
  · intro hpath k hk w hw
    rcases htwo w hw with hnone | ⟨a, b, s₂, rfl, hb, hrun₂⟩
    · exact .inl (hnone k)
    -- the last step alone, and the last step behind the one that applies `w`
    obtain ⟨b₁, s₁, hb₁, hrun₁⟩ := hone
    have hsame := hpath [] [a] b₁ b s₁ s₂ hb₁ hb hrun₁ hrun₂
    rw [hshown [] b₁ s₁ hb₁ hrun₁, hshown [a] b s₂ hb hrun₂] at hsame
    have hvalues := congrFun (hf hsame) k
    rw [(h.run hs hrun₁).2.2, (h.run hs hrun₂).2.2] at hvalues
    have hleft : overrideAll (List.map update [b₁]) (value s) k = value s k := by
      show override (update b₁) (value s) k = value s k
      rw [hlast b₁ hb₁]
      exact override_of_none hk
    have hright : overrideAll (List.map update [a, b]) (value s) k
        = override (update a) (value s) k := by
      show override (update b) (override (update a) (value s)) k = _
      rw [hlast b hb]
      exact override_of_none hk
    rw [hleft, hright] at hvalues
    by_cases ha : update a k = none
    · exact .inl ha
    · exact .inr ((override_of_isSome ha).symm.trans hvalues.symm)
  · intro hleak as bs a b s₁ s₂ ha hb hrun₁ hrun₂
    rw [hshown as a s₁ ha hrun₁, hshown bs b s₂ hb hrun₂,
      h.value_last hs hleak (hlast a ha) hrun₁, h.value_last hs hleak (hlast b hb) hrun₂]

end Machine

import Mathlib.Logic.Basic

/-!
# Programs that may stop early

A program over a state either returns a value or stops early with an error,
and the state it has reached counts in both cases: an early exit undoes
nothing. `EStateM` is that monad, and this file says how such a program ends,
without running it.

`Ends` is the specification of one piece: the condition under which it
returns, what then holds, and what holds where it stops. `Ends.bind` puts
pieces together, and `Ends.final_bind` reads a property of the last state off
the pieces one after the other, which is what a clean-up at the end of a
program is about. `Leaves` says only what holds at either end, which is enough
for what a program must not break.

A condition is a proposition that is fixed before the program runs, about the
state it starts from and the answers of its environment; so a specification can
say *iff* where a triple would say only *if*. This is what makes it possible to
say of a program exactly when it comes to its end, piece by piece: the condition
of two pieces, one behind the other, is the conjunction, and the second is
looked at in the state that the first leaves behind.
-/

variable {ε σ α β : Type}

/-- The state a program ends in, either way. -/
def finalState : EStateM.Result ε σ α → σ
  | .ok _ s => s
  | .error _ s => s

/-- The program goes on only if a condition holds. -/
def ensure (c : Bool) (e : ε) : EStateM ε σ Unit := if c then pure () else throw e

/-- **How a program ends**: if `p` holds it returns, with a value and in a
state that satisfy `Q`, and if not it stops, in a state that satisfies `E`. -/
structure Ends (m : EStateM ε σ α) (s : σ) (p : Prop) (Q : α → σ → Prop) (E : σ → Prop) :
    Prop where
  returns : p → ∃ a t, m s = .ok a t ∧ Q a t
  stops : ¬ p → ∃ e t, m s = .error e t ∧ E t

namespace Ends

variable {m : EStateM ε σ α} {f : α → EStateM ε σ β} {s : σ} {p p' q : Prop}
  {Q Q' : α → σ → Prop} {R : β → σ → Prop} {E E' P : σ → Prop}

/-- Returning a value. -/
theorem pure (a : α) (s : σ) (E : σ → Prop) :
    Ends (Pure.pure a : EStateM ε σ α) s True (fun b t => b = a ∧ t = s) E :=
  ⟨fun _ => ⟨a, s, rfl, rfl, rfl⟩, fun h => absurd trivial h⟩

/-- A test. -/
theorem ensure (c : Bool) (e : ε) (s : σ) :
    Ends (ensure c e : EStateM ε σ Unit) s (c = true) (fun _ t => t = s) (fun t => t = s) := by
  cases c with
  | true => exact ⟨fun _ => ⟨(), s, rfl, rfl⟩, fun h => absurd rfl h⟩
  | false => exact ⟨fun h => Bool.noConfusion h, fun _ => ⟨e, s, rfl, rfl⟩⟩

/-- The condition may be put differently, and less may be said of the end. -/
theorem mono (h : Ends m s p Q E) (hp : p ↔ p') (hQ : ∀ a t, p → Q a t → Q' a t)
    (hE : ∀ t, E t → E' t) : Ends m s p' Q' E' := by
  constructor
  · intro hp'
    obtain ⟨a, t, hm, hq⟩ := h.returns (hp.mpr hp')
    exact ⟨a, t, hm, hQ a t (hp.mpr hp') hq⟩
  · intro hp'
    obtain ⟨e, t, hm, he⟩ := h.stops (fun hp'' => hp' (hp.mp hp''))
    exact ⟨e, t, hm, hE t he⟩

/-- A piece that returns is followed by the next. -/
theorem run_bind (hm : Ends m s p Q E) (hp : p) (f : α → EStateM ε σ β) :
    ∃ a t, Q a t ∧ (m >>= f) s = f a t := by
  obtain ⟨a, t, hma, hq⟩ := hm.returns hp
  refine ⟨a, t, hq, ?_⟩
  show EStateM.bind m f s = f a t
  rw [EStateM.bind, hma]

/-- A piece that stops is the last. -/
theorem stop_bind (hm : Ends m s p Q E) (hp : ¬ p) (f : α → EStateM ε σ β) :
    ∃ e t, E t ∧ (m >>= f) s = .error e t := by
  obtain ⟨e, t, hme, he⟩ := hm.stops hp
  refine ⟨e, t, he, ?_⟩
  show EStateM.bind m f s = .error e t
  rw [EStateM.bind, hme]

/-- **One piece behind another.** -/
theorem bind (hm : Ends m s p Q E) (hf : ∀ a t, p → Q a t → Ends (f a) t q R E) :
    Ends (m >>= f) s (p ∧ q) R E := by
  by_cases hp : p
  · obtain ⟨a, t, hq, hrun⟩ := hm.run_bind hp f
    obtain ⟨hreturns, hstops⟩ := hf a t hp hq
    rw [← and_iff_right hp (b := q)] at hreturns hstops
    exact ⟨fun h => by rw [hrun]; exact hreturns h, fun h => by rw [hrun]; exact hstops h⟩
  · obtain ⟨e, t, he, hrun⟩ := hm.stop_bind hp f
    exact ⟨fun h => absurd h.1 hp, fun _ => ⟨e, t, hrun, he⟩⟩

/-- **What holds at the end**, for a property that fails where the first piece
stops. -/
theorem final_bind (hm : Ends m s p Q E) (hE : ∀ t, E t → ¬ P t)
    (hf : ∀ a t, p → Q a t → (P (finalState (f a t)) ↔ q)) :
    P (finalState ((m >>= f) s)) ↔ p ∧ q := by
  by_cases hp : p
  · obtain ⟨a, t, hq, hrun⟩ := hm.run_bind hp f
    rw [hrun, and_iff_right hp]
    exact hf a t hp hq
  · obtain ⟨e, t, he, hrun⟩ := hm.stop_bind hp f
    rw [hrun]
    exact ⟨fun h => absurd h (hE t he), fun h => absurd h.1 hp⟩

/-- What holds at the end, for a property that holds where the first piece
stops as well. -/
theorem final_bind_of_stops (hm : Ends m s p Q E) (hE : ∀ t, E t → P t)
    (hf : ∀ a t, p → Q a t → (P (finalState (f a t)) ↔ q)) :
    P (finalState ((m >>= f) s)) ↔ (p → q) := by
  by_cases hp : p
  · obtain ⟨a, t, hq, hrun⟩ := hm.run_bind hp f
    rw [hrun, forall_prop_of_true hp]
    exact hf a t hp hq
  · obtain ⟨e, t, he, hrun⟩ := hm.stop_bind hp f
    rw [hrun]
    exact ⟨fun _ h => absurd h hp, fun _ => hE t he⟩

end Ends

/-- **What a program leaves behind**, where it returns and where it stops. -/
def Leaves (m : EStateM ε σ α) (s : σ) (Q : α → σ → Prop) (E : σ → Prop) : Prop :=
  match m s with
  | .ok a t => Q a t
  | .error _ t => E t

namespace Leaves

variable {m : EStateM ε σ α} {f : α → EStateM ε σ β} {s : σ} {Q Q' : α → σ → Prop}
  {R : β → σ → Prop} {E E' I : σ → Prop} {a : α}

protected theorem pure (h : Q a s) : Leaves (Pure.pure a : EStateM ε σ α) s Q E := h

protected theorem throw (e : ε) (h : E s) : Leaves (throw e : EStateM ε σ α) s Q E := h

protected theorem modify {Q : Unit → σ → Prop} (g : σ → σ) (h : Q () (g s)) :
    Leaves (modify g : EStateM ε σ Unit) s Q E := h

protected theorem ensure {Q : Unit → σ → Prop} (c : Bool) (e : ε) (hQ : Q () s) (hE : E s) :
    Leaves (ensure c e : EStateM ε σ Unit) s Q E := by
  cases c with
  | true => exact hQ
  | false => exact hE

/-- Nothing is said of what a program leaves behind. -/
protected theorem trivial (m : EStateM ε σ α) (s : σ) :
    Leaves m s (fun _ _ => True) (fun _ => True) := by
  unfold Leaves
  split <;> exact True.intro

/-- Behind a test, the condition holds. -/
theorem ensure_test (c : Bool) (e : ε) (s : σ) :
    Leaves (ensure c e : EStateM ε σ Unit) s (fun _ _ => c = true) (fun _ => True) := by
  cases c with
  | true => exact rfl
  | false => exact True.intro

theorem mono (h : Leaves m s Q E) (hQ : ∀ a t, Q a t → Q' a t) (hE : ∀ t, E t → E' t) :
    Leaves m s Q' E' := by
  unfold Leaves at h ⊢
  split
  · next hm => exact hQ _ _ (by rw [hm] at h; exact h)
  · next hm => exact hE _ (by rw [hm] at h; exact h)

/-- One piece behind another. -/
theorem bind (hm : Leaves m s Q E) (hf : ∀ a t, Q a t → Leaves (f a) t R E) :
    Leaves (m >>= f) s R E := by
  unfold Leaves at hm
  cases h : m s with
  | ok a t =>
    rw [h] at hm
    have hrun : (m >>= f) s = f a t := by
      show EStateM.bind m f s = f a t
      rw [EStateM.bind, h]
    unfold Leaves
    rw [hrun]
    exact hf a t hm
  | error e t =>
    rw [h] at hm
    have hrun : (m >>= f) s = .error e t := by
      show EStateM.bind m f s = .error e t
      rw [EStateM.bind, h]
    unfold Leaves
    rw [hrun]
    exact hm

/-- **A loop** whose rounds keep an invariant. -/
theorem forM {γ : Type} {body : γ → EStateM ε σ PUnit} {xs : List γ}
    (hbody : ∀ x ∈ xs, ∀ t, I t → Leaves (body x) t (fun _ => I) E) (hs : I s) :
    Leaves (xs.forM body) s (fun _ => I) E := by
  induction xs generalizing s with
  | nil => exact hs
  | cons x xs ih =>
    obtain ⟨hx, hxs⟩ := List.forall_mem_cons.mp hbody
    exact (hx s hs).bind (fun _ t ht => ih hxs ht)

end Leaves

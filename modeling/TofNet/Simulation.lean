import TofNet.EarlyExit

/-!
# A program that another one simulates

Two programs over states of their own: one of the code, with everything that is
in memory, and one of a model that leaves most of it out. From two states they
are in step if both return, or both stop with the same error; what is then
known of the values and the states is a part of the statement, so that it can
be used behind.

The first program may take steps that the second one knows nothing of
(`bind_left`).
-/

variable {ε σ τ α β γ δ : Type}

/-- **In step**: both return, or both stop with the same error. -/
inductive Simulates (m : EStateM ε σ α) (n : EStateM ε τ β) (s : σ) (t : τ)
    (Q : α → β → σ → τ → Prop) (E : σ → τ → Prop) : Prop
  | returns {a : α} {b : β} {s' : σ} {t' : τ} (hm : m s = .ok a s') (hn : n t = .ok b t')
    (h : Q a b s' t')
  | stops {e : ε} {s' : σ} {t' : τ} (hm : m s = .error e s') (hn : n t = .error e t') (h : E s' t')

namespace Simulates

variable {m : EStateM ε σ α} {n : EStateM ε τ β} {s : σ} {t : τ}
  {Q Q' : α → β → σ → τ → Prop} {R : γ → δ → σ → τ → Prop} {E E' : σ → τ → Prop}

/-- Two programs that return at once. -/
protected theorem pure {a : α} {b : β} (h : Q a b s t) :
    Simulates (Pure.pure a : EStateM ε σ α) (Pure.pure b) s t Q E := .returns rfl rfl h

/-- Less may be said of the end. -/
theorem mono (h : Simulates m n s t Q E) (hQ : ∀ a b s t, Q a b s t → Q' a b s t)
    (hE : ∀ s t, E s t → E' s t) : Simulates m n s t Q' E' := by
  cases h with
  | returns hm hn h => exact .returns hm hn (hQ _ _ _ _ h)
  | stops hm hn h => exact .stops hm hn (hE _ _ h)

/-- What a program does behind one that returns. -/
theorem run_bind {f : α → EStateM ε σ γ} {a : α} {s' : σ} (h : m s = .ok a s') :
    (m >>= f) s = f a s' := by
  show EStateM.bind m f s = _
  rw [EStateM.bind, h]

/-- A program that stops is the last. -/
theorem stop_bind {f : α → EStateM ε σ γ} {e : ε} {s' : σ} (h : m s = .error e s') :
    (m >>= f) s = .error e s' := by
  show EStateM.bind m f s = _
  rw [EStateM.bind, h]

/-- **One piece behind another.** -/
theorem bind {f : α → EStateM ε σ γ} {g : β → EStateM ε τ δ} (h : Simulates m n s t Q E)
    (hf : ∀ a b s t, Q a b s t → Simulates (f a) (g b) s t R E) :
    Simulates (m >>= f) (n >>= g) s t R E := by
  cases h with
  | @returns a b s' t' hm hn h =>
    cases hf a b s' t' h with
    | returns hm' hn' h' => exact .returns ((run_bind hm).trans hm') ((run_bind hn).trans hn') h'
    | stops hm' hn' h' => exact .stops ((run_bind hm).trans hm') ((run_bind hn).trans hn') h'
  | stops hm hn h => exact .stops (stop_bind hm) (stop_bind hn) h

/-- A step of the first program alone. -/
theorem bind_left {f : α → EStateM ε σ γ} {k : EStateM ε τ δ} {a : α} {s' : σ}
    (hm : m s = .ok a s') (h : Simulates (f a) k s' t R E) :
    Simulates (m >>= f) k s t R E := by
  cases h with
  | returns hf hk h => exact .returns ((run_bind hm).trans hf) hk h
  | stops hf hk h => exact .stops ((run_bind hm).trans hf) hk h

end Simulates

/-! ## Runs -/

/-- Program after program, each from where the one before it has ended, either
way: how each ends, and the last state. -/
def runEach : List (EStateM ε σ α) → σ → List (Except ε α) × σ
  | [], s => ([], s)
  | m :: ms, s =>
    match m s with
    | .ok a s' => (.ok a :: (runEach ms s').1, (runEach ms s').2)
    | .error e s' => (.error e :: (runEach ms s').1, (runEach ms s').2)

/-- **Runs of programs that are in step.** -/
theorem runEach_eq {R : σ → τ → Prop} {ι : Type} {f : ι → EStateM ε σ α} {g : ι → EStateM ε τ α}
    {is : List ι} {s : σ} {t : τ} (hs : R s t)
    (h : ∀ i ∈ is, ∀ s t, R s t →
      Simulates (f i) (g i) s t (fun a b s' t' => a = b ∧ R s' t') R) :
    (runEach (is.map f) s).1 = (runEach (is.map g) t).1
      ∧ R (runEach (is.map f) s).2 (runEach (is.map g) t).2 := by
  induction is generalizing s t with
  | nil => exact ⟨rfl, hs⟩
  | cons i is ih =>
    obtain ⟨hi, his⟩ := List.forall_mem_cons.mp h
    rw [List.map_cons, List.map_cons, runEach, runEach]
    cases hi s t hs with
    | returns hm hn h =>
      obtain ⟨rfl, hs'⟩ := h
      obtain ⟨hresults, hend⟩ := ih hs' his
      rw [hm, hn]
      exact ⟨congrArg _ hresults, hend⟩
    | stops hm hn hs' =>
      obtain ⟨hresults, hend⟩ := ih hs' his
      rw [hm, hn]
      exact ⟨congrArg _ hresults, hend⟩

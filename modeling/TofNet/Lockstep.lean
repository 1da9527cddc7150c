import TofNet.EarlyExit

/-!
# Two programs in lockstep

Two programs that may stop early are in lockstep from a state if both return,
in the same state and with values that are related, or both stop. An error may
also be one that a program must not end with at all; it is in the way then.

A program is compared with itself to say how it ends: `Lockstep bad m m s R`
is that it returns a value with `R`, or stops with a good error.

The rules are those of the sequencing of programs: if two programs are in
lockstep up to some point, with related values, and from there on for all values
that are so related, then they are in lockstep. A test may be made by both, or
by one of them while the other is known to pass it. With these, two routines can
be compared line by line though they were not written line by line alike.
-/

variable {ε σ α β γ δ : Type}

/-- **Both return, or both stop** with an error that is not bad. -/
inductive Lockstep (bad : ε → Prop) (m₁ : EStateM ε σ α) (m₂ : EStateM ε σ β) (s : σ)
    (R : α → β → σ → Prop) : Prop
  | returns {a : α} {b : β} {t : σ} (h₁ : m₁ s = .ok a t) (h₂ : m₂ s = .ok b t) (h : R a b t)
  | stops {e₁ e₂ : ε} {t₁ t₂ : σ} (h₁ : m₁ s = .error e₁ t₁) (h₂ : m₂ s = .error e₂ t₂)
    (good₁ : ¬ bad e₁) (good₂ : ¬ bad e₂)

namespace Lockstep

variable {bad : ε → Prop} {m₁ : EStateM ε σ α} {m₂ : EStateM ε σ β} {s : σ}
  {R R' : α → β → σ → Prop} {Q : γ → δ → σ → Prop}

protected theorem pure {a : α} {b : β} (h : R a b s) :
    Lockstep bad (Pure.pure a : EStateM ε σ α) (Pure.pure b) s R := .returns rfl rfl h

/-- Less may be said of the values. -/
theorem mono (h : Lockstep bad m₁ m₂ s R) (hR : ∀ a b t, R a b t → R' a b t) :
    Lockstep bad m₁ m₂ s R' := by
  cases h with
  | returns h₁ h₂ h => exact .returns h₁ h₂ (hR _ _ _ h)
  | stops h₁ h₂ good₁ good₂ => exact .stops h₁ h₂ good₁ good₂

/-- The values are those that are returned. -/
theorem with_run (h : Lockstep bad m₁ m₂ s R) :
    Lockstep bad m₁ m₂ s (fun a b t => R a b t ∧ m₁ s = .ok a t ∧ m₂ s = .ok b t) := by
  cases h with
  | returns h₁ h₂ h => exact .returns h₁ h₂ ⟨h, h₁, h₂⟩
  | stops h₁ h₂ good₁ good₂ => exact .stops h₁ h₂ good₁ good₂

/-- **One piece behind another.** -/
theorem bind {f : α → EStateM ε σ γ} {g : β → EStateM ε σ δ} (h : Lockstep bad m₁ m₂ s R)
    (hf : ∀ a b t, R a b t → Lockstep bad (f a) (g b) t Q) :
    Lockstep bad (m₁ >>= f) (m₂ >>= g) s Q := by
  cases h with
  | @returns a b t h₁ h₂ h =>
    have hrun₁ : (m₁ >>= f) s = f a t := by
      show EStateM.bind m₁ f s = _
      rw [EStateM.bind, h₁]
    have hrun₂ : (m₂ >>= g) s = g b t := by
      show EStateM.bind m₂ g s = _
      rw [EStateM.bind, h₂]
    cases hf a b t h with
    | returns h₁ h₂ h => exact .returns (hrun₁.trans h₁) (hrun₂.trans h₂) h
    | stops h₁ h₂ good₁ good₂ => exact .stops (hrun₁.trans h₁) (hrun₂.trans h₂) good₁ good₂
  | @stops e₁ e₂ t₁ t₂ h₁ h₂ good₁ good₂ =>
    have hrun₁ : (m₁ >>= f) s = .error e₁ t₁ := by
      show EStateM.bind m₁ f s = _
      rw [EStateM.bind, h₁]
    have hrun₂ : (m₂ >>= g) s = .error e₂ t₂ := by
      show EStateM.bind m₂ g s = _
      rw [EStateM.bind, h₂]
    exact .stops hrun₁ hrun₂ good₁ good₂

/-- The second goes on behind the first. -/
theorem bind_right {g : β → EStateM ε σ δ} {Q : α → δ → σ → Prop} (h : Lockstep bad m₁ m₂ s R)
    (hg : ∀ a b t, R a b t → Lockstep bad (Pure.pure a) (g b) t Q) :
    Lockstep bad m₁ (m₂ >>= g) s Q := by
  have hbind := h.bind hg
  rwa [bind_pure] at hbind

/-- A test that both make. -/
theorem of_ensure (c : Bool) {e₁ e₂ : ε} (good₁ : ¬ bad e₁) (good₂ : ¬ bad e₂) (s : σ) :
    Lockstep bad (ensure c e₁ : EStateM ε σ Unit) (ensure c e₂) s
      (fun _ _ t => t = s ∧ c = true) := by
  cases c with
  | true => exact .returns rfl rfl ⟨rfl, rfl⟩
  | false => exact .stops rfl rfl good₁ good₂

/-- A test that holds. -/
theorem of_ensure_true {c₁ c₂ : Bool} (h₁ : c₁ = true) (h₂ : c₂ = true) (e₁ e₂ : ε) (s : σ) :
    Lockstep bad (ensure c₁ e₁ : EStateM ε σ Unit) (ensure c₂ e₂) s
      (fun _ _ t => t = s) := by
  subst h₁ h₂
  exact .returns rfl rfl rfl

/-- A test that fails. -/
theorem of_ensure_false {c₁ c₂ : Bool} (h₁ : c₁ = false) (h₂ : c₂ = false) {e₁ e₂ : ε}
    (good₁ : ¬ bad e₁) (good₂ : ¬ bad e₂) (s : σ) :
    Lockstep bad (ensure c₁ e₁ : EStateM ε σ Unit) (ensure c₂ e₂) s (fun _ _ _ => False) := by
  subst h₁ h₂
  exact .stops rfl rfl good₁ good₂

end Lockstep

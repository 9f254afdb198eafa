import Mathlib.Order.Notation

namespace Ocxxr.Faults

variable {ε σ α β : Type} {P : ε → Prop} {x : EStateM ε σ α} {f : α → EStateM ε σ β}

/-- However the code fails, it fails with an error of the given kind. -/
def FailsWith (P : ε → Prop) (x : EStateM ε σ α) : Prop := ∀ s e s', x.run s = .error e s' → P e

theorem failsWith_pure (a : α) : FailsWith P (pure a : EStateM ε σ α) := by
  intro s e s' h
  cases h

theorem failsWith_throw {e : ε} (h : P e) : FailsWith P (throw e : EStateM ε σ α) := by
  intro s e' s' hrun
  cases hrun
  exact h

theorem failsWith_get : FailsWith P (get : EStateM ε σ σ) := by
  intro s e s' h
  cases h

theorem failsWith_modify (g : σ → σ) : FailsWith P (modify g : EStateM ε σ Unit) := by
  intro s e s' h
  cases h

theorem FailsWith.bind_of_run (hx : FailsWith P x)
    (hf : ∀ a s s', x.run s = .ok a s' → FailsWith P (f a)) : FailsWith P (x >>= f) := by
  intro s e s' h
  rw [EStateM.run_bind] at h
  cases hrun : x.run s with
  | ok a s₁ =>
      rw [hrun] at h
      exact hf a s s₁ hrun s₁ e s' h
  | error e₁ s₁ =>
      rw [hrun] at h
      cases h
      exact hx s e s' hrun

theorem FailsWith.bind (hx : FailsWith P x) (hf : ∀ a, FailsWith P (f a)) : FailsWith P (x >>= f) :=
  hx.bind_of_run (fun a _ _ _ => hf a)

/-- The code returns in the state that it started from, or fails with an error of the
given kind. -/
structure Steady (P : ε → Prop) (x : EStateM ε σ α) : Prop where
  fails : FailsWith P x
  keeps : ∀ s a s', x.run s = .ok a s' → s' = s

theorem steady_pure (a : α) : Steady P (pure a : EStateM ε σ α) where
  fails := failsWith_pure a
  keeps := by
    intro s b s' h
    cases h
    rfl

theorem steady_throw {e : ε} (h : P e) : Steady P (throw e : EStateM ε σ α) where
  fails := failsWith_throw h
  keeps := by
    intro s a s' hrun
    cases hrun

theorem Steady.bind (hx : Steady P x) (hf : ∀ a, Steady P (f a)) : Steady P (x >>= f) where
  fails := hx.fails.bind (fun a => (hf a).fails)
  keeps := by
    intro s b s' h
    rw [EStateM.run_bind] at h
    cases hrun : x.run s with
    | ok a s₁ =>
        rw [hrun] at h
        obtain rfl := hx.keeps s a s₁ hrun
        exact (hf a).keeps s₁ b s' h
    | error e s₁ =>
        rw [hrun] at h
        cases h

end Ocxxr.Faults

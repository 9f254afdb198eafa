import Mathlib.Data.List.Defs
import Mathlib.Order.Notation

namespace Ocxxr.Outcomes

variable {ε σ α β : Type} {x : EStateM ε σ α} {s s' : σ} {post mid : α → σ → Prop} {fails : ε → Prop}

/-- From the given state the code returns with the one condition, or fails with the other. -/
def Yields (x : EStateM ε σ α) (s : σ) (post : α → σ → Prop) (fails : ε → Prop) : Prop :=
  (∀ a s', x.run s = .ok a s' → post a s') ∧ ∀ e s', x.run s = .error e s' → fails e

theorem yields_of_ok {a : α} (h : x.run s = .ok a s') (hpost : post a s') : Yields x s post fails := by
  refine ⟨fun b s'' hrun => ?_, fun e s'' hrun => ?_⟩
  · rw [h] at hrun
    cases hrun
    exact hpost
  · rw [h] at hrun
    cases hrun

theorem yields_of_error {e : ε} (h : x.run s = .error e s') (hfails : fails e) : Yields x s post fails := by
  refine ⟨fun b s'' hrun => ?_, fun e' s'' hrun => ?_⟩
  · rw [h] at hrun
    cases hrun
  · rw [h] at hrun
    cases hrun
    exact hfails

theorem Yields.returns (h : Yields x s post fails) (hnever : ∀ e, ¬ fails e) :
    ∃ a s', x.run s = .ok a s' ∧ post a s' := by
  cases hrun : x.run s with
  | ok a s' => exact ⟨a, s', rfl, h.1 a s' hrun⟩
  | error e s' => exact absurd (h.2 e s' hrun) (hnever e)

theorem Yields.refuses (h : Yields x s post fails) (hnever : ∀ a s', ¬ post a s') :
    ∃ e s', x.run s = .error e s' ∧ fails e := by
  cases hrun : x.run s with
  | ok a s' => exact absurd (h.1 a s' hrun) (hnever a s')
  | error e s' => exact ⟨e, s', rfl, h.2 e s' hrun⟩

theorem Yields.imp {post' : α → σ → Prop} {fails' : ε → Prop} (h : Yields x s post fails)
    (hpost : ∀ a s', post a s' → post' a s') (hfails : ∀ e, fails e → fails' e) : Yields x s post' fails' :=
  ⟨fun a s' hrun => hpost a s' (h.1 a s' hrun), fun e s' hrun => hfails e (h.2 e s' hrun)⟩

theorem yields_pure {a : α} (h : post a s) : Yields (pure a) s post fails := yields_of_ok rfl h

theorem yields_modify {f : σ → σ} {post : Unit → σ → Prop} (h : post () (f s)) : Yields (modify f) s post fails :=
  yields_of_ok rfl h

theorem Yields.bind {f : α → EStateM ε σ β} {post : β → σ → Prop} (hx : Yields x s mid fails)
    (hf : ∀ a s', mid a s' → Yields (f a) s' post fails) : Yields (x >>= f) s post fails := by
  cases hrun : x.run s with
  | ok a s' =>
      have hnext := hf a s' (hx.1 a s' hrun)
      have heq : (x >>= f).run s = (f a).run s' := by rw [EStateM.run_bind, hrun]
      rwa [Yields, heq]
  | error e s' =>
      have heq : (x >>= f).run s = .error e s' := by rw [EStateM.run_bind, hrun]
      exact yields_of_error heq (hx.2 e s' hrun)

theorem Yields.after {f : α → EStateM ε σ β} {post : β → σ → Prop} {a : α} (hx : x.run s = .ok a s')
    (hf : Yields (f a) s' post fails) : Yields (x >>= f) s post fails := by
  have heq : (x >>= f).run s = (f a).run s' := by rw [EStateM.run_bind, hx]
  rwa [Yields, heq]

theorem yields_modify_bind {g : σ → σ} {f : Unit → EStateM ε σ β} {post : β → σ → Prop}
    (h : Yields (f ()) (g s) post fails) : Yields (modify g >>= f) s post fails := Yields.after rfl h

theorem yields_get_bind {f : σ → EStateM ε σ β} {post : β → σ → Prop} (h : Yields (f s) s post fails) :
    Yields (get >>= f) s post fails := Yields.after rfl h

/-- A counted loop: what holds before the first pass and is kept by each holds after the last. -/
theorem yields_foldlM_range {n : Nat} {f : α → Nat → EStateM ε σ α} {a : α} (inv : Nat → α → σ → Prop)
    (h : inv 0 a s) (hstep : ∀ i < n, ∀ a s, inv i a s → Yields (f a i) s (inv (i + 1)) fails) :
    Yields ((List.range n).foldlM f a) s (inv n) fails := by
  induction n with
  | zero => exact yields_pure h
  | succ n ih =>
      rw [List.range_succ, List.foldlM_append]
      refine (ih (fun i hi => hstep i (by omega))).bind (fun b s' hb => ?_)
      rw [List.foldlM_cons]
      exact (hstep n (by omega) b s' hb).bind (fun c s'' hc => yields_pure hc)

theorem yields_forM_range {n : Nat} {f : Nat → EStateM ε σ Unit} (inv : Nat → σ → Prop) (h : inv 0 s)
    (hstep : ∀ i < n, ∀ s, inv i s → Yields (f i) s (fun _ => inv (i + 1)) fails) :
    Yields (forM (List.range n) f) s (fun _ => inv n) fails := by
  induction n with
  | zero => exact yields_pure h
  | succ n ih =>
      rw [List.range_succ, List.forM_append]
      refine (ih (fun i hi => hstep i (by omega))).bind (fun _ s' hs => ?_)
      rw [List.forM_cons]
      exact (hstep n (by omega) s' hs).bind (fun _ s'' hs' => yields_pure hs')

end Ocxxr.Outcomes

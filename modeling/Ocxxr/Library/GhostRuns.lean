import Mathlib.Data.List.Infix

namespace Ocxxr.GhostRuns

/-- Commands that run on a state, and what each of them does to the ghost state that
records the run. -/
structure Machine (κ σ γ ε : Type) where
  exec : κ → EStateM ε σ Unit
  effect : γ → κ → γ

namespace Machine

variable {κ σ γ ε : Type} (M : Machine κ σ γ ε)

def run (commands : List κ) : EStateM ε σ Unit := forM commands M.exec

def after (g : γ) (commands : List κ) : γ := commands.foldl M.effect g

def Along (P : γ → κ → Prop) (g : γ) (commands : List κ) : Prop :=
  ∀ before c, before ++ [c] <+: commands → P (M.after g before) c

/-- The run fails nowhere, and the two states agree before and after each command. -/
def Throughout (I : σ → γ → Prop) (s : σ) (g : γ) (commands : List κ) : Prop :=
  ∀ before, before <+: commands → ∃ s', (M.run before).run s = .ok () s' ∧ I s' (M.after g before)

variable {M} {P L : γ → κ → Prop} {I J : σ → γ → Prop} {s s' : σ} {g : γ} {c : κ} {commands : List κ}

theorem run_cons (h : (M.exec c).run s = .ok () s') (rest : List κ) :
    (M.run (c :: rest)).run s = (M.run rest).run s' := by
  rw [run, List.forM_cons, EStateM.run_bind, h]
  rfl

theorem run_cons_ok {s'' : σ} {rest : List κ} (h : (M.run (c :: rest)).run s = .ok () s'') :
    ∃ s', (M.exec c).run s = .ok () s' ∧ (M.run rest).run s' = .ok () s'' := by
  rw [run, List.forM_cons, EStateM.run_bind] at h
  cases hc : (M.exec c).run s with
  | ok u s' =>
      rw [hc] at h
      exact ⟨s', rfl, h⟩
  | error e s' =>
      rw [hc] at h
      cases h

theorem along_nil : M.Along P g [] := by
  intro before c h
  have hlength := h.length_le
  simp at hlength

theorem along_cons : M.Along P g (c :: commands) ↔ P g c ∧ M.Along P (M.effect g c) commands := by
  constructor
  · intro h
    refine ⟨h [] c ((List.prefix_cons_inj c).mpr List.nil_prefix), ?_⟩
    intro before d hd
    exact h (c :: before) d ((List.prefix_cons_inj c).mpr hd)
  · rintro ⟨hhead, htail⟩ before d hd
    cases before with
    | nil =>
        obtain ⟨rfl, -⟩ := List.cons_prefix_cons.mp hd
        exact hhead
    | cons b before =>
        obtain ⟨rfl, hrest⟩ := List.cons_prefix_cons.mp hd
        exact htail before d hrest

theorem throughout_nil (h : I s g) : M.Throughout I s g [] := by
  intro before hbefore
  obtain rfl := List.prefix_nil.mp hbefore
  exact ⟨s, rfl, h⟩

theorem Throughout.start (h : M.Throughout I s g commands) : I s g := by
  obtain ⟨s', hrun, hs'⟩ := h [] List.nil_prefix
  cases hrun
  exact hs'

theorem Throughout.imp (h : M.Throughout I s g commands) (himp : ∀ s g, I s g → J s g) :
    M.Throughout J s g commands := by
  intro before hbefore
  obtain ⟨s', hrun, hs'⟩ := h before hbefore
  exact ⟨s', hrun, himp s' _ hs'⟩

theorem throughout_cons (h : I s g) : M.Throughout I s g (c :: commands) ↔
    ∃ s', (M.exec c).run s = .ok () s' ∧ M.Throughout I s' (M.effect g c) commands := by
  constructor
  · intro hall
    obtain ⟨s₁, hone, -⟩ := hall [c] ((List.prefix_cons_inj c).mpr List.nil_prefix)
    obtain ⟨s', hc, -⟩ := run_cons_ok hone
    refine ⟨s', hc, ?_⟩
    intro before hbefore
    obtain ⟨s₂, hrun, hs₂⟩ := hall (c :: before) ((List.prefix_cons_inj c).mpr hbefore)
    rw [run_cons hc] at hrun
    exact ⟨s₂, hrun, hs₂⟩
  · rintro ⟨s', hc, hall⟩ before hbefore
    cases before with
    | nil => exact ⟨s, rfl, h⟩
    | cons d before =>
        obtain ⟨rfl, hrest⟩ := List.cons_prefix_cons.mp hbefore
        obtain ⟨s₂, hrun, hs₂⟩ := hall before hrest
        exact ⟨s₂, (run_cons hc before).trans hrun, hs₂⟩

/-- The invariant rule: what each command keeps holds throughout the run. -/
theorem throughout_of_step
    (hstep : ∀ s g c, I s g → P g c → ∃ s', (M.exec c).run s = .ok () s' ∧ I s' (M.effect g c))
    (h : I s g) (hall : M.Along P g commands) : M.Throughout I s g commands := by
  induction commands generalizing s g with
  | nil => exact throughout_nil h
  | cons c rest ih =>
      obtain ⟨hc, hrest⟩ := along_cons.mp hall
      obtain ⟨s', hrun, hs'⟩ := hstep s g c h hc
      exact (throughout_cons h).mpr ⟨s', hrun, ih hs' hrest⟩

/-- The exact rule: where a command keeps the invariant just when it meets the condition,
the invariant holds throughout the run just when all commands meet it. -/
theorem throughout_iff
    (hstep : ∀ s g c, I s g → L g c →
      ((∃ s', (M.exec c).run s = .ok () s' ∧ I s' (M.effect g c)) ↔ P g c))
    (h : I s g) (hlegal : M.Along L g commands) : M.Throughout I s g commands ↔ M.Along P g commands := by
  induction commands generalizing s g with
  | nil => exact iff_of_true (throughout_nil h) along_nil
  | cons c rest ih =>
      obtain ⟨hc, hrest⟩ := along_cons.mp hlegal
      rw [throughout_cons h, along_cons, ← hstep s g c h hc]
      constructor
      · rintro ⟨s', hrun, hall⟩
        exact ⟨⟨s', hrun, hall.start⟩, (ih hall.start hrest).mp hall⟩
      · rintro ⟨⟨s', hrun, hs'⟩, hall⟩
        exact ⟨s', hrun, (ih hs' hrest).mpr hall⟩

variable (M) in
def Always (I : σ → Prop) (s : σ) (commands : List κ) : Prop :=
  ∀ before s', before <+: commands → (M.run before).run s = .ok () s' → I s'

variable (M) in
def Guarded (P : σ → κ → Prop) (s : σ) (commands : List κ) : Prop :=
  ∀ before c s', before ++ [c] <+: commands → (M.run before).run s = .ok () s' → P s' c

section Reached

variable {I : σ → Prop} {P : σ → κ → Prop}

theorem always_nil (h : I s) : M.Always I s [] := by
  intro before s' hbefore hrun
  obtain rfl := List.prefix_nil.mp hbefore
  cases hrun
  exact h

theorem Always.start (h : M.Always I s commands) : I s := h [] s List.nil_prefix rfl

theorem guarded_nil : M.Guarded P s [] := by
  intro before c s' h
  have hlength := h.length_le
  simp at hlength

theorem always_cons (h : I s) : M.Always I s (c :: commands) ↔
    ∀ s', (M.exec c).run s = .ok () s' → M.Always I s' commands := by
  constructor
  · intro hall s' hc before s'' hbefore hrun
    exact hall (c :: before) s'' ((List.prefix_cons_inj c).mpr hbefore) ((run_cons hc before).trans hrun)
  · intro hall before s'' hbefore hrun
    cases before with
    | nil =>
        cases hrun
        exact h
    | cons d before =>
        obtain ⟨rfl, hrest⟩ := List.cons_prefix_cons.mp hbefore
        obtain ⟨s', hd, hrun⟩ := run_cons_ok hrun
        exact hall s' hd before s'' hrest hrun

theorem guarded_cons : M.Guarded P s (c :: commands) ↔
    P s c ∧ ∀ s', (M.exec c).run s = .ok () s' → M.Guarded P s' commands := by
  constructor
  · intro hall
    refine ⟨hall [] c s ((List.prefix_cons_inj c).mpr List.nil_prefix) rfl, ?_⟩
    intro s' hc before d s'' hd hrun
    exact hall (c :: before) d s'' ((List.prefix_cons_inj c).mpr hd) ((run_cons hc before).trans hrun)
  · rintro ⟨hhead, htail⟩ before d s'' hd hrun
    cases before with
    | nil =>
        obtain ⟨rfl, -⟩ := List.cons_prefix_cons.mp hd
        cases hrun
        exact hhead
    | cons b before =>
        obtain ⟨rfl, hrest⟩ := List.cons_prefix_cons.mp hd
        obtain ⟨s', hb, hrun⟩ := run_cons_ok hrun
        exact htail s' hb before d s'' hrest hrun

/-- The exact rule for runs that may fail: the invariant holds in all states reached just
when all commands reached meet the condition under which one command keeps it. -/
theorem always_iff
    (hstep : ∀ s c, I s → ((∀ s', (M.exec c).run s = .ok () s' → I s') ↔ P s c)) (h : I s) :
    M.Always I s commands ↔ M.Guarded P s commands := by
  induction commands generalizing s with
  | nil => exact iff_of_true (always_nil h) guarded_nil
  | cons c rest ih =>
      rw [always_cons h, guarded_cons, ← hstep s c h]
      constructor
      · intro hall
        exact ⟨fun s' hc => (hall s' hc).start, fun s' hc => (ih (hall s' hc).start).mp (hall s' hc)⟩
      · rintro ⟨hkeeps, hall⟩ s' hc
        exact (ih (hkeeps s' hc)).mpr (hall s' hc)

end Reached

end Machine

end Ocxxr.GhostRuns

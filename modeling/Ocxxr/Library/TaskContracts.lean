import Ocxxr.Library.TaskGraph
import Mathlib.Data.List.Forall2
import Mathlib.Data.List.Nodup
import Mathlib.Data.Set.List

namespace Ocxxr.TaskContracts

open TaskGraph

variable {S : Signature}

/-- What the payload of an event has to satisfy. Tasks that wait for events of some
ranks satisfy only events of higher rank. -/
structure Contract (S : Signature) where
  holds : Option S.Content → Prop
  rank : Nat

/-- What a task holds: blocks with their contents and whether it has released them,
events that it has to satisfy and whether a slot waits for them already, slots that it
has to fill, templates, and the duty to stop the program, with what is printed so far. -/
structure Holding (S : Signature) where
  block : S.Name → Option (S.Content × Bool)
  event : S.Name → Option (Contract S × Bool)
  slot : S.Name × Nat → Option (Contract S)
  template : S.Name → Option S.Code
  duty : Option (List S.Output)

/-- What a new task is given, and what its slots will be given. -/
structure Brief (S : Signature) where
  event : S.Name → Option (Contract S × Bool)
  contracts : List (Contract S)
  duty : Option (List S.Output)
  budget : Nat

abbrev Known (S : Signature) := S.Name → Option S.Code

/-- Under which briefs a task may be created, what any task may print, what the task with
the duty may have printed in the end, and which names are never given to new objects. -/
structure Spec (S : Signature) where
  Pre : Known S → S.Code → S.Params → Brief S → Prop
  noise : S.Output → Bool
  Done : List S.Output → Prop
  reserved : S.Name → Prop
  shared : Prop

def Spec.report (P : Spec S) (printed : List S.Output) : List S.Output := printed.filter (fun o => !P.noise o)

def Known.Le (K K' : Known S) : Prop := ∀ g code, K g = some code → K' g = some code

structure Spec.Monotone (P : Spec S) : Prop where
  pre : ∀ {K K' code params brief}, Known.Le K K' → P.Pre K code params brief → P.Pre K' code params brief

def named : List (Source S.Name) → List S.Name
  | [] => []
  | .object e :: rest => e :: named rest
  | _ :: rest => named rest

def leftOpen (sources : List (Source S.Name)) (contracts : List (Contract S)) (j : Nat) : Option (Contract S) :=
  match sources[j]? with
  | some .later => contracts[j]?
  | _ => none

theorem leftOpen_eq_some {sources : List (Source S.Name)} {contracts : List (Contract S)} {j : Nat}
    {κ : Contract S} :
    leftOpen sources contracts j = some κ ↔ sources[j]? = some .later ∧ contracts[j]? = some κ := by
  rw [leftOpen]
  cases sources[j]? with
  | none => simp
  | some source => cases source <;> simp

variable [DecidableEq S.Name]

def isNamed (sources : List (Source S.Name)) (e : S.Name) : Bool := decide (e ∈ named sources)

@[simp] theorem isNamed_iff {sources : List (Source S.Name)} {e : S.Name} :
    isNamed sources e = true ↔ e ∈ named sources := by
  simp [isNamed]

@[simp] theorem isNamed_eq_false {sources : List (Source S.Name)} {e : S.Name} :
    isNamed sources e = false ↔ e ∉ named sources := by
  simp [isNamed]

def arm (sources : List (Source S.Name)) (event : S.Name → Option (Contract S × Bool)) :
    S.Name → Option (Contract S × Bool) :=
  fun e => (event e).map (fun p => (p.1, p.2 || isNamed sources e))

def Feeds (h : Holding S) : Source S.Name → Contract S → Prop
  | .later, _ => True
  | .null, κ => κ.holds none
  | .object e, κ => h.event e = some (κ, false)

section Later

variable (contracts : List (Contract S))

omit [DecidableEq S.Name] in
theorem named_later (n : Nat) : named (List.replicate n .later : List (Source S.Name)) = [] := by
  induction n with
  | zero => rfl
  | succ n ih => exact ih

omit [DecidableEq S.Name] in
theorem feeds_later (h : Holding S) : List.Forall₂ (Feeds h)
    (List.replicate contracts.length .later) contracts := by
  induction contracts with
  | nil => exact .nil
  | cons κ rest ih => exact .cons trivial ih

omit [DecidableEq S.Name] in
theorem leftOpen_later (j : Nat) : leftOpen (List.replicate contracts.length .later) contracts j =
    contracts[j]? := by
  by_cases hj : j < contracts.length
  · rw [leftOpen, List.getElem?_replicate_of_lt hj]
  · rw [List.getElem?_eq_none (Nat.le_of_not_lt hj), leftOpen, List.getElem?_eq_none]
    rw [List.length_replicate]
    exact Nat.le_of_not_lt hj

theorem arm_later (n : Nat) (event : S.Name → Option (Contract S × Bool)) :
    arm (List.replicate n .later) event = event := by
  funext e
  have hfalse : isNamed (List.replicate n .later : List (Source S.Name)) e = false := by
    rw [isNamed_eq_false, named_later]
    exact List.not_mem_nil
  rw [arm, hfalse]
  cases event e with
  | none => rfl
  | some p => simp

@[simp] theorem arm_nil (event : S.Name → Option (Contract S × Bool)) : arm [] event = event := arm_later 0 event

end Later

/-- What a call needs of what its task holds, and what the task holds after it. -/
def Requires (P : Spec S) : (c : Call S) → Known S → Holding S → Nat →
    (c.Answer → Known S → Holding S → Nat → Prop) → Prop
  | .createBlock, K, h, n, post =>
      ∀ d v, ¬ P.reserved d → h.block d = none → post d K
        { h with block := Function.update h.block d (some (v, true)) } n
  | .load d, K, h, n, post => ∃ v c, h.block d = some (v, c) ∧ post v K h n
  | .store d v, K, h, n, post =>
      (h.block d).isSome ∧ post () K { h with block := Function.update h.block d (some (v, false)) } n
  | .release d, K, h, n, post =>
      ∃ v c, h.block d = some (v, c) ∧
        post () K { h with block := Function.update h.block d (some (v, true)) } n
  | .destroyBlock d, K, h, n, post =>
      (h.block d).isSome ∧ post () K { h with block := Function.update h.block d none } n
  | .createEvent, K, h, n, post =>
      ∃ κ, ∀ e, ¬ P.reserved e → h.event e = none →
        post e K { h with event := Function.update h.event e (some (κ, false)) } n
  | .satisfy e none, K, h, n, post =>
      ∃ κ, h.event e = some (κ, true) ∧ κ.holds none ∧
        post () K { h with event := Function.update h.event e none } n
  | .satisfy e (some d), K, h, n, post =>
      ∃ κ v c, h.event e = some (κ, true) ∧ h.block d = some (v, c) ∧ (P.shared ∨ c = true) ∧
        κ.holds (some v) ∧
        post () K { h with event := Function.update h.event e none, block := Function.update h.block d none } n
  | .createTemplate code, K, h, n, post =>
      (∀ g, ¬ P.reserved g → K g = none → post g (Function.update K g (some code)) h n) ∨
      (∀ g, ¬ P.reserved g → K g = none → h.template g = none →
        post g K { h with template := Function.update h.template g (some code) } n)
  | .destroyTemplate g, K, h, n, post =>
      (h.template g).isSome ∧ post () K { h with template := Function.update h.template g none } n
  | .createTask g params sources output, K, h, n, post =>
      output = false ∧ ∃ code, (K g = some code ∨ h.template g = some code) ∧
      ∃ (brief : Brief S) (passed : S.Name → Bool) (m : Nat), n = m + brief.budget ∧
        List.Forall₂ (Feeds h) sources brief.contracts ∧ (named sources).Nodup ∧
        (brief.event = fun e => if passed e then arm sources h.event e else none) ∧
        (∀ e p, brief.event e = some p → ∀ κ ∈ brief.contracts, κ.rank < p.1.rank) ∧
        (brief.duty = none ∨ brief.duty = h.duty) ∧ P.Pre K code params brief ∧
        ∀ u, ¬ P.reserved u → (∀ j, h.slot (u, j) = none) → post (u, none) K
          { h with
            event := fun e => if passed e then none else arm sources h.event e
            slot := fun k => if k.1 = u then leftOpen sources brief.contracts k.2 else h.slot k
            duty := if brief.duty.isSome then none else h.duty } m
  | .attach u j .null, K, h, n, post =>
      ∃ κ, h.slot (u, j) = some κ ∧ κ.holds none ∧
        post () K { h with slot := Function.update h.slot (u, j) none } n
  | .attach u j (.object e), K, h, n, post =>
      ∃ κ, h.slot (u, j) = some κ ∧ h.event e = some (κ, false) ∧
        post () K { h with slot := Function.update h.slot (u, j) none,
                           event := Function.update h.event e (some (κ, true)) } n
  | .attach _ _ .later, _, _, _, _ => False
  | .draw, K, h, n, post => ∀ b, post b K h n
  | .print o, K, h, n, post =>
      (P.noise o = true ∧ post () K h n) ∨
      (P.noise o = false ∧ ∃ l, h.duty = some l ∧ post () K { h with duty := some (l ++ [o]) } n)
  | .stop, _, h, _, _ => ∃ l, h.duty = some l ∧ P.Done l

/-- Whatever the answers, the code needs no more than the task holds, within the given
number of steps, and ends as the postcondition says. -/
def Wp {α : Type} (P : Spec S) : Prog S α → Known S → Holding S → Nat →
    (α → Known S → Holding S → Nat → Prop) → Prop
  | .pure a, K, h, n, post => post a K h n
  | .fail _, _, _, _, _ => False
  | .call c next, K, h, n, post =>
      ∃ m < n, Requires P c K h m (fun answer K' h' n' => Wp P (next answer) K' h' n' post)

def Leaves (_ : Option S.Name) (_ : Known S) (h : Holding S) (n : Nat) : Prop :=
  0 < n ∧ (∀ e, h.event e = none) ∧ (∀ k, h.slot k = none) ∧ h.duty = none

def Safe (P : Spec S) (x : Prog S (Option S.Name)) (K : Known S) (h : Holding S) (n : Nat) : Prop :=
  Wp P x K h n Leaves

/-- What is in the slots of a task meets their contracts. -/
structure Arrives (P : Spec S) (contracts : List (Contract S)) (payloads : List (Option S.Name))
    (arrived : S.Name → Option (S.Content × Bool)) : Prop where
  length_eq : payloads.length = contracts.length
  null : ∀ (j : Nat) (κ : Contract S), contracts[j]? = some κ → payloads[j]? = some none → κ.holds none
  block : ∀ (j : Nat) (κ : Contract S) d, contracts[j]? = some κ → payloads[j]? = some (some d) →
    ∃ v c, arrived d = some (v, c) ∧ (P.shared ∨ c = true) ∧ κ.holds (some v)
  real : ∀ d, (arrived d).isSome → ¬ P.reserved d
  distinct : ∀ (i j : Nat) d, payloads[i]? = some (some d) → payloads[j]? = some (some d) → i = j
  exact : ∀ d, (arrived d).isSome → ∃ j : Nat, payloads[j]? = some (some d)

omit [DecidableEq S.Name] in
theorem Arrives.blocks {P : Spec S} {contracts : List (Contract S)} {payloads : List (Option S.Name)}
    {arrived : S.Name → Option (S.Content × Bool)} (h : Arrives P contracts payloads arrived)
    (hnull : ∀ κ ∈ contracts, ¬ κ.holds none) : ∃ ds : List S.Name, payloads = ds.map some ∧ ds.Nodup ∧
      List.Forall₂ (fun d κ => ¬ P.reserved d ∧
        ∃ v c, arrived d = some (v, c) ∧ (P.shared ∨ c = true) ∧ κ.holds (some v)) ds contracts := by
  have hsome : payloads ∈ Set.range (List.map some) := by
    rw [Set.range_list_map]
    intro payload hmem
    obtain ⟨j, hj, rfl⟩ := List.getElem_of_mem hmem
    have hκ := List.getElem?_eq_getElem (h.length_eq ▸ hj)
    cases hp : payloads[j] with
    | none =>
        have hnone := (List.getElem?_eq_getElem hj).trans (congrArg some hp)
        exact absurd (h.null j _ hκ hnone) (hnull _ (List.getElem_mem _))
    | some d => exact ⟨d, rfl⟩
  obtain ⟨ds, rfl⟩ := hsome
  have hget : ∀ (j : Nat) (hj : j < ds.length), (ds.map some)[j]? = some (some ds[j]) := by
    intro j hj
    rw [List.getElem?_map, List.getElem?_eq_getElem hj, Option.map_some]
  refine ⟨ds, rfl, ?_, ?_⟩
  · rw [List.nodup_iff_injective_get]
    intro i j hij
    have hj := hget j j.isLt
    rw [← List.get_eq_getElem, ← hij] at hj
    exact Fin.ext (h.distinct i j _ (hget i i.isLt) hj)
  · rw [List.forall₂_iff_get]
    refine ⟨by simpa using h.length_eq, ?_⟩
    intro j hj hκ
    obtain ⟨v, c, hd, hrest⟩ := h.block j _ ds[j] (List.getElem?_eq_getElem hκ) (hget j hj)
    exact ⟨h.real ds[j] (by rw [hd]; rfl), v, c, hd, hrest⟩

/-- Every task that may be created is safe, once its slots are filled. -/
def Verified (body : Body S) (P : Spec S) : Prop :=
  ∀ K code params brief, P.Pre K code params brief → ∀ t payloads arrived,
    Arrives P brief.contracts payloads arrived →
      ∃ m < brief.budget, Safe P (body t code params payloads) K
        ⟨arrived, brief.event, fun _ => none, fun _ => none, brief.duty⟩ m

section Monotone

variable {P : Spec S}

omit [DecidableEq S.Name] in
theorem Known.le_refl (K : Known S) : K.Le K := fun _ _ h => h

theorem Known.le_update {K : Known S} {g : S.Name} (hg : K g = none) (code : S.Code) :
    K.Le (Function.update K g (some code)) := by
  intro g' code' h
  have hne : g' ≠ g := by
    rintro rfl
    rw [hg] at h
    cases h
  rwa [Function.update_of_ne hne]

theorem Known.Le.update {K K' : Known S} (h : K.Le K') (g : S.Name) (code : S.Code) :
    Known.Le (Function.update K g (some code)) (Function.update K' g (some code)) := by
  intro g' code' hg
  by_cases he : g' = g
  · subst he
    rwa [Function.update_self] at hg ⊢
  · rw [Function.update_of_ne he] at hg ⊢
    exact h g' code' hg

omit [DecidableEq S.Name] in
theorem Known.Le.eq_none {K K' : Known S} (h : K.Le K') {g : S.Name} (hg : K' g = none) : K g = none := by
  cases hK : K g with
  | none => rfl
  | some code => exact nomatch hg.symm.trans (h g code hK)

structure Tracks (P : Spec S) (r : Known S → Known S → Prop) : Prop where
  le : ∀ {K K'}, r K K' → Known.Le K K'
  update : ∀ {K K'}, r K K' → ∀ g code, r (Function.update K g (some code)) (Function.update K' g (some code))
  pre : ∀ {K K' code params brief}, r K K' → P.Pre K code params brief → P.Pre K' code params brief

theorem tracks_le (hP : P.Monotone) : Tracks P Known.Le where
  le := id
  update := fun h g code => h.update g code
  pre := fun h => hP.pre h

theorem tracks_eq : Tracks P Eq where
  le := by
    rintro K _ rfl
    exact Known.le_refl K
  update := by
    rintro K _ rfl g code
    rfl
  pre := by
    rintro K _ code params brief rfl h
    exact h

variable {r : Known S → Known S → Prop}

theorem requires_mono (hr : Tracks P r) {c : Call S} {K K' : Known S} (hK : r K K') {h : Holding S} {n : Nat}
    {post post' : c.Answer → Known S → Holding S → Nat → Prop}
    (hpost : ∀ answer K K' h n, r K K' → post answer K h n → post' answer K' h n)
    (hreq : Requires P c K h n post) : Requires P c K' h n post' := by
  cases c with
  | createBlock => exact fun d v hreal hd => hpost _ _ _ _ _ hK (hreq d v hreal hd)
  | load d =>
      obtain ⟨v, released, hd, hrest⟩ := hreq
      exact ⟨v, released, hd, hpost _ _ _ _ _ hK hrest⟩
  | store d v => exact ⟨hreq.1, hpost _ _ _ _ _ hK hreq.2⟩
  | release d =>
      obtain ⟨v, released, hd, hrest⟩ := hreq
      exact ⟨v, released, hd, hpost _ _ _ _ _ hK hrest⟩
  | destroyBlock d => exact ⟨hreq.1, hpost _ _ _ _ _ hK hreq.2⟩
  | createEvent =>
      obtain ⟨κ, hrest⟩ := hreq
      exact ⟨κ, fun e hreal he => hpost _ _ _ _ _ hK (hrest e hreal he)⟩
  | satisfy e payload =>
      cases payload with
      | none =>
          obtain ⟨κ, he, hκ, hrest⟩ := hreq
          exact ⟨κ, he, hκ, hpost _ _ _ _ _ hK hrest⟩
      | some d =>
          obtain ⟨κ, v, released, he, hd, hclean, hκ, hrest⟩ := hreq
          exact ⟨κ, v, released, he, hd, hclean, hκ, hpost _ _ _ _ _ hK hrest⟩
  | createTemplate code =>
      rcases hreq with hrest | hrest
      · exact .inl (fun g hreal hg => hpost _ _ _ _ _ (hr.update hK g code)
        (hrest g hreal ((hr.le hK).eq_none hg)))
      · exact .inr (fun g hreal hg hown => hpost _ _ _ _ _ hK (hrest g hreal ((hr.le hK).eq_none hg) hown))
  | destroyTemplate g => exact ⟨hreq.1, hpost _ _ _ _ _ hK hreq.2⟩
  | createTask g params sources output =>
      obtain ⟨hout, code, hcode, brief, passed, m, hn, hfeeds, hnodup, hevent, hrank, hduty, hpre, hrest⟩ := hreq
      exact ⟨hout, code, hcode.imp_left (hr.le hK g code), brief, passed, m, hn, hfeeds, hnodup, hevent,
        hrank, hduty, hr.pre hK hpre, fun u hreal hu => hpost _ _ _ _ _ hK (hrest u hreal hu)⟩
  | attach u j source =>
      cases source with
      | later => exact hreq
      | null =>
          obtain ⟨κ, hslot, hκ, hrest⟩ := hreq
          exact ⟨κ, hslot, hκ, hpost _ _ _ _ _ hK hrest⟩
      | object e =>
          obtain ⟨κ, hslot, he, hrest⟩ := hreq
          exact ⟨κ, hslot, he, hpost _ _ _ _ _ hK hrest⟩
  | draw => exact fun b => hpost _ _ _ _ _ hK (hreq b)
  | print o =>
      rcases hreq with ⟨hnoise, hrest⟩ | ⟨hnoise, l, hl, hrest⟩
      · exact .inl ⟨hnoise, hpost _ _ _ _ _ hK hrest⟩
      · exact .inr ⟨hnoise, l, hl, hpost _ _ _ _ _ hK hrest⟩
  | stop => exact hreq

theorem wp_mono {α : Type} (hr : Tracks P r) {x : Prog S α} {K K' : Known S} (hK : r K K') {h : Holding S}
    {n : Nat} {post post' : α → Known S → Holding S → Nat → Prop}
    (hpost : ∀ a K K' h n, r K K' → post a K h n → post' a K' h n) (hx : Wp P x K h n post) :
    Wp P x K' h n post' := by
  induction x generalizing K K' h n with
  | pure a => exact hpost a K K' h n hK hx
  | fail e => exact hx
  | call c next ih =>
      obtain ⟨m, hm, hreq⟩ := hx
      exact ⟨m, hm, requires_mono hr hK (fun answer K K' h n hK hrest => ih answer hK hrest) hreq⟩

theorem safe_mono (hP : P.Monotone) {x : Prog S (Option S.Name)} {K K' : Known S} (hK : K.Le K') {h : Holding S}
    {n : Nat} (hsafe : Safe P x K h n) : Safe P x K' h n :=
  wp_mono (tracks_le hP) hK (fun _ _ _ _ _ _ h => h) hsafe

end Monotone

section Rules

variable {α β : Type} {P : Spec S} {K : Known S} {h : Holding S} {n : Nat}

@[simp] theorem wp_pure (a : α) (post : α → Known S → Holding S → Nat → Prop) :
    Wp P (pure a) K h n post = post a K h n := rfl

/-- The rule of sequential composition. -/
theorem wp_bind (x : Prog S α) (f : α → Prog S β) (post : β → Known S → Holding S → Nat → Prop) :
    Wp P (x >>= f) K h n post = Wp P x K h n (fun a K h n => Wp P (f a) K h n post) := by
  induction x generalizing K h n with
  | pure a => rfl
  | fail e => rfl
  | call c next ih =>
      rw [Prog.call_bind, Wp, Wp]
      simp only [ih]

/-- The rule of consequence. -/
theorem wp_mono_post {x : Prog S α} {post post' : α → Known S → Holding S → Nat → Prop}
    (hpost : ∀ a K h n, post a K h n → post' a K h n) (hx : Wp P x K h n post) : Wp P x K h n post' := by
  refine wp_mono tracks_eq rfl ?_ hx
  rintro a K _ h n rfl
  exact hpost a K h n

theorem wp_call {c : Call S} {next : c.Answer → Prog S α} {post : α → Known S → Holding S → Nat → Prop}
    (hreq : Requires P c K h n (fun answer K h n => Wp P (next answer) K h n post)) :
    Wp P (.call c next) K h (n + 1) post := ⟨n, Nat.lt_succ_self n, hreq⟩

end Rules

end Ocxxr.TaskContracts

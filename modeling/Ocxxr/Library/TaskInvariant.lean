import Ocxxr.Library.TaskContracts
import Mathlib.Data.Finsupp.Basic

namespace Ocxxr.TaskInvariant

open TaskGraph TaskContracts

section Shares

variable {N I K : Type} [DecidableEq N]

/-- What the task `t` has of something that at most one task holds. -/
def share (t : N) (p : Option (N × I)) : Option I := p.bind (fun p => if p.1 = t then some p.2 else none)

def heldBy (h : K → Option (N × I)) (t : N) : K → Option I := fun k => share t (h k)

@[simp] theorem share_none (t : N) : share t (none : Option (N × I)) = none := rfl

@[simp] theorem share_self (t : N) (i : I) : share t (some (t, i)) = some i := if_pos rfl

theorem share_other {t u : N} (h : u ≠ t) (i : I) : share t (some (u, i)) = none := if_neg h

theorem share_eq_some {t : N} {p : Option (N × I)} {i : I} : share t p = some i ↔ p = some (t, i) := by
  cases p with
  | none => simp
  | some q =>
      obtain ⟨u, i'⟩ := q
      by_cases h : u = t
      · simp [share, h]
      · simp [share, h]

theorem heldBy_eq_some {h : K → Option (N × I)} {t : N} {k : K} {i : I} :
    heldBy h t k = some i ↔ h k = some (t, i) := share_eq_some

variable [DecidableEq K]

theorem heldBy_update (h : K → Option (N × I)) (k : K) (p : Option (N × I)) (t : N) :
    heldBy (Function.update h k p) t = Function.update (heldBy h t) k (share t p) := by
  funext k'
  by_cases he : k' = k
  · subst he
    simp [heldBy]
  · simp [heldBy, he]

theorem heldBy_update_other {h : K → Option (N × I)} {k : K} {p : Option (N × I)} {t u : N} (hne : u ≠ t)
    (hold : share u (h k) = none) (hnew : ∀ q, p = some q → q.1 = t) :
    heldBy (Function.update h k p) u = heldBy h u := by
  have hp : share u p = none := by
    cases p with
    | none => rfl
    | some q =>
        obtain rfl := hnew q rfl
        exact share_other hne.symm q.2
  rw [heldBy_update, hp, ← hold]
  exact Function.update_eq_self k (heldBy h u)

theorem heldBy_update_none {h : K → Option (N × I)} {k : K} {t : N} (hold : share t (h k) = none) :
    heldBy (Function.update h k none) t = heldBy h t := by
  rw [heldBy_update, share_none, ← hold]
  exact Function.update_eq_self k (heldBy h t)

omit [DecidableEq K] in
theorem share_other_of_held {h : K → Option (N × I)} {k : K} {t u : N} (hne : u ≠ t) {i : I}
    (hk : heldBy h t k = some i) : share u (h k) = none := by
  rw [heldBy_eq_some.mp hk]
  exact share_other hne.symm i

end Shares

variable {S : Signature}

/-- Who holds what, the contracts of the slots of each task, and how many steps each
task has left. -/
structure Ghost (S : Signature) where
  known : Known S
  block : S.Name → Option (S.Name × S.Content × Bool)
  event : S.Name → Option (S.Name × Contract S × Bool)
  slot : S.Name × Nat → Option (S.Name × Contract S)
  template : S.Name → Option (S.Name × S.Code)
  duty : Option (S.Name × List S.Output)
  contracts : S.Name → List (Contract S)
  budget : S.Name →₀ Nat

def Holding.empty : Holding S := ⟨fun _ => none, fun _ => none, fun _ => none, fun _ => none, none⟩

variable [DecidableEq S.Name]

namespace Ghost

variable (γ : Ghost S)

def holding (t : S.Name) : Holding S :=
  ⟨heldBy γ.block t, heldBy γ.event t, heldBy γ.slot t, heldBy γ.template t, share t γ.duty⟩

def brief (t : S.Name) : Brief S := ⟨heldBy γ.event t, γ.contracts t, share t γ.duty, γ.budget t⟩

omit [DecidableEq S.Name] in
noncomputable def total : Nat := γ.budget.sum (fun _ n => n)

end Ghost

def BlocksInv (shared : Prop) (block : S.Name → Option (S.Name × S.Content × Bool))
    (blocks : S.Name → Option (Block S)) : Prop :=
  ∀ d t v c, block d = some (t, v, c) →
    ∃ writer, blocks d = some ⟨v, writer⟩ ∧ (shared ∨ writer = none ∨ c = false ∧ writer = some t)

structure EventsInv (event : S.Name → Option (S.Name × Contract S × Bool)) (events : S.Name → Bool)
    (slot : S.Name → Nat → Option (Slot S.Name)) : Prop where
  live : ∀ e, events e = true ↔ (event e).isSome
  unarmed : ∀ e t κ, event e = some (t, κ, false) → ∀ u j, slot u j ≠ some (.waiting e)
  single : ∀ e u j u' j', slot u j = some (.waiting e) → slot u' j' = some (.waiting e) → u = u' ∧ j = j'

def SlotsInv (owed : S.Name × Nat → Option (S.Name × Contract S)) (contracts : S.Name → List (Contract S))
    (slot : S.Name → Nat → Option (Slot S.Name)) (tasks : S.Name → Option (Task S)) : Prop :=
  ∀ u j t κ, owed (u, j) = some (t, κ) → slot u j = some .vacant ∧ (contracts u)[j]? = some κ ∧
    ∃ rest, tasks t = some (.running rest)

structure TemplatesInv (known : Known S) (template : S.Name → Option (S.Name × S.Code))
    (templates : S.Name → Option S.Code) : Prop where
  held : ∀ g t code, template g = some (t, code) → templates g = some code ∧ known g = none
  known : ∀ g code, known g = some code → templates g = some code

structure UsedInv (P : Spec S) (w : World S) : Prop where
  reserved : ∀ d, P.reserved d → d ∈ w.used
  block : ∀ d, (w.blocks d).isSome → d ∈ w.used ∧ ¬ P.reserved d
  event : ∀ e, w.events e = true → e ∈ w.used
  template : ∀ g, (w.templates g).isSome → g ∈ w.used
  task : ∀ t, (w.tasks t).isSome → t ∈ w.used

variable (P : Spec S)

def SlotHolds (γ : Ghost S) (u : S.Name) (j : Nat) (κ : Contract S) : Slot S.Name → Prop
  | .vacant => ∃ t, γ.slot (u, j) = some (t, κ)
  | .waiting e => ∃ t, γ.event e = some (t, κ, true)
  | .filled none => κ.holds none
  | .filled (some d) => ∃ v c, γ.block d = some (u, v, c) ∧ (P.shared ∨ c = true) ∧ κ.holds (some v)

structure Ready (γ : Ghost S) (u : S.Name) (code : S.Code) (params : S.Params)
    (slots : List (Slot S.Name)) : Prop where
  pre : P.Pre γ.known code params (γ.brief u)
  rank : ∀ e p, heldBy γ.event u e = some p → ∀ κ ∈ γ.contracts u, κ.rank < p.1.rank
  length_eq : slots.length = (γ.contracts u).length
  meets : ∀ (j : Nat) s κ, slots[j]? = some s → (γ.contracts u)[j]? = some κ → SlotHolds P γ u j κ s
  distinct : ∀ (i j : Nat) d, slots[i]? = some (.filled (some d)) → slots[j]? = some (.filled (some d)) → i = j
  blocks : ∀ d p, heldBy γ.block u d = some p → ∃ j : Nat, slots[j]? = some (.filled (some d))
  template : ∀ g, heldBy γ.template u g = none

def TaskInv (γ : Ghost S) (u : S.Name) : Option (Task S) → Prop
  | none => γ.holding u = Holding.empty ∧ γ.budget u = 0
  | some (.running rest) => Safe P rest γ.known (γ.holding u) (γ.budget u)
  | some (.pending code params slots) => Ready P γ u code params slots

@[simp] theorem taskInv_running {γ : Ghost S} {u : S.Name} {rest : Prog S (Option S.Name)} :
    TaskInv P γ u (some (.running rest)) = Safe P rest γ.known (γ.holding u) (γ.budget u) := rfl

@[simp] theorem taskInv_pending {γ : Ghost S} {u : S.Name} {code : S.Code} {params : S.Params}
    {slots : List (Slot S.Name)} :
    TaskInv P γ u (some (.pending code params slots)) = Ready P γ u code params slots := rfl

structure Inv (γ : Ghost S) (w : World S) : Prop where
  blocks : BlocksInv P.shared γ.block w.blocks
  events : EventsInv γ.event w.events w.slot
  slots : SlotsInv γ.slot γ.contracts w.slot w.tasks
  templates : TemplatesInv γ.known γ.template w.templates
  duty : ∃ t, γ.duty = some (t, P.report w.printed)
  used : UsedInv P w
  tasks : ∀ u, TaskInv P γ u (w.tasks u)

variable {P} {γ γ' : Ghost S} {w w' : World S} {t u : S.Name}

section Worlds

variable {task : Option (Task S)}

omit [DecidableEq S.Name] in
theorem slot_eq_some {j : Nat} {s : Slot S.Name} : w.slot u j = some s ↔
    ∃ code params slots, w.tasks u = some (.pending code params slots) ∧ slots[j]? = some s := by
  rw [World.slot]
  split
  next code params slots h =>
    rw [h]
    simp
  next h =>
    refine iff_of_false nofun ?_
    rintro ⟨code, params, slots, hu, -⟩
    exact h _ _ _ hu

omit [DecidableEq S.Name] in
theorem slot_congr (h : ∀ code params slots, w'.tasks u = some (.pending code params slots) ↔
    w.tasks u = some (.pending code params slots)) (j : Nat) : w'.slot u j = w.slot u j := by
  apply Option.ext
  intro s
  simp only [slot_eq_some, h]

theorem slot_setTask (hnew : ∀ code params slots, task ≠ some (.pending code params slots))
    (hold : ∀ code params slots, w.tasks t ≠ some (.pending code params slots)) :
    (w.setTask t task).slot = w.slot := by
  funext u j
  apply slot_congr
  intro code params slots
  by_cases he : u = t
  · subst he
    rw [tasks_setTask_self]
    exact iff_of_false (hnew _ _ _) (hold _ _ _)
  · rw [tasks_setTask_other w he]

end Worlds

structure Same (γ γ' : Ghost S) (u : S.Name) : Prop where
  holding : γ'.holding u = γ.holding u
  budget : γ'.budget u = γ.budget u
  contracts : γ'.contracts u = γ.contracts u

theorem Same.event (h : Same γ γ' u) : heldBy γ'.event u = heldBy γ.event u := congrArg Holding.event h.holding

theorem Same.block (h : Same γ γ' u) : heldBy γ'.block u = heldBy γ.block u := congrArg Holding.block h.holding

theorem Same.template (h : Same γ γ' u) : heldBy γ'.template u = heldBy γ.template u :=
  congrArg Holding.template h.holding

theorem Same.brief (h : Same γ γ' u) : γ'.brief u = γ.brief u := by
  have hduty : share u γ'.duty = share u γ.duty := congrArg Holding.duty h.holding
  rw [Ghost.brief, Ghost.brief, h.event, h.contracts, hduty, h.budget]

theorem TaskInv.frame (hP : P.Monotone) (hK : γ.known.Le γ'.known) (hsame : Same γ γ' u)
    (hslot : ∀ j t κ, γ.slot (u, j) = some (t, κ) → ∃ t', γ'.slot (u, j) = some (t', κ))
    (hevent : ∀ j e t κ, w.slot u j = some (.waiting e) → γ.event e = some (t, κ, true) →
      ∃ t', γ'.event e = some (t', κ, true))
    (h : TaskInv P γ u (w.tasks u)) : TaskInv P γ' u (w.tasks u) := by
  cases htask : w.tasks u with
  | none =>
      rw [htask] at h
      exact ⟨hsame.holding.trans h.1, hsame.budget.trans h.2⟩
  | some task =>
      rw [htask] at h
      cases task with
      | running rest =>
          rw [taskInv_running] at h ⊢
          rw [hsame.holding, hsame.budget]
          exact safe_mono hP hK h
      | pending code params slots =>
          have hready := h
          constructor
          · rw [hsame.brief]
            exact hP.pre hK hready.pre
          · rw [hsame.event, hsame.contracts]
            exact hready.rank
          · rw [hsame.contracts]
            exact hready.length_eq
          · intro j s κ hs hκ
            rw [hsame.contracts] at hκ
            have hmeets := hready.meets j s κ hs hκ
            cases s with
            | vacant =>
                obtain ⟨t, ht⟩ := hmeets
                exact hslot j t κ ht
            | waiting e =>
                obtain ⟨t, ht⟩ := hmeets
                exact hevent j e t κ (slot_eq_some.mpr ⟨_, _, _, htask, hs⟩) ht
            | filled payload =>
                cases payload with
                | none => exact hmeets
                | some d =>
                    obtain ⟨v, c, hd, hrest⟩ := hmeets
                    refine ⟨v, c, ?_, hrest⟩
                    rw [← heldBy_eq_some, hsame.block]
                    exact heldBy_eq_some.mpr hd
          · exact hready.distinct
          · rw [hsame.block]
            exact hready.blocks
          · rw [hsame.template]
            exact hready.template

section Act

variable {rest rest' : Prog S (Option S.Name)}

theorem slot_running (ht : w.tasks t = some (.running rest)) :
    (w.setTask t (some (.running rest'))).slot = w.slot := by
  refine slot_setTask nofun ?_
  intro code params slots h
  exact nomatch ht.symm.trans h

theorem SlotsInv.running {owed : S.Name × Nat → Option (S.Name × Contract S)}
    {contracts : S.Name → List (Contract S)} {slot : S.Name → Nat → Option (Slot S.Name)}
    (h : SlotsInv owed contracts slot w.tasks) :
    SlotsInv owed contracts slot (w.setTask t (some (.running rest'))).tasks := by
  intro u j t' κ ho
  obtain ⟨hvacant, hκ, rest, ht'⟩ := h u j t' κ ho
  refine ⟨hvacant, hκ, ?_⟩
  by_cases he : t' = t
  · exact ⟨rest', by rw [he, tasks_setTask_self]⟩
  · exact ⟨rest, by rw [tasks_setTask_other w he, ht']⟩

theorem UsedInv.setTask (h : UsedInv P w) (ht : t ∈ w.used) (task : Option (Task S)) :
    UsedInv P (w.setTask t task) where
  reserved := h.reserved
  block := h.block
  event := h.event
  template := h.template
  task := by
    intro u hu
    by_cases he : u = t
    · rwa [he]
    · rw [tasks_setTask_other w he] at hu
      exact h.task u hu

/-- A step of a running task that leaves the other tasks and the slots alone. -/
theorem Inv.act (hP : P.Monotone) (hI : Inv P γ w) (ht : w.tasks t = some (.running rest))
    (htasks : w'.tasks = w.tasks) (hK : γ.known.Le γ'.known) (hslot : γ'.slot = γ.slot)
    (hcontracts : γ'.contracts = γ.contracts) (hother : ∀ u, u ≠ t → γ'.holding u = γ.holding u)
    (hbudget : ∀ u, u ≠ t → γ'.budget u = γ.budget u)
    (hwaiting : ∀ u j e t κ, w.slot u j = some (.waiting e) → γ.event e = some (t, κ, true) →
      ∃ t', γ'.event e = some (t', κ, true))
    (hblocks : BlocksInv P.shared γ'.block w'.blocks) (hevents : EventsInv γ'.event w'.events w.slot)
    (htemplates : TemplatesInv γ'.known γ'.template w'.templates)
    (hduty : ∃ t, γ'.duty = some (t, P.report w'.printed))
    (hused : UsedInv P w') (hsafe : Safe P rest' γ'.known (γ'.holding t) (γ'.budget t)) :
    Inv P γ' (w'.setTask t (some (.running rest'))) := by
  have ht' : w'.tasks t = some (.running rest) := by rw [htasks, ht]
  have hslots : w'.slot = w.slot := by
    funext u j
    rw [World.slot, World.slot, htasks]
  constructor
  · exact hblocks
  · rw [slot_running ht', hslots]
    exact hevents
  · rw [slot_running ht', hslots, hslot, hcontracts]
    exact SlotsInv.running (htasks ▸ hI.slots)
  · exact htemplates
  · exact hduty
  · exact hused.setTask (hused.task t (by rw [ht']; rfl)) _
  · intro u
    by_cases he : u = t
    · subst he
      rw [tasks_setTask_self]
      exact hsafe
    · rw [tasks_setTask_other w' he, htasks]
      refine TaskInv.frame hP hK ⟨hother u he, hbudget u he, by rw [hcontracts]⟩ ?_ (hwaiting u) (hI.tasks u)
      intro j t κ hj
      exact ⟨t, by rw [hslot, hj]⟩

/-- The invariant holds afterwards, for a ghost state with fewer steps left. -/
def Advances (P : Spec S) (γ : Ghost S) (w : World S) : Prop := ∃ γ', Inv P γ' w ∧ γ'.total < γ.total

omit [DecidableEq S.Name] in
theorem total_update (γ : Ghost S) (t : S.Name) (m : Nat) :
    (γ.budget.update t m).sum (fun _ n => n) + γ.budget t = γ.total + m :=
  Finsupp.sum_update_add γ.budget t m (fun _ n => n) (fun _ => rfl) (fun _ _ _ => rfl)

theorem budget_update_other (γ : Ghost S) (m : Nat) (h : u ≠ t) : γ.budget.update t m u = γ.budget u := by
  rw [Finsupp.coe_update, Function.update_of_ne h]

theorem budget_update_self (γ : Ghost S) (t : S.Name) (m : Nat) : γ.budget.update t m t = m := by
  rw [Finsupp.coe_update, Function.update_self]

variable {m : Nat}

omit [DecidableEq S.Name] in
theorem total_lt (hm : m < γ.budget t) : (γ.budget.update t m).sum (fun _ n => n) < γ.total := by
  have h := total_update γ t m
  omega

theorem advances_same (hP : P.Monotone) (hI : Inv P γ w) (ht : w.tasks t = some (.running rest))
    (hm : m < γ.budget t) (hsafe : Safe P rest' γ.known (γ.holding t) m) :
    Advances P γ (w.setTask t (some (.running rest'))) := by
  refine ⟨{ γ with budget := γ.budget.update t m }, ?_, total_lt hm⟩
  refine hI.act hP ht rfl (Known.le_refl _) rfl rfl (fun _ _ => rfl) ?_ ?_ hI.blocks hI.events hI.templates hI.duty
    hI.used ?_
  · exact fun u hu => budget_update_other γ m hu
  · exact fun _ _ e t κ _ h => ⟨t, h⟩
  · rw [budget_update_self]
    exact hsafe

theorem advances_block (hP : P.Monotone) (hI : Inv P γ w) (ht : w.tasks t = some (.running rest))
    (hm : m < γ.budget t) {d : S.Name} {b : Option (Block S)} {p : Option (S.Content × Bool)}
    (hblocks : w'.blocks = Function.update w.blocks d b) (htasks : w'.tasks = w.tasks)
    (hevents : w'.events = w.events) (htemplates : w'.templates = w.templates) (hprinted : w'.printed = w.printed)
    (hused : UsedInv P w') (hold : ∀ u, u ≠ t → share u (γ.block d) = none)
    (hnew : ∀ v c, p = some (v, c) →
      ∃ writer, b = some ⟨v, writer⟩ ∧ (P.shared ∨ writer = none ∨ c = false ∧ writer = some t))
    (hsafe : Safe P rest' γ.known { γ.holding t with block := Function.update (γ.holding t).block d p } m) :
    Advances P γ (w'.setTask t (some (.running rest'))) := by
  have hshare : share t (p.map (t, ·)) = p := by cases p <;> simp
  refine ⟨{ γ with block := Function.update γ.block d (p.map (t, ·)), budget := γ.budget.update t m }, ?_,
    total_lt hm⟩
  refine hI.act hP ht htasks (Known.le_refl _) rfl rfl ?_ ?_ ?_ ?_ (hevents ▸ hI.events)
    (htemplates ▸ hI.templates) (hprinted ▸ hI.duty) hused ?_
  · intro u hu
    have hother : heldBy (Function.update γ.block d (p.map (t, ·))) u = heldBy γ.block u := by
      refine heldBy_update_other hu (hold u hu) ?_
      intro q hq
      obtain ⟨i, -, rfl⟩ := Option.map_eq_some_iff.mp hq
      rfl
    simp only [Ghost.holding, hother]
  · exact fun u hu => budget_update_other γ m hu
  · exact fun _ _ e t κ _ h => ⟨t, h⟩
  · intro d' t' v c hd
    rw [hblocks]
    by_cases he : d' = d
    · subst he
      simp only [Function.update_self] at hd ⊢
      obtain ⟨⟨v', c'⟩, rfl, hq⟩ := Option.map_eq_some_iff.mp hd
      cases hq
      exact hnew v c rfl
    · simp only [Function.update_of_ne he] at hd ⊢
      exact hI.blocks d' t' v c hd
  · rw [budget_update_self]
    simpa only [Ghost.holding, heldBy_update, hshare] using hsafe

theorem Inv.waiting (hI : Inv P γ w) {j : Nat} {e : S.Name} (h : w.slot u j = some (.waiting e)) :
    ∃ t κ, γ.event e = some (t, κ, true) ∧ (γ.contracts u)[j]? = some κ := by
  obtain ⟨code, params, slots, htask, hs⟩ := slot_eq_some.mp h
  have hready := hI.tasks u
  rw [htask] at hready
  have hj : j < (γ.contracts u).length := by
    rw [← hready.length_eq]
    exact (List.getElem?_eq_some_iff.mp hs).1
  obtain ⟨t, ht⟩ := hready.meets j _ _ hs (List.getElem?_eq_getElem hj)
  exact ⟨t, _, ht, List.getElem?_eq_getElem hj⟩

theorem Inv.block_none (hI : Inv P γ w) {d : S.Name} (hd : d ∉ w.used) : γ.block d = none := by
  cases hb : γ.block d with
  | none => rfl
  | some q =>
      obtain ⟨writer, hw, -⟩ := hI.blocks d q.1 q.2.1 q.2.2 hb
      exact absurd (hI.used.block d (by rw [hw]; rfl)).1 hd

theorem Inv.event_none (hI : Inv P γ w) {e : S.Name} (he : e ∉ w.used) : γ.event e = none := by
  by_contra hne
  exact he (hI.used.event e ((hI.events.live e).mpr (Option.isSome_iff_ne_none.mpr hne)))

theorem Inv.template_none (hI : Inv P γ w) {g : S.Name} (hg : g ∉ w.used) :
    γ.known g = none ∧ γ.template g = none := by
  constructor
  · cases hk : γ.known g with
    | none => rfl
    | some code => exact absurd (hI.used.template g (by rw [hI.templates.known g code hk]; rfl)) hg
  · cases ht : γ.template g with
    | none => rfl
    | some q => exact absurd (hI.used.template g (by rw [(hI.templates.held g q.1 q.2 ht).1]; rfl)) hg

omit [DecidableEq S.Name] in
theorem UsedInv.use (h : UsedInv P w) (name : S.Name) : UsedInv P (w.use name) where
  reserved := fun d hd => .inr (h.reserved d hd)
  block := fun d hd => ⟨.inr (h.block d hd).1, (h.block d hd).2⟩
  event := fun e he => .inr (h.event e he)
  template := fun g hg => .inr (h.template g hg)
  task := fun t ht => .inr (h.task t ht)

theorem UsedInv.setBlock (h : UsedInv P w) {d : S.Name} (hd : d ∈ w.used ∧ ¬ P.reserved d) (b : Option (Block S)) :
    UsedInv P (w.setBlock d b) where
  reserved := h.reserved
  block := by
    intro d' hd'
    by_cases he : d' = d
    · exact he ▸ hd
    · simp only [World.setBlock, Function.update_of_ne he] at hd'
      exact h.block d' hd'
  event := h.event
  template := h.template
  task := h.task

theorem UsedInv.setTemplate (h : UsedInv P w) {g : S.Name} (hg : g ∈ w.used) (code : Option S.Code) :
    UsedInv P (w.setTemplate g code) where
  reserved := h.reserved
  block := h.block
  event := h.event
  template := by
    intro g' hg'
    by_cases he : g' = g
    · exact he ▸ hg
    · simp only [World.setTemplate, Function.update_of_ne he] at hg'
      exact h.template g' hg'
  task := h.task

theorem UsedInv.addEvent (h : UsedInv P w) {e : S.Name} (he : e ∈ w.used) : UsedInv P (w.addEvent e) where
  reserved := h.reserved
  block := h.block
  event := by
    intro e' he'
    by_cases hne : e' = e
    · exact hne ▸ he
    · simp only [World.addEvent, Function.update_of_ne hne] at he'
      exact h.event e' he'
  template := h.template
  task := h.task

theorem advances_createEvent (hP : P.Monotone) (hI : Inv P γ w) (ht : w.tasks t = some (.running rest))
    (hm : m < γ.budget t) {e : S.Name} (he : e ∉ w.used) (κ : Contract S)
    (hsafe : Safe P rest' γ.known
      { γ.holding t with event := Function.update (γ.holding t).event e (some (κ, false)) } m) :
    Advances P γ (((w.use e).addEvent e).setTask t (some (.running rest'))) := by
  have hnone := hI.event_none he
  refine ⟨{ γ with event := Function.update γ.event e (some (t, κ, false)), budget := γ.budget.update t m }, ?_,
    total_lt hm⟩
  refine hI.act hP ht rfl (Known.le_refl _) rfl rfl ?_ ?_ ?_ hI.blocks ?_ hI.templates hI.duty
    ((hI.used.use e).addEvent (Set.mem_insert e _)) ?_
  · intro u hu
    have hother : heldBy (Function.update γ.event e (some (t, κ, false))) u = heldBy γ.event u := by
      refine heldBy_update_other hu (by rw [hnone]; rfl) ?_
      rintro q ⟨⟩
      rfl
    simp only [Ghost.holding, hother]
  · exact fun u hu => budget_update_other γ m hu
  · intro u j e' t' κ' _ h
    have hne : e' ≠ e := by
      rintro rfl
      exact nomatch hnone.symm.trans h
    exact ⟨t', (Function.update_of_ne hne _ _).trans h⟩
  · constructor
    · intro e'
      by_cases hne : e' = e
      · subst hne
        simp [World.addEvent]
      · simp only [World.addEvent, World.use, Function.update_of_ne hne]
        exact hI.events.live e'
    · intro e' t' κ' h u j hslot
      obtain ⟨t₁, κ₁, hwait, -⟩ := hI.waiting hslot
      by_cases hne : e' = e
      · subst hne
        exact nomatch hnone.symm.trans hwait
      · simp only [Function.update_of_ne hne] at h
        exact hI.events.unarmed e' t' κ' h u j hslot
    · exact hI.events.single
  · rw [budget_update_self]
    simpa only [Ghost.holding, heldBy_update, share_self] using hsafe

theorem advances_noise (hP : P.Monotone) (hI : Inv P γ w) (ht : w.tasks t = some (.running rest))
    (hm : m < γ.budget t) {o : S.Output} (ho : P.noise o = true) (hsafe : Safe P rest' γ.known (γ.holding t) m) :
    Advances P γ (({ w with printed := w.printed ++ [o] } : World S).setTask t (some (.running rest'))) := by
  have hreport : P.report (w.printed ++ [o]) = P.report w.printed := by simp [Spec.report, ho]
  refine ⟨{ γ with budget := γ.budget.update t m }, ?_, total_lt hm⟩
  refine hI.act hP ht rfl (Known.le_refl _) rfl rfl (fun _ _ => rfl) ?_ (fun _ _ e t κ _ h => ⟨t, h⟩) hI.blocks
    hI.events hI.templates (hreport ▸ hI.duty)
    ⟨hI.used.reserved, hI.used.block, hI.used.event, hI.used.template, hI.used.task⟩ ?_
  · exact fun u hu => budget_update_other γ m hu
  · rw [budget_update_self]
    exact hsafe

theorem advances_print (hP : P.Monotone) (hI : Inv P γ w) (ht : w.tasks t = some (.running rest))
    (hm : m < γ.budget t) {o : S.Output} (ho : P.noise o = false) {l : List S.Output}
    (hl : (γ.holding t).duty = some l)
    (hsafe : Safe P rest' γ.known { γ.holding t with duty := some (l ++ [o]) } m) :
    Advances P γ (({ w with printed := w.printed ++ [o] } : World S).setTask t (some (.running rest'))) := by
  have hreport : P.report (w.printed ++ [o]) = P.report w.printed ++ [o] := by simp [Spec.report, ho]
  have hduty : γ.duty = some (t, l) := share_eq_some.mp hl
  obtain ⟨t', hprinted⟩ := hI.duty
  obtain ⟨rfl, rfl⟩ : t = t' ∧ l = P.report w.printed := by simpa [hduty] using hprinted
  refine ⟨{ γ with duty := some (t, P.report w.printed ++ [o]), budget := γ.budget.update t m }, ?_, total_lt hm⟩
  refine hI.act hP ht rfl (Known.le_refl _) rfl rfl ?_ ?_ (fun _ _ e t κ _ h => ⟨t, h⟩) hI.blocks hI.events
    hI.templates ⟨t, by rw [hreport]⟩
    ⟨hI.used.reserved, hI.used.block, hI.used.event, hI.used.template, hI.used.task⟩ ?_
  · intro u hu
    simp only [Ghost.holding, hduty, share_other hu.symm]
  · exact fun u hu => budget_update_other γ m hu
  · rw [budget_update_self]
    simpa only [Ghost.holding, share_self] using hsafe

theorem advances_createKnown (hP : P.Monotone) (hI : Inv P γ w) (ht : w.tasks t = some (.running rest))
    (hm : m < γ.budget t) {g : S.Name} (hg : g ∉ w.used) (code : S.Code)
    (hsafe : Safe P rest' (Function.update γ.known g (some code)) (γ.holding t) m) :
    Advances P γ (((w.use g).setTemplate g (some code)).setTask t (some (.running rest'))) := by
  obtain ⟨hknown, hown⟩ := hI.template_none hg
  refine ⟨{ γ with known := Function.update γ.known g (some code), budget := γ.budget.update t m }, ?_,
    total_lt hm⟩
  refine hI.act hP ht rfl (Known.le_update hknown code) rfl rfl (fun _ _ => rfl) ?_ (fun _ _ e t κ _ h => ⟨t, h⟩)
    hI.blocks hI.events ?_ hI.duty ((hI.used.use g).setTemplate (Set.mem_insert g _) _) ?_
  · exact fun u hu => budget_update_other γ m hu
  · constructor
    · intro g' t' code' h
      have hne : g' ≠ g := by
        rintro rfl
        exact nomatch hown.symm.trans h
      simp only [World.setTemplate, World.use, Function.update_of_ne hne]
      exact hI.templates.held g' t' code' h
    · intro g' code' h
      by_cases hne : g' = g
      · subst hne
        simpa [World.setTemplate] using h
      · simp only [World.setTemplate, World.use, Function.update_of_ne hne] at h ⊢
        exact hI.templates.known g' code' h
  · rw [budget_update_self]
    exact hsafe

theorem advances_template (hP : P.Monotone) (hI : Inv P γ w) (ht : w.tasks t = some (.running rest))
    (hm : m < γ.budget t) {g : S.Name} {code : Option S.Code}
    (htemplates : w'.templates = Function.update w.templates g code)
    (hblocks : w'.blocks = w.blocks) (htasks : w'.tasks = w.tasks) (hevents : w'.events = w.events)
    (hprinted : w'.printed = w.printed) (hused : UsedInv P w') (hold : ∀ u, u ≠ t → share u (γ.template g) = none)
    (hknown : γ.known g = none)
    (hsafe : Safe P rest' γ.known
      { γ.holding t with template := Function.update (γ.holding t).template g code } m) :
    Advances P γ (w'.setTask t (some (.running rest'))) := by
  have hshare : share t (code.map (t, ·)) = code := by cases code <;> simp
  refine ⟨{ γ with template := Function.update γ.template g (code.map (t, ·)), budget := γ.budget.update t m }, ?_,
    total_lt hm⟩
  refine hI.act hP ht htasks (Known.le_refl _) rfl rfl ?_ ?_ (fun _ _ e t κ _ h => ⟨t, h⟩) (hblocks ▸ hI.blocks)
    (hevents ▸ hI.events) ?_ (hprinted ▸ hI.duty) hused ?_
  · intro u hu
    have hother : heldBy (Function.update γ.template g (code.map (t, ·))) u = heldBy γ.template u := by
      refine heldBy_update_other hu (hold u hu) ?_
      intro q hq
      obtain ⟨i, -, rfl⟩ := Option.map_eq_some_iff.mp hq
      rfl
    simp only [Ghost.holding, hother]
  · exact fun u hu => budget_update_other γ m hu
  · rw [htemplates]
    constructor
    · intro g' t' code' h
      by_cases hne : g' = g
      · subst hne
        simp only [Function.update_self] at h ⊢
        obtain ⟨code₁, rfl, hq⟩ := Option.map_eq_some_iff.mp h
        cases hq
        exact ⟨rfl, hknown⟩
      · simp only [Function.update_of_ne hne] at h ⊢
        exact hI.templates.held g' t' code' h
    · intro g' code' h
      have hne : g' ≠ g := by
        rintro rfl
        exact nomatch hknown.symm.trans h
      rw [Function.update_of_ne hne]
      exact hI.templates.known g' code' h
  · rw [budget_update_self]
    simpa only [Ghost.holding, heldBy_update, hshare] using hsafe

end Act

end Ocxxr.TaskInvariant

import Ocxxr.Library.TaskInvariant

namespace Ocxxr.TaskSpawning

open TaskGraph TaskContracts TaskInvariant

variable {S : Signature}

/-- How the slot of a new task starts, if the events among its sources are there. -/
def start : Source S.Name → Slot S.Name
  | .later => .vacant
  | .null => .filled none
  | .object e => .waiting e

theorem mem_named {sources : List (Source S.Name)} {e : S.Name} : e ∈ named sources ↔ .object e ∈ sources := by
  induction sources with
  | nil => simp [named]
  | cons source rest ih =>
      cases source with
      | later => simp [named, ih]
      | null => simp [named, ih]
      | object e' => simp [named, ih]

theorem named_unique {sources : List (Source S.Name)} (h : (named sources).Nodup) {e : S.Name} {i j : Nat}
    (hi : sources[i]? = some (.object e)) (hj : sources[j]? = some (.object e)) : i = j := by
  induction sources generalizing i j with
  | nil => simp at hi
  | cons source rest ih =>
      have hrest : (named rest).Nodup := by
        cases source with
        | later => exact h
        | null => exact h
        | object e' => exact (List.nodup_cons.mp h).2
      have hfirst : ∀ {k : Nat}, source = .object e → rest[k]? ≠ some (.object e) := by
        rintro k rfl hk
        exact (List.nodup_cons.mp h).1 (mem_named.mpr (List.mem_of_getElem? hk))
      cases i with
      | zero =>
          cases j with
          | zero => rfl
          | succ j => exact absurd hj (hfirst (Option.some.inj hi))
      | succ i =>
          cases j with
          | zero => exact absurd hi (hfirst (Option.some.inj hj))
          | succ j => exact congrArg (· + 1) (ih hrest hi hj)

variable [DecidableEq S.Name] {P : Spec S} {γ γ' : Ghost S} {w w' : World S} {t u x : S.Name}
  {rest rest' : Prog S (Option S.Name)} {m : Nat}

omit [DecidableEq S.Name] in
theorem mapM_place {sources : List (Source S.Name)} (h : ∀ e ∈ named sources, w.events e = true) :
    sources.mapM w.place = some (sources.map start) := by
  induction sources with
  | nil => rfl
  | cons source rest ih =>
      have hplace : w.place source = some (start source) := by
        cases source with
        | later => rfl
        | null => rfl
        | object e => simp [World.place, start, h e List.mem_cons_self]
      have hrest : ∀ e ∈ named rest, w.events e = true :=
        fun e he => h e (mem_named.mpr (List.mem_cons_of_mem _ (mem_named.mp he)))
      rw [List.mapM_cons, hplace, ih hrest]
      rfl

section Events

variable {event : S.Name → Option (S.Name × Contract S × Bool)} {passed : S.Name → Bool}
  {sources : List (Source S.Name)}

/-- Some of the creator's events pass to the new task, and a slot waits for the named ones. -/
def passOn (t u : S.Name) (passed : S.Name → Bool) (sources : List (Source S.Name))
    (event : S.Name → Option (S.Name × Contract S × Bool)) (e : S.Name) : Option (S.Name × Contract S × Bool) :=
  (event e).map (fun p =>
    if p.1 = t then (if passed e then u else t, p.2.1, p.2.2 || isNamed sources e) else p)

theorem heldBy_passOn_creator (hut : u ≠ t) : heldBy (passOn t u passed sources event) t =
    fun e => if passed e then none else arm sources (heldBy event t) e := by
  funext e
  rw [heldBy, passOn, arm, heldBy]
  cases event e with
  | none => simp
  | some p =>
      by_cases ht : p.1 = t
      · cases passed e <;> simp [share, ht, hut]
      · simp [share, ht]

theorem heldBy_passOn_created (hut : u ≠ t) (hu : ∀ e, heldBy event u e = none) :
    heldBy (passOn t u passed sources event) u =
      fun e => if passed e then arm sources (heldBy event t) e else none := by
  funext e
  have hnone := hu e
  rw [heldBy] at hnone
  rw [heldBy, passOn, arm, heldBy]
  cases hevent : event e with
  | none => simp
  | some p =>
      by_cases ht : p.1 = t
      · cases passed e <;> simp [share, ht, hut.symm]
      · rw [hevent] at hnone
        simpa [share, ht] using hnone

theorem heldBy_passOn_other (hxt : x ≠ t) (hxu : x ≠ u) :
    heldBy (passOn t u passed sources event) x = heldBy event x := by
  funext e
  rw [heldBy, passOn, heldBy]
  cases event e with
  | none => rfl
  | some p =>
      by_cases ht : p.1 = t
      · cases passed e <;> simp [share, ht, hxt.symm, hxu.symm]
      · simp [ht]

theorem passOn_isSome (e : S.Name) : (passOn t u passed sources event e).isSome = (event e).isSome := by
  rw [passOn, Option.isSome_map]

theorem passOn_armed {e : S.Name} {κ : Contract S} (h : event e = some (x, κ, true)) :
    ∃ x', passOn t u passed sources event e = some (x', κ, true) := by
  rw [passOn, h]
  by_cases hx : x = t
  · simp [hx]
  · simp [hx]

theorem passOn_named {e : S.Name} {κ : Contract S} (h : event e = some (t, κ, false)) (he : e ∈ named sources) :
    ∃ x', passOn t u passed sources event e = some (x', κ, true) := by
  simp [passOn, h, he]

theorem passOn_unarmed {e : S.Name} {κ : Contract S}
    (hnamed : ∀ e ∈ named sources, ∃ κ, event e = some (t, κ, false))
    (h : passOn t u passed sources event e = some (x, κ, false)) :
    e ∉ named sources ∧ ∃ x', event e = some (x', κ, false) := by
  rw [passOn, Option.map_eq_some_iff] at h
  obtain ⟨⟨x', κ', armed⟩, hevent, h⟩ := h
  by_cases hx : x' = t
  · simp only [hx, if_true, Prod.mk.injEq, Bool.or_eq_false_iff, isNamed_eq_false] at h
    obtain ⟨-, rfl, rfl, hnot⟩ := h
    exact ⟨hnot, x', hevent⟩
  · simp only [hx, if_false, Prod.mk.injEq] at h
    obtain ⟨-, rfl, rfl⟩ := h
    refine ⟨?_, x', hevent⟩
    intro he
    obtain ⟨κ₁, h₁⟩ := hnamed e he
    rw [hevent] at h₁
    cases h₁
    exact hx rfl

end Events

section Slots

variable {slot : S.Name × Nat → Option (S.Name × Contract S)} {sources : List (Source S.Name)}
  {contracts : List (Contract S)}

/-- The slots that are left open are for the creator to fill. -/
def openSlots (t u : S.Name) (sources : List (Source S.Name)) (contracts : List (Contract S))
    (slot : S.Name × Nat → Option (S.Name × Contract S)) (k : S.Name × Nat) : Option (S.Name × Contract S) :=
  if k.1 = u then (leftOpen sources contracts k.2).map (fun κ => (t, κ)) else slot k

theorem openSlots_other {j : Nat} (h : x ≠ u) : openSlots t u sources contracts slot (x, j) = slot (x, j) :=
  if_neg h

theorem openSlots_self {j : Nat} {p : S.Name × Contract S} : openSlots t u sources contracts slot (u, j) = some p ↔
    sources[j]? = some .later ∧ contracts[j]? = some p.2 ∧ p.1 = t := by
  simp only [openSlots, if_true, Option.map_eq_some_iff, leftOpen_eq_some]
  constructor
  · rintro ⟨κ, ⟨hsource, hκ⟩, rfl⟩
    exact ⟨hsource, hκ, rfl⟩
  · rintro ⟨hsource, hκ, rfl⟩
    exact ⟨p.2, ⟨hsource, hκ⟩, rfl⟩

theorem heldBy_openSlots_creator : heldBy (openSlots t u sources contracts slot) t =
    fun k => if k.1 = u then leftOpen sources contracts k.2 else heldBy slot t k := by
  funext k
  rw [heldBy, openSlots]
  split
  next => cases leftOpen sources contracts k.2 <;> simp
  next => rfl

theorem heldBy_openSlots_other (hx : x ≠ t) (hu : ∀ j, slot (u, j) = none) :
    heldBy (openSlots t u sources contracts slot) x = heldBy slot x := by
  funext ⟨v, j⟩
  by_cases hv : v = u
  · subst hv
    rw [heldBy, heldBy, hu j, share_none]
    cases hopen : openSlots t v sources contracts slot (v, j) with
    | none => rfl
    | some p =>
        obtain ⟨-, -, hp⟩ := openSlots_self.mp hopen
        exact share_other (fun h => hx (h.symm.trans hp)) p.2
  · rw [heldBy, openSlots_other hv, heldBy]

end Slots

section Duty

variable {printed : List S.Output} {duty : Option (S.Name × List S.Output)} {part : Option (List S.Output)}

def passDuty (u : S.Name) (duty : Option (S.Name × List S.Output)) : Option (List S.Output) →
    Option (S.Name × List S.Output)
  | some l => some (u, l)
  | none => duty

theorem share_passDuty_creator (hut : u ≠ t) :
    share t (passDuty u duty part) = if part.isSome then none else share t duty := by
  cases part with
  | none => rfl
  | some l => exact share_other hut l

theorem share_passDuty_created (hu : share u duty = none) : share u (passDuty u duty part) = part := by
  cases part with
  | none => exact hu
  | some l => exact share_self u l

theorem share_passDuty_other (hxt : x ≠ t) (hxu : x ≠ u) (h : part = none ∨ part = share t duty) :
    share x (passDuty u duty part) = share x duty := by
  cases part with
  | none => rfl
  | some l =>
      have ht : duty = some (t, l) := share_eq_some.mp (h.resolve_left nofun).symm
      rw [passDuty, share_other hxu.symm, ht, share_other hxt.symm]

theorem passDuty_printed (h : part = none ∨ part = share t duty) (hduty : ∃ t, duty = some (t, printed)) :
    ∃ t, passDuty u duty part = some (t, printed) := by
  cases part with
  | none => exact hduty
  | some l =>
      have ht : duty = some (t, l) := share_eq_some.mp (h.resolve_left nofun).symm
      obtain ⟨t', ht'⟩ := hduty
      rw [ht] at ht'
      cases ht'
      exact ⟨u, rfl⟩

end Duty

section Creation

variable {code : S.Code} {params : S.Params} {sources : List (Source S.Name)} {brief : Brief S}
  {passed : S.Name → Bool}

noncomputable def created (γ : Ghost S) (t u : S.Name) (passed : S.Name → Bool) (sources : List (Source S.Name))
    (brief : Brief S) (m : Nat) : Ghost S :=
  { γ with
    event := passOn t u passed sources γ.event
    slot := openSlots t u sources brief.contracts γ.slot
    duty := passDuty u γ.duty brief.duty
    contracts := Function.update γ.contracts u brief.contracts
    budget := (γ.budget.update t m).update u brief.budget }

structure Gives (γ : Ghost S) (t : S.Name) (sources : List (Source S.Name)) (passed : S.Name → Bool)
    (brief : Brief S) : Prop where
  feeds : List.Forall₂ (Feeds (γ.holding t)) sources brief.contracts
  nodup : (named sources).Nodup
  event : brief.event = fun e => if passed e then arm sources (γ.holding t).event e else none
  rank : ∀ e p, brief.event e = some p → ∀ κ ∈ brief.contracts, κ.rank < p.1.rank
  duty : brief.duty = none ∨ brief.duty = (γ.holding t).duty

theorem Gives.source (h : Gives γ t sources passed brief) {j : Nat} {source : Source S.Name} {κ : Contract S}
    (hj : sources[j]? = some source) (hκ : brief.contracts[j]? = some κ) : Feeds (γ.holding t) source κ := by
  obtain ⟨hlt, rfl⟩ := List.getElem?_eq_some_iff.mp hj
  obtain ⟨hlt', rfl⟩ := List.getElem?_eq_some_iff.mp hκ
  exact h.feeds.get hlt hlt'

theorem Gives.named (h : Gives γ t sources passed brief) {e : S.Name} (he : e ∈ named sources) :
    ∃ κ, γ.event e = some (t, κ, false) := by
  obtain ⟨j, hj, hsource⟩ := List.getElem_of_mem (mem_named.mp he)
  have hlt : j < brief.contracts.length := by rwa [← h.feeds.length_eq]
  have hfeeds := h.source (List.getElem?_eq_some_iff.mpr ⟨hj, hsource⟩) (List.getElem?_eq_getElem hlt)
  exact ⟨_, heldBy_eq_some.mp hfeeds⟩

variable (hgives : Gives γ t sources passed brief) (hut : u ≠ t) (hempty : γ.holding u = Holding.empty)

include hut in
theorem created_holding_creator : (created γ t u passed sources brief m).holding t =
    { γ.holding t with
      event := fun e => if passed e then none else arm sources (γ.holding t).event e
      slot := fun k => if k.1 = u then leftOpen sources brief.contracts k.2 else (γ.holding t).slot k
      duty := if brief.duty.isSome then none else (γ.holding t).duty } := by
  simp only [created, Ghost.holding, heldBy_passOn_creator hut, heldBy_openSlots_creator,
    share_passDuty_creator hut]

include hgives hut hempty in
theorem created_brief : (created γ t u passed sources brief m).brief u = brief := by
  have hevent : ∀ e, heldBy γ.event u e = none := congrFun (congrArg Holding.event hempty)
  have hduty : share u γ.duty = none := congrArg Holding.duty hempty
  have hgiven : (fun e => if passed e then arm sources (heldBy γ.event t) e else none) = brief.event :=
    hgives.event.symm
  simp only [created, Ghost.brief, heldBy_passOn_created hut hevent, share_passDuty_created hduty,
    Function.update_self, Finsupp.coe_update, hgiven]

include hgives in
theorem created_same (hslot : ∀ j, γ.slot (u, j) = none) (hxt : x ≠ t) (hxu : x ≠ u) :
    Same γ (created γ t u passed sources brief m) x where
  holding := by
    simp only [created, Ghost.holding, heldBy_passOn_other hxt hxu, heldBy_openSlots_other hxt hslot,
      share_passDuty_other hxt hxu hgives.duty]
  budget := by
    simp only [created, Finsupp.coe_update, Function.update_of_ne hxu, Function.update_of_ne hxt]
  contracts := Function.update_of_ne hxu _ _

omit [DecidableEq S.Name] in
theorem start_eq_filled {source : Source S.Name} {d : S.Name} : start source ≠ .filled (some d) := by
  cases source <;> simp [start]

include hgives hut hempty in
theorem ready_created (hpre : P.Pre γ.known code params brief) :
    Ready P (created γ t u passed sources brief m) u code params (sources.map start) := by
  have hbrief := created_brief (m := m) hgives hut hempty
  have hcontracts : (created γ t u passed sources brief m).contracts u = brief.contracts :=
    congrArg Brief.contracts hbrief
  constructor
  · rw [hbrief]
    exact hpre
  · rw [hcontracts]
    intro e p hp
    refine hgives.rank e p ?_
    rw [← congrArg Brief.event hbrief]
    exact hp
  · rw [List.length_map, hcontracts, hgives.feeds.length_eq]
  · intro j s κ hs hκ
    rw [hcontracts] at hκ
    rw [List.getElem?_map, Option.map_eq_some_iff] at hs
    obtain ⟨source, hsource, rfl⟩ := hs
    have hfeeds := hgives.source hsource hκ
    cases source with
    | later => exact ⟨t, openSlots_self.mpr ⟨hsource, hκ, rfl⟩⟩
    | null => exact hfeeds
    | object e =>
        exact passOn_named (heldBy_eq_some.mp hfeeds) (mem_named.mpr (List.mem_of_getElem? hsource))
  · intro i j d hi
    rw [List.getElem?_map, Option.map_eq_some_iff] at hi
    obtain ⟨source, -, hs⟩ := hi
    exact absurd hs start_eq_filled
  · intro d p hd
    exact nomatch (congrFun (congrArg Holding.block hempty) d).symm.trans hd
  · exact congrFun (congrArg Holding.template hempty)

omit [DecidableEq S.Name] in
theorem waiting_start {j : Nat} {e : S.Name} (h : (sources.map start)[j]? = some (.waiting e)) :
    sources[j]? = some (.object e) := by
  rw [List.getElem?_map, Option.map_eq_some_iff] at h
  obtain ⟨source, hsource, hs⟩ := h
  cases source with
  | later => cases hs
  | null => cases hs
  | object e' =>
      cases hs
      exact hsource

def World.spawn (w : World S) (u : S.Name) (task : Task S) : World S := (w.use u).setTask u (some task)

theorem slot_spawn_self {slots : List (Slot S.Name)} (j : Nat) :
    (World.spawn w u (.pending code params slots)).slot u j = slots[j]? := by
  rw [World.slot, World.spawn, tasks_setTask_self]

theorem slot_spawn_other {task : Task S} (hx : x ≠ u) (j : Nat) :
    (World.spawn w u task).slot x j = w.slot x j := by
  rw [World.slot, World.spawn, tasks_setTask_other _ hx, World.use, World.slot]

include hgives in
theorem events_spawn (hI : Inv P γ w) :
    EventsInv (passOn t u passed sources γ.event) w.events
      (World.spawn w u (.pending code params (sources.map start))).slot := by
  have hslot : ∀ {v j e}, (World.spawn w u (.pending code params (sources.map start))).slot v j =
      some (.waiting e) → (v = u ∧ sources[j]? = some (.object e)) ∨ (v ≠ u ∧ w.slot v j = some (.waiting e)) := by
    intro v j e h
    by_cases hv : v = u
    · subst hv
      rw [slot_spawn_self] at h
      exact .inl ⟨rfl, waiting_start h⟩
    · rw [slot_spawn_other hv] at h
      exact .inr ⟨hv, h⟩
  have hfresh : ∀ {v j e}, e ∈ named sources → w.slot v j ≠ some (.waiting e) := by
    intro v j e he
    obtain ⟨κ, hκ⟩ := hgives.named he
    exact hI.events.unarmed e t κ hκ v j
  constructor
  · intro e
    rw [passOn_isSome]
    exact hI.events.live e
  · intro e x κ h v j hs
    obtain ⟨hnot, x', hold⟩ := passOn_unarmed (fun e he => hgives.named he) h
    rcases hslot hs with ⟨-, hsource⟩ | ⟨-, hs⟩
    · exact hnot (mem_named.mpr (List.mem_of_getElem? hsource))
    · exact hI.events.unarmed e x' κ hold v j hs
  · intro e v j v' j' hs hs'
    rcases hslot hs with ⟨rfl, hsource⟩ | ⟨-, hold⟩
    · rcases hslot hs' with ⟨rfl, hsource'⟩ | ⟨-, hold'⟩
      · exact ⟨rfl, named_unique hgives.nodup hsource hsource'⟩
      · exact absurd hold' (hfresh (mem_named.mpr (List.mem_of_getElem? hsource)))
    · rcases hslot hs' with ⟨rfl, hsource'⟩ | ⟨-, hold'⟩
      · exact absurd hold (hfresh (mem_named.mpr (List.mem_of_getElem? hsource')))
      · exact hI.events.single e v j v' j' hold hold'

theorem created_total (hu : γ.budget u = 0) (hut : u ≠ t) (hm : m + brief.budget < γ.budget t) :
    (created γ t u passed sources brief m).total < γ.total := by
  have hfirst := total_update γ t m
  have hsecond := Finsupp.sum_update_add (γ.budget.update t m) u brief.budget (fun _ n => n) (fun _ => rfl)
    (fun _ _ _ => rfl)
  rw [budget_update_other γ m hut, hu] at hsecond
  have htotal : (created γ t u passed sources brief m).total =
      ((γ.budget.update t m).update u brief.budget).sum (fun _ n => n) := rfl
  omega

include hgives in
theorem advances_createTask (hP : P.Monotone) (hI : Inv P γ w) (ht : w.tasks t = some (.running rest))
    (hm : m + brief.budget < γ.budget t) (hpre : P.Pre γ.known code params brief) (hu : u ∉ w.used)
    (hsafe : Safe P rest' γ.known { γ.holding t with
      event := fun e => if passed e then none else arm sources (γ.holding t).event e
      slot := fun k => if k.1 = u then leftOpen sources brief.contracts k.2 else (γ.holding t).slot k
      duty := if brief.duty.isSome then none else (γ.holding t).duty } m) :
    Advances P γ ((World.spawn w u (.pending code params (sources.map start))).setTask t
      (some (.running rest'))) := by
  have hnone : w.tasks u = none := by
    by_contra h
    exact hu (hI.used.task u (Option.isSome_iff_ne_none.mpr h))
  have hut : u ≠ t := by
    rintro rfl
    rw [hnone] at ht
    cases ht
  obtain ⟨hempty, hzero⟩ : γ.holding u = Holding.empty ∧ γ.budget u = 0 := by
    have htask := hI.tasks u
    rwa [hnone] at htask
  have hslot : ∀ j, γ.slot (u, j) = none := by
    intro j
    cases ho : γ.slot (u, j) with
    | none => rfl
    | some p =>
        obtain ⟨code, params, slots, htask, -⟩ := slot_eq_some.mp (hI.slots u j p.1 p.2 ho).1
        rw [hnone] at htask
        cases htask
  have ht' : (World.spawn w u (.pending code params (sources.map start))).tasks t = some (.running rest) := by
    rw [World.spawn, tasks_setTask_other _ hut.symm, World.use, ht]
  have hused : UsedInv P (World.spawn w u (.pending code params (sources.map start))) :=
    (hI.used.use u).setTask (Set.mem_insert u _) _
  refine ⟨created γ t u passed sources brief m, ?_, created_total hzero hut hm⟩
  constructor
  · exact hI.blocks
  · rw [slot_running ht']
    exact events_spawn hgives hI
  · rw [slot_running ht']
    apply SlotsInv.running
    intro v j x κ ho
    by_cases hv : v = u
    · subst hv
      obtain ⟨hsource, hκ, rfl⟩ := openSlots_self.mp ho
      refine ⟨?_, ?_, rest, ht'⟩
      · rw [slot_spawn_self, List.getElem?_map, hsource]
        rfl
      · simpa only [created, Function.update_self] using hκ
    · have hold : γ.slot (v, j) = some (x, κ) := (openSlots_other hv).symm.trans ho
      obtain ⟨hvacant, hκ, rest₁, hrun⟩ := hI.slots v j x κ hold
      have hx : x ≠ u := by
        rintro rfl
        rw [hnone] at hrun
        cases hrun
      refine ⟨?_, ?_, rest₁, ?_⟩
      · rw [slot_spawn_other hv, hvacant]
      · simpa only [created, Function.update_of_ne hv] using hκ
      · rw [World.spawn, tasks_setTask_other _ hx, World.use, hrun]
  · exact hI.templates
  · exact passDuty_printed hgives.duty hI.duty
  · exact hused.setTask (hused.task t (by rw [ht']; rfl)) _
  · intro x
    by_cases hxt : x = t
    · subst hxt
      rw [tasks_setTask_self, taskInv_running]
      have hbudget : (created γ x u passed sources brief m).budget x = m := by
        simp only [created, Finsupp.coe_update, Function.update_of_ne hut.symm, Function.update_self]
      rw [hbudget, created_holding_creator hut]
      exact hsafe
    · rw [tasks_setTask_other _ hxt]
      by_cases hxu : x = u
      · subst hxu
        rw [World.spawn, tasks_setTask_self]
        exact ready_created hgives hut hempty hpre
      · rw [World.spawn, tasks_setTask_other _ hxu]
        refine TaskInv.frame hP ?_ (created_same hgives hslot hxt hxu) ?_ ?_ (hI.tasks x)
        · exact Known.le_refl _
        · exact fun j t' κ h => ⟨t', (openSlots_other hxu).trans h⟩
        · exact fun j e t' κ _ h => passOn_armed h

end Creation

end Ocxxr.TaskSpawning

import Ocxxr.Library.TaskInvariant

namespace Ocxxr.TaskDelivery

open TaskGraph TaskContracts TaskInvariant

variable {S : Signature} [DecidableEq S.Name] {P : Spec S} {γ : Ghost S} {w w' : World S} {t u : S.Name}
  {rest rest' : Prog S (Option S.Name)} {m : Nat}

section Fire

variable {e : S.Name} {payload : Option S.Name}

theorem tasks_fire_running (ht : w.tasks t = some (.running rest)) :
    (w.fire e payload).tasks t = some (.running rest) := by
  simp [World.fire, ht, Task.receive]

theorem slot_fire (w : World S) (e : S.Name) (payload : Option S.Name) (u : S.Name) (j : Nat) :
    (w.fire e payload).slot u j = (w.slot u j).map (Slot.receive e payload) := by
  rw [World.slot, World.slot]
  cases htask : w.tasks u with
  | none => simp [World.fire, htask]
  | some task =>
      cases task with
      | running rest => simp [World.fire, htask, Task.receive]
      | pending code params slots => simp [World.fire, htask, Task.receive]

theorem receive_waiting {s : Slot S.Name} {e' : S.Name} (h : s.receive e payload = .waiting e') :
    s = .waiting e' ∧ e' ≠ e := by
  cases s with
  | vacant => cases h
  | filled p => cases h
  | waiting e₁ =>
      rw [Slot.receive] at h
      split at h
      next => cases h
      next hne =>
        cases h
        exact ⟨rfl, hne⟩

theorem slot_fire_waiting {e' : S.Name} {j : Nat} (h : (w.fire e payload).slot u j = some (.waiting e')) :
    w.slot u j = some (.waiting e') ∧ e' ≠ e := by
  rw [slot_fire, Option.map_eq_some_iff] at h
  obtain ⟨s, hs, hreceive⟩ := h
  obtain ⟨rfl, hne⟩ := receive_waiting hreceive
  exact ⟨hs, hne⟩

theorem events_fire {event : S.Name → Option (S.Name × Contract S × Bool)} (h : EventsInv event w.events w.slot) :
    EventsInv (Function.update event e none) (w.fire e payload).events (w.fire e payload).slot where
  live := by
    intro e'
    by_cases he : e' = e
    · subst he
      simp [World.fire]
    · simp only [World.fire, Function.update_of_ne he]
      exact h.live e'
  unarmed := by
    intro e' t κ hholds u j hslot
    obtain ⟨hold, hne⟩ := slot_fire_waiting hslot
    rw [Function.update_of_ne hne] at hholds
    exact h.unarmed e' t κ hholds u j hold
  single := by
    intro e' u j u' j' hslot hslot'
    exact h.single e' u j u' j' (slot_fire_waiting hslot).1 (slot_fire_waiting hslot').1

theorem slots_fire {owed : S.Name × Nat → Option (S.Name × Contract S)} {contracts : S.Name → List (Contract S)}
    (h : SlotsInv owed contracts w.slot w.tasks) :
    SlotsInv owed contracts (w.fire e payload).slot (w.fire e payload).tasks := by
  intro u j t κ ho
  obtain ⟨hvacant, hκ, rest, ht⟩ := h u j t κ ho
  exact ⟨by rw [slot_fire, hvacant]; rfl, hκ, rest, tasks_fire_running ht⟩

theorem used_fire (h : UsedInv P w) : UsedInv P (w.fire e payload) where
  reserved := h.reserved
  block := h.block
  event := by
    intro e' he'
    by_cases hne : e' = e
    · subst hne
      simp [World.fire] at he'
    · simp only [World.fire, Function.update_of_ne hne] at he'
      exact h.event e' he'
  template := h.template
  task := by
    intro u hu
    apply h.task u
    simpa [World.fire] using hu

end Fire

section Delivery

variable {block : S.Name → Option (S.Name × S.Content × Bool)} {owner : Option S.Name}
  {p : Option (S.Name × S.Content × Bool)} {d : S.Name}

/-- A block that an event carries goes to the task whose slot waits for the event. -/
def deliver (block : S.Name → Option (S.Name × S.Content × Bool)) (owner : Option S.Name) :
    Option (S.Name × S.Content × Bool) → S.Name → Option (S.Name × S.Content × Bool)
  | none => block
  | some (d, v, c) => Function.update block d (owner.map (fun u => (u, v, c)))

/-- What is left to the task that satisfies the event. -/
def handOver (block : S.Name → Option (S.Content × Bool)) :
    Option (S.Name × S.Content × Bool) → S.Name → Option (S.Content × Bool)
  | none => block
  | some (d, _, _) => Function.update block d none

theorem deliver_eq_some {q : S.Name × S.Content × Bool} (h : deliver block owner p d = some q) :
    block d = some q ∨ p = some (d, q.2) ∧ owner = some q.1 := by
  cases p with
  | none => exact .inl h
  | some r =>
      obtain ⟨d₁, v, c⟩ := r
      by_cases he : d = d₁
      · subst he
        rw [deliver, Function.update_self, Option.map_eq_some_iff] at h
        obtain ⟨u, rfl, rfl⟩ := h
        exact .inr ⟨rfl, rfl⟩
      · rw [deliver, Function.update_of_ne he] at h
        exact .inl h

theorem deliver_self {v : S.Content} {c : Bool} : deliver block (some u) (some (d, v, c)) d = some (u, v, c) := by
  rw [deliver, Function.update_self, Option.map_some]

variable (hp : ∀ d v c, p = some (d, v, c) → block d = some (t, v, c))

include hp

theorem deliver_other {q : S.Name × S.Content × Bool} (hd : block d = some q) (hne : q.1 ≠ t) :
    deliver block owner p d = some q := by
  cases p with
  | none => exact hd
  | some r =>
      have hd₁ : d ≠ r.1 := by
        rintro rfl
        have h := (hp r.1 r.2.1 r.2.2 rfl).symm.trans hd
        exact hne (congrArg Prod.fst (Option.some.inj h)).symm
      exact (Function.update_of_ne hd₁ _ _).trans hd

theorem heldBy_deliver_other (hu : u ≠ t) (howner : owner ≠ some u) :
    heldBy (deliver block owner p) u = heldBy block u := by
  cases p with
  | none => rfl
  | some r =>
      rw [deliver, heldBy_update]
      have hold : heldBy block u r.1 = none := by
        rw [heldBy, hp r.1 r.2.1 r.2.2 rfl]
        exact share_other hu.symm _
      have hnew : share u (owner.map (fun u => (u, r.2.1, r.2.2))) = none := by
        cases owner with
        | none => rfl
        | some u₁ => exact share_other (fun h => howner (congrArg some h)) _
      rw [hnew, ← hold, Function.update_eq_self]

theorem heldBy_deliver_sender (howner : owner ≠ some t) :
    heldBy (deliver block owner p) t = handOver (heldBy block t) p := by
  cases p with
  | none => rfl
  | some r =>
      rw [deliver, handOver, heldBy_update]
      cases owner with
      | none => rfl
      | some u₁ =>
          rw [Option.map_some, share_other (fun h => howner (congrArg some h))]

end Delivery

theorem receive_filled {e : S.Name} {payload q : Option S.Name} {s : Slot S.Name} :
    s.receive e payload = .filled q ↔ s = .filled q ∨ s = .waiting e ∧ q = payload := by
  cases s with
  | vacant => simp [Slot.receive]
  | filled q' => simp [Slot.receive]
  | waiting e' =>
      rw [Slot.receive]
      split
      next he => simp [he, eq_comm]
      next he => simp [he]

section Ready

variable {code : S.Code} {params : S.Params} {slots : List (Slot S.Name)}

theorem ready_filled (h : Ready P γ u code params slots) {j : Nat} {d : S.Name}
    (hj : slots[j]? = some (.filled (some d))) : ∃ v c, γ.block d = some (u, v, c) := by
  have hlt : j < (γ.contracts u).length := by
    rw [← h.length_eq]
    exact (List.getElem?_eq_some_iff.mp hj).1
  obtain ⟨v, c, hd, -⟩ := h.meets j _ _ hj (List.getElem?_eq_getElem hlt)
  exact ⟨v, c, hd⟩

/-- What an event carries has to satisfy its contract. -/
def Carries (P : Spec S) (κ : Contract S) : Option (S.Name × S.Content × Bool) → Prop
  | none => κ.holds none
  | some (_, v, c) => (P.shared ∨ c = true) ∧ κ.holds (some v)

theorem ready_receive (h : Ready P γ u code params slots) (hut : u ≠ t) (hbrief : γ'.brief u = γ.brief u)
    (hknown : γ'.known = γ.known) (htemplate : γ'.template = γ.template) (hslot : γ'.slot = γ.slot)
    {e : S.Name} {κ : Contract S} (he : γ.event e = some (t, κ, true))
    (hevent : γ'.event = Function.update γ.event e none) {owner : Option S.Name}
    {p : Option (S.Name × S.Content × Bool)} (hp : ∀ d v c, p = some (d, v, c) → γ.block d = some (t, v, c))
    (hblock : γ'.block = deliver γ.block owner p) (hκ : Carries P κ p)
    (howner : ∀ j : Nat, slots[j]? = some (.waiting e) → owner = some u)
    (hexact : owner = some u → ∃ j : Nat, slots[j]? = some (.waiting e))
    (hsingle : ∀ i j : Nat, slots[i]? = some (.waiting e) → slots[j]? = some (.waiting e) → i = j) :
    Ready P γ' u code params (slots.map (Slot.receive e (p.map Prod.fst))) := by
  have hcontracts : γ'.contracts u = γ.contracts u := congrArg Brief.contracts hbrief
  have heventu : heldBy γ'.event u = heldBy γ.event u := congrArg Brief.event hbrief
  have hnot : ∀ {j : Nat} {d : S.Name}, slots[j]? = some (.filled (some d)) → p.map Prod.fst ≠ some d := by
    intro j d hj hd
    obtain ⟨⟨d, v, c⟩, rfl, rfl⟩ := Option.map_eq_some_iff.mp hd
    obtain ⟨v', c', hown⟩ := ready_filled h hj
    have heq := hown.symm.trans (hp d v c rfl)
    cases heq
    exact hut rfl
  constructor
  · rw [hbrief, hknown]
    exact h.pre
  · rw [heventu, hcontracts]
    exact h.rank
  · rw [List.length_map, hcontracts]
    exact h.length_eq
  · intro j s' κ' hs' hκ'
    rw [List.getElem?_map, Option.map_eq_some_iff] at hs'
    obtain ⟨s, hs, rfl⟩ := hs'
    rw [hcontracts] at hκ'
    have hmeets := h.meets j s κ' hs hκ'
    cases s with
    | vacant =>
        obtain ⟨t', ht'⟩ := hmeets
        exact ⟨t', by rw [hslot, ht']⟩
    | filled q =>
        cases q with
        | none => exact hmeets
        | some d =>
            obtain ⟨v, c, hd, hrest⟩ := hmeets
            refine ⟨v, c, ?_, hrest⟩
            rw [hblock]
            exact deliver_other hp hd hut
    | waiting e' =>
        obtain ⟨t', ht'⟩ := hmeets
        rw [Slot.receive]
        split
        next heq =>
          subst heq
          obtain rfl : κ = κ' := by
            rw [he] at ht'
            cases ht'
            rfl
          cases p with
          | none => exact hκ
          | some r =>
              refine ⟨r.2.1, r.2.2, ?_, hκ⟩
              rw [hblock, howner j hs]
              exact deliver_self
        next hne =>
          refine ⟨t', ?_⟩
          rw [hevent, Function.update_of_ne hne]
          exact ht'
  · intro i j d hi hj
    rw [List.getElem?_map, Option.map_eq_some_iff] at hi hj
    obtain ⟨si, hsi, hri⟩ := hi
    obtain ⟨sj, hsj, hrj⟩ := hj
    rcases receive_filled.mp hri with rfl | ⟨rfl, hdi⟩
    · rcases receive_filled.mp hrj with rfl | ⟨rfl, hdj⟩
      · exact h.distinct i j d hsi hsj
      · exact absurd hdj.symm (hnot hsi)
    · rcases receive_filled.mp hrj with rfl | ⟨rfl, hdj⟩
      · exact absurd hdi.symm (hnot hsj)
      · exact hsingle i j hsi hsj
  · intro d q hd
    rw [heldBy_eq_some, hblock] at hd
    simp only [List.getElem?_map, Option.map_eq_some_iff, receive_filled]
    rcases deliver_eq_some hd with hold | ⟨hpd, howned⟩
    · obtain ⟨j, hj⟩ := h.blocks d q (heldBy_eq_some.mpr hold)
      exact ⟨j, _, hj, .inl rfl⟩
    · obtain ⟨j, hj⟩ := hexact howned
      exact ⟨j, _, hj, .inr ⟨rfl, by rw [hpd]; rfl⟩⟩
  · rw [htemplate]
    exact h.template

end Ready

section Satisfy

variable {e : S.Name} {κ : Contract S} {owner : Option S.Name} {p : Option (S.Name × S.Content × Bool)}

omit [DecidableEq S.Name] in
theorem exists_owner {slot : S.Name → Nat → Option (Slot S.Name)}
    (hsingle : ∀ u j u' j', slot u j = some (.waiting e) → slot u' j' = some (.waiting e) → u = u' ∧ j = j') :
    ∃ owner : Option S.Name, (∀ u j, slot u j = some (.waiting e) → owner = some u) ∧
      ∀ u, owner = some u → ∃ j, slot u j = some (.waiting e) := by
  by_cases h : ∃ u j, slot u j = some (.waiting e)
  · obtain ⟨u, j, hj⟩ := h
    refine ⟨some u, ?_, ?_⟩
    · intro u' j' hj'
      rw [(hsingle u j u' j' hj hj').1]
    · rintro _ ⟨⟩
      exact ⟨j, hj⟩
  · exact ⟨none, fun u j hj => absurd ⟨u, j, hj⟩ h, nofun⟩

theorem blocks_deliver (hI : BlocksInv P.shared γ.block w.blocks)
    (hp : ∀ d v c, p = some (d, v, c) → γ.block d = some (t, v, c)) (hκ : Carries P κ p) :
    BlocksInv P.shared (deliver γ.block owner p) w.blocks := by
  intro d u v c hd
  rcases deliver_eq_some hd with hold | ⟨rfl, -⟩
  · exact hI d u v c hold
  · obtain ⟨writer, hw, hclean⟩ := hI d t v c (hp d v c rfl)
    refine ⟨writer, hw, ?_⟩
    rcases hclean with hshared | hnone | ⟨rfl, -⟩
    · exact .inl hshared
    · exact .inr (.inl hnone)
    · exact .inl (hκ.1.resolve_right nofun)

omit [DecidableEq S.Name] in
theorem not_waiting_of_running (ht : w.tasks t = some (.running rest)) (j : Nat) (s : Slot S.Name) :
    w.slot t j ≠ some s := by
  intro h
  obtain ⟨code, params, slots, htask, -⟩ := slot_eq_some.mp h
  exact nomatch ht.symm.trans htask

theorem advances_satisfy (hI : Inv P γ w) (ht : w.tasks t = some (.running rest)) (hm : m < γ.budget t)
    (he : (γ.holding t).event e = some (κ, true))
    (hp : ∀ d v c, p = some (d, v, c) → (γ.holding t).block d = some (v, c)) (hκ : Carries P κ p)
    (hsafe : Safe P rest' γ.known { γ.holding t with
      event := Function.update (γ.holding t).event e none
      block := handOver (γ.holding t).block p } m) :
    Advances P γ ((w.fire e (p.map Prod.fst)).setTask t (some (.running rest'))) := by
  have hevent : γ.event e = some (t, κ, true) := heldBy_eq_some.mp he
  have hblock : ∀ d v c, p = some (d, v, c) → γ.block d = some (t, v, c) :=
    fun d v c h => heldBy_eq_some.mp (hp d v c h)
  obtain ⟨owner, howner, hexact⟩ := exists_owner (hI.events.single e)
  have hsender : owner ≠ some t := by
    intro h
    obtain ⟨j, hj⟩ := hexact t h
    exact not_waiting_of_running ht j _ hj
  have ht' : (w.fire e (p.map Prod.fst)).tasks t = some (.running rest) := tasks_fire_running ht
  refine ⟨{ γ with
    event := Function.update γ.event e none
    block := deliver γ.block owner p
    budget := γ.budget.update t m }, ?_, total_lt hm⟩
  have hother : ∀ u, u ≠ t → heldBy (Function.update γ.event e none) u = heldBy γ.event u := by
    intro u hu
    exact heldBy_update_none (share_other_of_held hu he)
  constructor
  · exact blocks_deliver hI.blocks hblock hκ
  · rw [slot_running ht']
    exact events_fire hI.events
  · rw [slot_running ht']
    exact (slots_fire hI.slots).running
  · exact hI.templates
  · exact hI.duty
  · exact (used_fire hI.used).setTask ((used_fire hI.used).task t (by rw [ht']; rfl)) _
  · intro u
    by_cases hu : u = t
    · subst hu
      rw [tasks_setTask_self, taskInv_running, budget_update_self]
      simpa only [Ghost.holding, heldBy_update, share_none, heldBy_deliver_sender hblock hsender] using hsafe
    · rw [tasks_setTask_other _ hu]
      have htask := hI.tasks u
      cases hw : w.tasks u with
      | none =>
          have hnot : owner ≠ some u := by
            intro h
            obtain ⟨j, hj⟩ := hexact u h
            obtain ⟨_, _, _, h, -⟩ := slot_eq_some.mp hj
            rw [hw] at h
            cases h
          rw [hw] at htask
          simp only [World.fire, hw, Option.map_none, TaskInv, Ghost.holding, hother u hu,
            heldBy_deliver_other hblock hu hnot, budget_update_other γ m hu]
          exact htask
      | some task =>
          rw [hw] at htask
          cases task with
          | running rest₁ =>
              have hnot : owner ≠ some u := by
                intro h
                obtain ⟨j, hj⟩ := hexact u h
                exact not_waiting_of_running hw j _ hj
              rw [taskInv_running] at htask
              rw [tasks_fire_running hw, taskInv_running]
              simp only [Ghost.holding, hother u hu, heldBy_deliver_other hblock hu hnot,
                budget_update_other γ m hu]
              exact htask
          | pending code params slots =>
              have hfire : (w.fire e (p.map Prod.fst)).tasks u =
                  some (.pending code params (slots.map (Slot.receive e (p.map Prod.fst)))) := by
                simp only [World.fire, hw, Option.map_some, Task.receive]
              rw [hfire, taskInv_pending]
              have hslots : ∀ (j : Nat) s, slots[j]? = some s → w.slot u j = some s :=
                fun j s hs => slot_eq_some.mpr ⟨_, _, _, hw, hs⟩
              refine ready_receive htask hu ?_ (by rfl) (by rfl) (by rfl) hevent (by rfl) hblock (by rfl) hκ
                (fun j hj => howner u j (hslots j _ hj)) ?_ ?_
              · simp only [Ghost.brief, hother u hu, budget_update_other γ m hu]
              · intro h
                obtain ⟨j, hj⟩ := hexact u h
                obtain ⟨_, _, _, hw', hj'⟩ := slot_eq_some.mp hj
                rw [hw] at hw'
                cases hw'
                exact ⟨j, hj'⟩
              · exact fun i j hi hj => (hI.events.single e u i u j (hslots i _ hi) (hslots j _ hj)).2

end Satisfy

section Attach

variable {v : S.Name} {j : Nat} {s : Slot S.Name} {κ : Contract S}

theorem tasks_setSlot_other (w : World S) (h : u ≠ v) (j : Nat) (s : Slot S.Name) :
    (w.setSlot v j s).tasks u = w.tasks u := by
  rw [World.setSlot]
  split
  next => exact tasks_setTask_other w h _
  next => rfl

theorem tasks_setSlot_self {code : S.Code} {params : S.Params} {slots : List (Slot S.Name)}
    (hv : w.tasks v = some (.pending code params slots)) :
    (w.setSlot v j s).tasks v = some (.pending code params (slots.set j s)) := by
  rw [World.setSlot, hv]
  exact tasks_setTask_self w v _

theorem slot_setSlot {s₀ : Slot S.Name} (h : w.slot v j = some s₀) (u : S.Name) (i : Nat) :
    (w.setSlot v j s).slot u i = if u = v ∧ i = j then some s else w.slot u i := by
  obtain ⟨code, params, slots, hv, hj⟩ := slot_eq_some.mp h
  by_cases hu : u = v
  · subst hu
    simp only [World.slot, tasks_setSlot_self hv, hv, true_and, List.getElem?_set, eq_comm,
      (List.getElem?_eq_some_iff.mp hj).1, if_true]
  · rw [World.slot, tasks_setSlot_other w hu, if_neg (fun h => hu h.1), World.slot]

theorem ready_setSlot {code : S.Code} {params : S.Params} {slots : List (Slot S.Name)}
    (h : Ready P γ v code params slots) (hbrief : γ'.brief v = γ.brief v) (hknown : γ'.known = γ.known)
    (htemplate : γ'.template = γ.template) (hblock : γ'.block = γ.block)
    (hslot : ∀ i, i ≠ j → γ'.slot (v, i) = γ.slot (v, i))
    (hevent : ∀ e t κ, γ.event e = some (t, κ, true) → γ'.event e = some (t, κ, true))
    (hvacant : slots[j]? = some .vacant) (hκ : (γ.contracts v)[j]? = some κ)
    (hfilled : ∀ d, s ≠ .filled (some d)) (hmeets : SlotHolds P γ' v j κ s) :
    Ready P γ' v code params (slots.set j s) := by
  have hcontracts : γ'.contracts v = γ.contracts v := congrArg Brief.contracts hbrief
  have heventv : heldBy γ'.event v = heldBy γ.event v := congrArg Brief.event hbrief
  have hold : ∀ {i : Nat} {s' : Slot S.Name}, (slots.set j s)[i]? = some s' →
      i = j ∧ s' = s ∨ i ≠ j ∧ slots[i]? = some s' := by
    intro i s' hs'
    rw [List.getElem?_set] at hs'
    split at hs'
    next hi =>
      split at hs'
      next =>
        cases hs'
        exact .inl ⟨hi.symm, rfl⟩
      next => cases hs'
    next hi => exact .inr ⟨fun h => hi h.symm, hs'⟩
  constructor
  · rw [hbrief, hknown]
    exact h.pre
  · rw [heventv, hcontracts]
    exact h.rank
  · rw [List.length_set, hcontracts]
    exact h.length_eq
  · intro i s' κ' hs' hκ'
    rw [hcontracts] at hκ'
    rcases hold hs' with ⟨rfl, rfl⟩ | ⟨hne, hs⟩
    · obtain rfl : κ = κ' := Option.some.inj (hκ.symm.trans hκ')
      exact hmeets
    · have hmeets' := h.meets i s' κ' hs hκ'
      cases s' with
      | vacant =>
          obtain ⟨t', ht'⟩ := hmeets'
          exact ⟨t', by rw [hslot i hne, ht']⟩
      | waiting e =>
          obtain ⟨t', ht'⟩ := hmeets'
          exact ⟨t', hevent e t' κ' ht'⟩
      | filled q =>
          cases q with
          | none => exact hmeets'
          | some d =>
              obtain ⟨content, c, hd, hrest⟩ := hmeets'
              exact ⟨content, c, by rw [hblock, hd], hrest⟩
  · intro i i' d hi hi'
    rcases hold hi with ⟨-, he⟩ | ⟨-, hi⟩
    · exact absurd he.symm (hfilled d)
    · rcases hold hi' with ⟨-, he⟩ | ⟨-, hi'⟩
      · exact absurd he.symm (hfilled d)
      · exact h.distinct i i' d hi hi'
  · intro d q hd
    rw [hblock] at hd
    obtain ⟨i, hi⟩ := h.blocks d q hd
    refine ⟨i, ?_⟩
    have hne : j ≠ i := by
      rintro rfl
      exact nomatch hvacant.symm.trans hi
    rw [List.getElem?_set_ne hne, hi]
  · rw [htemplate]
    exact h.template

theorem used_setSlot (h : UsedInv P w) (v : S.Name) (j : Nat) (s : Slot S.Name) : UsedInv P (w.setSlot v j s) := by
  rw [World.setSlot]
  split
  next hv => exact h.setTask (h.task v (by rw [hv]; rfl)) _
  next => exact h

theorem setSlot_same (w : World S) (v : S.Name) (j : Nat) (s : Slot S.Name) :
    (w.setSlot v j s).blocks = w.blocks ∧ (w.setSlot v j s).events = w.events ∧
      (w.setSlot v j s).templates = w.templates ∧ (w.setSlot v j s).printed = w.printed := by
  rw [World.setSlot]
  split
  next => exact ⟨rfl, rfl, rfl, rfl⟩
  next => exact ⟨rfl, rfl, rfl, rfl⟩

theorem advances_attach (event : S.Name → Option (S.Name × Contract S × Bool)) (hP : P.Monotone) (hI : Inv P γ w)
    (ht : w.tasks t = some (.running rest)) (hm : m < γ.budget t)
    (hslot : (γ.holding t).slot (v, j) = some κ) (hfilled : ∀ d, s ≠ .filled (some d))
    (hother : ∀ u, u ≠ t → heldBy event u = heldBy γ.event u)
    (harmed : ∀ e t κ, γ.event e = some (t, κ, true) → event e = some (t, κ, true))
    (hmeets : SlotHolds P { γ with event := event, slot := Function.update γ.slot (v, j) none } v j κ s)
    (hevents : EventsInv event w.events (w.setSlot v j s).slot)
    (hsafe : Safe P rest' γ.known { γ.holding t with
      slot := Function.update (γ.holding t).slot (v, j) none
      event := heldBy event t } m) :
    Advances P γ ((w.setSlot v j s).setTask t (some (.running rest'))) := by
  have howed : γ.slot (v, j) = some (t, κ) := heldBy_eq_some.mp hslot
  obtain ⟨hvacant, hκ, -⟩ := hI.slots v j t κ howed
  obtain ⟨code, params, slots, hv, hj⟩ := slot_eq_some.mp hvacant
  have hvt : v ≠ t := by
    rintro rfl
    rw [hv] at ht
    cases ht
  have ht' : (w.setSlot v j s).tasks t = some (.running rest) := by
    rw [tasks_setSlot_other w hvt.symm, ht]
  obtain ⟨hblocks, hlive, htemplates, hprinted⟩ := setSlot_same w v j s
  refine ⟨{ γ with
    event := event
    slot := Function.update γ.slot (v, j) none
    budget := γ.budget.update t m }, ?_, total_lt hm⟩
  constructor
  · exact hblocks ▸ hI.blocks
  · rw [slot_running ht']
    exact hlive ▸ hevents
  · rw [slot_running ht']
    apply SlotsInv.running
    intro u i t' κ' ho
    by_cases hk : (u, i) = (v, j)
    · simp only [hk, Function.update_self] at ho
      cases ho
    · simp only [Function.update_of_ne hk] at ho
      obtain ⟨hs, hκ', rest₁, hrun⟩ := hI.slots u i t' κ' ho
      have hne : t' ≠ v := by
        rintro rfl
        rw [hv] at hrun
        cases hrun
      refine ⟨?_, hκ', rest₁, ?_⟩
      · rw [slot_setSlot hvacant, if_neg (fun h => hk (Prod.ext h.1 h.2)), hs]
      · rw [tasks_setSlot_other w hne, hrun]
  · exact htemplates ▸ hI.templates
  · exact hprinted ▸ hI.duty
  · exact (used_setSlot hI.used v j s).setTask ((used_setSlot hI.used v j s).task t (by rw [ht']; rfl)) _
  · intro u
    by_cases hu : u = t
    · subst hu
      rw [tasks_setTask_self, taskInv_running, budget_update_self]
      simpa only [Ghost.holding, heldBy_update, share_none] using hsafe
    · have hslots : heldBy (Function.update γ.slot (v, j) none) u = heldBy γ.slot u :=
        heldBy_update_none (share_other_of_held hu hslot)
      rw [tasks_setTask_other _ hu]
      by_cases huv : u = v
      · subst huv
        have htask := hI.tasks u
        rw [hv] at htask
        rw [tasks_setSlot_self hv, taskInv_pending]
        refine ready_setSlot htask ?_ (by rfl) (by rfl) (by rfl) ?_ harmed hj hκ hfilled hmeets
        · simp only [Ghost.brief, hother u hu, budget_update_other γ m hu]
        · intro i hi
          exact Function.update_of_ne (fun h => hi (congrArg Prod.snd h)) _ _
      · rw [tasks_setSlot_other w huv]
        have hframe : ∀ i, Function.update γ.slot (v, j) none (u, i) = γ.slot (u, i) :=
          fun i => Function.update_of_ne (fun h => huv (congrArg Prod.fst h)) _ _
        refine TaskInv.frame hP ?_ ⟨?_, ?_, ?_⟩ ?_ ?_ (hI.tasks u)
        · exact Known.le_refl _
        · simp only [Ghost.holding, hother u hu, hslots]
        · exact budget_update_other γ m hu
        · rfl
        · exact fun i t' κ' hi => ⟨t', (hframe i).trans hi⟩
        · exact fun i e t' κ' _ he => ⟨t', harmed e t' κ' he⟩

theorem advances_attachNull (hP : P.Monotone) (hI : Inv P γ w) (ht : w.tasks t = some (.running rest))
    (hm : m < γ.budget t) (hslot : (γ.holding t).slot (v, j) = some κ) (hκ : κ.holds none)
    (hsafe : Safe P rest' γ.known { γ.holding t with slot := Function.update (γ.holding t).slot (v, j) none } m) :
    Advances P γ ((w.setSlot v j (.filled none)).setTask t (some (.running rest'))) := by
  obtain ⟨hvacant, -⟩ := hI.slots v j t κ (heldBy_eq_some.mp hslot)
  have hold : ∀ {u i e}, (w.setSlot v j (.filled none)).slot u i = some (.waiting e) →
      w.slot u i = some (.waiting e) := by
    intro u i e h
    rw [slot_setSlot hvacant] at h
    split at h
    next => cases h
    next => exact h
  refine advances_attach γ.event hP hI ht hm hslot nofun (fun _ _ => rfl) (fun _ _ _ h => h) hκ ?_ hsafe
  constructor
  · exact hI.events.live
  · exact fun e t' κ' he u i hs => hI.events.unarmed e t' κ' he u i (hold hs)
  · exact fun e u i u' i' hs hs' => hI.events.single e u i u' i' (hold hs) (hold hs')

theorem advances_attachEvent (hP : P.Monotone) (hI : Inv P γ w) (ht : w.tasks t = some (.running rest))
    (hm : m < γ.budget t) (hslot : (γ.holding t).slot (v, j) = some κ) {e : S.Name}
    (he : (γ.holding t).event e = some (κ, false))
    (hsafe : Safe P rest' γ.known { γ.holding t with
      slot := Function.update (γ.holding t).slot (v, j) none
      event := Function.update (γ.holding t).event e (some (κ, true)) } m) :
    Advances P γ ((w.setSlot v j (.waiting e)).setTask t (some (.running rest'))) := by
  have hevent : γ.event e = some (t, κ, false) := heldBy_eq_some.mp he
  obtain ⟨hvacant, -⟩ := hI.slots v j t κ (heldBy_eq_some.mp hslot)
  have hold : ∀ {u i e'}, (w.setSlot v j (.waiting e)).slot u i = some (.waiting e') →
      u = v ∧ i = j ∧ e' = e ∨ e' ≠ e ∧ w.slot u i = some (.waiting e') := by
    intro u i e' h
    rw [slot_setSlot hvacant] at h
    split at h
    next hk =>
      cases h
      exact .inl ⟨hk.1, hk.2, rfl⟩
    next =>
      refine .inr ⟨?_, h⟩
      rintro rfl
      exact hI.events.unarmed e' t κ hevent u i h
  refine advances_attach (Function.update γ.event e (some (t, κ, true))) hP hI ht hm hslot nofun ?_ ?_
    ⟨t, Function.update_self e _ _⟩ ?_ ?_
  · intro u hu
    refine heldBy_update_other hu ?_ ?_
    · rw [hevent]
      exact share_other hu.symm _
    · rintro q ⟨⟩
      rfl
  · intro e' t' κ' h
    have hne : e' ≠ e := by
      rintro rfl
      exact nomatch hevent.symm.trans h
    rw [Function.update_of_ne hne, h]
  · constructor
    · intro e'
      by_cases hne : e' = e
      · subst hne
        rw [Function.update_self]
        exact iff_of_true ((hI.events.live e').mpr (by rw [hevent]; rfl)) rfl
      · rw [Function.update_of_ne hne]
        exact hI.events.live e'
    · intro e' t' κ' h u i hs
      rcases hold hs with ⟨-, -, rfl⟩ | ⟨hne, hs⟩
      · rw [Function.update_self] at h
        cases h
      · rw [Function.update_of_ne hne] at h
        exact hI.events.unarmed e' t' κ' h u i hs
    · intro e' u i u' i' hs hs'
      rcases hold hs with ⟨rfl, rfl, rfl⟩ | ⟨hne, hs⟩
      · rcases hold hs' with ⟨rfl, rfl, -⟩ | ⟨hne, -⟩
        · exact ⟨rfl, rfl⟩
        · exact absurd rfl hne
      · rcases hold hs' with ⟨-, -, rfl⟩ | ⟨-, hs'⟩
        · exact absurd rfl hne
        · exact hI.events.single e' u i u' i' hs hs'
  · simpa only [Ghost.holding, heldBy_update, share_self] using hsafe

end Attach

end Ocxxr.TaskDelivery

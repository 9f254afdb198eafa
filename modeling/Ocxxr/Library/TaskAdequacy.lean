import Ocxxr.Library.TaskDelivery
import Ocxxr.Library.TaskSpawning
import Ocxxr.Library.TaskHosts

namespace Ocxxr.TaskAdequacy

open TaskGraph TaskContracts TaskInvariant TaskDelivery TaskSpawning

variable {S : Signature} [DecidableEq S.Name] {body : Body S} {P : Spec S} {γ γ' : Ghost S} {w w' : World S}
  {t u : S.Name} {rest rest' : Prog S (Option S.Name)}

section Launch

variable {code : S.Code} {params : S.Params} {slots : List (Slot S.Name)} {payloads : List (Option S.Name)}

omit [DecidableEq S.Name] in
theorem mapM_payload (h : slots.mapM Slot.payload = some payloads) : slots = payloads.map .filled := by
  induction slots generalizing payloads with
  | nil =>
      cases h
      rfl
  | cons s slots ih =>
      rw [List.mapM_cons] at h
      cases s with
      | vacant => cases h
      | waiting e => cases h
      | filled payload =>
          obtain ⟨rest, hrest, hpure⟩ : ∃ rest, slots.mapM Slot.payload = some rest ∧
              payload :: rest = payloads := by
            simpa [Slot.payload, Option.bind_eq_some_iff] using h
          rw [ih hrest, ← hpure, List.map_cons]

omit [DecidableEq S.Name] in
theorem filled_of_payload {j : Nat} {payload : Option S.Name} (h : payloads[j]? = some payload) :
    (payloads.map Slot.filled)[j]? = some (.filled payload) := by
  rw [List.getElem?_map, h, Option.map_some]

theorem arrives_of_ready (hI : Inv P γ w) (h : Ready P γ t code params (payloads.map .filled)) :
    Arrives P (γ.contracts t) payloads (heldBy γ.block t) where
  length_eq := by rw [← h.length_eq, List.length_map]
  null := fun j κ hκ hp => h.meets j _ κ (filled_of_payload hp) hκ
  block := by
    intro j κ d hκ hp
    obtain ⟨v, c, hd, hrest⟩ := h.meets j _ κ (filled_of_payload hp) hκ
    exact ⟨v, c, heldBy_eq_some.mpr hd, hrest⟩
  real := by
    intro d hd
    obtain ⟨⟨v, c⟩, hp⟩ := Option.isSome_iff_exists.mp hd
    obtain ⟨writer, hw, -⟩ := hI.blocks d t v c (heldBy_eq_some.mp hp)
    exact (hI.used.block d (by rw [hw]; rfl)).2
  distinct := fun i j d hi hj => h.distinct i j d (filled_of_payload hi) (filled_of_payload hj)
  exact := by
    intro d hd
    obtain ⟨p, hp⟩ := Option.isSome_iff_exists.mp hd
    obtain ⟨j, hj⟩ := h.blocks d p hp
    rw [List.getElem?_map, Option.map_eq_some_iff] at hj
    obtain ⟨payload, hpayload, he⟩ := hj
    cases he
    exact ⟨j, hpayload⟩

theorem slot_setTask_sub {task : Option (Task S)}
    (hnew : ∀ code params slots, task ≠ some (.pending code params slots)) {j : Nat} {s : Slot S.Name}
    (h : (w.setTask t task).slot u j = some s) : u ≠ t ∧ w.slot u j = some s := by
  obtain ⟨code, params, slots, htask, hs⟩ := slot_eq_some.mp h
  by_cases hu : u = t
  · subst hu
    rw [tasks_setTask_self] at htask
    exact absurd htask (hnew _ _ _)
  · rw [tasks_setTask_other w hu] at htask
    exact ⟨hu, slot_eq_some.mpr ⟨_, _, _, htask, hs⟩⟩

theorem slot_setTask_other {task : Option (Task S)} (hu : u ≠ t) (j : Nat) :
    (w.setTask t task).slot u j = w.slot u j := by
  rw [World.slot, tasks_setTask_other w hu, World.slot]

theorem events_setTask {task : Option (Task S)}
    (hnew : ∀ code params slots, task ≠ some (.pending code params slots))
    {event : S.Name → Option (S.Name × Contract S × Bool)} (h : EventsInv event w.events w.slot) :
    EventsInv event w.events (w.setTask t task).slot where
  live := h.live
  unarmed := fun e t κ he u j hs => h.unarmed e t κ he u j (slot_setTask_sub hnew hs).2
  single := fun e u j u' j' hs hs' => h.single e u j u' j' (slot_setTask_sub hnew hs).2
    (slot_setTask_sub hnew hs').2

theorem holding_pending (hI : Inv P γ w) (ht : w.tasks t = some (.pending code params slots))
    (k : S.Name × Nat) : heldBy γ.slot t k = none := by
  cases hk : heldBy γ.slot t k with
  | none => rfl
  | some κ =>
      obtain ⟨-, -, rest, hrun⟩ := hI.slots k.1 k.2 t κ (heldBy_eq_some.mp hk)
      rw [ht] at hrun
      cases hrun

theorem advances_launch (hP : P.Monotone) (hV : Verified body P) (hI : Inv P γ w)
    (ht : w.tasks t = some (.pending code params slots)) (hs : slots.mapM Slot.payload = some payloads) :
    Advances P γ (w.setTask t (some (.running (body t code params payloads)))) := by
  obtain rfl := mapM_payload hs
  have hready := hI.tasks t
  rw [ht, taskInv_pending] at hready
  obtain ⟨m, hm, hsafe⟩ := hV _ _ _ _ hready.pre t payloads _ (arrives_of_ready hI hready)
  have hfilled : ∀ {j s}, w.slot t j = some s → s ≠ .vacant := by
    rintro j s hj rfl
    obtain ⟨_, _, _, htask, hs⟩ := slot_eq_some.mp hj
    rw [ht] at htask
    cases htask
    rw [List.getElem?_map, Option.map_eq_some_iff] at hs
    obtain ⟨payload, -, he⟩ := hs
    cases he
  refine ⟨{ γ with budget := γ.budget.update t m }, ?_, total_lt hm⟩
  constructor
  · exact hI.blocks
  · exact events_setTask (by simp) hI.events
  · intro u j x κ ho
    obtain ⟨hvacant, hκ, rest, hrun⟩ := hI.slots u j x κ ho
    have hu : u ≠ t := by
      rintro rfl
      exact hfilled hvacant rfl
    have hx : x ≠ t := by
      rintro rfl
      rw [ht] at hrun
      cases hrun
    exact ⟨by rw [slot_setTask_other hu, hvacant], hκ, rest, by rw [tasks_setTask_other w hx, hrun]⟩
  · exact hI.templates
  · exact hI.duty
  · exact hI.used.setTask (hI.used.task t (by rw [ht]; rfl)) _
  · intro u
    by_cases hu : u = t
    · subst hu
      rw [tasks_setTask_self, taskInv_running]
      have hholding : γ.holding u = ⟨heldBy γ.block u, (γ.brief u).event, fun _ => none, fun _ => none,
          (γ.brief u).duty⟩ := by
        simp only [Ghost.holding, Ghost.brief, funext (holding_pending hI ht), funext hready.template]
      rw [budget_update_self]
      change Safe P _ γ.known (γ.holding u) m
      rw [hholding]
      exact hsafe
    · rw [tasks_setTask_other w hu]
      refine TaskInv.frame hP ?_ ⟨?_, ?_, ?_⟩ ?_ ?_ (hI.tasks u)
      · exact Known.le_refl _
      · rfl
      · exact budget_update_other γ m hu
      · rfl
      · exact fun j x κ h => ⟨x, h⟩
      · exact fun j e x κ _ h => ⟨x, h⟩

end Launch

section Finish

variable {K I : Type} {h : K → Option (S.Name × I)}

/-- What a task still holds at its end is nobody's. -/
def drop (t : S.Name) (h : K → Option (S.Name × I)) (k : K) : Option (S.Name × I) :=
  if (share t (h k)).isSome then none else h k

theorem drop_eq_some {k : K} {p : S.Name × I} : drop t h k = some p ↔ h k = some p ∧ p.1 ≠ t := by
  rw [drop]
  cases hk : h k with
  | none => simp
  | some q =>
      by_cases hq : q.1 = t
      · simp only [share, Option.bind_some, if_pos hq, Option.isSome_some, if_true]
        refine iff_of_false (by simp) ?_
        rintro ⟨hp, hne⟩
        cases hp
        exact hne hq
      · simp only [share, Option.bind_some, if_neg hq, Option.isSome_none, Bool.false_eq_true, if_false]
        refine ⟨fun hp => ⟨hp, ?_⟩, fun hp => hp.1⟩
        cases hp
        exact hq

theorem heldBy_drop_self (k : K) : heldBy (drop t h) t k = none := by
  cases hk : heldBy (drop t h) t k with
  | none => rfl
  | some i => exact absurd rfl (drop_eq_some.mp (heldBy_eq_some.mp hk)).2

theorem heldBy_drop_other (hu : u ≠ t) : heldBy (drop t h) u = heldBy h u := by
  funext k
  apply Option.ext
  intro i
  rw [heldBy_eq_some, heldBy_eq_some, drop_eq_some]
  exact and_iff_left hu

theorem blocks_settle (hI : BlocksInv P.shared γ.block w.blocks) :
    BlocksInv P.shared (drop t γ.block) (w.settle t).blocks := by
  intro d u v c hd
  obtain ⟨hold, hu⟩ := drop_eq_some.mp hd
  obtain ⟨writer, hw, hclean⟩ := hI d u v c hold
  simp only [World.settle, hw, Option.map_some]
  by_cases ht : writer = some t
  · exact ⟨none, by rw [Block.release_own ht], .inr (.inl rfl)⟩
  · exact ⟨writer, by rw [Block.release_other ht], hclean⟩

theorem used_settle (h : UsedInv P w) (t : S.Name) : UsedInv P (w.settle t) where
  reserved := h.reserved
  block := by
    intro d hd
    rw [World.settle, Option.isSome_map] at hd
    exact h.block d hd
  event := h.event
  template := h.template
  task := h.task

theorem advances_finish (hP : P.Monotone) (hI : Inv P γ w) {result : Option S.Name}
    (ht : w.tasks t = some (.running (.pure result))) : Advances P γ ((w.settle t).setTask t none) := by
  have htask := hI.tasks t
  rw [ht] at htask
  obtain ⟨hpos, hevent, hslot, hduty⟩ := htask
  have hslots : ((w.settle t).setTask t none).slot = w.slot := by
    refine slot_setTask nofun ?_
    intro code params slots h
    have hsame : (w.settle t).tasks t = w.tasks t := rfl
    rw [hsame, ht] at h
    cases h
  refine ⟨{ γ with
    block := drop t γ.block
    template := drop t γ.template
    budget := γ.budget.update t 0 }, ?_, total_lt hpos⟩
  constructor
  · exact blocks_settle hI.blocks
  · rw [hslots]
    exact hI.events
  · rw [hslots]
    intro u j x κ ho
    obtain ⟨hvacant, hκ, rest, hrun⟩ := hI.slots u j x κ ho
    have hx : x ≠ t := by
      rintro rfl
      exact Option.some_ne_none κ ((heldBy_eq_some.mpr ho).symm.trans (hslot (u, j)))
    exact ⟨hvacant, hκ, rest, (tasks_setTask_other _ hx _).trans hrun⟩
  · constructor
    · intro g x code hg
      exact hI.templates.held g x code (drop_eq_some.mp hg).1
    · exact hI.templates.known
  · exact hI.duty
  · exact (used_settle hI.used t).setTask (hI.used.task t (by rw [ht]; rfl)) _
  · intro u
    by_cases hu : u = t
    · subst hu
      rw [tasks_setTask_self]
      refine ⟨?_, budget_update_self γ u 0⟩
      have hevent' : heldBy γ.event u = fun _ => none := funext hevent
      have hslot' : heldBy γ.slot u = fun _ => none := funext hslot
      have hduty' : share u γ.duty = none := hduty
      simp only [Ghost.holding, Holding.empty, funext heldBy_drop_self, hevent', hslot', hduty']
    · rw [tasks_setTask_other _ hu]
      have hsame : (w.settle t).tasks u = w.tasks u := rfl
      rw [hsame]
      refine TaskInv.frame hP ?_ ⟨?_, ?_, ?_⟩ ?_ ?_ (hI.tasks u)
      · exact Known.le_refl _
      · simp only [Ghost.holding, heldBy_drop_other hu]
      · exact budget_update_other γ 0 hu
      · rfl
      · exact fun j x κ h => ⟨x, h⟩
      · exact fun j e x κ _ h => ⟨x, h⟩

end Finish

section Steps

theorem Inv.real (hI : Inv P γ w) {name : S.Name} (h : name ∉ w.used) : ¬ P.reserved name :=
  fun hreal => h (hI.used.reserved name hreal)

theorem Inv.used_block (hI : Inv P γ w) {d : S.Name} {b : Block S} (hb : w.blocks d = some b) :
    d ∈ w.used ∧ ¬ P.reserved d :=
  hI.used.block d (by rw [hb]; rfl)

theorem Inv.held_block (hI : Inv P γ w) {d : S.Name} {v : S.Content} {c : Bool}
    (h : (γ.holding t).block d = some (v, c)) :
    ∃ writer, w.blocks d = some ⟨v, writer⟩ ∧ (P.shared ∨ writer = none ∨ c = false ∧ writer = some t) :=
  hI.blocks d t v c (heldBy_eq_some.mp h)

theorem Inv.held_template (hI : Inv P γ w) {g : S.Name} {code : S.Code}
    (h : γ.known g = some code ∨ (γ.holding t).template g = some code) : w.templates g = some code := by
  rcases h with hknown | hown
  · exact hI.templates.known g code hknown
  · exact (hI.templates.held g t code (heldBy_eq_some.mp hown)).1

theorem Inv.stop (hI : Inv P γ w) {l : List S.Output} (h : (γ.holding t).duty = some l) :
    l = P.report w.printed := by
  have hduty : γ.duty = some (t, l) := share_eq_some.mp h
  obtain ⟨t', ht'⟩ := hI.duty
  rw [hduty] at ht'
  cases ht'
  rfl

theorem setSlot_stopped {C : Type} (w : World S C) (u : S.Name) (j : Nat) (s : Slot S.Name) :
    (w.setSlot u j s).stopped = w.stopped := by
  rw [World.setSlot]
  split
  next => rfl
  next => rfl

variable {H : Host S} {s s' : Config H} {c : Call S} {next : c.Answer → Prog S (Option S.Name)} {answer : c.Answer}
  {state : H.State}

theorem valid_of_running (hI : Inv P γ w) (ht : w.tasks t = some (.running (.call c next))) : Valid w c := by
  have htask := hI.tasks t
  rw [ht] at htask
  obtain ⟨m, -, hreq⟩ := htask
  have hblock : ∀ {d}, ((γ.holding t).block d).isSome → (w.blocks d).isSome := by
    intro d hd
    obtain ⟨q, hq⟩ := Option.isSome_iff_exists.mp hd
    obtain ⟨writer, hw, -⟩ := Inv.held_block hI hq
    rw [hw]
    rfl
  have hevent : ∀ {e q}, (γ.holding t).event e = some q → w.events e = true := by
    intro e q he
    exact (hI.events.live e).mpr (by rw [heldBy_eq_some.mp he]; rfl)
  cases c with
  | createBlock => trivial
  | load d =>
      obtain ⟨v, released, hd, -⟩ := hreq
      exact hblock (by rw [hd]; rfl)
  | store d v => exact hblock hreq.1
  | release d =>
      obtain ⟨v, released, hd, -⟩ := hreq
      exact hblock (by rw [hd]; rfl)
  | destroyBlock d => exact hblock hreq.1
  | createEvent => trivial
  | satisfy e payload =>
      cases payload with
      | none =>
          obtain ⟨κ, he, -⟩ := hreq
          exact ⟨hevent he, nofun⟩
      | some d =>
          obtain ⟨κ, v, released, he, hd, -⟩ := hreq
          refine ⟨hevent he, ?_⟩
          rintro _ ⟨⟩
          exact hblock (by rw [hd]; rfl)
  | createTemplate code => trivial
  | destroyTemplate g =>
      obtain ⟨code, hcode⟩ := Option.isSome_iff_exists.mp hreq.1
      change (w.templates g).isSome
      rw [Inv.held_template hI (.inr hcode)]
      rfl
  | createTask g params sources output =>
      obtain ⟨hout, code, hcode, brief, passed, n, -, hfeeds, hnodup, hbrief, hrank, hduty, -⟩ := hreq
      have hgives : Gives γ t sources passed brief := ⟨hfeeds, hnodup, hbrief, hrank, hduty⟩
      refine ⟨hout, by rw [Inv.held_template hI hcode]; rfl, ?_⟩
      rw [mapM_place]
      · rfl
      · intro e he
        obtain ⟨κ, hκ⟩ := hgives.named he
        exact (hI.events.live e).mpr (by rw [hκ]; rfl)
  | attach u j source =>
      cases source with
      | later => exact hreq.elim
      | null =>
          obtain ⟨κ, hslot, -⟩ := hreq
          exact ⟨(hI.slots u j t κ (heldBy_eq_some.mp hslot)).1, rfl⟩
      | object e =>
          obtain ⟨κ, hslot, he, -⟩ := hreq
          refine ⟨(hI.slots u j t κ (heldBy_eq_some.mp hslot)).1, ?_⟩
          rw [World.place, if_pos (hevent he)]
          rfl
  | draw => trivial
  | print o => trivial
  | stop => trivial

/-- The answer to a call lets its task go on, or the program stops where it may stop. -/
theorem advances_answer (hP : P.Monotone) (hdoc : H.Documented P.shared) (hI : Inv P γ s.world)
    (ht : s.world.tasks t = some (.running (.call c next))) (h : H.Answers t c s.state answer state) :
    (Advances P γ (((H.view state).withCode s.code).setTask t (some (.running (next answer)))) ∧
        (H.view state).stopped = s.stopped) ∨
      0 < γ.total ∧ (H.view state).stopped = true ∧ P.Done (P.report (H.view state).printed) := by
  have htask := hI.tasks t
  rw [ht, taskInv_running] at htask
  obtain ⟨m, hm, hreq⟩ := htask
  have hblock : ∀ {d}, ((γ.holding t).block d).isSome → ∃ b, (H.view s.state).blocks d = some b := by
    intro d hd
    obtain ⟨q, hq⟩ := Option.isSome_iff_exists.mp hd
    obtain ⟨writer, hw, -⟩ := Inv.held_block hI hq
    exact ⟨_, hw⟩
  cases c with
  | createBlock =>
      obtain ⟨hd, v, hview⟩ := hdoc.createBlock h
      rw [hview]
      refine .inl ⟨?_, rfl⟩
      have hnone := hI.block_none hd
      refine advances_block (b := some ⟨v, none⟩) (p := some (v, true)) hP hI ht hm rfl rfl rfl rfl rfl
        ((hI.used.use answer).setBlock ⟨Set.mem_insert answer _, Inv.real hI hd⟩ _) ?_ ?_
          (hreq answer v (Inv.real hI hd) ?_)
      · intro u _
        rw [hnone, share_none]
      · rintro v' c' ⟨⟩
        exact ⟨none, rfl, .inr (.inl rfl)⟩
      · change share t (γ.block answer) = none
        rw [hnone, share_none]
  | load d =>
      obtain ⟨v, c', hheld, hsafe⟩ := hreq
      obtain ⟨writer, hw, hclean⟩ := Inv.held_block hI hheld
      obtain ⟨hv, hview⟩ := hdoc.load hw h
      obtain rfl : answer = v := hv (hclean.imp_right (Or.imp_right And.right))
      rw [hview]
      exact .inl ⟨advances_same hP hI ht hm hsafe, rfl⟩
  | store d v =>
      obtain ⟨hheld, hsafe⟩ := hreq
      obtain ⟨b, hb⟩ := hblock hheld
      obtain ⟨q, hq⟩ := Option.isSome_iff_exists.mp hheld
      rw [hdoc.store (by rw [hb]; rfl) h]
      refine .inl ⟨?_, rfl⟩
      refine advances_block (b := some ⟨v, some t⟩) (p := some (v, false)) hP hI ht hm rfl rfl rfl rfl rfl
        (hI.used.setBlock (Inv.used_block hI hb) _) (fun u hu => share_other_of_held hu hq) ?_ hsafe
      rintro v' c' ⟨⟩
      exact ⟨some t, rfl, .inr (.inr ⟨rfl, rfl⟩)⟩
  | release d =>
      obtain ⟨v, c', hheld, hsafe⟩ := hreq
      obtain ⟨writer, hw, hclean⟩ := Inv.held_block hI hheld
      rw [hdoc.release hw h]
      refine .inl ⟨?_, rfl⟩
      refine advances_block (p := some (v, true)) hP hI ht hm rfl rfl rfl rfl rfl
        (hI.used.setBlock (Inv.used_block hI hw) _) (fun u hu => share_other_of_held hu hheld) ?_ hsafe
      rintro v' c₁ ⟨⟩
      by_cases hwriter : writer = some t
      · exact ⟨none, by rw [Block.release_own hwriter], .inr (.inl rfl)⟩
      · refine ⟨writer, by rw [Block.release_other hwriter], hclean.imp_right (fun hrest => .inl ?_)⟩
        exact hrest.resolve_right (fun hown => hwriter hown.2)
  | destroyBlock d =>
      obtain ⟨hheld, hsafe⟩ := hreq
      obtain ⟨b, hb⟩ := hblock hheld
      obtain ⟨q, hq⟩ := Option.isSome_iff_exists.mp hheld
      rw [hdoc.destroyBlock (by rw [hb]; rfl) h]
      refine .inl ⟨?_, rfl⟩
      exact advances_block (b := none) (p := none) hP hI ht hm rfl rfl rfl rfl rfl
        (hI.used.setBlock (Inv.used_block hI hb) _) (fun u hu => share_other_of_held hu hq) nofun hsafe
  | createEvent =>
      obtain ⟨he, hview⟩ := hdoc.createEvent h
      obtain ⟨κ, hsafe⟩ := hreq
      rw [hview]
      refine .inl ⟨?_, rfl⟩
      refine advances_createEvent hP hI ht hm he κ (hsafe answer (Inv.real hI he) ?_)
      change share t (γ.event answer) = none
      rw [hI.event_none he, share_none]
  | satisfy e payload =>
      rw [hdoc.satisfy (valid_withCode.mp (valid_of_running hI ht)) h, withCode_fire]
      refine .inl ⟨?_, rfl⟩
      cases payload with
      | none =>
          obtain ⟨κ, hevent, hκ, hsafe⟩ := hreq
          exact advances_satisfy (p := none) hI ht hm hevent nofun hκ hsafe
      | some d =>
          obtain ⟨κ, v, c', hevent, hblock, hclean, hκ, hsafe⟩ := hreq
          refine advances_satisfy (p := some (d, v, c')) hI ht hm hevent ?_ ⟨hclean, hκ⟩ hsafe
          rintro _ _ _ ⟨⟩
          exact hblock
  | createTemplate code =>
      obtain ⟨hg, hview⟩ := hdoc.createTemplate h
      rw [hview]
      refine .inl ⟨?_, rfl⟩
      obtain ⟨hknown, hown⟩ := hI.template_none hg
      rcases hreq with hsafe | hsafe
      · exact advances_createKnown hP hI ht hm hg code (hsafe answer (Inv.real hI hg) hknown)
      · refine advances_template hP hI ht hm rfl rfl rfl rfl rfl
          ((hI.used.use answer).setTemplate (Set.mem_insert answer _) _) ?_ hknown
          (hsafe answer (Inv.real hI hg) hknown ?_)
        · intro u _
          rw [hown, share_none]
        · change share t (γ.template answer) = none
          rw [hown, share_none]
  | destroyTemplate g =>
      obtain ⟨hheld, hsafe⟩ := hreq
      obtain ⟨code, hcode⟩ := Option.isSome_iff_exists.mp hheld
      obtain ⟨htemplate, hknown⟩ := hI.templates.held g t code (heldBy_eq_some.mp hcode)
      have hg : ((H.view s.state).templates g).isSome := Option.isSome_of_eq_some htemplate
      rw [hdoc.destroyTemplate hg h]
      refine .inl ⟨?_, rfl⟩
      exact advances_template hP hI ht hm rfl rfl rfl rfl rfl
        (hI.used.setTemplate (hI.used.template g hg) _) (fun u hu => share_other_of_held hu hcode) hknown hsafe
  | createTask g params sources output =>
      obtain ⟨rfl, code, hcode, brief, passed, n, hn, hfeeds, hnodup, hevent, hrank, hduty, hpre, hsafe⟩ := hreq
      have hgives : Gives γ t sources passed brief := ⟨hfeeds, hnodup, hevent, hrank, hduty⟩
      have hlive : ∀ e ∈ named sources, s.world.events e = true := by
        intro e he
        obtain ⟨κ, hκ⟩ := hgives.named he
        exact (hI.events.live e).mpr (by rw [hκ]; rfl)
      obtain ⟨u, o⟩ := answer
      obtain ⟨hu, ho, hview⟩ := hdoc.createTask (Inv.held_template hI hcode) (mapM_place hlive) h
      cases ho
      rw [hview, withCode_setTask (fun _ _ => rfl)]
      refine .inl ⟨advances_createTask hgives hP hI ht (hn ▸ hm) hpre hu (hsafe u (Inv.real hI hu) ?_), rfl⟩
      intro j
      cases ho : (γ.holding t).slot (u, j) with
      | none => rfl
      | some κ =>
          obtain ⟨_, _, _, htask, -⟩ := slot_eq_some.mp (hI.slots u j t κ (heldBy_eq_some.mp ho)).1
          exact absurd (hI.used.task u (by rw [htask]; rfl)) hu
  | attach u j source =>
      cases source with
      | later => exact hreq.elim
      | null =>
          obtain ⟨κ, hslot, hκ, hsafe⟩ := hreq
          have hvacant := (hI.slots u j t κ (heldBy_eq_some.mp hslot)).1
          rw [Config.world, slot_withCode] at hvacant
          rw [hdoc.attach hvacant rfl h, withCode_setSlot]
          exact .inl ⟨advances_attachNull hP hI ht hm hslot hκ hsafe, setSlot_stopped _ u j _⟩
      | object e =>
          obtain ⟨κ, hslot, hevent, hsafe⟩ := hreq
          have hvacant := (hI.slots u j t κ (heldBy_eq_some.mp hslot)).1
          rw [Config.world, slot_withCode] at hvacant
          have hlive : (H.view s.state).events e = true :=
            (hI.events.live e).mpr (by rw [heldBy_eq_some.mp hevent]; rfl)
          have hplace : (H.view s.state).place (.object e) = some (.waiting e) := if_pos hlive
          rw [hdoc.attach hvacant hplace h, withCode_setSlot]
          exact .inl ⟨advances_attachEvent hP hI ht hm hslot hevent hsafe, setSlot_stopped _ u j _⟩
  | draw =>
      rw [hdoc.draw h]
      exact .inl ⟨advances_same hP hI ht hm (hreq answer), rfl⟩
  | print o =>
      rw [hdoc.print h]
      rcases hreq with ⟨hnoise, hsafe⟩ | ⟨hnoise, l, hl, hsafe⟩
      · exact .inl ⟨advances_noise hP hI ht hm hnoise hsafe, rfl⟩
      · exact .inl ⟨advances_print hP hI ht hm hnoise hl hsafe, rfl⟩
  | stop =>
      obtain ⟨l, hl, hdone⟩ := hreq
      obtain rfl := Inv.stop hI hl
      have htotal := total_lt (γ := γ) hm
      rw [hdoc.stop h]
      exact .inr ⟨by omega, rfl, hdone⟩

theorem used_of_running (hI : Inv P γ s.world) (hs : s.Coherent) {u : S.Name}
    (hu : (H.view s.state).tasks u = some (.running ())) : u ∈ (H.view s.state).used := by
  obtain ⟨rest, hrest⟩ := Option.isSome_iff_exists.mp ((hs u).mpr hu)
  exact hI.used.task u (by rw [(hs.running hrest).2]; rfl)

/-- One step uses up some of what is left, or stops the program where it may stop. -/
theorem step_advances (hP : P.Monotone) (hdoc : H.Documented P.shared) (hV : Verified body P)
    (hI : Inv P γ s.world) (hs : s.Coherent)
    (h : Step body s s') : (Advances P γ s'.world ∧ s'.Coherent ∧ s'.stopped = false) ∨
      0 < γ.total ∧ s'.stopped = true ∧ P.Done (P.report s'.printed) := by
  cases h with
  | call hlive ht h =>
      obtain ⟨hrun, hworld⟩ := hs.running ht
      have hkeeps := hdoc.running (valid_withCode.mp (valid_of_running hI hworld))
        (fun _ => used_of_running hI hs) h
      rcases advances_answer hP hdoc hI hworld h with ⟨hadv, hsame⟩ | hdone
      · rw [← withCode_running ((hkeeps _).mpr hrun)] at hadv
        refine .inl ⟨hadv, hs.update ?_ (fun u _ => hkeeps u), hsame.trans hlive⟩
        exact iff_of_true rfl ((hkeeps _).mpr hrun)
      · exact .inr hdone
  | launch hlive h =>
      obtain ⟨slots, ht, hpayloads, hview⟩ := hdoc.launch h
      have hadv := advances_launch hP hV hI (tasks_pending.mpr ht) hpayloads
      rw [Config.world, ← withCode_setRunning, ← hview] at hadv
      refine .inl ⟨hadv, hs.update ?_ (fun u hu => ?_), ?_⟩
      · rw [hview, tasks_setTask_self]
        exact iff_of_true rfl rfl
      · rw [hview, tasks_setTask_other _ hu]
      · rw [Config.stopped, hview]
        exact hlive
  | finish hlive ht h =>
      obtain ⟨hrun, hworld⟩ := hs.running ht
      have hview := hdoc.finish hrun h
      have hadv := advances_finish hP hI hworld
      rw [Config.world, settle_withCode, ← withCode_remove, ← hview] at hadv
      refine .inl ⟨hadv, hs.update ?_ (fun u hu => ?_), ?_⟩
      · rw [hview, tasks_setTask_self]
        exact iff_of_false (by simp) (by simp)
      · rw [hview, tasks_setTask_other _ hu]
        exact Iff.rfl
      · rw [Config.stopped, hview]
        exact hlive

theorem runs_invariant (hP : P.Monotone) (hdoc : H.Documented P.shared) (hV : Verified body P)
    (hI : Inv P γ s.world) (hs : s.Coherent) (hlive : s.stopped = false) {n : Nat} (h : Runs body n s s') :
    (∃ γ', Inv P γ' s'.world ∧ s'.Coherent ∧ s'.stopped = false ∧ n + γ'.total ≤ γ.total) ∨
      s'.stopped = true ∧ P.Done (P.report s'.printed) ∧ n ≤ γ.total := by
  induction h with
  | refl s => exact .inl ⟨γ, hI, hs, hlive, by omega⟩
  | tail h hstep ih =>
      rcases ih hI hs hlive with ⟨γ₁, hI₁, hs₁, -, hle⟩ | ⟨hstopped, -⟩
      · rcases step_advances hP hdoc hV hI₁ hs₁ hstep with ⟨⟨γ₂, hI₂, hlt⟩, hs₂, hlive₂⟩ | ⟨hpos, hstopped, hdone⟩
        · exact .inl ⟨γ₂, hI₂, hs₂, hlive₂, by omega⟩
        · exact .inr ⟨hstopped, hdone, by omega⟩
      · rw [hstep.live] at hstopped
        cases hstopped

end Steps

section Progress

variable {H : Host S} {s : Config H} {code : S.Code} {params : S.Params} {slots : List (Slot S.Name)}

theorem not_faulty (hI : Inv P γ s.world) (hs : s.Coherent) : ¬ s.Faulty := by
  rintro (ht | ⟨ht, hc⟩)
  · rename_i t e
    have htask := hI.tasks t
    rw [(hs.running ht).2] at htask
    exact htask
  · exact hc (valid_withCode.mp (valid_of_running hI (hs.running ht).2))

theorem running_progress (hdoc : H.Documented P.shared) (hI : Inv P γ s.world) (hs : s.Coherent)
    (hlive : s.stopped = false) (ht : s.world.tasks t = some (.running rest)) :
    (∃ s', Step body s s') ∨ ∀ name, name ∈ (H.view s.state).used := by
  have hcode := Config.code_of_running ht
  have hrun := (hs.running hcode).1
  cases rest with
  | pure result =>
      obtain ⟨state, h⟩ := hdoc.finished hrun
      exact .inl ⟨_, .finish hlive hcode h⟩
  | fail e =>
      have htask := hI.tasks t
      rw [ht] at htask
      exact htask.elim
  | call c next =>
      refine (hdoc.answered hrun (valid_withCode.mp (valid_of_running hI ht))).imp_left ?_
      rintro ⟨answer, state, h⟩
      exact ⟨_, .call hlive hcode h⟩

omit [DecidableEq S.Name] in
theorem mapM_payload_or (slots : List (Slot S.Name)) : (∃ payloads, slots.mapM Slot.payload = some payloads) ∨
    ∃ (j : Nat) (s : Slot S.Name), slots[j]? = some s ∧ s.payload = none := by
  induction slots with
  | nil => exact .inl ⟨[], rfl⟩
  | cons s slots ih =>
      cases hs : s.payload with
      | none => exact .inr ⟨0, s, rfl, hs⟩
      | some payload =>
          rcases ih with ⟨payloads, hp⟩ | ⟨j, s', hj, hs'⟩
          · refine .inl ⟨payload :: payloads, ?_⟩
            rw [List.mapM_cons, hs, hp]
            rfl
          · exact .inr ⟨j + 1, s', hj, hs'⟩

/-- A task can wait only for events of tasks that run, or that wait for events of lower
ranks themselves. -/
theorem pending_progress (hdoc : H.Documented P.shared) (hI : Inv P γ s.world) (hs : s.Coherent)
    (hlive : s.stopped = false) (r : Nat) (ht : s.world.tasks t = some (.pending code params slots))
    (hr : ∀ κ ∈ γ.contracts t, κ.rank < r) :
    (∃ s', Step body s s') ∨ ∀ name, name ∈ (H.view s.state).used := by
  induction r using Nat.strong_induction_on generalizing t code params slots with
  | _ r ih =>
      have hready := hI.tasks t
      rw [ht, taskInv_pending] at hready
      rcases mapM_payload_or slots with ⟨payloads, hpayloads⟩ | ⟨j, slot, hj, hslot⟩
      · obtain ⟨state, h⟩ := hdoc.launched (tasks_pending.mp ht) hpayloads
        exact .inl ⟨_, .launch hlive h⟩
      · have hlt : j < (γ.contracts t).length := by
          rw [← hready.length_eq]
          exact (List.getElem?_eq_some_iff.mp hj).1
        have hκ := List.getElem?_eq_getElem hlt
        have hmeets := hready.meets j slot _ hj hκ
        cases slot with
        | filled payload => cases hslot
        | vacant =>
            obtain ⟨x, hx⟩ := hmeets
            obtain ⟨-, -, rest, hrun⟩ := hI.slots t j x _ hx
            exact running_progress hdoc hI hs hlive hrun
        | waiting e =>
            obtain ⟨x, hx⟩ := hmeets
            have hheld : heldBy γ.event x e = some ((γ.contracts t)[j], true) := heldBy_eq_some.mpr hx
            have htaskx := hI.tasks x
            cases hw : s.world.tasks x with
            | none =>
                rw [hw] at htaskx
                have hempty := congrFun (congrArg Holding.event htaskx.1) e
                exact absurd (hheld.symm.trans hempty) (Option.some_ne_none _)
            | some task =>
                rw [hw] at htaskx
                cases task with
                | running rest₁ => exact running_progress hdoc hI hs hlive hw
                | pending code₁ params₁ slots₁ =>
                    exact ih _ (hr _ (List.mem_of_getElem? hκ)) hw (htaskx.rank e _ hheld)

theorem progress (hdoc : H.Documented P.shared) (hI : Inv P γ s.world) (hs : s.Coherent)
    (hlive : s.stopped = false) : (∃ s', Step body s s') ∨ ∀ name, name ∈ (H.view s.state).used := by
  obtain ⟨t, hduty⟩ := hI.duty
  have htask := hI.tasks t
  cases hw : s.world.tasks t with
  | none =>
      rw [hw] at htask
      have hempty : share t γ.duty = none := congrArg Holding.duty htask.1
      rw [hduty, share_self] at hempty
      cases hempty
  | some task =>
      cases task with
      | running rest => exact running_progress hdoc hI hs hlive hw
      | pending code params slots =>
          obtain ⟨r, hr⟩ : ∃ r, ∀ κ ∈ γ.contracts t, κ.rank < r := by
            refine ⟨((γ.contracts t).map Contract.rank).max?.getD 0 + 1, ?_⟩
            intro κ hκ
            exact Nat.lt_succ_of_le (List.le_max?_getD_of_mem (List.mem_map_of_mem hκ))
          exact pending_progress hdoc hI hs hlive r hw hr

end Progress

section Programs

variable {main args : S.Name} {code : S.Code} {params : S.Params} {v : S.Content} {used : Set S.Name}
  {κ : Contract S} {n : Nat}

noncomputable def Ghost.begin (main args : S.Name) (v : S.Content) (κ : Contract S) (n : Nat) : Ghost S where
  known := fun _ => none
  block := Function.update (fun _ => none) args (some (main, v, true))
  event := fun _ => none
  slot := fun _ => none
  template := fun _ => none
  duty := some (main, [])
  contracts := Function.update (fun _ => []) main [κ]
  budget := Finsupp.single main n

theorem slot_begin {j : Nat} {s : Slot S.Name} (h :
    (World.begin main args code params v used : World S).slot u j = some s) :
    s = .filled (some args) := by
  obtain ⟨_, _, _, htask, hs⟩ := slot_eq_some.mp h
  by_cases hu : u = main
  · subst hu
    rw [tasks_begin_main] at htask
    cases htask
    exact List.mem_singleton.mp (List.mem_of_getElem? hs)
  · rw [tasks_begin_other hu] at htask
    cases htask

theorem inv_begin (hpre : P.Pre (fun _ => none) code params ⟨fun _ => none, [κ], some [], n⟩)
    (hκ : κ.holds (some v)) (hmain : main ∈ used) (hargs : args ∈ used) (hreal : ¬ P.reserved args)
    (hreserved : ∀ name, P.reserved name → name ∈ used) :
    Inv P (Ghost.begin main args v κ n) (World.begin main args code params v used) := by
  have hblock : ∀ {d q}, Function.update (fun _ => none) args (some (main, v, true)) d = some q →
      d = args ∧ q = (main, v, true) := by
    intro d q hd
    by_cases he : d = args
    · subst he
      rw [Function.update_self] at hd
      exact ⟨rfl, (Option.some.inj hd).symm⟩
    · rw [Function.update_of_ne he] at hd
      cases hd
  constructor
  · intro d t v' c hd
    obtain ⟨rfl, hq⟩ := hblock hd
    cases hq
    exact ⟨none, by simp [World.begin], .inr (.inl rfl)⟩
  · constructor
    · exact fun e => Iff.rfl
    · rintro e t κ ⟨⟩
    · intro e u j u' j' hs
      cases slot_begin hs
  · rintro u j t κ ⟨⟩
  · constructor
    · rintro g t code ⟨⟩
    · rintro g code ⟨⟩
  · exact ⟨main, rfl⟩
  · constructor
    · exact hreserved
    · intro d hd
      by_cases he : d = args
      · rw [he]
        exact ⟨hargs, hreal⟩
      · simp [World.begin, Function.update_of_ne he] at hd
    · rintro e ⟨⟩
    · rintro g ⟨⟩
    · intro t ht
      by_cases he : t = main
      · rwa [he]
      · simp [World.begin, Function.update_of_ne he] at ht
  · intro u
    by_cases hu : u = main
    · subst hu
      have hcontracts : (Ghost.begin u args v κ n).contracts u = [κ] := by simp [Ghost.begin]
      rw [tasks_begin_main, taskInv_pending]
      constructor
      · have hbrief : (Ghost.begin u args v κ n).brief u = ⟨fun _ => none, [κ], some [], n⟩ := by
          simp only [Ghost.brief, hcontracts]
          simp [Ghost.begin, share]
          rfl
        rw [hbrief]
        exact hpre
      · rintro e p ⟨⟩
      · rw [hcontracts]
        rfl
      · intro j s κ' hs hκ'
        rw [hcontracts] at hκ'
        obtain rfl := List.mem_singleton.mp (List.mem_of_getElem? hs)
        obtain rfl := List.mem_singleton.mp (List.mem_of_getElem? hκ')
        exact ⟨v, true, by simp [Ghost.begin], .inr rfl, hκ⟩
      · intro i j d hi hj
        have hlti := (List.getElem?_eq_some_iff.mp hi).1
        have hltj := (List.getElem?_eq_some_iff.mp hj).1
        simp only [List.length_singleton] at hlti hltj
        omega
      · intro d p hd
        obtain ⟨rfl, -⟩ := hblock (heldBy_eq_some.mp hd)
        exact ⟨0, rfl⟩
      · exact fun _ => rfl
    · rw [tasks_begin_other hu]
      constructor
      · have hheld : heldBy (Function.update (fun _ => none) args (some (main, v, true))) u = fun _ => none := by
          rw [heldBy_update, share_other (Ne.symm hu)]
          exact Function.update_eq_self args (fun _ => none)
        simp only [Ghost.holding, Ghost.begin, hheld, Holding.empty, share_other (Ne.symm hu)]
        rfl
      · simp [Ghost.begin, hu]

variable {H : Host S} {σ : H.State}

omit [DecidableEq S.Name] in
theorem coherent_begin (h : ∀ t, (H.view σ).tasks t ≠ some (.running ())) : Config.Coherent ⟨σ, fun _ => none⟩ :=
  fun t => iff_of_false (by simp) (h t)

/-- A program whose tasks are safe is correct on every runtime that is as documented. -/
theorem adequate (hP : P.Monotone) (hdoc : H.Documented P.shared) (hV : Verified body P)
    (hstart : H.view σ = World.begin main args code params v used)
    (hpre : P.Pre (fun _ => none) code params ⟨fun _ => none, [κ], some [], n⟩) (hκ : κ.holds (some v))
    (hmain : main ∈ used) (hargs : args ∈ used) (hreal : ¬ P.reserved args)
    (hreserved : ∀ name, P.reserved name → name ∈ used) :
    Correct body (fun printed => P.Done (P.report printed)) n (⟨σ, fun _ => none⟩ : Config H) := by
  have hworld : Config.world (⟨σ, fun _ => none⟩ : Config H) = World.begin main args code params v used := by
    rw [Config.world, hstart, withCode_begin]
  have hI : Inv P (Ghost.begin main args v κ n) (Config.world (⟨σ, fun _ => none⟩ : Config H)) := by
    rw [hworld]
    exact inv_begin hpre hκ hmain hargs hreal hreserved
  have hs : Config.Coherent (⟨σ, fun _ => none⟩ : Config H) := by
    refine coherent_begin (fun t ht => ?_)
    rw [hstart] at ht
    by_cases hmain : t = main
    · simp [World.begin, hmain] at ht
    · simp [World.begin, hmain] at ht
  have hlive : Config.stopped (⟨σ, fun _ => none⟩ : Config H) = false := by
    rw [Config.stopped, hstart]
    rfl
  have htotal : (Ghost.begin main args v κ n).total = n := by
    rw [Ghost.total, Ghost.begin, Finsupp.sum_single_index rfl]
  have hrun : ∀ k s, Runs body k ⟨σ, fun _ => none⟩ s →
      (∃ γ, Inv P γ s.world ∧ s.Coherent ∧ s.stopped = false ∧ k + γ.total ≤ n) ∨
        s.stopped = true ∧ P.Done (P.report s.printed) ∧ k ≤ n := by
    intro k s h
    have hinv := runs_invariant hP hdoc hV hI hs hlive h
    rwa [htotal] at hinv
  constructor
  · intro k s h
    rcases hrun k s h with ⟨γ, -, -, -, hle⟩ | ⟨-, -, hle⟩
    · omega
    · exact hle
  · intro k s h hlive
    rcases hrun k s h with ⟨γ, hγ, hs, -⟩ | ⟨hstopped, -⟩
    · exact not_faulty hγ hs
    · rw [hlive] at hstopped
      cases hstopped
  · intro k s h hstopped
    rcases hrun k s h with ⟨γ, -, -, hlive, -⟩ | ⟨-, hdone, -⟩
    · rw [hstopped] at hlive
      cases hlive
    · exact hdone
  · intro k s h hlive
    rcases hrun k s h with ⟨γ, hγ, hs, -⟩ | ⟨hstopped, -⟩
    · exact progress hdoc hγ hs hlive
    · rw [hlive] at hstopped
      cases hstopped

end Programs

end Ocxxr.TaskAdequacy

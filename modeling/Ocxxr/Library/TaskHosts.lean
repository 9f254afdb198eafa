import Ocxxr.Library.TaskGraph

namespace Ocxxr.TaskGraph

variable {S : Signature}

/-- A runtime: the objects that there are in its states, how it answers the calls of a
task, and how it starts and ends tasks. -/
structure Host (S : Signature) where
  State : Type
  view : State → World S Unit
  Answers : S.Name → (c : Call S) → State → c.Answer → State → Prop
  Launches : S.Name → S.Code → S.Params → List (Option S.Name) → State → State → Prop
  Ends : S.Name → Option S.Name → State → State → Prop

section Documented

variable [DecidableEq S.Name]

/-- What the documentation of a runtime says of calls that are valid. What a task has
written is seen by the others at once, if `shared`, or from a release on. -/
structure Host.Documented (H : Host S) (shared : Prop) : Prop where
  createBlock : ∀ {t σ d σ'}, H.Answers t .createBlock σ d σ' →
    d ∉ (H.view σ).used ∧ ∃ v, H.view σ' = ((H.view σ).use d).setBlock d (some ⟨v, none⟩)
  load : ∀ {t d σ v σ' b}, (H.view σ).blocks d = some b → H.Answers t (.load d) σ v σ' →
    (shared ∨ b.writer = none ∨ b.writer = some t → v = b.content) ∧ H.view σ' = H.view σ
  store : ∀ {t d v σ u σ'}, ((H.view σ).blocks d).isSome → H.Answers t (.store d v) σ u σ' →
    H.view σ' = (H.view σ).setBlock d (some ⟨v, some t⟩)
  release : ∀ {t d σ u σ' b}, (H.view σ).blocks d = some b → H.Answers t (.release d) σ u σ' →
    H.view σ' = (H.view σ).setBlock d (some (b.release t))
  destroyBlock : ∀ {t d σ u σ'}, ((H.view σ).blocks d).isSome → H.Answers t (.destroyBlock d) σ u σ' →
    H.view σ' = (H.view σ).setBlock d none
  createEvent : ∀ {t σ e σ'}, H.Answers t .createEvent σ e σ' →
    e ∉ (H.view σ).used ∧ H.view σ' = ((H.view σ).use e).addEvent e
  satisfy : ∀ {t e payload σ u σ'}, Valid (H.view σ) (.satisfy e payload) →
    H.Answers t (.satisfy e payload) σ u σ' →
    H.view σ' = (H.view σ).fire e payload
  createTemplate : ∀ {t code σ g σ'}, H.Answers t (.createTemplate code) σ g σ' →
    g ∉ (H.view σ).used ∧ H.view σ' = ((H.view σ).use g).setTemplate g (some code)
  destroyTemplate : ∀ {t g σ u σ'}, ((H.view σ).templates g).isSome → H.Answers t (.destroyTemplate g) σ u σ' →
    H.view σ' = (H.view σ).setTemplate g none
  createTask : ∀ {t g params sources σ answer σ' code slots}, (H.view σ).templates g = some code →
    sources.mapM (H.view σ).place = some slots → H.Answers t (.createTask g params sources false) σ answer σ' →
    answer.1 ∉ (H.view σ).used ∧ answer.2 = none ∧
      H.view σ' = ((H.view σ).use answer.1).setTask answer.1 (some (.pending code params slots))
  attach : ∀ {t v j source σ u σ' s}, (H.view σ).slot v j = some .vacant → (H.view σ).place source = some s →
    H.Answers t (.attach v j source) σ u σ' → H.view σ' = (H.view σ).setSlot v j s
  draw : ∀ {t σ b σ'}, H.Answers t .draw σ b σ' → H.view σ' = H.view σ
  print : ∀ {t o σ u σ'}, H.Answers t (.print o) σ u σ' →
    H.view σ' = { H.view σ with printed := (H.view σ).printed ++ [o] }
  stop : ∀ {t σ u σ'}, H.Answers t .stop σ u σ' → H.view σ' = { H.view σ with stopped := true }
  launch : ∀ {t code params payloads σ σ'}, H.Launches t code params payloads σ σ' →
    ∃ slots, (H.view σ).tasks t = some (.pending code params slots) ∧ slots.mapM Slot.payload = some payloads ∧
      H.view σ' = (H.view σ).setTask t (some (.running ()))
  finish : ∀ {t result σ σ'}, (H.view σ).tasks t = some (.running ()) → H.Ends t result σ σ' →
    H.view σ' = ((H.view σ).settle t).setTask t none
  answered : ∀ {t c σ}, (H.view σ).tasks t = some (.running ()) → Valid (H.view σ) c →
    (∃ answer σ', H.Answers t c σ answer σ') ∨ ∀ name, name ∈ (H.view σ).used
  launched : ∀ {t code params slots payloads σ}, (H.view σ).tasks t = some (.pending code params slots) →
    slots.mapM Slot.payload = some payloads → ∃ σ', H.Launches t code params payloads σ σ'
  finished : ∀ {t result σ}, (H.view σ).tasks t = some (.running ()) → ∃ σ', H.Ends t result σ σ'

end Documented

/-- A state of the runtime, and the code that each running task has left. -/
structure Config (H : Host S) where
  state : H.State
  code : S.Name → Option (Prog S (Option S.Name))

namespace Config

variable {H : Host S}

def stopped (s : Config H) : Bool := (H.view s.state).stopped

def printed (s : Config H) : List S.Output := (H.view s.state).printed

/-- A task has failed, or makes a call that is not valid. -/
inductive Faulty [DecidableEq S.Name] (s : Config H) : Prop
  | failed {t : S.Name} {e : S.Error} (ht : s.code t = some (.fail e))
  | refused {t : S.Name} {c : Call S} {next : c.Answer → Prog S (Option S.Name)}
    (ht : s.code t = some (.call c next))
      (hc : ¬ Valid (H.view s.state) c)

end Config

section Runs

variable [DecidableEq S.Name] {H : Host S} (body : Body S)

/-- One step of any of the tasks, as the runtime has it: the answer to its next call, its
start, or its end. -/
inductive Step : Config H → Config H → Prop
  | call {s : Config H} {t : S.Name} {c : Call S} {next : c.Answer → Prog S (Option S.Name)} {answer : c.Answer}
      {state : H.State} (hlive : s.stopped = false) (ht : s.code t = some (.call c next))
      (h : H.Answers t c s.state answer state) : Step s ⟨state, Function.update s.code t (some (next answer))⟩
  | launch {s : Config H} {t : S.Name} {code : S.Code} {params : S.Params} {payloads : List (Option S.Name)}
      {state : H.State} (hlive : s.stopped = false) (h : H.Launches t code params payloads s.state state) :
      Step s ⟨state, Function.update s.code t (some (body t code params payloads))⟩
  | finish {s : Config H} {t : S.Name} {result : Option S.Name} {state : H.State} (hlive : s.stopped = false)
      (ht : s.code t = some (.pure result)) (h : H.Ends t result s.state state) :
      Step s ⟨state, Function.update s.code t none⟩

inductive Runs : Nat → Config H → Config H → Prop
  | refl (s : Config H) : Runs 0 s s
  | tail {n : Nat} {s s' s'' : Config H} (h : Runs n s s') (hstep : Step body s' s'') : Runs (n + 1) s s''

/-- Every run is at most so long, none of its tasks fails or makes a call that is not
valid, and until the program has stopped, with what it may have printed, another step can
be made, as long as there are names. -/
structure Correct (Done : List S.Output → Prop) (bound : Nat) (s₀ : Config H) : Prop where
  bounded : ∀ n s, Runs body n s₀ s → n ≤ bound
  sound : ∀ n s, Runs body n s₀ s → s.stopped = false → ¬ s.Faulty
  done : ∀ n s, Runs body n s₀ s → s.stopped = true → Done s.printed
  progress : ∀ n s, Runs body n s₀ s → s.stopped = false →
    (∃ s', Step body s s') ∨ ∀ name, name ∈ (H.view s.state).used

variable {body}

theorem Step.live {s s' : Config H} (h : Step body s s') : s.stopped = false := by
  cases h with
  | call hlive ht h => exact hlive
  | launch hlive h => exact hlive
  | finish hlive ht h => exact hlive

end Runs

section Views

variable {C : Type} {H : Host S}

def Task.withCode (rest : Option C) : Task S Unit → Option (Task S C)
  | .pending code params slots => some (.pending code params slots)
  | .running () => rest.map .running

def World.withCode (w : World S Unit) (code : S.Name → Option C) : World S C :=
  ⟨w.blocks, w.events, w.templates, fun t => (w.tasks t).bind (Task.withCode (code t)), w.used, w.printed,
    w.stopped⟩

def Config.world (s : Config H) : World S := (H.view s.state).withCode s.code

/-- The code that is left belongs to the tasks that run. -/
def Config.Coherent (s : Config H) : Prop :=
  ∀ t, (s.code t).isSome ↔ (H.view s.state).tasks t = some (.running ())

variable {w : World S Unit} {code : S.Name → Option C} {t u : S.Name}

theorem tasks_pending {k : S.Code} {params : S.Params} {slots : List (Slot S.Name)} :
    (w.withCode code).tasks u = some (.pending k params slots) ↔ w.tasks u = some (.pending k params slots) := by
  simp only [World.withCode]
  cases w.tasks u with
  | none => simp
  | some task =>
      cases task with
      | pending k' params' slots' => simp [Task.withCode]
      | running rest => simp [Task.withCode]

theorem slot_withCode : (w.withCode code).slot = w.slot := by
  funext u j
  simp only [World.slot, World.withCode]
  cases w.tasks u with
  | none => rfl
  | some task =>
      cases task with
      | pending k params slots => rfl
      | running rest =>
          cases code u with
          | none => rfl
          | some rest => rfl

theorem Config.Coherent.running {s : Config H} (hs : s.Coherent) {rest : Prog S (Option S.Name)}
    (ht : s.code t = some rest) : (H.view s.state).tasks t = some (.running ()) ∧
    s.world.tasks t = some (.running rest) := by
  have hrun := (hs t).mp (by rw [ht]; rfl)
  refine ⟨hrun, ?_⟩
  simp only [Config.world, World.withCode, hrun, ht]
  rfl

theorem Config.code_of_running {s : Config H} {rest : Prog S (Option S.Name)}
    (ht : s.world.tasks t = some (.running rest)) :
    s.code t = some rest := by
  simp only [Config.world, World.withCode] at ht
  cases htask : (H.view s.state).tasks t with
  | none =>
      rw [htask] at ht
      cases ht
  | some task =>
      rw [htask] at ht
      cases task with
      | pending k params slots => cases ht
      | running u =>
          obtain ⟨rest', hcode, he⟩ := Option.map_eq_some_iff.mp (show (s.code t).map Task.running = _ from ht)
          cases he
          exact hcode

theorem valid_withCode {c : Call S} : Valid (w.withCode code) c ↔ Valid w c := by
  cases c with
  | attach u j source =>
      rw [Valid, slot_withCode]
      exact Iff.rfl
  | _ => exact Iff.rfl

variable [DecidableEq S.Name]

theorem withCode_setTask {code' : S.Name → Option C} (h : ∀ v, v ≠ u → code' v = code v)
    (task : Option (Task S Unit)) :
    (w.setTask u task).withCode code' = (w.withCode code).setTask u (task.bind (Task.withCode (code' u))) := by
  simp only [World.setTask, World.withCode, World.mk.injEq, true_and, and_true]
  funext v
  by_cases hv : v = u
  · rw [hv, Function.update_self, Function.update_self]
  · rw [Function.update_of_ne hv, Function.update_of_ne hv, h v hv]

theorem withCode_setRunning (rest : C) : (w.setTask t (some (.running ()))).withCode
    (Function.update code t (some rest)) =
    (w.withCode code).setTask t (some (.running rest)) := by
  rw [withCode_setTask (fun v hv => Function.update_of_ne hv _ _), Function.update_self]
  rfl

theorem withCode_running (ht : w.tasks t = some (.running ())) (rest : C) :
    w.withCode (Function.update code t (some rest)) = (w.withCode code).setTask t (some (.running rest)) := by
  have hself : w.setTask t (some (.running ())) = w := by
    rw [World.setTask, ← ht, Function.update_eq_self]
  rw [← withCode_setRunning, hself]

theorem withCode_remove : (w.setTask t none).withCode (Function.update code t none) =
    (w.withCode code).setTask t none :=
  withCode_setTask (fun _ hv => Function.update_of_ne hv _ _) none

theorem withCode_begin {main args : S.Name} {k : S.Code} {params : S.Params} {v : S.Content} {used : Set S.Name} :
    (World.begin main args k params v used).withCode code = World.begin main args k params v used := by
  simp only [World.begin, World.withCode, World.mk.injEq, true_and, and_true]
  funext u
  by_cases hu : u = main
  · rw [hu, Function.update_self, Function.update_self]
    rfl
  · rw [Function.update_of_ne hu, Function.update_of_ne hu]
    rfl

theorem settle_withCode : (w.withCode code).settle t = (w.settle t).withCode code := rfl

theorem withCode_fire (e : S.Name) (payload : Option S.Name) :
    (w.fire e payload).withCode code = (w.withCode code).fire e payload := by
  simp only [World.fire, World.withCode, World.mk.injEq, true_and, and_true]
  funext u
  cases w.tasks u with
  | none => rfl
  | some task =>
      cases task with
      | pending k params slots => rfl
      | running rest =>
          cases code u with
          | none => rfl
          | some rest => rfl

theorem withCode_setSlot (j : Nat) (s : Slot S.Name) :
    (w.setSlot u j s).withCode code = (w.withCode code).setSlot u j s := by
  cases hu : w.tasks u with
  | none => simp only [World.setSlot, World.withCode, hu, Option.bind_none]
  | some task =>
      cases task with
      | pending k params slots =>
          have hu' : (w.withCode code).tasks u = some (.pending k params slots) := tasks_pending.mpr hu
          rw [World.setSlot, World.setSlot, hu, hu']
          exact withCode_setTask (fun _ _ => rfl) _
      | running rest =>
          simp only [World.setSlot, World.withCode, hu, Option.bind_some, Task.withCode]
          cases code u with
          | none => rfl
          | some rest => rfl

theorem running_fire {e : S.Name} {payload : Option S.Name} :
    (w.fire e payload).tasks u = some (.running ()) ↔ w.tasks u = some (.running ()) := by
  simp only [World.fire]
  cases w.tasks u with
  | none => exact Iff.rfl
  | some task =>
      cases task with
      | pending k params slots => simp [Task.receive]
      | running rest => exact Iff.rfl

theorem running_setSlot {v : S.Name} {j : Nat} {s : Slot S.Name} :
    (w.setSlot v j s).tasks u = some (.running ()) ↔ w.tasks u = some (.running ()) := by
  rw [World.setSlot]
  split
  next k params slots hv =>
    by_cases hu : u = v
    · subst hu
      rw [tasks_setTask_self, hv]
      simp
    · rw [tasks_setTask_other _ hu]
  next => exact Iff.rfl

variable {s : Config H} {state : H.State}

theorem Host.Documented.running {shared : Prop} (hdoc : H.Documented shared) {c : Call S}
    {answer : c.Answer} {σ σ' : H.State} (hvalid : Valid (H.view σ) c)
    (hused : ∀ u, (H.view σ).tasks u = some (.running ()) → u ∈ (H.view σ).used)
    (h : H.Answers t c σ answer σ') (u : S.Name) :
    (H.view σ').tasks u = some (.running ()) ↔ (H.view σ).tasks u = some (.running ()) := by
  cases c with
  | createBlock =>
      obtain ⟨-, v, hview⟩ := hdoc.createBlock h
      exact hview ▸ Iff.rfl
  | load d =>
      obtain ⟨b, hb⟩ := Option.isSome_iff_exists.mp hvalid
      rw [(hdoc.load hb h).2]
  | store d v => exact hdoc.store hvalid h ▸ Iff.rfl
  | release d =>
      obtain ⟨b, hb⟩ := Option.isSome_iff_exists.mp hvalid
      exact hdoc.release hb h ▸ Iff.rfl
  | destroyBlock d => exact hdoc.destroyBlock hvalid h ▸ Iff.rfl
  | createEvent => exact (hdoc.createEvent h).2 ▸ Iff.rfl
  | satisfy e payload =>
      rw [hdoc.satisfy hvalid h]
      exact running_fire
  | createTemplate k => exact (hdoc.createTemplate h).2 ▸ Iff.rfl
  | destroyTemplate g => exact hdoc.destroyTemplate hvalid h ▸ Iff.rfl
  | createTask g params sources output =>
      obtain ⟨rfl, hg, hs⟩ := hvalid
      obtain ⟨k, hk⟩ := Option.isSome_iff_exists.mp hg
      obtain ⟨slots, hslots⟩ := Option.isSome_iff_exists.mp hs
      obtain ⟨hfresh, -, hview⟩ := hdoc.createTask hk hslots h
      rw [hview]
      by_cases hu : u = answer.1
      · subst hu
        rw [tasks_setTask_self]
        exact iff_of_false (by simp) (fun hrun => hfresh (hused _ hrun))
      · rw [tasks_setTask_other _ hu]
        exact Iff.rfl
  | attach v j source =>
      obtain ⟨s, hs⟩ := Option.isSome_iff_exists.mp hvalid.2
      rw [hdoc.attach hvalid.1 hs h]
      exact running_setSlot
  | draw => rw [hdoc.draw h]
  | print o => exact hdoc.print h ▸ Iff.rfl
  | stop => exact hdoc.stop h ▸ Iff.rfl

theorem Config.Coherent.update (hs : s.Coherent) {rest : Option (Prog S (Option S.Name))}
    (hself : rest.isSome ↔ (H.view state).tasks t = some (.running ()))
    (hother : ∀ u, u ≠ t → ((H.view state).tasks u = some (.running ()) ↔
    (H.view s.state).tasks u = some (.running ()))) :
    Config.Coherent ⟨state, Function.update s.code t rest⟩ := by
  intro u
  change (Function.update s.code t rest u).isSome ↔ _
  by_cases hu : u = t
  · subst hu
    rwa [Function.update_self]
  · rw [Function.update_of_ne hu, hother u hu]
    exact hs u

end Views

section Plain

variable [DecidableEq S.Name]

/-- The answers of a runtime that keeps its objects as they are described. -/
def plainAnswers (shared : Prop) (t : S.Name) : (c : Call S) → World S Unit → c.Answer → World S Unit → Prop
  | .createBlock, w, d, w' => d ∉ w.used ∧ ∃ v, w' = (w.use d).setBlock d (some ⟨v, none⟩)
  | .load d, w, v, w' =>
      ∃ b, w.blocks d = some b ∧ (shared ∨ b.writer = none ∨ b.writer = some t → v = b.content) ∧ w' = w
  | .store d v, w, _, w' => w' = w.setBlock d (some ⟨v, some t⟩)
  | .release d, w, _, w' => ∃ b, w.blocks d = some b ∧ w' = w.setBlock d (some (b.release t))
  | .destroyBlock d, w, _, w' => w' = w.setBlock d none
  | .createEvent, w, e, w' => e ∉ w.used ∧ w' = (w.use e).addEvent e
  | .satisfy e payload, w, _, w' => w' = w.fire e payload
  | .createTemplate code, w, g, w' => g ∉ w.used ∧ w' = (w.use g).setTemplate g (some code)
  | .destroyTemplate g, w, _, w' => w' = w.setTemplate g none
  | .createTask g params sources _, w, (u, o), w' =>
      ∃ code slots, w.templates g = some code ∧ sources.mapM w.place = some slots ∧ u ∉ w.used ∧ o = none ∧
        w' = (w.use u).setTask u (some (.pending code params slots))
  | .attach u j source, w, _, w' => ∃ s, w.place source = some s ∧ w' = w.setSlot u j s
  | .draw, w, _, w' => w' = w
  | .print o, w, _, w' => w' = { w with printed := w.printed ++ [o] }
  | .stop, w, _, w' => w' = { w with stopped := true }

/-- The runtime that does what is documented and has nothing else in its states. -/
def plainHost (shared : Prop) : Host S where
  State := World S Unit
  view := id
  Answers := plainAnswers shared
  Launches t code params payloads w w' := ∃ slots, w.tasks t = some (.pending code params slots) ∧
    slots.mapM Slot.payload = some payloads ∧ w' = w.setTask t (some (.running ()))
  Ends t _ w w' := w' = (w.settle t).setTask t none

variable [Nonempty S.Content] {shared : Prop}

theorem plainHost_answered {t : S.Name} {c : Call S} {w : World S Unit} (h : Valid w c) :
    (∃ answer w', plainAnswers shared t c w answer w') ∨ ∀ name, name ∈ w.used := by
  by_cases hfresh : ∃ name, name ∉ w.used
  · obtain ⟨name, hname⟩ := hfresh
    left
    cases c with
    | createBlock => exact ⟨name, _, hname, Classical.arbitrary S.Content, rfl⟩
    | load d =>
        obtain ⟨b, hb⟩ := Option.isSome_iff_exists.mp h
        exact ⟨b.content, _, b, hb, fun _ => rfl, rfl⟩
    | store d v => exact ⟨(), _, rfl⟩
    | release d =>
        obtain ⟨b, hb⟩ := Option.isSome_iff_exists.mp h
        exact ⟨(), _, b, hb, rfl⟩
    | destroyBlock d => exact ⟨(), _, rfl⟩
    | createEvent => exact ⟨name, _, hname, rfl⟩
    | satisfy e payload => exact ⟨(), _, rfl⟩
    | createTemplate code => exact ⟨name, _, hname, rfl⟩
    | destroyTemplate g => exact ⟨(), _, rfl⟩
    | createTask g params sources output =>
        obtain ⟨-, hg, hs⟩ := h
        obtain ⟨code, hcode⟩ := Option.isSome_iff_exists.mp hg
        obtain ⟨slots, hslots⟩ := Option.isSome_iff_exists.mp hs
        exact ⟨(name, none), _, code, slots, hcode, hslots, hname, rfl, rfl⟩
    | attach u j source =>
        obtain ⟨s, hs⟩ := Option.isSome_iff_exists.mp h.2
        exact ⟨(), _, s, hs, rfl⟩
    | draw => exact ⟨true, _, rfl⟩
    | print o => exact ⟨(), _, rfl⟩
    | stop => exact ⟨(), _, rfl⟩
  · exact .inr (by simpa using hfresh)

theorem plainHost_documented : (plainHost shared : Host S).Documented shared where
  createBlock h := h
  load hb h := by
    obtain ⟨b, hb', hv, hw⟩ := h
    cases hb.symm.trans hb'
    exact ⟨hv, hw⟩
  store _ h := h
  release hb h := by
    obtain ⟨b, hb', hw⟩ := h
    cases hb.symm.trans hb'
    exact hw
  destroyBlock _ h := h
  createEvent h := h
  satisfy _ h := h
  createTemplate h := h
  destroyTemplate _ h := h
  createTask hcode hslots h := by
    obtain ⟨code, slots, hcode', hslots', hu, ho, hw⟩ := h
    cases hcode.symm.trans hcode'
    cases hslots.symm.trans hslots'
    exact ⟨hu, ho, hw⟩
  attach _ hs h := by
    obtain ⟨s, hs', hw⟩ := h
    cases hs.symm.trans hs'
    exact hw
  draw h := h
  print h := h
  stop h := h
  launch h := h
  finish _ h := h
  answered _ hc := plainHost_answered hc
  launched ht hs := ⟨_, _, ht, hs, rfl⟩
  finished _ := ⟨_, rfl⟩

end Plain

end Ocxxr.TaskGraph

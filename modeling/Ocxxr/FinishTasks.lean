import Ocxxr.TaskCreationSpec

namespace Ocxxr.FinishTasks

open Faults Ocr DatablockLists TaskLaunch TaskCreation TaskCreationSpec

variable {G α β : Type}

def suppliesEvent : EntryPoint G → Bool
  | .createTask .. => false
  | .createTaskPartial .. => false
  | .createTaskPartialDeps .. => false
  | .createFuturePartial .. => true
  | .createFuturePartialDeps .. => true

/-- A number of var-args for a task that takes none stops the call before the guard. -/
def miscounts (info : FnInfo) : EntryPoint G → Bool
  | .createTask .. => false
  | .createTaskPartial _ varArgsCount => varArgsCount ≠ 0 && !info.hasVarArgs
  | .createTaskPartialDeps .. => false
  | .createFuturePartial _ varArgsCount => varArgsCount ≠ 0 && !info.hasVarArgs
  | .createFuturePartialDeps .. => false

def hasFinish [OcrGuid G] (builder : TaskBuilder G) : Bool := builder.flags &&& edtPropFinish G ≠ 0

def Trips (x : OcrM G α) (log : List (OcrCall G)) : Prop :=
  ∃ log', x.run log = .error (.assertion .finishUnused) log'

variable {x : OcrM G α} {f : α → OcrM G β} {log : List (OcrCall G)}

theorem not_trips (h : FailsWith (· ≠ .assertion .finishUnused) x) : ¬ Trips x log := by
  rintro ⟨log', hrun⟩
  exact h log _ log' hrun rfl

theorem trips_bind (hf : ∀ a, FailsWith (· ≠ .assertion .finishUnused) (f a)) :
    Trips (x >>= f) log ↔ Trips x log := by
  constructor
  · rintro ⟨log', hrun⟩
    rcases run_bind_error.mp hrun with hrun | ⟨a, log₁, -, hrun⟩
    · exact ⟨log', hrun⟩
    · exact absurd ⟨log', hrun⟩ (not_trips (hf a))
  · rintro ⟨log', hrun⟩
    exact ⟨log', run_bind_error.mpr (.inl hrun)⟩

theorem trips_guard (c : Bool) : Trips (assert c .finishUnused : OcrM G Unit) log ↔ c = false := by
  constructor
  · rintro ⟨log', hrun⟩
    exact (run_assert_error.mp hrun).1
  · rintro rfl
    exact ⟨log, rfl⟩

theorem trips_after_assert (c : Bool) {a : Assertion} (ha : a ≠ .finishUnused) :
    Trips (assert c a >>= fun _ => x) log ↔ c = true ∧ Trips x log := by
  cases c with
  | true => simp [Trips]
  | false => simp [Trips, ha]

theorem trips_guarded {c : Bool} (hx : FailsWith (· ≠ .assertion .finishUnused) x) :
    Trips (assert c .finishUnused >>= fun _ => x) log ↔ c = false :=
  (trips_bind (fun _ => hx)).trans (trips_guard c)

section Guards

variable [OcrGuid G] {ocr : OcrEdt G} {info : FnInfo} {builder : TaskBuilder G} {outEvent : Bool}
  {params : Option (List (BitVec 64))}

/-- What the guard asks for: the event, and no other property beside it. -/
def Guarded (builder : TaskBuilder G) (outEvent : Bool) : Prop :=
  outEvent = true ∧ builder.flags = edtPropFinish G

theorem guard_false : (!outEvent || decide (builder.flags ≠ edtPropFinish G)) = false ↔
    Guarded builder outEvent := by
  simp [Guarded]

theorem createFullTask_trips (deps : List G) :
    Trips (TaskBuilder.createFullTask ocr info builder outEvent params deps) log ↔ Guarded builder outEvent :=
  (trips_guarded (init_failsWith nofun _ _ _ _ _ _ _)).trans guard_false

theorem createFullTaskVarArgs_trips (deps : List G) (varArgs : DatablockList G) :
    Trips (TaskBuilder.createFullTaskVarArgs ocr info builder outEvent params deps varArgs) log ↔
      Guarded builder outEvent := by
  refine (trips_guarded ?_).trans guard_false
  refine (failsWith_assert _ nofun).bind (fun _ => (fillDepv_steady nofun _ _ _).fails.bind ?_)
  exact fun _ => init_failsWith nofun _ _ _ _ _ _ _

theorem createNullTask_trips (varArgsCount : BitVec 32) :
    Trips (TaskBuilder.createNullTask ocr info builder outEvent params varArgsCount) log ↔
      Guarded builder outEvent := by
  refine (trips_guarded ?_).trans guard_false
  exact (failsWith_assert _ nofun).bind (fun _ => init_failsWith nofun _ _ _ _ _ _ _)

theorem createTask_not_trips (deps : List G) (varArgs : Option (DatablockList G)) :
    ¬ Trips (TaskBuilder.createTask ocr info builder params deps varArgs) log := by
  intro h
  cases varArgs with
  | none =>
      have hfull := (trips_bind (fun _ => failsWith_pure _)).mp h
      obtain ⟨hevent, -⟩ := (createFullTask_trips deps).mp hfull
      cases hevent
  | some varArgs =>
      have hfull := (trips_bind (fun _ => failsWith_pure _)).mp h
      obtain ⟨hevent, -⟩ := (createFullTaskVarArgs_trips deps varArgs).mp hfull
      cases hevent

end Guards

theorem create_trips_iff [OcrGuid G] (ocr : OcrEdt G) (info : FnInfo) (builder : TaskBuilder G)
    (entry : EntryPoint G) :
    Trips (entry.create ocr info builder) log ↔
      suppliesEvent entry = true ∧ builder.flags = edtPropFinish G ∧ miscounts info entry = false := by
  cases entry with
  | createTask params deps varArgs =>
      rw [EntryPoint.create, trips_bind (fun _ => failsWith_pure _)]
      simp [createTask_not_trips, suppliesEvent]
  | createTaskPartial params varArgsCount =>
      rw [EntryPoint.create, trips_bind (fun _ => failsWith_pure _), TaskBuilder.createTaskPartial,
        trips_after_assert (a := .varArgsUnexpected) _ (by decide), trips_bind (fun _ => failsWith_pure _)]
      simp [createNullTask_trips, Guarded, suppliesEvent]
  | createTaskPartialDeps params deps =>
      rw [EntryPoint.create, trips_bind (fun _ => failsWith_pure _), TaskBuilder.createTaskPartialDeps]
      simp [TaskBuilder.padTask, createTask_not_trips, suppliesEvent]
  | createFuturePartial params varArgsCount =>
      rw [EntryPoint.create, trips_bind (fun _ => failsWith_pure _), TaskBuilder.createFuturePartial,
        trips_after_assert (a := .varArgsUnexpected) _ (by decide), trips_bind (fun _ => failsWith_pure _),
        createNullTask_trips]
      cases hlist : info.hasVarArgs <;> simp [Guarded, suppliesEvent, miscounts, hlist, and_comm]
  | createFuturePartialDeps params deps =>
      rw [EntryPoint.create, trips_bind (fun _ => failsWith_pure _), TaskBuilder.createFuturePartialDeps,
        TaskBuilder.padFuture, TaskBuilder.createFuture, trips_bind (fun _ => failsWith_pure _),
        createFullTask_trips]
      simp [Guarded, suppliesEvent, miscounts]

/-- The guard is the wrong way round: it stops the calls that supply an event. -/
theorem finish_refused_iff [OcrGuid G] (ocr : OcrEdt G) (info : FnInfo) (builder : TaskBuilder G)
    (entry : EntryPoint G) (log : List (OcrCall G)) :
    (Trips (entry.create ocr info builder) log ↔
        hasFinish builder = true ∧ suppliesEvent entry = false) ↔
      if suppliesEvent entry then builder.flags = edtPropFinish G → miscounts info entry = true
      else hasFinish builder = false := by
  rw [create_trips_iff]
  cases suppliesEvent entry <;> simp

def oneDatablock : FnInfo := ⟨none, [.datablock], false⟩

def finishBuilder : TaskBuilder Guid64 := builderWith (edtPropFinish Guid64)

theorem finish_refused_counterexample :
    ¬ (Trips ((EntryPoint.createTask none [⟨5⟩] none).create accepting oneDatablock finishBuilder) [] ↔
        hasFinish finishBuilder = true ∧
          suppliesEvent (.createTask none [(⟨5⟩ : Guid64)] none) = false) ∧
      Trips ((EntryPoint.createFuturePartial none 0).create accepting oneDatablock finishBuilder) [] := by
  constructor
  · rw [create_trips_iff]
    decide
  · rw [create_trips_iff]
    decide

end Ocxxr.FinishTasks

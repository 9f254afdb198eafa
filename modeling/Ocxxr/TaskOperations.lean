import Ocxxr.AcquiredData
import Ocxxr.BookkeepingSpec

namespace Ocxxr.TaskOperations

open Ocr SortedSearch Bookkeeping AcquiredTable BookkeepingSpec Allocator TaskState AcquiredData

/-- What a task can do to its datablocks: the first two build its arguments. -/
inductive Operation (G : Type)
  | datablockOfDep (dep : OcrEdtDep G)
  | arenaOfDep (dep : OcrEdtDep G)
  | datablockCreate (sizeofT count : BitVec 64)
  | arenaCreate (bytes : BitVec 64)
  | datablockRelease (db : Datablock G)
  | arenaRelease (arena : AcquiredData.Arena G)
  | datablockDestroy (db : Datablock G)
  | handleDestroy (handle : DatablockHandle G)

structure Step (G : Type) where
  operation : Operation G
  ocr : OcrDb G

variable {G : Type} [OcrGuid G] (std : StdAlgorithms (DbPair G))

def Step.perform (step : Step G) : ThreadM G Unit :=
  match step.operation with
  | .datablockOfDep dep => do let _ ← Datablock.ofDep std dep
  | .arenaOfDep dep => do let _ ← AcquiredData.Arena.ofDep std dep
  | .datablockCreate sizeofT count => do let _ ← Datablock.create std step.ocr sizeofT count
  | .arenaCreate bytes => do let _ ← AcquiredData.Arena.create std step.ocr bytes
  | .datablockRelease db => db.release std step.ocr
  | .arenaRelease arena => arena.release step.ocr
  | .datablockDestroy db => db.destroy step.ocr
  | .handleDestroy handle => handle.destroy step.ocr

def performAll (steps : List (Step G)) : ThreadM G Unit := forM steps (Step.perform std)

def DbAnswer.pair (answer : DbAnswer G) : DbPair G := ⟨answer.guid, answer.ptr⟩

def Step.acquires (step : Step G) : Option (DbPair G) :=
  match step.operation with
  | .datablockOfDep dep | .arenaOfDep dep => some ⟨dep.guid, dep.ptr⟩
  | .datablockCreate sizeofT count => some (DbAnswer.pair (step.ocr.ocrDbCreate ⟨sizeofT * count, true⟩))
  | .arenaCreate bytes =>
      some (DbAnswer.pair (step.ocr.ocrDbCreate ⟨sizeofArenaState * (bytes + sizeofArenaState), true⟩))
  | _ => none

def Step.givesUp (step : Step G) : Option G :=
  match step.operation with
  | .datablockRelease db | .datablockDestroy db => some db.handle.guid
  | .arenaRelease arena => some arena.handle.guid
  | .handleDestroy handle => some handle.guid
  | _ => none

/-- What running a step can do to the table of the task. -/
inductive Effect (step : Step G) (dbs dbs' : AcquiredDbInfo G) : Prop
  | add (p : DbPair G) (ha : step.acquires = some p) (hg : step.givesUp = none)
      (h : (addDatablock std p.guid p.baseAddr).run dbs = .ok () dbs')
  | remove (g : G) (ha : step.acquires = none) (hg : step.givesUp = some g)
      (h : (removeDatablock std g).run dbs = .ok () dbs')
  | ignore (g : G) (ha : step.acquires = none) (hg : step.givesUp = some g) (h : dbs' = dbs)

variable {std}

theorem init_ok {ocr : OcrDb G} {bytes : BitVec 64} {r : G × Int} {thread thread' : Thread G}
    (h : (DatablockHandle.init std ocr bytes true).run thread = .ok r thread') :
    r = ((ocr.ocrDbCreate ⟨bytes, true⟩).guid, (ocr.ocrDbCreate ⟨bytes, true⟩).ptr) ∧
      (inTask (addDatablock std (ocr.ocrDbCreate ⟨bytes, true⟩).guid
        (ocr.ocrDbCreate ⟨bytes, true⟩).ptr)).run thread = .ok () thread' := by
  simp only [DatablockHandle.init, run_bind_ok, ok, run_assert_ok, if_true] at h
  obtain ⟨_, _, ⟨_, rfl⟩, _, _, hadd, hpure⟩ := h
  cases hpure
  exact ⟨rfl, hadd⟩

theorem init_full {ocr : OcrDb G} {bytes : BitVec 64} {thread thread' : Thread G}
    (h : (DatablockHandle.init std ocr bytes true).run thread =
      .error (.assertion .acquiredTooMany) thread') :
    (inTask (addDatablock std (ocr.ocrDbCreate ⟨bytes, true⟩).guid
      (ocr.ocrDbCreate ⟨bytes, true⟩).ptr)).run thread = .error (.assertion .acquiredTooMany) thread' := by
  simp only [DatablockHandle.init, run_bind_error, ok, run_assert_ok, run_assert_error,
    if_true] at h
  rcases h with ⟨_, he, _⟩ | ⟨_, _, ⟨_, rfl⟩, hadd | ⟨_, _, _, hpure⟩⟩
  · cases he
  · exact hadd
  · cases hpure

theorem effect_add {step : Step G} {p : DbPair G} (ha : step.acquires = some p)
    (hg : step.givesUp = none) {thread thread₁ thread' : Thread G}
    (h : (inTask (addDatablock std p.guid p.baseAddr)).run thread = .ok () thread₁)
    (htasks : thread'.tasks = thread₁.tasks) :
    ∃ task parents dbs, thread.tasks = task :: parents ∧
      thread'.tasks = { task with acquiredDbs := dbs } :: parents ∧ Effect std step task.acquiredDbs dbs := by
  obtain ⟨task, parents, dbs, ht, hadd, rfl⟩ := inTask_ok.mp h
  exact ⟨task, parents, dbs, ht, htasks, .add p ha hg hadd⟩

theorem effect_ignore {step : Step G} {g : G} (ha : step.acquires = none) (hg : step.givesUp = some g)
    {thread : Thread G} {task : TaskLocalState G} {parents : List (TaskLocalState G)}
    (ht : thread.tasks = task :: parents) :
    ∃ task parents dbs, thread.tasks = task :: parents ∧
      thread.tasks = { task with acquiredDbs := dbs } :: parents ∧ Effect std step task.acquiredDbs dbs :=
  ⟨task, parents, task.acquiredDbs, ht, ht, .ignore g ha hg rfl⟩

theorem perform_ok {step : Step G} {thread thread' : Thread G} {task : TaskLocalState G}
    {parents : List (TaskLocalState G)} (ht : thread.tasks = task :: parents)
    (h : (step.perform std).run thread = .ok () thread') :
    ∃ task parents dbs, thread.tasks = task :: parents ∧
      thread'.tasks = { task with acquiredDbs := dbs } :: parents ∧ Effect std step task.acquiredDbs dbs := by
  obtain ⟨operation, ocr⟩ := step
  cases operation with
  | datablockOfDep dep | arenaOfDep dep =>
      simp only [Step.perform, Datablock.ofDep, AcquiredData.Arena.ofDep, run_bind_ok] at h
      obtain ⟨_, _, ⟨_, _, hadd, hp⟩, hq⟩ := h
      cases hp
      cases hq
      exact effect_add rfl rfl hadd rfl
  | datablockCreate sizeofT count =>
      simp only [Step.perform, Datablock.create, run_bind_ok] at h
      obtain ⟨_, _, ⟨_, _, hinit, hp⟩, hq⟩ := h
      cases hp
      cases hq
      exact effect_add rfl rfl (init_ok hinit).2 rfl
  | arenaCreate bytes =>
      simp only [Step.perform, AcquiredData.Arena.create, run_bind_ok, run_assert_ok] at h
      obtain ⟨_, _, ⟨_, _, hinit, _, _, ⟨_, rfl⟩, _, _, hmem, hp⟩, hq⟩ := h
      cases hp
      cases hq
      obtain ⟨_, _, rfl⟩ := inMemory_ok.mp hmem
      exact effect_add rfl rfl (init_ok hinit).2 (by rfl)
  | datablockRelease db =>
      simp only [Step.perform, Datablock.release, ok, run_bind_ok, run_assert_ok] at h
      obtain ⟨_, _, ⟨_, rfl⟩, hrem⟩ := h
      obtain ⟨task, parents, dbs, ht, hrun, rfl⟩ := inTask_ok.mp hrem
      exact ⟨task, parents, dbs, ht, rfl, .remove _ rfl rfl hrun⟩
  | arenaRelease arena | datablockDestroy db | handleDestroy handle =>
      obtain ⟨_, rfl⟩ := run_assert_ok.mp h
      exact effect_ignore rfl rfl ht

theorem perform_full {step : Step G} {thread thread' : Thread G} {task : TaskLocalState G}
    {parents : List (TaskLocalState G)} (ht : thread.tasks = task :: parents)
    (hs : Coherent task.acquiredDbs)
    (h : (step.perform std).run thread = .error (.assertion .acquiredTooMany) thread') :
    ∃ p dbs, step.acquires = some p ∧ step.givesUp = none ∧
      (addDatablock std p.guid p.baseAddr).run task.acquiredDbs = .error (.assertion .acquiredTooMany) dbs := by
  have hadd : ∀ p : DbPair G, (inTask (addDatablock std p.guid p.baseAddr)).run thread =
      .error (.assertion .acquiredTooMany) thread' → ∃ dbs,
        (addDatablock std p.guid p.baseAddr).run task.acquiredDbs = .error (.assertion .acquiredTooMany) dbs := by
    intro p hp
    obtain ⟨_, _, dbs, ht', he⟩ := inTask_error hp
    rw [ht] at ht'
    cases ht'
    exact ⟨dbs, he⟩
  obtain ⟨operation, ocr⟩ := step
  cases operation with
  | datablockOfDep dep | arenaOfDep dep =>
      simp only [Step.perform, Datablock.ofDep, AcquiredData.Arena.ofDep, run_bind_error] at h
      rcases h with (he | ⟨_, _, _, hp⟩) | ⟨_, _, _, hp⟩
      · obtain ⟨dbs, he⟩ := hadd ⟨dep.guid, dep.ptr⟩ he
        exact ⟨_, dbs, rfl, rfl, he⟩
      · cases hp
      · cases hp
  | datablockCreate sizeofT count =>
      simp only [Step.perform, Datablock.create, run_bind_error] at h
      rcases h with (he | ⟨_, _, _, hp⟩) | ⟨_, _, _, hp⟩
      · obtain ⟨dbs, he⟩ := hadd (DbAnswer.pair _) (init_full he)
        exact ⟨_, dbs, rfl, rfl, he⟩
      · cases hp
      · cases hp
  | arenaCreate bytes =>
      simp only [Step.perform, AcquiredData.Arena.create, run_bind_error, run_assert_error] at h
      rcases h with (he | ⟨_, _, _, ⟨_, ha, _⟩ | ⟨_, _, _, hm | ⟨_, _, _, hp⟩⟩⟩) | ⟨_, _, _, hp⟩
      · obtain ⟨dbs, he⟩ := hadd (DbAnswer.pair _) (init_full he)
        exact ⟨_, dbs, rfl, rfl, he⟩
      · cases ha
      · obtain ⟨_, hm⟩ := inMemory_error hm
        simp only [allocatorDbInit, run_bind_error, run_assert_error] at hm
        rcases hm with ⟨_, ha, _⟩ | ⟨_, _, _, hset⟩
        · cases ha
        · split at hset <;> cases hset
      · cases hp
      · cases hp
  | datablockRelease db =>
      simp only [Step.perform, Datablock.release, ok, run_bind_error, run_assert_error, run_assert_ok] at h
      rcases h with ⟨_, ha, _⟩ | ⟨_, _, ⟨_, rfl⟩, hrem⟩
      · cases ha
      · obtain ⟨_, _, _, ht', he⟩ := inTask_error hrem
        rw [ht] at ht'
        cases ht'
        rcases removeDatablock_cases std hs db.handle.guid with ⟨_, hr, _⟩ | ⟨_, hr⟩
        · rw [hr] at he
          cases he
        · rw [hr] at he
          cases he
  | arenaRelease arena | datablockDestroy db | handleDestroy handle =>
      obtain ⟨_, ha, _⟩ := run_assert_error.mp h
      cases ha

end Ocxxr.TaskOperations

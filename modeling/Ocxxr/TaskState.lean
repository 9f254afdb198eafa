import Ocxxr.Allocator
import Ocxxr.Bookkeeping

namespace Ocxxr.TaskState

open Ocr SortedSearch Bookkeeping Allocator

structure TaskLocalState (G : Type) where
  acquiredDbs : AcquiredDbInfo G
  arenaAllocator : DatablockAllocator

/-- What code on one worker thread works on: `_task_local_state` with the chain of its
parents, and the arena headers in memory. -/
structure Thread (G : Type) where
  tasks : List (TaskLocalState G)
  headers : Headers

/-- A thread that runs no task, with no arena in memory. -/
def Thread.idle {G : Type} : Thread G := ⟨[], fun _ => none⟩

abbrev ThreadM (G : Type) := EStateM Fault (Thread G)

variable {G α : Type} [OcrGuid G]

def TaskLocalState.zero : TaskLocalState G := ⟨.fresh, .null⟩

def pushTaskState : ThreadM G Unit := do
  modify (fun thread => { thread with tasks := .zero :: thread.tasks })
  let thread ← get
  assert (thread.tasks.head?.all (fun task => task.acquiredDbs.acquiredDbCount = 0)) .taskStateNotZeroed

omit [OcrGuid G] in
def popTaskState : ThreadM G Unit := do
  match (← get).tasks with
  | [] => throw .invalidAccess
  | _childState :: parents => modify (fun thread => { thread with tasks := parents })

def inTask (x : BookM G α) : ThreadM G α := fun thread =>
  match thread.tasks with
  | [] => .error .invalidAccess thread
  | task :: parents => match x.run task.acquiredDbs with
    | .ok a dbs => .ok a { thread with tasks := { task with acquiredDbs := dbs } :: parents }
    | .error e dbs => .error e { thread with tasks := { task with acquiredDbs := dbs } :: parents }

def inMemory (x : ArenaM α) : ThreadM G α := fun thread =>
  match x.run thread.headers with
  | .ok a headers => .ok a { thread with headers := headers }
  | .error e headers => .error e { thread with headers := headers }

def allocatorGet : ThreadM G DatablockAllocator := do
  match (← get).tasks with
  | [] => throw .invalidAccess
  | task :: _ => pure task.arenaAllocator

def allocatorSetDb (dbPtr : Int) : ThreadM G Unit := do
  match (← get).tasks with
  | [] => throw .invalidAccess
  | task :: parents =>
      modify (fun thread => { thread with tasks := { task with arenaAllocator := ⟨dbPtr⟩ } :: parents })

theorem pushTaskState_run (thread : Thread G) :
    pushTaskState.run thread = .ok () { thread with tasks := .zero :: thread.tasks } := rfl

omit [OcrGuid G] in
theorem inTask_ok {x : BookM G α} {a : α} {thread thread' : Thread G} :
    (inTask x).run thread = .ok a thread' ↔ ∃ task parents dbs, thread.tasks = task :: parents ∧
      x.run task.acquiredDbs = .ok a dbs ∧
      thread' = { thread with tasks := { task with acquiredDbs := dbs } :: parents } := by
  obtain ⟨tasks, headers⟩ := thread
  cases tasks with
  | nil => simp [inTask, EStateM.run]
  | cons task parents =>
      cases hx : x.run task.acquiredDbs <;> simp_all [inTask, EStateM.run, eq_comm]

omit [OcrGuid G] in
theorem inTask_error {x : BookM G α} {a : Assertion} {thread thread' : Thread G}
    (h : (inTask x).run thread = .error (.assertion a) thread') :
    ∃ task parents dbs, thread.tasks = task :: parents ∧
      x.run task.acquiredDbs = .error (.assertion a) dbs := by
  obtain ⟨tasks, headers⟩ := thread
  cases tasks with
  | nil => simp [inTask, EStateM.run] at h
  | cons task parents =>
      cases hx : x.run task.acquiredDbs <;> simp_all [inTask, EStateM.run]

omit [OcrGuid G] in
theorem inMemory_ok {x : ArenaM α} {a : α} {thread thread' : Thread G} :
    (inMemory x).run thread = .ok a thread' ↔
      ∃ headers, x.run thread.headers = .ok a headers ∧ thread' = { thread with headers := headers } := by
  cases hx : x.run thread.headers <;> simp_all [inMemory, EStateM.run, eq_comm]

omit [OcrGuid G] in
theorem inMemory_error {x : ArenaM α} {e : Fault} {thread thread' : Thread G}
    (h : (inMemory x).run thread = .error e thread') : ∃ headers, x.run thread.headers = .error e headers := by
  cases hx : x.run thread.headers <;> simp_all [inMemory, EStateM.run]

omit [OcrGuid G] in
theorem popTaskState_ok {thread thread' : Thread G} :
    popTaskState.run thread = .ok () thread' ↔
      ∃ task parents, thread.tasks = task :: parents ∧ thread' = { thread with tasks := parents } := by
  obtain ⟨tasks, headers⟩ := thread
  cases tasks with
  | nil => exact iff_of_false nofun (by simp)
  | cons task parents =>
      constructor
      · intro h
        cases h
        exact ⟨task, parents, rfl, rfl⟩
      · rintro ⟨_, _, ht, rfl⟩
        cases ht
        rfl

end Ocxxr.TaskState

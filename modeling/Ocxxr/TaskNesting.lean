import Ocxxr.AllocatorSpec
import Ocxxr.EntryRemoval
import Ocxxr.TaskOperations
import Ocxxr.TaskFrames

namespace Ocxxr.TaskNesting

open Ocr SortedSearch Bookkeeping Allocator AllocatorSpec TaskState AcquiredData TaskLaunch TaskFrames

/-- What a task does that goes through `_task_local_state`. -/
inductive Action (G : Type)
  | operation (step : TaskOperations.Step G)
  | addressForGuid (guid : G)
  | guidOffsetForAddress (target source : Int)
  | setImplicitArena (arena : AcquiredData.Arena G)
  | allocatorGet

inductive Answer (G : Type)
  | done
  | address (a : Int)
  | encoding (guid : G) (offset : Int)

variable {G : Type} [OcrGuid G] (std : StdAlgorithms (DbPair G))

def Action.perform : Action G → ThreadM G (Answer G)
  | .operation step => do
      step.perform std
      pure .done
  | .addressForGuid guid => do
      let a ← inTask (Bookkeeping.addressForGuid std guid)
      pure (.address a)
  | .guidOffsetForAddress target source => do
      let (guid, offset) ← inTask (Bookkeeping.guidOffsetForAddress std target source)
      pure (.encoding guid offset)
  | .setImplicitArena arena => do
      AcquiredData.setImplicitArena arena
      pure .done
  | .allocatorGet => do
      let arena ← TaskState.allocatorGet
      pure (.address arena.dbPtr)

/-- The rest of a user function. A task is interrupted where it calls the runtime, which
may run another task to completion there. -/
inductive Code (G : Type)
  | ret (result : G)
  | act (action : Action G) (next : Answer G → Code G)
  | interrupted (edt : Edt G) (userFn : List (Arg G) → Code G) (next : Code G)

def Code.exec : Code G → ThreadM G G
  | .ret result => pure result
  | .act action next => do
      let answer ← action.perform std
      (next answer).exec
  | .interrupted edt userFn next => do
      let _ ← edt.run std (fun args => (userFn args).exec)
      next.exec

def Code.alone : Code G → Code G
  | .ret result => .ret result
  | .act action next => .act action (fun answer => (next answer).alone)
  | .interrupted _ _ next => next.alone

structure Execution (G : Type) where
  edt : Edt G
  userFn : List (Arg G) → Code G

def Execution.exec (task : Execution G) : ThreadM G G := task.edt.run std (fun args => (task.userFn args).exec std)

abbrev History (G : Type) := List (Action G × Answer G)

/-- The code, run on a thread, gets as far as the rest given, with these actions of its
own and these answers to them. -/
inductive Code.Reaches : Code G → Thread G → History G → Code G → Thread G → Prop
  | here (code thread) : Reaches code thread [] code thread
  | act {action next thread answer thread₁ history rest thread'}
      (hr : (action.perform std).run thread = .ok answer thread₁)
      (h : (next answer).Reaches thread₁ history rest thread') :
      Reaches (.act action next) thread ((action, answer) :: history) rest thread'
  | interrupted {edt userFn next thread result thread₁ history rest thread'}
      (hr : (Execution.exec std ⟨edt, userFn⟩).run thread = .ok result thread₁)
      (h : next.Reaches thread₁ history rest thread') :
      Reaches (.interrupted edt userFn next) thread history rest thread'

/-- The tasks in the tree of executions whose root starts on `thread`, each with the
thread as it finds it. -/
inductive Within : Execution G → Thread G → Execution G → Thread G → Prop
  | root (task thread) : Within task thread task thread
  | nested {task thread args started history next thread₁ inner thread'} (child : Execution G)
      (hargs : (task.edt.prologue std).run thread = .ok args started)
      (hchild : (task.userFn args).Reaches std started history (.interrupted child.edt child.userFn next) thread₁)
      (h : Within child thread₁ inner thread') : Within task thread inner thread'

structure Empty (task : TaskLocalState G) : Prop where
  byGuid : task.acquiredDbs.byGuid = []
  byAddr : task.acquiredDbs.byAddr = []
  arenaAllocator : task.arenaAllocator = .null

/-- The task leaves no trace to the tasks below it, and finds none of them: it starts on
an empty state, and whatever it does and is answered up to any point, it does and is
answered on a thread without any other task, where nothing interrupts it. -/
structure Undisturbed (task : Execution G) (thread : Thread G) : Prop where
  leaves : ∀ result thread', (task.exec std).run thread = .ok result thread' → thread'.tasks = thread.tasks
  starts : ∀ args started, (task.edt.prologue std).run thread = .ok args started → ∃ first, Empty first ∧
    (task.edt.arguments std).run ⟨first :: thread.tasks, thread.headers⟩ = .ok args started ∧
    ∀ headers, ∃ started', (task.edt.arguments std).run ⟨[first], headers⟩ = .ok args started' ∧
      ∀ history rest now, (task.userFn args).Reaches std started history rest now →
        ∃ now', (task.userFn args).alone.Reaches std started' history rest.alone now'

section Actions

variable {std}

def anyHeaders : Headers → Headers → Prop := fun _ _ => True

instance : IsPreorder Headers anyHeaders where
  refl := fun _ => trivial
  trans := fun _ _ _ _ _ => trivial

omit [OcrGuid G] in
theorem framed_allocatorDbInit (dbPtr : Int) (dbSize : BitVec 64) :
    Framed anyHeaders (inMemory (allocatorDbInit dbPtr dbSize) : ThreadM G Unit) := by
  intro task parents headers a thread' h
  obtain ⟨headers₁, hrun, rfl⟩ := inMemory_ok.mp h
  obtain ⟨hsize, hnull, -⟩ := allocatorDbInit_ok.mp hrun
  exact ⟨task, headers₁, rfl, trivial, fun parents' headers' =>
    ⟨_, trivial, inMemory_ok.mpr ⟨_, allocatorDbInit_ok.mpr ⟨hsize, hnull, rfl⟩, rfl⟩⟩⟩

theorem framed_init (ocr : OcrDb G) (bytes : BitVec 64) :
    Framed anyHeaders (DatablockHandle.init std ocr bytes true) := by
  apply framed_bind (framed_assert _ _)
  intro _
  exact framed_bind (framed_inTask _) (fun _ => framed_pure _)

theorem framed_operation (step : TaskOperations.Step G) : Framed anyHeaders (step.perform std) := by
  obtain ⟨operation, ocr⟩ := step
  cases operation with
  | datablockOfDep dep => exact framed_bind (framed_ofDep dep) (fun _ => framed_pure _)
  | arenaOfDep dep => exact framed_bind (framed_arenaOfDep dep) (fun _ => framed_pure _)
  | datablockCreate sizeofT count =>
      exact framed_bind (framed_bind (framed_init ocr _) (fun _ => framed_pure _)) (fun _ => framed_pure _)
  | arenaCreate bytes =>
      refine framed_bind (framed_bind (framed_init ocr _) (fun _ => ?_)) (fun _ => framed_pure _)
      refine framed_bind (framed_assert _ _) (fun _ => ?_)
      exact framed_bind (framed_allocatorDbInit _ _) (fun _ => framed_pure _)
  | datablockRelease db => exact framed_bind (framed_assert _ _) (fun _ => framed_inTask _)
  | arenaRelease arena | datablockDestroy db | handleDestroy handle => exact framed_assert _ _

theorem framed_perform (action : Action G) : Framed anyHeaders (action.perform std) := by
  cases action with
  | operation step => exact framed_bind (framed_operation step) (fun _ => framed_pure _)
  | addressForGuid guid | guidOffsetForAddress target source =>
      exact framed_bind (framed_inTask _) (fun _ => framed_pure _)
  | setImplicitArena arena => exact framed_bind (framed_allocatorSetDb _) (fun _ => framed_pure _)
  | allocatorGet => exact framed_bind framed_allocatorGet (fun _ => framed_pure _)

end Actions

section Nesting

variable {std}

theorem exec_ok {code : Code G} {result : G} {thread thread' : Thread G} :
    (code.exec std).run thread = .ok result thread' ↔
      ∃ history, code.Reaches std thread history (.ret result) thread' := by
  constructor
  · intro h
    induction code generalizing thread with
    | ret r =>
        cases h
        exact ⟨[], .here _ _⟩
    | act action next ih =>
        obtain ⟨answer, thread₁, hperform, hrest⟩ := run_bind_ok.mp h
        obtain ⟨history, hreach⟩ := ih answer hrest
        exact ⟨_, .act hperform hreach⟩
    | interrupted edt userFn next _ ih =>
        obtain ⟨_, thread₁, hother, hrest⟩ := run_bind_ok.mp h
        obtain ⟨history, hreach⟩ := ih hrest
        exact ⟨history, .interrupted hother hreach⟩
  · rintro ⟨history, h⟩
    generalize hrest : Code.ret result = rest at h
    induction h with
    | here => exact hrest ▸ rfl
    | act hr _ ih => exact run_bind_ok.mpr ⟨_, _, hr, ih hrest⟩
    | interrupted hr _ ih => exact run_bind_ok.mpr ⟨_, _, hr, ih hrest⟩

/-- No state below that of the running task changes. -/
def Keeps {α : Type} (x : ThreadM G α) : Prop :=
  ∀ thread a thread' task parents, thread.tasks = task :: parents → x.run thread = .ok a thread' →
    ∃ task', thread'.tasks = task' :: parents

theorem run_leaves {edt : Edt G} {userFn : List (Arg G) → ThreadM G G} (huser : ∀ args, Keeps (userFn args))
    {r : G} {thread thread' : Thread G} (h : (edt.run std userFn).run thread = .ok r thread') :
    thread'.tasks = thread.tasks := by
  obtain ⟨args, started, answer, finished, hprologue, hrun, hpop, -⟩ := (edt.run_ok std).mp h
  obtain ⟨task, rfl⟩ := prologue_enters hprologue
  obtain ⟨task', ht⟩ := huser args _ _ _ _ _ rfl hrun
  obtain ⟨_, _, hfinished, rfl⟩ := popTaskState_ok.mp hpop
  cases ht.symm.trans hfinished
  rfl

theorem exec_keeps (code : Code G) : Keeps (code.exec std) := by
  induction code with
  | ret result =>
      intro thread a thread' task parents ht h
      cases h
      exact ⟨task, ht⟩
  | act action next ih =>
      rintro ⟨_, headers⟩ a thread' task parents rfl h
      obtain ⟨answer, _, hperform, hrest⟩ := run_bind_ok.mp h
      obtain ⟨task₁, headers₁, rfl, -⟩ := framed_perform action _ _ _ _ _ hperform
      exact ih answer _ _ _ _ _ rfl hrest
  | interrupted edt userFn next ihUser ihNext =>
      intro thread a thread' task parents ht h
      obtain ⟨_, thread₁, hother, hrest⟩ := run_bind_ok.mp h
      have hleaves : thread₁.tasks = thread.tasks := run_leaves ihUser hother
      exact ihNext _ _ _ _ _ (hleaves.trans ht) hrest

theorem execution_leaves (task : Execution G) {thread thread' : Thread G} {result : G}
    (h : (task.exec std).run thread = .ok result thread') : thread'.tasks = thread.tasks :=
  run_leaves (fun args => exec_keeps (task.userFn args)) h

/-- By induction on the way there: an interruption leaves the state of the task as it was,
so the code goes on as it would have without it. -/
theorem reaches_alone {code rest : Code G} {thread thread' : Thread G} {history : History G}
    (h : code.Reaches std thread history rest thread') {task : TaskLocalState G}
    {parents : List (TaskLocalState G)} (ht : thread.tasks = task :: parents) :
    ∃ task', thread'.tasks = task' :: parents ∧ ∀ parents' headers, ∃ headers',
      code.alone.Reaches std ⟨task :: parents', headers⟩ history rest.alone ⟨task' :: parents', headers'⟩ := by
  induction h generalizing task with
  | here code thread => exact ⟨task, ht, fun _ headers => ⟨headers, .here _ _⟩⟩
  | @act action next thread answer thread₁ history rest thread' hr _ ih =>
      obtain ⟨_, headers⟩ := thread
      cases ht
      obtain ⟨task₁, headers₁, rfl, -, hsame⟩ := framed_perform action _ _ _ _ _ hr
      obtain ⟨task', ht', halone⟩ := ih rfl
      refine ⟨task', ht', fun parents' headers => ?_⟩
      obtain ⟨headers₂, -, hperform⟩ := hsame parents' headers
      obtain ⟨headers', hrest⟩ := halone parents' headers₂
      exact ⟨headers', .act hperform hrest⟩
  | interrupted hr _ ih => exact ih ((execution_leaves _ hr).trans ht)

theorem undisturbed (task : Execution G) (thread : Thread G) : Undisturbed std task thread := by
  refine ⟨fun result thread' h => execution_leaves task h, fun args started hprologue => ?_⟩
  have hargs := task.edt.arguments_of_prologue std hprologue
  obtain ⟨first, headers₁, rfl, -, halone⟩ := framed_arguments (R := Eq) task.edt _ _ _ _ _ hargs
  refine ⟨.zero, ⟨rfl, rfl, rfl⟩, hargs, fun headers => ?_⟩
  obtain ⟨headers₂, -, hstarted⟩ := halone [] headers
  refine ⟨_, hstarted, fun history rest now hreach => ?_⟩
  obtain ⟨task', -, hsame⟩ := reaches_alone hreach rfl
  obtain ⟨headers', hrest⟩ := hsame [] headers₂
  exact ⟨_, hrest⟩

/-- However tasks interrupt each other on a thread, to any depth: the states of the tasks
below stay as they are, and every task in the tree is undisturbed, the outermost one too. -/
theorem nested_tasks_undisturbed {task inner : Execution G} {thread thread₁ : Thread G}
    (h : Within std task thread inner thread₁) :
    thread.tasks <:+ thread₁.tasks ∧ Undisturbed std inner thread₁ := by
  refine ⟨?_, undisturbed inner thread₁⟩
  induction h with
  | root task thread => exact List.suffix_rfl
  | nested child hargs hchild _ ih =>
      obtain ⟨started, rfl⟩ := prologue_enters hargs
      obtain ⟨task', ht, -⟩ := reaches_alone hchild rfl
      rw [ht] at ih
      exact (List.suffix_cons _ _).trans ih

end Nesting

section Interrupted

open BookkeepingSpec EntryRemoval

def outer : OcrEdtDep Guid64 := ⟨⟨5⟩, 4096⟩

def inner : OcrEdtDep Guid64 := ⟨⟨5⟩, 8192⟩

def query : Action Guid64 := .addressForGuid ⟨5⟩

def innerTask : Execution Guid64 :=
  ⟨.internalFn ⟨none, [.datablock], false⟩ [.dep .datablock 0] [] [inner], fun _ => .act query (fun _ => .ret ⟨0⟩)⟩

/-- Between its two queries runs a task to which the datablock has come at another
address. -/
def outerTask : Execution Guid64 :=
  ⟨.mainEdt [] [outer], fun _ => .act query (fun _ => .interrupted innerTask.edt innerTask.userFn
    (.act query (fun _ => .ret ⟨0⟩)))⟩

def tableOf (dep : OcrEdtDep Guid64) : TaskLocalState Guid64 :=
  ⟨AcquiredTable.inserted reference .fresh ⟨dep.guid, dep.ptr⟩, .null⟩

def onThread (tasks : List (TaskLocalState Guid64)) : Thread Guid64 := ⟨tasks, fun _ => none⟩

theorem query_run {base : Int} (hbase : base ≠ 0) (parents : List (TaskLocalState Guid64)) :
    (query.perform reference).run (onThread (tableOf ⟨⟨5⟩, base⟩ :: parents)) =
      .ok (.address base) (onThread (tableOf ⟨⟨5⟩, base⟩ :: parents)) := by
  have hnull : (⟨5⟩ : Guid64) ≠ nullGuid := by decide
  have hfind := addressForGuid_tracked reference (single_strictlySorted ⟨⟨5⟩, base⟩ hbase).toSorted
    (tracked_single _) hnull
  refine run_bind_ok.mpr ⟨base, _, ?_, rfl⟩
  exact inTask_ok.mpr ⟨_, _, _, rfl, hfind, rfl⟩

theorem innerTask_run : (innerTask.exec reference).run (onThread [tableOf outer]) =
    .ok ⟨0⟩ (onThread [tableOf outer]) := by
  refine (Edt.run_ok reference).mpr ⟨_, onThread [tableOf inner, tableOf outer], ⟨0⟩,
    onThread [tableOf inner, tableOf outer], rfl, ?_, rfl, rfl⟩
  exact exec_ok.mpr ⟨_, .act (query_run (by decide) _) (.here _ _)⟩

theorem outerTask_reaches (args : List (Arg Guid64)) :
    (outerTask.userFn args).Reaches reference (onThread [tableOf outer])
      [(query, .address 4096), (query, .address 4096)] (.ret ⟨0⟩) (onThread [tableOf outer]) := by
  apply Code.Reaches.act (query_run (by decide) _)
  apply Code.Reaches.interrupted innerTask_run
  exact .act (query_run (by decide) _) (.here _ _)

theorem nested_tasks_undisturbed_interrupted :
    (outerTask.exec reference).run .idle = .ok ⟨0⟩ .idle ∧
      Thread.idle.tasks <:+ (onThread [tableOf outer]).tasks ∧
        Undisturbed reference innerTask (onThread [tableOf outer]) := by
  have hargs : (outerTask.edt.prologue reference).run .idle =
      .ok [.datablock ⟨⟨⟨5⟩⟩, 4096⟩] (onThread [tableOf outer]) := rfl
  constructor
  · refine (Edt.run_ok reference).mpr ⟨_, _, ⟨0⟩, onThread [tableOf outer], hargs, ?_, rfl, rfl⟩
    exact exec_ok.mpr ⟨_, outerTask_reaches _⟩
  · have hreach : (outerTask.userFn [.datablock ⟨⟨⟨5⟩⟩, 4096⟩]).Reaches reference (onThread [tableOf outer])
        [(query, .address 4096)] (.interrupted innerTask.edt innerTask.userFn (.act query (fun _ => .ret ⟨0⟩)))
        (onThread [tableOf outer]) := .act (query_run (by decide) _) (.here _ _)
    exact nested_tasks_undisturbed (.nested innerTask hargs hreach (.root _ _))

end Interrupted

end Ocxxr.TaskNesting

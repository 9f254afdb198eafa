import Ocxxr.DatablockLists

namespace Ocxxr.TaskLaunch

open Ocr SortedSearch Bookkeeping TaskState AcquiredData DatablockLists

inductive DepType
  | datablock
  | arena
  | nullHandle
  deriving DecidableEq, Repr

/-- What `FnInfo` computes of a task function: the size of its parameter type, if it
has one, its dependence types, and whether a `DatablockList` follows. -/
structure FnInfo where
  param : Option Nat
  deps : List DepType
  hasVarArgs : Bool

namespace FnInfo

def depCount (info : FnInfo) : Nat := info.deps.length

def paramWordCount (info : FnInfo) : Nat :=
  match info.param with
  | none => 0
  | some bytes => (bytes + 8 - 1) / 8

end FnInfo

inductive Arg (G : Type)
  | param (words : List (BitVec 64))
  | datablock (db : Datablock G)
  | arena (arena : AcquiredData.Arena G)
  | nullHandle (guid : G)
  | list (list : DatablockList G)

inductive Initializer
  | param
  | dep (type : DepType) (j : Nat)
  | varArgs
  deriving DecidableEq, Repr

def FnInfo.initializers (info : FnInfo) : List Initializer :=
  (if info.param.isSome then [.param] else []) ++
    info.deps.zipIdx.map (fun dep => .dep dep.1 dep.2) ++
    (if info.hasVarArgs then [.varArgs] else [])

variable {G : Type} [OcrGuid G] (std : StdAlgorithms (DbPair G))

def nullHandleOfDep (dep : OcrEdtDep G) : ThreadM G G := do
  assert (dep.ptr = 0 && ocrGuidIsNull dep.guid) .nullHandleDep
  pure dep.guid

def addDeps : List (OcrEdtDep G) → DatablockList G → ThreadM G (DatablockList G)
  | [], varArgs => pure varArgs
  | dep :: rest, varArgs => do
      let datablock ← Datablock.ofDep std dep
      let varArgs ← add varArgs datablock
      addDeps rest varArgs

/-- The list is as large as all of `depv`, and takes what follows the static slots. -/
def unpackVarArgs (depCount : Nat) (depv : List (OcrEdtDep G)) : ThreadM G (DatablockList G) := do
  let varArgs ← addDeps std (depv.drop depCount) (ofSize depv.length)
  pure (move varArgs).1

def evaluateArg (info : FnInfo) (paramv : List (BitVec 64)) (depv : List (OcrEdtDep G)) :
    Initializer → ThreadM G (Arg G)
  | .param => pure (.param paramv)
  | .dep .datablock j => do
      let dep ← access depv[j]?
      let datablock ← Datablock.ofDep std dep
      pure (.datablock datablock)
  | .dep .arena j => do
      let dep ← access depv[j]?
      let arena ← AcquiredData.Arena.ofDep std dep
      pure (.arena arena)
  | .dep .nullHandle j => do
      let dep ← access depv[j]?
      let handle ← nullHandleOfDep dep
      pure (.nullHandle handle)
  | .varArgs => do
      let varArgs ← unpackVarArgs std info.depCount depv
      pure (.list varArgs)

/-- The arguments are passed by position, and initialised in the order that the
compiler chooses. -/
def unpackArgs (info : FnInfo) (order : List Initializer) (paramv : List (BitVec 64))
    (depv : List (OcrEdtDep G)) : ThreadM G (List (Arg G)) := do
  let values ← order.mapM (fun i => do
    let arg ← evaluateArg std info paramv depv i
    pure (i, arg))
  pure (info.initializers.filterMap (fun i => values.lookup i))

def internalFn (info : FnInfo) (order : List Initializer) (userFn : List (Arg G) → ThreadM G G)
    (paramv : List (BitVec 64)) (depv : List (OcrEdtDep G)) : ThreadM G G := do
  assert (paramv.length = info.paramWordCount) .paramCountMismatch
  assert (info.hasVarArgs || depv.length = info.depCount) .depCountMismatch
  assert (info.depCount ≤ depv.length) .depCountTooSmall
  pushTaskState
  let args ← unpackArgs std info order paramv depv
  let result ← userFn args
  popTaskState
  pure result

/-- `InternalFn` up to the call of the user function. -/
def prologue (info : FnInfo) (order : List Initializer) (paramv : List (BitVec 64))
    (depv : List (OcrEdtDep G)) : ThreadM G (List (Arg G)) := do
  assert (paramv.length = info.paramWordCount) .paramCountMismatch
  assert (info.hasVarArgs || depv.length = info.depCount) .depCountMismatch
  assert (info.depCount ≤ depv.length) .depCountTooSmall
  pushTaskState
  unpackArgs std info order paramv depv

omit [OcrGuid G] in
def enter (userFn : List (Arg G) → ThreadM G G) (args : List (Arg G)) : ThreadM G G := do
  let result ← userFn args
  popTaskState
  pure result

theorem internalFn_eq (info : FnInfo) (order : List Initializer) (userFn : List (Arg G) → ThreadM G G)
    (paramv : List (BitVec 64)) (depv : List (OcrEdtDep G)) :
    internalFn std info order userFn paramv depv = prologue std info order paramv depv >>= enter userFn := by
  simp only [internalFn, prologue, bind_assoc]
  rfl

def mainPrologue (paramv : List (BitVec 64)) (depv : List (OcrEdtDep G)) : ThreadM G (Datablock G) := do
  assert (paramv.length = 0 && depv.length = 1) .mainCounts
  pushTaskState
  let dep ← access depv[0]?
  Datablock.ofDep std dep

def mainEdt (main : Datablock G → ThreadM G Unit) (paramv : List (BitVec 64)) (depv : List (OcrEdtDep G)) :
    ThreadM G G := do
  let args ← mainPrologue std paramv depv
  main args
  popTaskState
  pure nullGuid

/-- The functions through which the runtime starts a task, with what it passes them. -/
inductive Edt (G : Type)
  | internalFn (info : FnInfo) (order : List Initializer) (paramv : List (BitVec 64)) (depv : List (OcrEdtDep G))
  | mainEdt (paramv : List (BitVec 64)) (depv : List (OcrEdtDep G))

namespace Edt

def prologue : Edt G → ThreadM G (List (Arg G))
  | .internalFn info order paramv depv => TaskLaunch.prologue std info order paramv depv
  | .mainEdt paramv depv => do
      let args ← mainPrologue std paramv depv
      pure [.datablock args]

/-- The part of the prologue in which the task has a state of its own. -/
def arguments : Edt G → ThreadM G (List (Arg G))
  | .internalFn info order paramv depv => unpackArgs std info order paramv depv
  | .mainEdt _ depv => do
      let dep ← access depv[0]?
      let args ← Datablock.ofDep std dep
      pure [.datablock args]

def run (userFn : List (Arg G) → ThreadM G G) : Edt G → ThreadM G G
  | .internalFn info order paramv depv => TaskLaunch.internalFn std info order userFn paramv depv
  | .mainEdt paramv depv => TaskLaunch.mainEdt std (fun args => do
      let _ ← userFn [.datablock args]) paramv depv

def result (answer : G) : Edt G → G
  | .internalFn .. => answer
  | .mainEdt .. => nullGuid

theorem run_ok {edt : Edt G} {userFn : List (Arg G) → ThreadM G G} {r : G} {thread thread' : Thread G} :
    (edt.run std userFn).run thread = .ok r thread' ↔ ∃ args started answer finished,
      (edt.prologue std).run thread = .ok args started ∧ (userFn args).run started = .ok answer finished ∧
        popTaskState.run finished = .ok () thread' ∧ r = edt.result answer := by
  cases edt with
  | internalFn info order paramv depv =>
      simp only [run, prologue, result, internalFn_eq, enter, run_bind_ok]
      constructor
      · rintro ⟨args, started, hargs, answer, finished, huser, _, _, hpop, hr⟩
        cases hr
        exact ⟨args, started, _, finished, hargs, huser, hpop, rfl⟩
      · rintro ⟨args, started, answer, finished, hargs, huser, hpop, rfl⟩
        exact ⟨args, started, hargs, _, finished, huser, (), _, hpop, rfl⟩
  | mainEdt paramv depv =>
      simp only [run, prologue, result, TaskLaunch.mainEdt, run_bind_ok]
      constructor
      · rintro ⟨args, started, hargs, _, _, ⟨answer, finished, huser, hu⟩, _, _, hpop, hr⟩
        cases hu
        cases hr
        exact ⟨_, started, answer, _, ⟨args, started, hargs, rfl⟩, huser, hpop, rfl⟩
      · rintro ⟨_, started, answer, finished, ⟨args, _, hargs, ha⟩, huser, hpop, rfl⟩
        cases ha
        exact ⟨args, started, hargs, (), finished, ⟨answer, finished, huser, rfl⟩, (), _, hpop, rfl⟩

theorem arguments_of_prologue {edt : Edt G} {args : List (Arg G)} {thread thread' : Thread G}
    (h : (edt.prologue std).run thread = .ok args thread') :
    (edt.arguments std).run ⟨.zero :: thread.tasks, thread.headers⟩ = .ok args thread' := by
  cases edt with
  | internalFn info order paramv depv =>
      simp only [prologue, TaskLaunch.prologue, run_bind_ok, run_assert_ok] at h
      obtain ⟨_, _, ⟨_, rfl⟩, _, _, ⟨_, rfl⟩, _, _, ⟨_, rfl⟩, _, _, hpush, hargs⟩ := h
      cases hpush
      exact hargs
  | mainEdt paramv depv =>
      simp only [prologue, mainPrologue, run_bind_ok, run_assert_ok] at h
      obtain ⟨db, _, ⟨_, _, ⟨_, rfl⟩, _, _, hpush, dep, _, hdep, hof⟩, hp⟩ := h
      cases hpush
      exact run_bind_ok.mpr ⟨dep, _, hdep, run_bind_ok.mpr ⟨db, _, hof, hp⟩⟩

end Edt

end Ocxxr.TaskLaunch

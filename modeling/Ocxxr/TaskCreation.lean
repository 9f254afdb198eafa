import Ocxxr.TaskLaunch

namespace Ocxxr.TaskCreation

open Ocr AcquiredData DatablockLists TaskLaunch

inductive AccessMode
  | default
  | exclusive
  | constant
  | readWrite
  | readOnly
  deriving DecidableEq, Repr

/-- The arguments of `ocrEdtCreate`: of `depv` what the runtime reads, `depc` GUIDs. -/
structure EdtRequest (G : Type) where
  template : G
  paramv : Option (List (BitVec 64))
  depc : BitVec 32
  depv : Option (List G)
  flags : BitVec 16
  hint : Int
  outEvent : Bool

structure EdtAnswer (G : Type) where
  guid : G
  outEvent : G

structure Dependence (G : Type) where
  source : G
  destination : G
  slot : BitVec 32
  mode : AccessMode

inductive OcrCall (G : Type)
  | edtCreate (request : EdtRequest G)
  | addDependence (dependence : Dependence G)

/-- The answers of the runtime, which depend on the calls made before. -/
structure OcrEdt (G : Type) where
  edtCreate : List (OcrCall G) → EdtRequest G → EdtAnswer G
  addDependence : List (OcrCall G) → Dependence G → Nat

abbrev OcrM (G : Type) := EStateM Fault (List (OcrCall G))

variable {G : Type} (ocr : OcrEdt G) (info : FnInfo)

def ocrEdtCreate (request : EdtRequest G) : OcrM G (EdtAnswer G) := do
  let log ← get
  modify (· ++ [.edtCreate request])
  pure (ocr.edtCreate log request)

def ocrAddDependence (dependence : Dependence G) : OcrM G Unit := do
  let log ← get
  modify (· ++ [.addDependence dependence])
  assert (ocr.addDependence log dependence = 0) .callFailed

namespace Task

def dependOn (task : G) (slot : BitVec 32) (src : G) (mode : AccessMode) : OcrM G Unit :=
  ocrAddDependence ocr ⟨src, task, slot, mode⟩

def dependOnList (task : G) (src : DatablockList G) (mode : AccessMode) : OcrM G Unit :=
  let count := BitVec.ofNat 32 src.capacity
  forM (List.range count.toNat) (fun j => do
    let datablock ← index src j
    ocrAddDependence ocr
      ⟨datablock.handle.guid, task, BitVec.ofNat 32 info.depCount + BitVec.ofNat 32 j, mode⟩)

def dependOnWithinList (task : G) (index : BitVec 32) (src : G) (mode : AccessMode) : OcrM G Unit :=
  ocrAddDependence ocr ⟨src, task, BitVec.ofNat 32 info.depCount + index, mode⟩

/-- The recursion of `DependOnRangeHelper`; the list is what the iterator has before it. -/
def dependOnRange (task : G) (mode : AccessMode) (start stop : Nat) : List G → OcrM G Unit
  | [] => if stop ≤ start then pure () else throw .invalidAccess
  | src :: next =>
      if stop ≤ start then pure () else do
        dependOn ocr task (BitVec.ofNat 32 start) src mode
        dependOnRange task mode (start + 1) stop next

def init (outEvent : Bool) (template : G) (paramv : Option (List (BitVec 64))) (depc : BitVec 32)
    (depv : Option (List G)) (hint : Int) (flags : BitVec 16) : OcrM G (EdtAnswer G) := do
  assert (paramv.isSome || info.param.isNone) .paramsMissing
  ocrEdtCreate ocr ⟨template, paramv, depc, depv, flags, hint, outEvent⟩

end Task

structure DelayedFuture (G : Type) where
  task : G
  event : G

structure TaskBuilder (G : Type) where
  templateGuid : G
  hint : Int
  flags : BitVec 16

namespace TaskBuilder

variable [OcrGuid G] (builder : TaskBuilder G)

omit [OcrGuid G] in
def store (depv : List G) (i : Nat) (guid : G) : OcrM G (List G) :=
  if i < depv.length then pure (depv.set i guid) else throw .invalidAccess

omit [OcrGuid G] in
def storeDeps : List G → Nat → List G → OcrM G (List G)
  | depv, _, [] => pure depv
  | depv, i, guid :: rest => do
      let depv ← store depv i guid
      storeDeps depv (i + 1) rest

omit [OcrGuid G] in
def storeVarArgs : Nat → List G → Nat → List (Datablock G) → OcrM G (List G)
  | 0, depv, _, _ => pure depv
  | _ + 1, _, _, [] => throw .invalidAccess
  | n + 1, depv, i, datablock :: next => do
      let depv ← store depv i datablock.handle.guid
      storeVarArgs n depv (i + 1) next

def createFullTask (outEvent : Bool) (params : Option (List (BitVec 64))) (deps : List G) :
    OcrM G (EdtAnswer G) := do
  assert (!outEvent || builder.flags ≠ edtPropFinish G) .finishUnused
  let depc := BitVec.ofNat 32 info.depCount
  let depv := deps ++ [nullGuid]
  let depvPtr := if 0 < depc then some (depv.take depc.toNat) else none
  Task.init ocr info outEvent builder.templateGuid params depc depvPtr builder.hint builder.flags

/-- The array `depv` that `CreateFullTask` fills for a task with a `DatablockList`: it
is allocated with `depc + 1` elements, counted in 32 bits. -/
def fillDepv (depc : BitVec 32) (deps : List G) (varArgs : DatablockList G) : OcrM G (Option (List G)) :=
  if 0 < depc then do
    let depv ← storeDeps (List.replicate (depc + 1).toNat nullGuid) 0 (deps ++ [nullGuid])
    let depv ← storeVarArgs (depc.toNat - info.depCount) depv info.depCount varArgs.data
    pure (some (depv.take depc.toNat))
  else pure none

def createFullTaskVarArgs (outEvent : Bool) (params : Option (List (BitVec 64))) (deps : List G)
    (varArgs : DatablockList G) : OcrM G (EdtAnswer G) := do
  assert (!outEvent || builder.flags ≠ edtPropFinish G) .finishUnused
  assert (varArgs.count = varArgs.capacity) .listIncomplete
  let depc := BitVec.ofNat 32 (info.depCount + varArgs.capacity)
  let depvPtr ← fillDepv info depc deps varArgs
  Task.init ocr info outEvent builder.templateGuid params depc depvPtr builder.hint builder.flags

def createNullTask (outEvent : Bool) (params : Option (List (BitVec 64))) (varArgsCount : BitVec 32) :
    OcrM G (EdtAnswer G) := do
  assert (!outEvent || builder.flags ≠ edtPropFinish G) .finishUnused
  assert (varArgsCount = 0 || info.hasVarArgs) .varArgsCountUnexpected
  let depc := BitVec.ofNat 32 (info.depCount + varArgsCount.toNat)
  Task.init ocr info outEvent builder.templateGuid params depc none builder.hint builder.flags

def createTask (params : Option (List (BitVec 64))) (deps : List G) (varArgs : Option (DatablockList G)) :
    OcrM G G := do
  let answer ← match varArgs with
    | none => createFullTask ocr info builder false params deps
    | some varArgs => createFullTaskVarArgs ocr info builder false params deps varArgs
  pure answer.guid

def createTaskPartial (params : Option (List (BitVec 64))) (varArgsCount : BitVec 32) : OcrM G G := do
  assert (varArgsCount = 0 || info.hasVarArgs) .varArgsUnexpected
  let answer ← createNullTask ocr info builder false params varArgsCount
  pure answer.guid

def createFuturePartial (params : Option (List (BitVec 64))) (varArgsCount : BitVec 32) :
    OcrM G (DelayedFuture G) := do
  assert (varArgsCount = 0 || info.hasVarArgs) .varArgsUnexpected
  let answer ← createNullTask ocr info builder true params varArgsCount
  pure ⟨answer.guid, answer.outEvent⟩

def missing (deps : List G) : List G := List.replicate (info.depCount - deps.length) uninitializedGuid

def padTask (params : Option (List (BitVec 64))) (deps : List G) : OcrM G G :=
  createTask ocr info builder params (deps ++ missing info deps) none

def createFuture (params : Option (List (BitVec 64))) (deps : List G) : OcrM G (DelayedFuture G) := do
  let answer ← createFullTask ocr info builder true params deps
  pure ⟨answer.guid, answer.outEvent⟩

def padFuture (params : Option (List (BitVec 64))) (deps : List G) : OcrM G (DelayedFuture G) :=
  createFuture ocr info builder params (deps ++ missing info deps)

def createTaskPartialDeps (params : Option (List (BitVec 64))) (deps : List G) : OcrM G G :=
  padTask ocr info builder params deps

def createFuturePartialDeps (params : Option (List (BitVec 64))) (deps : List G) :
    OcrM G (DelayedFuture G) :=
  padFuture ocr info builder params deps

end TaskBuilder

inductive EntryPoint (G : Type)
  | createTask (params : Option (List (BitVec 64))) (deps : List G) (varArgs : Option (DatablockList G))
  | createTaskPartial (params : Option (List (BitVec 64))) (varArgsCount : BitVec 32)
  | createTaskPartialDeps (params : Option (List (BitVec 64))) (deps : List G)
  | createFuturePartial (params : Option (List (BitVec 64))) (varArgsCount : BitVec 32)
  | createFuturePartialDeps (params : Option (List (BitVec 64))) (deps : List G)

namespace EntryPoint

def create [OcrGuid G] (ocr : OcrEdt G) (info : FnInfo) (builder : TaskBuilder G) : EntryPoint G → OcrM G Unit
  | createTask params deps varArgs => do
      let _ ← TaskBuilder.createTask ocr info builder params deps varArgs
  | createTaskPartial params varArgsCount => do
      let _ ← TaskBuilder.createTaskPartial ocr info builder params varArgsCount
  | createTaskPartialDeps params deps => do
      let _ ← TaskBuilder.createTaskPartialDeps ocr info builder params deps
  | createFuturePartial params varArgsCount => do
      let _ ← TaskBuilder.createFuturePartial ocr info builder params varArgsCount
  | createFuturePartialDeps params deps => do
      let _ ← TaskBuilder.createFuturePartialDeps ocr info builder params deps

end EntryPoint

end Ocxxr.TaskCreation

import Ocxxr.Library.TaskHosts
import Ocxxr.ArgumentOrder
import Ocxxr.TaskCreation

namespace Ocxxr.TaskPrograms

open Ocr SortedSearch Bookkeeping TaskState AcquiredData DatablockLists TaskLaunch TaskCreation ArgumentOrder

class WordGuid (G : Type) extends OcrGuid G where
  toWord : G → BitVec 64
  ofWord : BitVec 64 → G
  ofWord_toWord : ∀ g, ofWord (toWord g) = g

export WordGuid (toWord ofWord ofWord_toWord)

@[ext] structure GuidWord where
  word : BitVec 64

instance : LinearOrder GuidWord :=
  LinearOrder.lift' (fun g => g.word.toNat) (fun _ _ h => GuidWord.ext (BitVec.eq_of_toNat_eq h))

instance : OcrGuid GuidWord where
  nullGuid := ⟨0⟩
  uninitializedGuid := ⟨-2⟩
  errorGuid := ⟨-1⟩
  null_ne_uninitialized := by decide
  null_ne_error := by decide
  uninitialized_ne_error := by decide
  edtPropNone := edtPropNone Guid64
  edtPropFinish := edtPropFinish Guid64

instance : WordGuid GuidWord := ⟨GuidWord.word, GuidWord.mk, fun _ => rfl⟩

/-- A number of 32 bits in a word, under the padding that follows it. -/
def packed (padding n : BitVec 32) : BitVec 64 := padding ++ n

def unpacked (word : BitVec 64) : BitVec 32 × BitVec 32 := (word.extractLsb' 32 32, word.extractLsb' 0 32)

theorem unpacked_packed (padding n : BitVec 32) : unpacked (packed padding n) = (padding, n) := by
  have hn := n.isLt
  have hpadding := padding.isLt
  simp only [unpacked, packed, Prod.mk.injEq]
  constructor
  · apply BitVec.eq_of_toNat_eq
    simp only [BitVec.extractLsb'_toNat, BitVec.toNat_append, Nat.shiftRight_eq_div_pow]
    rw [← Nat.shiftLeft_add_eq_or_of_lt hn, Nat.shiftLeft_eq]
    omega
  · apply BitVec.eq_of_toNat_eq
    simp only [BitVec.extractLsb'_toNat, BitVec.toNat_append, Nat.shiftRight_zero]
    rw [← Nat.shiftLeft_add_eq_or_of_lt hn, Nat.shiftLeft_eq]
    omega

inductive Content
  | word (value : BitVec 64)
  | mainTaskArgs (argv : List String)

instance : Inhabited Content := ⟨.word 0⟩

inductive Failure
  | library (fault : Fault)
  | nullDatablock
  | selfHandle
  | userAssertion
  deriving DecidableEq

def Failure.text : Failure → Option String
  | library (.assertion failed) => some failed.text
  | library .invalidAccess => none
  | nullDatablock => some "data_ != nullptr"
  | selfHandle => some "Provide self handle iff this is labeled event."
  | userAssertion => none

/-- What the runtime starts for a task: `mainEdt`, or `InternalFn` of a task function. -/
inductive EntryFn (F : Type)
  | mainEdt
  | internalFn (f : F)

@[reducible] def signature (F O G : Type) : TaskGraph.Signature where
  Name := G
  Content := Content
  Params := List (BitVec 64)
  Code := EntryFn F
  Error := Failure
  Output := O

/-- Code of a task: it runs on a worker thread, and calls the runtime. -/
abbrev TaskM (F O G : Type) := StateT (Thread G) (TaskGraph.Prog (signature F O G))

/-- What a program cannot know: the library's algorithms, the thread that a task runs on,
where the datablocks of a task are, the order in which the compiler evaluates arguments,
and what is in the padding of a task's objects. -/
structure Runtime (G : Type) [OcrGuid G] where
  std : StdAlgorithms (DbPair G)
  thread : G → Thread G
  address : G → G → Int
  address_ne : ∀ task d, address task d ≠ 0
  order : FnInfo → List Initializer
  order_perm : ∀ info, (order info).Perm info.initializers
  padding : G → BitVec 32

def plainRuntime : Runtime GuidWord where
  std := reference
  thread := fun _ => ⟨[], fun _ => none⟩
  address := fun _ d => 8 * (d.word.toNat + 1)
  address_ne := by
    intro task d
    omega
  order := FnInfo.initializers
  order_perm := fun _ => .rfl
  padding := fun _ => 0

def plainAtoi (s : String) : BitVec 32 := BitVec.ofNat 32 (s.toList.foldl (fun n c => 10 * n + (c.toNat - 48)) 0)

variable {F O G α : Type}

def call (c : TaskGraph.Call (signature F O G)) : TaskM F O G c.Answer :=
  fun thread => .call c (fun answer => .pure (answer, thread))

def failure (e : Failure) : TaskM F O G α := fun _ => .fail e

def lift (x : ThreadM G α) : TaskM F O G α := fun thread =>
  match x.run thread with
  | .ok a thread => .pure (a, thread)
  | .error e _ => .fail (.library e)

section Operations

variable [OcrGuid G] (runtime : Runtime G)

omit [OcrGuid G] in
/-- The answers of a runtime that does as it is asked. -/
def granting (d : G) (ptr : Int) : OcrDb G := ⟨fun _ => ⟨0, d, ptr⟩, fun _ => 0, fun _ => 0⟩

def createDatablock (task : G) (sizeofT count : BitVec 64) : TaskM F O G (Datablock G) := do
  let d ← call .createBlock
  lift (Datablock.create runtime.std (granting d (runtime.address task d)) sizeofT count)

omit [OcrGuid G] in
def readWord (datablock : Datablock G) : TaskM F O G (BitVec 64) := do
  if datablock.dataPtr = 0 then
    failure .nullDatablock
  else
    match ← call (.load datablock.handle.guid) with
    | .word value => pure value
    | .mainTaskArgs _ => failure (.library .invalidAccess)

omit [OcrGuid G] in
def writeWord (datablock : Datablock G) (value : BitVec 64) : TaskM F O G Unit := do
  if datablock.dataPtr = 0 then
    failure .nullDatablock
  else
    call (.store datablock.handle.guid (.word value))

def releaseDatablock (datablock : Datablock G) : TaskM F O G Unit := do
  call (.release datablock.handle.guid)
  lift (datablock.release runtime.std (granting datablock.handle.guid datablock.dataPtr))

omit [OcrGuid G] in
def destroyHandle (handle : DatablockHandle G) : TaskM F O G Unit := do
  call (.destroyBlock handle.guid)
  lift (handle.destroy (granting handle.guid 0))

omit [OcrGuid G] in
/-- `args->argc()` and `args->argv(index)` read the same object. -/
def mainTaskArgs (args : Datablock G) : TaskM F O G (List String) := do
  match ← call (.load args.handle.guid) with
  | .mainTaskArgs argv => pure argv
  | .word _ => failure (.library .invalidAccess)

/-- `Event::Init`, for an event that goes off once. -/
def eventInit (labeled : Bool) (self : G) : TaskM F O G G := do
  if ocrGuidIsNull self = !labeled then
    call .createEvent
  else
    failure .selfHandle

def createOnceEvent : TaskM F O G G := eventInit false nullGuid

def payload (g : G) : Option G := if ocrGuidIsNull g then none else some g

def satisfy (event : G) (data : DatablockHandle G) : TaskM F O G Unit :=
  call (.satisfy event (payload data.guid))

omit [OcrGuid G] in
def createTemplate (f : F) : TaskM F O G G := call (.createTemplate (.internalFn f))

omit [OcrGuid G] in
def destroyTemplate (template : G) : TaskM F O G Unit := call (.destroyTemplate template)

omit [OcrGuid G] in
def taskBuilder (template : G) : TaskBuilder G := ⟨template, 0, edtPropNone G⟩

omit [OcrGuid G] in
def shutdown : TaskM F O G Unit := call .stop

omit [OcrGuid G] in
def print (o : O) : TaskM F O G Unit := call (.print o)

end Operations

section Requests

variable [OcrGuid G]

def source (g : G) : TaskGraph.Source G :=
  if ocrGuidIsUninitialized g then .later else if ocrGuidIsNull g then .null else .object g

def sources (request : EdtRequest G) : List (TaskGraph.Source G) :=
  match request.depv with
  | none => List.replicate request.depc.toNat .later
  | some depv => (depv.take request.depc.toNat).map source

def ocrEdtCreate (request : EdtRequest G) : TaskM F O G (EdtAnswer G) := do
  let (guid, outEvent) ←
    call (.createTask request.template (request.paramv.getD []) (sources request) request.outEvent)
  pure ⟨guid, outEvent.getD nullGuid⟩

def ocrCall : OcrCall G → TaskM F O G (EdtAnswer G)
  | .edtCreate request => ocrEdtCreate request
  | .addDependence dependence => do
      call (.attach dependence.destination dependence.slot.toNat (source dependence.source))
      pure ⟨nullGuid, nullGuid⟩

omit [OcrGuid G] in
def answering (answer : EdtAnswer G) : OcrEdt G := ⟨fun _ _ => answer, fun _ _ => 0⟩

omit [OcrGuid G] in
def returned (r : EStateM.Result Fault (List (OcrCall G)) α) : TaskM F O G α :=
  match r with
  | .ok a _ => pure a
  | .error e _ => failure (.library e)

/-- Code that makes at most one call: it is run up to its call, and again with the answer. -/
def submit (x : OcrEdt G → OcrM G α) : TaskM F O G α :=
  match (x (answering ⟨nullGuid, nullGuid⟩)).run [] with
  | .ok _ (request :: _) => do
      let answer ← ocrCall request
      returned ((x (answering answer)).run [])
  | r => returned r

/-- `CreateTask` of a template without flags and hints. -/
def createTask (info : FnInfo) (template : G) (params : Option (List (BitVec 64))) (deps : List G) :
    TaskM F O G G :=
  submit (fun ocr => TaskBuilder.createTask ocr info (taskBuilder template) params deps none)

/-- `CreateTaskPartial` without dependences. -/
def createTaskPartial (info : FnInfo) (template : G) (params : Option (List (BitVec 64)))
    (varArgsCount : BitVec 32) : TaskM F O G G :=
  submit (fun ocr => TaskBuilder.createTaskPartial ocr info (taskBuilder template) params varArgsCount)

def dependOnWithinList (info : FnInfo) (task : G) (index : BitVec 32) (src : G) : TaskM F O G Unit :=
  submit (fun ocr => Task.dependOnWithinList ocr info task index src .default)

end Requests

section Tasks

variable [OcrGuid G] (runtime : Runtime G)

def internalFn (info : FnInfo) (userFn : List (Arg G) → TaskM F O G G) (paramv : List (BitVec 64))
    (depv : List (OcrEdtDep G)) : TaskM F O G G := do
  let args ← lift (prologue runtime.std info (runtime.order info) paramv depv)
  let result ← userFn args
  lift popTaskState
  pure result

def mainEdt (main : Datablock G → TaskM F O G Unit) (paramv : List (BitVec 64)) (depv : List (OcrEdtDep G)) :
    TaskM F O G G := do
  let args ← lift (mainPrologue runtime.std paramv depv)
  main args
  lift popTaskState
  pure nullGuid

structure Program (F O G : Type) [OcrGuid G] where
  info : F → FnInfo
  userFn : Runtime G → G → F → List (Arg G) → TaskM F O G G
  main : Runtime G → G → Datablock G → TaskM F O G Unit

variable (program : Program F O G)

/-- What the runtime passes for a slot: the datablock that it was given, at its address. -/
def dep (task : G) : Option G → OcrEdtDep G
  | none => ⟨nullGuid, 0⟩
  | some d => ⟨d, runtime.address task d⟩

def entry (task : G) : EntryFn F → List (BitVec 64) → List (OcrEdtDep G) → TaskM F O G G
  | .mainEdt, paramv, depv => mainEdt runtime (program.main runtime task) paramv depv
  | .internalFn f, paramv, depv => internalFn runtime (program.info f) (program.userFn runtime task f) paramv depv

def body (task : G) (code : EntryFn F) (paramv : List (BitVec 64)) (payloads : List (Option G)) :
    TaskGraph.Prog (signature F O G) (Option G) := do
  let (result, _) ← (entry runtime program task code paramv (payloads.map (dep runtime task))).run
    (runtime.thread task)
  pure (payload result)

end Tasks

/-- A runtime that is about to start `mainEdt`, with the arguments of the program in a
datablock. No object is ever given a reserved GUID. -/
structure Starts [OcrGuid G] (host : TaskGraph.Host (signature F O G)) (argv : List String) (main args : G)
    (used : Set G) (state : host.State) : Prop where
  view : host.view state = .begin main args .mainEdt [] (.mainTaskArgs argv) used
  main_used : main ∈ used
  args_used : args ∈ used
  args_real : IsReal args
  reserved_used : ∀ g, ¬ IsReal g → g ∈ used

end Ocxxr.TaskPrograms

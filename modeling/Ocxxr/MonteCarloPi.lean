import Ocxxr.TaskPrograms

namespace Ocxxr.MonteCarloPi

open Ocr AcquiredData DatablockLists TaskLaunch TaskPrograms

def iters : Nat := 10000

inductive TaskFn
  | piWorkerTask
  | piAccumulatorTask
  deriving DecidableEq

def info : TaskFn → FnInfo
  | .piWorkerTask => ⟨some 16, [], false⟩
  | .piAccumulatorTask => ⟨none, [], true⟩

/-- What the program prints. The estimate is printed from the sum and the number of
tasks, by a division of floating point numbers. -/
inductive Line
  | mainTaskStarted
  | missingTaskCount (count : BitVec 32)
  | taskCount (count : BitVec 32)
  | workerStarted (id : BitVec 32)
  | accumulatorStarted
  | piEquals (sumPoints successfulTaskCount : BitVec 64)
  | shuttingDown
  deriving DecidableEq

structure WorkerArgs (G : Type) where
  padding : BitVec 32
  id : BitVec 32
  output : G

namespace WorkerArgs

variable {G : Type} [WordGuid G]

def words (args : WorkerArgs G) : List (BitVec 64) := [packed args.padding args.id, toWord args.output]

def ofWords : List (BitVec 64) → Option (WorkerArgs G)
  | [word, output] => some ⟨(unpacked word).1, (unpacked word).2, ofWord output⟩
  | _ => none

theorem ofWords_words (args : WorkerArgs G) : ofWords args.words = some args := by
  simp only [words, ofWords, unpacked_packed, ofWord_toWord]

end WorkerArgs

section Tasks

variable {G : Type}

abbrev PiM (G α : Type) := TaskM TaskFn Line G α

/-- The loop of a worker: whether a random point is in the circle is not known before. -/
def countPoints : Nat → BitVec 64 → PiM G (BitVec 64)
  | 0, total => pure total
  | remaining + 1, total => do
      let inside ← call .draw
      countPoints remaining (if inside then total + 1 else total)

def sumPoints (varArgs : DatablockList G) : Nat → Nat → BitVec 64 → BitVec 64 → PiM G (BitVec 64 × BitVec 64)
  | 0, _, sumPoints, successfulTaskCount => pure (sumPoints, successfulTaskCount)
  | remaining + 1, i, sum, successfulTaskCount => do
      let datablock ← lift (index varArgs i)
      let value ← readWord datablock
      let datablock ← lift (index varArgs i)
      destroyHandle datablock.handle
      sumPoints varArgs remaining (i + 1) (sum + value) (successfulTaskCount + 1)

def piAccumulatorTask (varArgs : DatablockList G) : PiM G Unit := do
  print .accumulatorStarted
  let (sumPoints, successfulTaskCount) ← sumPoints varArgs varArgs.count 0 0 0
  print (.piEquals sumPoints successfulTaskCount)
  print .shuttingDown
  shutdown

variable [WordGuid G] (runtime : Runtime G) (task : G)

def piWorkerTask (args : WorkerArgs G) : PiM G Unit := do
  print (.workerStarted args.id)
  let total ← countPoints iters 0
  let outputData ← createDatablock runtime task 8 1
  writeWord outputData total
  releaseDatablock runtime outputData
  satisfy args.output outputData.handle

def userFn : TaskFn → List (Arg G) → PiM G G
  | .piWorkerTask, [.param words] =>
      match WorkerArgs.ofWords words with
      | some args => do
          piWorkerTask runtime task args
          pure nullGuid
      | none => failure (.library .invalidAccess)
  | .piAccumulatorTask, [.list varArgs] => do
      piAccumulatorTask varArgs
      pure nullGuid
  | _, _ => failure (.library .invalidAccess)

theorem userFn_piWorkerTask (args : WorkerArgs G) :
    userFn runtime task .piWorkerTask [.param args.words] = (do
      piWorkerTask runtime task args
      pure nullGuid) := by
  simp only [userFn, WorkerArgs.ofWords_words]

variable (atoi : String → BitVec 32)

def mainCount (args : Datablock G) : PiM G (BitVec 32) := do
  let count : BitVec 32 := 10
  let argv ← mainTaskArgs args
  if argv.length < 2 then
    print (.missingTaskCount count)
    pure count
  else
    let argv ← mainTaskArgs args
    let count := atoi (argv.getD 1 "")
    print (.taskCount count)
    pure count

def launchWorkers (workerTaskTemplate accumTask : G) : Nat → Nat → PiM G Unit
  | 0, _ => pure ()
  | remaining + 1, i => do
      let out ← createOnceEvent
      let workerArgs : WorkerArgs G := ⟨runtime.padding task, BitVec.ofNat 32 i, out⟩
      dependOnWithinList (info .piAccumulatorTask) accumTask (BitVec.ofNat 32 i) out
      let _ ← createTask (info .piWorkerTask) workerTaskTemplate (some workerArgs.words) []
      launchWorkers workerTaskTemplate accumTask remaining (i + 1)

def main (args : Datablock G) : PiM G Unit := do
  print .mainTaskStarted
  let count ← mainCount atoi args
  let workerTaskTemplate ← createTemplate .piWorkerTask
  let accumTaskTemplate ← createTemplate .piAccumulatorTask
  let accumTask ← createTaskPartial (info .piAccumulatorTask) accumTaskTemplate none count
  destroyTemplate accumTaskTemplate
  launchWorkers runtime task workerTaskTemplate accumTask count.toInt.toNat 0
  destroyTemplate workerTaskTemplate

def program : Program TaskFn Line G := ⟨info, userFn, fun runtime task => main runtime task atoi⟩

end Tasks

end Ocxxr.MonteCarloPi

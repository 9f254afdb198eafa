import Ocxxr.TaskPrograms
import Mathlib.Data.Nat.Fib.Basic

namespace Ocxxr.Fibonacci

open Ocr AcquiredData TaskLaunch TaskPrograms

inductive TaskFn
  | checkResult
  | fibContinuation
  | fib
  deriving DecidableEq

def info : TaskFn → FnInfo
  | .checkResult => ⟨some 4, [.datablock], false⟩
  | .fibContinuation => ⟨some 16, [.datablock, .datablock], false⟩
  | .fib => ⟨some 32, [], false⟩

theorem toNat_pred {n : BitVec 32} (h : ¬ n < 2) :
    2 ≤ n.toNat ∧ (n - 1).toNat = n.toNat - 1 ∧ (n - 2).toNat = n.toNat - 2 := by
  have hlt := n.isLt
  have hone : (1 : BitVec 32).toNat = 1 := rfl
  have htwo : (2 : BitVec 32).toNat = 2 := rfl
  rw [BitVec.lt_def, htwo] at h
  rw [BitVec.toNat_sub, BitVec.toNat_sub, hone, htwo]
  omega

def sequentialFib (n : BitVec 32) : BitVec 64 :=
  if n < 2 then n.setWidth 64 else sequentialFib (n - 1) + sequentialFib (n - 2)
termination_by n.toNat
decreasing_by
  · obtain ⟨hn, hone, -⟩ := toNat_pred ‹_›
    omega
  · obtain ⟨hn, -, htwo⟩ := toNat_pred ‹_›
    omega

/-- The text of the only line that depends on what was computed. -/
def resultLine (n : BitVec 32) (result : BitVec 64) : String :=
  "Fib(" ++ toString n.toNat ++ ") = " ++ toString result.toNat ++ "\n"

def usageLine (n : BitVec 32) : String := "Usage: fib <num>, defaulting to " ++ toString n.toNat ++ "\n"

variable {G : Type}

structure FibContinuationParams (G : Type) where
  padding : BitVec 32
  n : BitVec 32
  output : G

structure FibParams (G : Type) where
  padding : BitVec 32
  n : BitVec 32
  output : G
  taskTemplate : G
  continuationTemplate : G

section Params

variable [WordGuid G]

namespace FibContinuationParams

def words (params : FibContinuationParams G) : List (BitVec 64) :=
  [packed params.padding params.n, toWord params.output]

def ofWords : List (BitVec 64) → Option (FibContinuationParams G)
  | [word, output] => some ⟨(unpacked word).1, (unpacked word).2, ofWord output⟩
  | _ => none

theorem ofWords_words (params : FibContinuationParams G) : ofWords params.words = some params := by
  simp only [words, ofWords, unpacked_packed, ofWord_toWord]

end FibContinuationParams

namespace FibParams

def words (params : FibParams G) : List (BitVec 64) :=
  [packed params.padding params.n, toWord params.output, toWord params.taskTemplate,
    toWord params.continuationTemplate]

def ofWords : List (BitVec 64) → Option (FibParams G)
  | [word, output, taskTemplate, continuationTemplate] =>
      some ⟨(unpacked word).1, (unpacked word).2, ofWord output, ofWord taskTemplate, ofWord continuationTemplate⟩
  | _ => none

theorem ofWords_words (params : FibParams G) : ofWords params.words = some params := by
  simp only [words, ofWords, unpacked_packed, ofWord_toWord]

end FibParams

end Params

section Tasks

abbrev FibM (G α : Type) := TaskM TaskFn String G α

def checkResult (n : BitVec 32) (result : Datablock G) : FibM G Unit := do
  let value ← readWord result
  print (resultLine n value)
  let expectedAnswer := sequentialFib n
  let value ← readWord result
  if value = expectedAnswer then
    shutdown
  else
    failure .userAssertion

variable [WordGuid G] (runtime : Runtime G) (task : G)

def fibContinuation (params : FibContinuationParams G) (lhs rhs : Datablock G) : FibM G Unit := do
  let right ← readWord rhs
  let left ← readWord lhs
  writeWord lhs (left + right)
  destroyHandle rhs.handle
  satisfy params.output lhs.handle

def fib (params : FibParams G) : FibM G Unit := do
  if params.n < 2 then
    let result ← createDatablock runtime task 8 1
    writeWord result (params.n.setWidth 64)
    satisfy params.output result.handle
  else
    let lhsOutput ← createOnceEvent
    let rhsOutput ← createOnceEvent
    let continuationParams : FibContinuationParams G := ⟨runtime.padding task, params.n, params.output⟩
    let _ ← createTask (info .fibContinuation) params.continuationTemplate (some continuationParams.words)
      [lhsOutput, rhsOutput]
    let params := { params with n := params.n - 1, output := lhsOutput }
    let _ ← createTask (info .fib) params.taskTemplate (some params.words) []
    let params := { params with n := params.n - 1, output := rhsOutput }
    let _ ← createTask (info .fib) params.taskTemplate (some params.words) []

/-- The arguments are passed as the launch has unpacked them. -/
def userFn : TaskFn → List (Arg G) → FibM G G
  | .checkResult, [.param [word], .datablock result] => do
      checkResult (unpacked word).2 result
      pure nullGuid
  | .fibContinuation, [.param words, .datablock lhs, .datablock rhs] =>
      match FibContinuationParams.ofWords words with
      | some params => do
          fibContinuation params lhs rhs
          pure nullGuid
      | none => failure (.library .invalidAccess)
  | .fib, [.param words] =>
      match FibParams.ofWords words with
      | some params => do
          fib runtime task params
          pure nullGuid
      | none => failure (.library .invalidAccess)
  | _, _ => failure (.library .invalidAccess)

theorem userFn_checkResult (padding n : BitVec 32) (result : Datablock G) :
    userFn runtime task .checkResult [.param [packed padding n], .datablock result] = (do
      checkResult n result
      pure nullGuid) := by
  simp only [userFn, unpacked_packed]

theorem userFn_fibContinuation (params : FibContinuationParams G) (lhs rhs : Datablock G) :
    userFn runtime task .fibContinuation [.param params.words, .datablock lhs, .datablock rhs] = (do
      fibContinuation params lhs rhs
      pure nullGuid) := by
  simp only [userFn, FibContinuationParams.ofWords_words]

theorem userFn_fib (params : FibParams G) :
    userFn runtime task .fib [.param params.words] = (do
      fib runtime task params
      pure nullGuid) := by
  simp only [userFn, FibParams.ofWords_words]

variable (atoi : String → BitVec 32)

/-- The part of `Main` that sets `n`. -/
def mainNumber (args : Datablock G) : FibM G (BitVec 32) := do
  let argv ← mainTaskArgs args
  if argv.length ≠ 2 then
    let n : BitVec 32 := 10
    print (usageLine n)
    pure n
  else
    let argv ← mainTaskArgs args
    pure (atoi (argv.getD 1 ""))

def main (args : Datablock G) : FibM G Unit := do
  let n ← mainNumber atoi args
  let fibTemplate ← createTemplate .fib
  let continuationTemplate ← createTemplate .fibContinuation
  let rootOutput ← createOnceEvent
  let resultTemplate ← createTemplate .checkResult
  let _ ← createTask (info .checkResult) resultTemplate (some [packed (runtime.padding task) n]) [rootOutput]
  destroyTemplate resultTemplate
  let fibParams : FibParams G := ⟨runtime.padding task, n, rootOutput, fibTemplate, continuationTemplate⟩
  let _ ← createTask (info .fib) fibTemplate (some fibParams.words) []

def program : Program TaskFn String G := ⟨info, userFn, fun runtime task => main runtime task atoi⟩

end Tasks

end Ocxxr.Fibonacci

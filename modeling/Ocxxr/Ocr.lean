import Ocxxr.Library.Faults
import Mathlib.Order.Lattice
import Mathlib.Data.Int.Order.Basic
import Mathlib.Algebra.Group.Int.Defs
import Mathlib.Algebra.Group.Nat.Defs

namespace Ocxxr.Ocr

open Faults

/-- What the library uses of OCR's header: the order of GUIDs behind `ocrGuidIsLt` and
`ocrGuidIsEq`, the three reserved GUIDs, and the two properties of a task. -/
class OcrGuid (G : Type) extends LinearOrder G where
  nullGuid : G
  uninitializedGuid : G
  errorGuid : G
  null_ne_uninitialized : nullGuid ≠ uninitializedGuid
  null_ne_error : nullGuid ≠ errorGuid
  uninitialized_ne_error : uninitializedGuid ≠ errorGuid
  edtPropNone : BitVec 16
  edtPropFinish : BitVec 16

export OcrGuid (nullGuid uninitializedGuid errorGuid edtPropNone edtPropFinish)

@[ext] structure Guid64 where
  word : Int
  deriving DecidableEq, Repr

instance : LinearOrder Guid64 := LinearOrder.lift' Guid64.word (fun _ _ => Guid64.ext)

instance : OcrGuid Guid64 where
  nullGuid := ⟨0⟩
  uninitializedGuid := ⟨-2⟩
  errorGuid := ⟨-1⟩
  null_ne_uninitialized := by decide
  null_ne_error := by decide
  uninitialized_ne_error := by decide
  edtPropNone := 0
  edtPropFinish := 1

section Guids

variable {G : Type} [OcrGuid G]

def ocrGuidIsNull (g : G) : Bool := decide (g = nullGuid)

def ocrGuidIsUninitialized (g : G) : Bool := decide (g = uninitializedGuid)

def ocrGuidIsError (g : G) : Bool := decide (g = errorGuid)

def ocrGuidIsLt (a b : G) : Bool := decide (a < b)

def ocrGuidIsEq (a b : G) : Bool := decide (a = b)

/-- A GUID that names an object: none of the reserved values. -/
def IsReal (g : G) : Prop := g ≠ nullGuid ∧ g ≠ uninitializedGuid ∧ g ≠ errorGuid

end Guids

/-- `ocrEdtDep_t`: a satisfied dependence. Pointers are addresses, with `0` for null. -/
structure OcrEdtDep (G : Type) where
  guid : G
  ptr : Int
  deriving DecidableEq, Repr

inductive Assertion
  | acquiredTooMany
  | releasedUntracked
  | matchingBaseNotFound
  | queriedNullGuid
  | lookupUntracked
  | lookupMismatch
  | belowAllBases
  | basedPointerOutside
  | basedPointerError
  | relPtrUninitialized
  | taskStateNotZeroed
  | callFailed
  | arenaRootTooBig
  | datablockTooSmall
  | uninitializedAllocator
  | sizeNotPositive
  | allocatorOverflow
  | listOverflow
  | listIndex
  | nullHandleDep
  | paramCountMismatch
  | depCountMismatch
  | depCountTooSmall
  | paramsMissing
  | finishUnused
  | varArgsUnexpected
  | varArgsCountUnexpected
  | listIncomplete
  | mainCounts
  deriving DecidableEq, Repr

def Assertion.text : Assertion → String
  | acquiredTooMany => "Acquired too many datablocks in one task"
  | releasedUntracked => "Released untracked non-null datablock"
  | matchingBaseNotFound => "Matching base address for datablock GUID not found"
  | queriedNullGuid => "Should not query for NULL_GUID"
  | lookupUntracked => "Lookup of untracked non-null datablock"
  | lookupMismatch => "Datablock lookup mismatch"
  | belowAllBases => "j != a_start"
  | basedPointerOutside => "Based pointer must point into an acquired datablock"
  | basedPointerError => "!ocrGuidIsError(target_guid_)"
  | relPtrUninitialized => "offset_ != 1"
  | taskStateNotZeroed => "db_info->acquired_db_count == 0"
  | callFailed => "status == 0"
  | arenaRootTooBig => "Arena must be big enough to hold root object"
  | datablockTooSmall => "Datablock is too small for allocator"
  | uninitializedAllocator => "Uninitialized allocator"
  | sizeNotPositive => "size > 0"
  | allocatorOverflow => "Datablock allocator overflow"
  | listOverflow => "DatablockList overflow!"
  | listIndex => "index < capacity_"
  | nullHandleDep => "!dep.ptr && this->is_null()"
  | paramCountMismatch => "paramc == internal::TaskParamInfo<F>::kParamWordCount"
  | depCountMismatch => "kVarArgc > 0 || depc == kDepc"
  | depCountTooSmall => "depc >= kDepc"
  | paramsMissing => "paramv != nullptr || kParamc == 0"
  | finishUnused => "Created Finish-type EDT, but not using the output event."
  | varArgsUnexpected => "var_args_count == 0 || kHasVarArgs"
  | varArgsCountUnexpected => "Only provide var_args_count for tasks with VarArgs"
  | listIncomplete => "Used incomplete DatablockList for task creation"
  | mainCounts => "paramc == 0 && depc == 1"

/-- How a call can end without returning: a failed assertion stops the program, and
an access outside an object has no defined result. -/
inductive Fault
  | assertion (failed : Assertion)
  | invalidAccess
  deriving DecidableEq, Repr

variable {σ α β : Type}

@[simp] theorem run_map (f : α → β) (x : EStateM Fault σ α) (s : σ) :
    (f <$> x).run s = match x.run s with
      | .ok a s' => .ok (f a) s'
      | .error e s' => .error e s' := by
  simp only [map_eq_pure_bind, EStateM.run_bind, EStateM.run_pure]
  cases x.run s <;> rfl

def assert (c : Bool) (a : Assertion) : EStateM Fault σ Unit :=
  if c then pure () else throw (.assertion a)

def access (slot : Option α) : EStateM Fault σ α :=
  match slot with
  | some a => pure a
  | none => throw .invalidAccess

@[simp] theorem run_assert_true (a : Assertion) (s : σ) : (assert true a).run s = .ok () s := rfl

@[simp] theorem run_assert_false (a : Assertion) (s : σ) :
    (assert false a).run s = .error (.assertion a) s := rfl

@[simp] theorem run_access_some (a : α) (s : σ) : (access (some a)).run s = .ok a s := rfl

@[simp] theorem run_access_none (s : σ) : (access (none : Option α)).run s = .error .invalidAccess s := rfl

theorem run_bind_ok {x : EStateM Fault σ α} {f : α → EStateM Fault σ β} {b : β} {s s' : σ} :
    (x >>= f).run s = .ok b s' ↔ ∃ a s₁, x.run s = .ok a s₁ ∧ (f a).run s₁ = .ok b s' := by
  rw [EStateM.run_bind]
  cases x.run s with
  | error e s₁ => simp
  | ok a s₁ =>
      refine ⟨fun h => ⟨a, s₁, rfl, h⟩, ?_⟩
      rintro ⟨_, _, hx, h⟩
      cases hx
      exact h

theorem run_bind_error {x : EStateM Fault σ α} {f : α → EStateM Fault σ β} {e : Fault} {s s' : σ} :
    (x >>= f).run s = .error e s' ↔
      x.run s = .error e s' ∨ ∃ a s₁, x.run s = .ok a s₁ ∧ (f a).run s₁ = .error e s' := by
  rw [EStateM.run_bind]
  cases x.run s with
  | error e s₁ => simp
  | ok a s₁ =>
      refine ⟨fun h => .inr ⟨a, s₁, rfl, h⟩, ?_⟩
      rintro (hx | ⟨_, _, hx, h⟩)
      · cases hx
      · cases hx
        exact h

theorem run_assert_bind {c : Bool} {a : Assertion} (h : c = true) (f : Unit → EStateM Fault σ β) (s : σ) :
    (assert c a >>= f).run s = (f ()).run s := by
  subst h
  rfl

theorem run_assert_bind_error {c : Bool} {a : Assertion} (h : c = false) (f : Unit → EStateM Fault σ β)
    (s : σ) : (assert c a >>= f).run s = .error (.assertion a) s := by
  subst h
  rfl

theorem run_get_bind (f : σ → EStateM Fault σ β) (s : σ) : (get >>= f).run s = (f s).run s := rfl

theorem run_access_bind {slot : Option α} {a : α} (h : slot = some a) (f : α → EStateM Fault σ β) (s : σ) :
    (access slot >>= f).run s = (f a).run s := by
  subst h
  rfl

theorem run_assert_ok {c : Bool} {a : Assertion} {u : Unit} {s s' : σ} :
    (assert c a).run s = .ok u s' ↔ c = true ∧ s' = s := by
  cases c with
  | false => simp
  | true => simp [eq_comm]

theorem run_assert_error {c : Bool} {a : Assertion} {e : Fault} {s s' : σ} :
    (assert c a).run s = .error e s' ↔ c = false ∧ e = .assertion a ∧ s' = s := by
  cases c with
  | false => simp [eq_comm]
  | true => simp

theorem run_access_ok {slot : Option α} {a : α} {s s' : σ} :
    (access slot).run s = .ok a s' ↔ slot = some a ∧ s' = s := by
  cases slot with
  | none => simp
  | some b => simp [eq_comm]

theorem failsWith_assert {P : Fault → Prop} (c : Bool) {a : Assertion} (h : P (.assertion a)) :
    FailsWith P (assert c a : EStateM Fault σ Unit) := by
  intro s e s' hrun
  obtain ⟨-, rfl, -⟩ := run_assert_error.mp hrun
  exact h

theorem steady_assert {P : Fault → Prop} (c : Bool) {a : Assertion} (h : P (.assertion a)) :
    Steady P (assert c a : EStateM Fault σ Unit) where
  fails := failsWith_assert c h
  keeps := by
    intro s u s' hrun
    exact (run_assert_ok.mp hrun).2

theorem failsWith_access_some {P : Fault → Prop} {slot : Option α} (h : slot.isSome) :
    FailsWith P (access slot : EStateM Fault σ α) := by
  intro s e s' hrun
  obtain ⟨a, rfl⟩ := Option.isSome_iff_exists.mp h
  cases hrun

end Ocxxr.Ocr

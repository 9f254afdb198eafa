import Mathlib.Data.List.Basic

namespace Ocxxr.PointerTypes

inductive Cv
  | unqualified
  | const
  | volatile
  | constVolatile
  deriving DecidableEq, Repr

inductive SmartPtr
  | relPtr
  | basedPtr
  deriving DecidableEq, Repr

/-- A type over the object types `T`: `pointer cv target` is `target *cv`. -/
inductive CType (T : Type)
  | object (t : T)
  | pointer (cv : Cv) (target : CType T)
  | smart (p : SmartPtr) (target : CType T)
  deriving DecidableEq, Repr

open CType

variable {T : Type} (p : SmartPtr)

def pointerNester (type : CType T) : Nat → CType T
  | 0 => type
  | n + 1 => smart p (pointerNester type n)

/-- `PointerConvertor<T, P>`, which is defined by its partial specialisations alone: the
one for `T **` is the more special, and neither takes a qualified pointer. -/
def pointerConvertor : CType T → Option (CType T)
  | pointer .unqualified target =>
      match target with
      | pointer .unqualified _ => do
          let converted ← pointerConvertor target
          some (smart p converted)
      | _ => some (smart p target)
  | _ => none

def nestedRelPtr (t : T) (n : Nat) : CType T := pointerNester .relPtr (object t) n

def nestedBasedPtr (t : T) (n : Nat) : CType T := pointerNester .basedPtr (object t) n

def relPtrFor : CType T → Option (CType T) := pointerConvertor .relPtr

def basedPtrFor : CType T → Option (CType T) := pointerConvertor .basedPtr

def levels (t : T) : List Cv → CType T
  | [] => object t
  | cv :: rest => pointer cv (levels t rest)

namespace CType

def rawFree : CType T → Bool
  | object _ => true
  | pointer _ _ => false
  | smart _ target => target.rawFree

def count : CType T → Nat
  | object _ => 0
  | pointer _ target => target.count
  | smart q target => if q = p then target.count + 1 else target.count

end CType

/-- What a conversion of the type with these levels should give. -/
structure Converts (t : T) (cvs : List Cv) (result : CType T) : Prop where
  rawFree : result.rawFree = true
  count : result.count p = cvs.length
  nested : (∀ cv ∈ cvs, cv = .unqualified) → result = pointerNester p (object t) cvs.length

def converted (t : T) : List Cv → CType T
  | [] => smart p (object t)
  | .unqualified :: rest => smart p (converted t rest)
  | cv :: rest => smart p (pointer cv (levels t rest))

variable {p} {t : T} {cvs : List Cv}

theorem pointerConvertor_levels : pointerConvertor p (levels t (.unqualified :: cvs)) =
    some (converted p t cvs) := by
  induction cvs with
  | nil => rfl
  | cons cv rest ih =>
      cases cv with
      | unqualified =>
          change (pointerConvertor p (levels t (.unqualified :: rest)) >>= fun r => some (smart p r)) = _
          rw [ih]
          rfl
      | const => rfl
      | volatile => rfl
      | constVolatile => rfl

theorem pointerConvertor_qualified {cv : Cv} (h : cv ≠ .unqualified) :
    pointerConvertor p (levels t (cv :: cvs)) = none := by
  cases cv with
  | unqualified => exact absurd rfl h
  | const => rfl
  | volatile => rfl
  | constVolatile => rfl

theorem rawFree_nester (t : T) (n : Nat) : (pointerNester p (object t) n).rawFree = true := by
  induction n with
  | zero => rfl
  | succ n ih => exact ih

theorem count_nester (t : T) (n : Nat) : (pointerNester p (object t) n).count p = n := by
  induction n with
  | zero => rfl
  | succ n ih => rw [pointerNester, count, if_pos rfl, ih]

theorem converted_unqualified (h : ∀ cv ∈ cvs, cv = .unqualified) :
    converted p t cvs = pointerNester p (object t) (cvs.length + 1) := by
  induction cvs with
  | nil => rfl
  | cons cv rest ih =>
      obtain rfl := h cv List.mem_cons_self
      have hrest := ih (fun cv hcv => h cv (List.mem_cons_of_mem _ hcv))
      rw [converted, hrest]
      rfl

theorem pointerConvertor_plain (p : SmartPtr) (t : T) (n : Nat) :
    pointerConvertor p (levels t (List.replicate (n + 1) .unqualified)) =
      some (pointerNester p (object t) (n + 1)) := by
  rw [List.replicate_succ, pointerConvertor_levels, converted_unqualified, List.length_replicate]
  intro cv hcv
  exact List.eq_of_mem_replicate hcv

theorem relPtrFor_nested (t : T) (n : Nat) :
    relPtrFor (levels t (List.replicate (n + 1) .unqualified)) = some (nestedRelPtr t (n + 1)) :=
  pointerConvertor_plain .relPtr t n

theorem basedPtrFor_nested (t : T) (n : Nat) :
    basedPtrFor (levels t (List.replicate (n + 1) .unqualified)) = some (nestedBasedPtr t (n + 1)) :=
  pointerConvertor_plain .basedPtr t n

theorem unqualified_of_rawFree (h : (converted p t cvs).rawFree = true) : ∀ cv ∈ cvs, cv = .unqualified := by
  induction cvs with
  | nil =>
      intro cv hcv
      cases hcv
  | cons cv rest ih =>
      cases cv with
      | unqualified =>
          intro cv hcv
          rcases List.mem_cons.mp hcv with rfl | hcv
          · rfl
          · exact ih h cv hcv
      | const => cases h
      | volatile => cases h
      | constVolatile => cases h

theorem converts_nester (t : T) (cvs : List Cv) : Converts p t cvs (pointerNester p (object t) cvs.length) where
  rawFree := rawFree_nester t _
  count := count_nester t _
  nested := fun _ => rfl

/-- A qualified level inside stops the conversion, and is kept as it is. -/
theorem pointer_types_iff (p : SmartPtr) (t : T) (outer : Cv) (inner : List Cv) :
    (∀ result, pointerConvertor p (levels t (outer :: inner)) = some result →
      Converts p t (outer :: inner) result) ↔
      (outer = .unqualified → ∀ cv ∈ inner, cv = .unqualified) := by
  constructor
  · rintro h rfl
    exact unqualified_of_rawFree (h _ pointerConvertor_levels).rawFree
  · intro h result hresult
    by_cases houter : outer = .unqualified
    · subst houter
      rw [pointerConvertor_levels, converted_unqualified (h rfl)] at hresult
      cases hresult
      exact converts_nester t (.unqualified :: inner)
    · rw [pointerConvertor_qualified houter] at hresult
      cases hresult

theorem pointer_types_counterexample :
    relPtrFor (levels () [.unqualified, .const]) = some (smart .relPtr (pointer .const (object ()))) ∧
      ¬ ∀ result, relPtrFor (levels () [.unqualified, .const]) = some result →
        Converts .relPtr () [.unqualified, .const] result := by
  refine ⟨rfl, ?_⟩
  intro h
  cases (h _ rfl).rawFree

end Ocxxr.PointerTypes

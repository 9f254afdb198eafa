import Ocxxr.BasedPointer
import Ocxxr.RelativePointer

namespace Ocxxr.PointerIndexing

open Ocr SortedSearch Bookkeeping RelativePointer BasedPointer

inductive Cell (G : Type)
  | relPtr (cell : RelPtr)
  | basedPtr (cell : BasedPtr G)

variable {G : Type} [OcrGuid G] (std : StdAlgorithms (DbPair G))

def pointer (this : Int) : Cell G → BookM G Int
  | .relPtr cell => RelativePointer.get this cell
  | .basedPtr cell => BasedPointer.get std this cell

/-- `operator[](const int)`: any other type of index is converted first. -/
def index (this : Int) (cell : Cell G) (i : Int) (sizeofT : Nat) : BookM G Int := do
  let target ← pointer std this cell
  pure (element target i sizeofT)

def pointerIndex (this : Int) (cell : Cell G) (i : Int) (sizeofT : Nat) : BookM G Int := do
  let target ← pointer std this cell
  pure (target + i * sizeofT)

def SameElement (this : Int) (cell : Cell G) (s s' : AcquiredDbInfo G) (a i : Int) (sizeofT : Nat) : Prop :=
  (index std this cell i sizeofT).run s = .ok (a + i * sizeofT) s' ∧
    (index std this cell i sizeofT).run s = (pointerIndex std this cell i sizeofT).run s

variable {std} {this a i : Int} {cell : Cell G} {s s' : AcquiredDbInfo G} {sizeofT : Nat}

theorem index_run (h : (pointer std this cell).run s = .ok a s') (i : Int) (sizeofT : Nat) :
    (index std this cell i sizeofT).run s = .ok (element a i sizeofT) s' := by
  rw [index, EStateM.run_bind, h]
  rfl

theorem pointerIndex_run (h : (pointer std this cell).run s = .ok a s') (i : Int) (sizeofT : Nat) :
    (pointerIndex std this cell i sizeofT).run s = .ok (a + i * sizeofT) s' := by
  rw [pointerIndex, EStateM.run_bind, h]
  rfl

theorem toInt_ofInt_iff (i : Int) : (BitVec.ofInt 32 i).toInt = i ↔ -2 ^ 31 ≤ i ∧ i < 2 ^ 31 := by
  constructor
  · intro h
    rw [← h]
    exact ⟨BitVec.le_toInt _, BitVec.toInt_lt⟩
  · rintro ⟨hlo, hhi⟩
    exact BitVec.toInt_ofInt_eq_self (by decide) hlo hhi

theorem element_eq_iff (hsize : 1 ≤ sizeofT) :
    element a i sizeofT = a + i * sizeofT ↔ -2 ^ 31 ≤ i ∧ i < 2 ^ 31 := by
  have hne : (sizeofT : Int) ≠ 0 := by omega
  rw [element, Int.add_right_inj, Int.mul_eq_mul_right_iff hne, toInt_ofInt_iff]

/-- The index goes through an `int`, and the one given is the one used only if it fits. -/
theorem pointer_index_iff (h : (pointer std this cell).run s = .ok a s') (hsize : 1 ≤ sizeofT) (i : Int) :
    SameElement std this cell s s' a i sizeofT ↔ -2 ^ 31 ≤ i ∧ i < 2 ^ 31 := by
  rw [SameElement, index_run h, pointerIndex_run h, ← element_eq_iff hsize]
  constructor
  · rintro ⟨hindex, -⟩
    injection hindex
  · intro helement
    rw [helement]
    exact ⟨rfl, rfl⟩

theorem pointer_index_iff_fresh :
    SameElement reference 4096 (.relPtr ⟨8⟩) (.fresh : AcquiredDbInfo Guid64) .fresh 4104 5 8 ↔
      (-2 ^ 31 : Int) ≤ 5 ∧ (5 : Int) < 2 ^ 31 :=
  pointer_index_iff rfl (by decide) 5

theorem pointer_index_counterexample :
    (index reference 4096 (.relPtr ⟨8⟩) (2 ^ 32) 8).run (.fresh : AcquiredDbInfo Guid64) = .ok 4104 .fresh ∧
      ¬ SameElement reference 4096 (.relPtr ⟨8⟩) (.fresh : AcquiredDbInfo Guid64) .fresh 4104 (2 ^ 32) 8 := by
  have hindex : (index reference 4096 (.relPtr ⟨8⟩) (2 ^ 32) 8).run (.fresh : AcquiredDbInfo Guid64) =
      .ok 4104 .fresh := rfl
  refine ⟨hindex, ?_⟩
  rintro ⟨hsame, -⟩
  rw [hindex] at hsame
  injection hsame with haddress
  omega

end Ocxxr.PointerIndexing

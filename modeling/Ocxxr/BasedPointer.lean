import Ocxxr.ClosestBase
import Ocxxr.BookkeepingSpec

namespace Ocxxr.BasedPointer

open Ocr SortedSearch Bookkeeping AcquiredTable BookkeepingSpec ClosestBase

/-- The bytes of a `BasedPtr` cell. The cell's own address is no part of them. -/
structure BasedPtr (G : Type) where
  targetGuid : G
  offset : Int
  deriving DecidableEq, Repr

variable {G : Type} [OcrGuid G] (std : StdAlgorithms (DbPair G))

def uninitialized : BasedPtr G := ⟨errorGuid, 0⟩

def get (this : Int) (cell : BasedPtr G) : BookM G Int := do
  assert (!ocrGuidIsError cell.targetGuid) .basedPointerError
  if ocrGuidIsNull cell.targetGuid then
    pure 0
  else if ocrGuidIsUninitialized cell.targetGuid then
    pure (this + cell.offset)
  else
    let base ← addressForGuid std cell.targetGuid
    pure (base + cell.offset)

def set (this other : Int) : BookM G (BasedPtr G) := do
  let (guid, offset) ← guidOffsetForAddress std other this
  pure ⟨guid, offset⟩

def setCell (this source : Int) (other : BasedPtr G) : BookM G (BasedPtr G) := do
  if ocrGuidIsUninitialized other.targetGuid then
    let target ← get std source other
    set std this target
  else
    pure other

def copyAlong (source : Int) (cell : BasedPtr G) : List Int → BookM G (BasedPtr G)
  | [] => pure cell
  | this :: rest => do
      let next ← setCell std this source cell
      copyAlong this next rest

def setAlong (target first : Int) (rest : List Int) : BookM G (BasedPtr G) := do
  let cell ← set std first target
  copyAlong std first cell rest

variable {s : AcquiredDbInfo G}

theorem get_selfRelative (this offset : Int) :
    (get std this ⟨uninitializedGuid, offset⟩).run s = .ok (this + offset) s := by
  have he : (uninitializedGuid : G) ≠ errorGuid := OcrGuid.uninitialized_ne_error
  have hn : (uninitializedGuid : G) ≠ nullGuid := OcrGuid.null_ne_uninitialized.symm
  simp [get, ocrGuidIsError, ocrGuidIsNull, ocrGuidIsUninitialized, he, hn]

theorem get_tracked (hs : Sorted s) {p : DbPair G} (hp : Tracked s p) (hreal : IsReal p.guid)
    (this offset : Int) : (get std this ⟨p.guid, offset⟩).run s = .ok (p.baseAddr + offset) s := by
  obtain ⟨hn, hu, he⟩ := hreal
  simp [get, ocrGuidIsError, ocrGuidIsNull, ocrGuidIsUninitialized, he, hn, hu,
    addressForGuid_tracked std hs hp hn]

def cellFor (p : DbPair G) (e target this : Int) : BasedPtr G :=
  ⟨(encoded p e target this).1, (encoded p e target this).2⟩

theorem set_found (hs : Sorted s) {target : Int} (hnull : target ≠ 0) (ht : target ≤ ptrdiffMax)
    (hbelow : ∃ q, Tracked s q ∧ q.baseAddr ≤ target) :
    ∃ p e, Closest s target p e ∧ ∀ this, (set std this target).run s = .ok (cellFor p e target this) s := by
  obtain ⟨p, e, hc, henc⟩ := guidOffsetForAddress_found std hs hnull ht hbelow
  refine ⟨p, e, hc, fun this => ?_⟩
  simp [set, henc this, cellFor]

theorem copyAlong_guid {p : DbPair G} (hreal : IsReal p.guid) (offset source : Int) (rest : List Int) :
    (copyAlong std source ⟨p.guid, offset⟩ rest).run s = .ok ⟨p.guid, offset⟩ s := by
  induction rest generalizing source with
  | nil => rfl
  | cons this rest ih =>
      simp only [copyAlong, EStateM.run_bind]
      simp [setCell, ocrGuidIsUninitialized, hreal.2.1, ih]

/-- A chain of copies ends self-relative exactly when all its cells lie between the
base of the target's datablock and the next one. -/
theorem copyAlong_cellFor {p : DbPair G} {e target : Int} (hreal : IsReal p.guid)
    (hset : ∀ this, (set std this target).run s = .ok (cellFor p e target this) s)
    (source : Int) (rest : List Int) :
    (copyAlong std source (cellFor p e target source) rest).run s =
      .ok (if ∀ a ∈ source :: rest, p.baseAddr ≤ a ∧ a ≤ e then
          ⟨uninitializedGuid, target - (source :: rest).getLast (List.cons_ne_nil _ _)⟩
        else ⟨p.guid, target - p.baseAddr⟩) s := by
  induction rest generalizing source with
  | nil =>
      by_cases h : p.baseAddr ≤ source ∧ source ≤ e <;> simp [copyAlong, cellFor, encoded, h]
  | cons this rest ih =>
      by_cases h : p.baseAddr ≤ source ∧ source ≤ e
      · have hcell : cellFor p e target source = ⟨uninitializedGuid, target - source⟩ := by
          simp [cellFor, encoded, h]
        have hget : (get std source (cellFor p e target source)).run s = .ok target s := by
          rw [hcell, get_selfRelative]
          congr 1
          omega
        have hnext : (setCell std this source (cellFor p e target source)).run s =
            .ok (cellFor p e target this) s := by
          rw [hcell] at hget ⊢
          simp [setCell, ocrGuidIsUninitialized, hget, hset this]
        simp only [copyAlong, EStateM.run_bind, hnext, ih this]
        simp [h]
      · have hcell : cellFor p e target source = ⟨p.guid, target - p.baseAddr⟩ := by
          simp [cellFor, encoded, h]
        rw [hcell, copyAlong_guid std hreal]
        have hn : ¬ ∀ a ∈ source :: this :: rest, p.baseAddr ≤ a ∧ a ≤ e :=
          fun hall => h (hall source (by simp))
        rw [if_neg hn]

end Ocxxr.BasedPointer

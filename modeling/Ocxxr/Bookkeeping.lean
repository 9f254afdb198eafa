import Ocxxr.Library.SlotPrefix
import Ocxxr.Ocr

namespace Ocxxr.Bookkeeping

open Ocr SortedSearch SlotPrefix

def ptrdiffMax : Int := 2 ^ 63 - 1

def maxDbAcquireCount : Nat := 256

structure DbPair (G : Type) where
  guid : G
  baseAddr : Int
  deriving DecidableEq, Repr

variable {G : Type} [OcrGuid G]

def DbPair.ofGuid (guid : G) : DbPair G := ⟨guid, 0⟩

def DbPair.ofBase (baseAddr : Int) : DbPair G := ⟨errorGuid, baseAddr⟩

def compareGuids (a b : DbPair G) : Bool := ocrGuidIsLt a.guid b.guid

def compareBases (a b : DbPair G) : Bool := decide (a.baseAddr < b.baseAddr)

structure AcquiredDbInfo (G : Type) where
  acquiredDbCount : Nat
  dbsByGuid : Vector (DbPair G) maxDbAcquireCount
  dbsByAddr : Vector (DbPair G) maxDbAcquireCount

namespace AcquiredDbInfo

def byGuid (dbInfo : AcquiredDbInfo G) : List (DbPair G) :=
  live dbInfo.dbsByGuid dbInfo.acquiredDbCount

def byAddr (dbInfo : AcquiredDbInfo G) : List (DbPair G) :=
  live dbInfo.dbsByAddr dbInfo.acquiredDbCount

/-- The slot at index `k` counted from `dbs_by_guid_start()`: the array by address
begins where the array by GUID ends. -/
def guidSlot (dbInfo : AcquiredDbInfo G) (k : Nat) : Option (DbPair G) :=
  if k < maxDbAcquireCount then dbInfo.dbsByGuid[k]? else dbInfo.dbsByAddr[k - maxDbAcquireCount]?

def addrSlot (dbInfo : AcquiredDbInfo G) (k : Nat) : Option (DbPair G) := dbInfo.dbsByAddr[k]?

/-- The zero-initialised table of a new task; `NULL_GUID` is the all-zero GUID. -/
def fresh : AcquiredDbInfo G where
  acquiredDbCount := 0
  dbsByGuid := Vector.replicate maxDbAcquireCount ⟨nullGuid, 0⟩
  dbsByAddr := Vector.replicate maxDbAcquireCount ⟨nullGuid, 0⟩

end AcquiredDbInfo

abbrev BookM (G : Type) := EStateM Fault (AcquiredDbInfo G)

variable (std : StdAlgorithms (DbPair G))

def addDatablock (guid : G) (baseAddress : Int) : BookM G Unit := do
  if baseAddress = 0 then
    pure ()
  else
    let dbInfo ← get
    let gEnd := dbInfo.acquiredDbCount
    if std.binarySearch compareGuids (live dbInfo.dbsByGuid gEnd) (.ofGuid guid) then
      pure ()
    else
      assert (dbInfo.acquiredDbCount < maxDbAcquireCount) .acquiredTooMany
      let newInfo : DbPair G := ⟨guid, baseAddress⟩
      modify (fun s => { s with
        dbsByGuid := sortPrefix std compareGuids (store s.dbsByGuid gEnd newInfo) (gEnd + 1) })
      let aEnd := dbInfo.acquiredDbCount
      modify (fun s => { s with
        dbsByAddr := sortPrefix std compareBases (store s.dbsByAddr aEnd newInfo) (aEnd + 1) })
      modify (fun s => { s with acquiredDbCount := s.acquiredDbCount + 1 })

/-- `std::swap` is called on the two iterators, not on what they point to: afterwards
the end of the range is the position of the entry. -/
def removeDatablock (guid : G) : BookM G Unit := do
  if ocrGuidIsNull guid then
    pure ()
  else
    let dbInfo ← get
    let gEnd := dbInfo.acquiredDbCount
    let i := std.lowerBound compareGuids (live dbInfo.dbsByGuid gEnd) (.ofGuid guid)
    let entry ← access (dbInfo.guidSlot i)
    assert (ocrGuidIsEq guid entry.guid) .releasedUntracked
    let baseAddr := entry.baseAddr
    let (_i, gEnd) := (gEnd - 1, i)
    modify (fun s => { s with dbsByGuid := sortPrefix std compareGuids s.dbsByGuid gEnd })
    let aEnd := dbInfo.acquiredDbCount
    let j := std.lowerBound compareBases (live dbInfo.dbsByAddr aEnd) (.ofBase baseAddr)
    let entry ← access (dbInfo.addrSlot j)
    assert (baseAddr = entry.baseAddr) .matchingBaseNotFound
    let (_j, aEnd) := (aEnd - 1, j)
    modify (fun s => { s with dbsByAddr := sortPrefix std compareBases s.dbsByAddr aEnd })

def addressForGuid (guid : G) : BookM G Int := do
  assert (!ocrGuidIsNull guid) .queriedNullGuid
  let dbInfo ← get
  let gEnd := dbInfo.acquiredDbCount
  let i := std.lowerBound compareGuids (live dbInfo.dbsByGuid gEnd) (.ofGuid guid)
  assert (i ≠ gEnd) .lookupUntracked
  let entry ← access (dbInfo.guidSlot i)
  assert (ocrGuidIsEq guid entry.guid) .lookupMismatch
  pure entry.baseAddr

/-- The search of `GuidOffsetForAddress`: the entry with the closest base at or below
`dstAddr`, and the address where the next tracked datablock begins. -/
def closestDatablock (dstAddr : Int) : BookM G (DbPair G × Int) := do
  let dbInfo ← get
  let aEnd := dbInfo.acquiredDbCount
  let j := std.upperBound compareBases (live dbInfo.dbsByAddr aEnd) (.ofBase dstAddr)
  assert (j ≠ 0) .belowAllBases
  let i ← access (dbInfo.addrSlot (j - 1))
  let endAddr ← if j = aEnd then pure ptrdiffMax else do
    let next ← access (dbInfo.addrSlot j)
    pure next.baseAddr
  assert (j - 1 ≠ aEnd ∧ i.baseAddr ≤ dstAddr ∧ dstAddr ≤ endAddr) .basedPointerOutside
  pure (i, endAddr)

def guidOffsetForAddress (target source : Int) : BookM G (G × Int) := do
  if target = 0 then
    pure (nullGuid, 0)
  else
    let (i, endAddr) ← closestDatablock std target
    if i.baseAddr ≤ source ∧ source ≤ endAddr then
      pure (uninitializedGuid, target - source)
    else
      pure (i.guid, target - i.baseAddr)

end Ocxxr.Bookkeeping

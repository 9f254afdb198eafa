import Ocxxr.Library.AccessLog
import Ocxxr.ClosestBase
import Ocxxr.EntryRemoval

namespace Ocxxr.LookupTraces

open Ocr SortedSearch SlotPrefix Bookkeeping AcquiredTable BookkeepingSpec ClosestBase AccessLog

variable {G : Type} [OcrGuid G] (std : StdAlgorithms (DbPair G)) {s : AcquiredDbInfo G}

inductive Slot
  | guid (k : Nat)
  | addr (k : Nat)
  deriving DecidableEq, Repr

def Slot.index : Slot → Nat
  | .guid k => k
  | .addr k => k

abbrev LogM (G : Type) := Logging Fault (AcquiredDbInfo G) Slot

def inspect (slot : Slot) (contents : Option (DbPair G)) : LogM G (DbPair G) := do
  note [slot]
  (access contents : BookM G (DbPair G))

def check (c : Bool) (a : Assertion) : LogM G Unit := do (assert c a : BookM G Unit)

/-- The slots of a range handed to a standard algorithm, all of which it may inspect. -/
def scan (slot : Nat → Slot) (rangeEnd : Nat) : LogM G Unit := note ((List.range rangeEnd).map slot)

def loggedRemoveDatablock (guid : G) : LogM G Unit := do
  if ocrGuidIsNull guid then
    pure ()
  else
    let dbInfo ← get
    let gEnd := dbInfo.acquiredDbCount
    let i := std.lowerBound compareGuids (live dbInfo.dbsByGuid gEnd) (.ofGuid guid)
    let entry ← inspect (.guid i) (dbInfo.guidSlot i)
    check (ocrGuidIsEq guid entry.guid) .releasedUntracked
    let baseAddr := entry.baseAddr
    let (_i, gEnd) := (gEnd - 1, i)
    scan .guid gEnd
    modify (fun s => { s with dbsByGuid := sortPrefix std compareGuids s.dbsByGuid gEnd })
    let aEnd := dbInfo.acquiredDbCount
    scan .addr aEnd
    let j := std.lowerBound compareBases (live dbInfo.dbsByAddr aEnd) (.ofBase baseAddr)
    let entry ← inspect (.addr j) (dbInfo.addrSlot j)
    check (baseAddr = entry.baseAddr) .matchingBaseNotFound
    let (_j, aEnd) := (aEnd - 1, j)
    scan .addr aEnd
    modify (fun s => { s with dbsByAddr := sortPrefix std compareBases s.dbsByAddr aEnd })

def loggedAddressForGuid (guid : G) : LogM G Int := do
  check (!ocrGuidIsNull guid) .queriedNullGuid
  let dbInfo ← get
  let gEnd := dbInfo.acquiredDbCount
  let i := std.lowerBound compareGuids (live dbInfo.dbsByGuid gEnd) (.ofGuid guid)
  check (i ≠ gEnd) .lookupUntracked
  let entry ← inspect (.guid i) (dbInfo.guidSlot i)
  check (ocrGuidIsEq guid entry.guid) .lookupMismatch
  pure entry.baseAddr

def loggedClosestDatablock (dstAddr : Int) : LogM G (DbPair G × Int) := do
  let dbInfo ← get
  let aEnd := dbInfo.acquiredDbCount
  let j := std.upperBound compareBases (live dbInfo.dbsByAddr aEnd) (.ofBase dstAddr)
  check (j ≠ 0) .belowAllBases
  let i ← inspect (.addr (j - 1)) (dbInfo.addrSlot (j - 1))
  let endAddr ← if j = aEnd then pure ptrdiffMax else do
    let next ← inspect (.addr j) (dbInfo.addrSlot j)
    pure next.baseAddr
  check (j - 1 ≠ aEnd ∧ i.baseAddr ≤ dstAddr ∧ dstAddr ≤ endAddr) .basedPointerOutside
  pure (i, endAddr)

def loggedGuidOffsetForAddress (target source : Int) : LogM G (G × Int) := do
  if target = 0 then
    pure (nullGuid, 0)
  else
    let (i, endAddr) ← loggedClosestDatablock std target
    if i.baseAddr ≤ source ∧ source ≤ endAddr then
      pure (uninitializedGuid, target - source)
    else
      pure (i.guid, target - i.baseAddr)

omit [OcrGuid G] in
@[simp] theorem erase_inspect (slot : Slot) (contents : Option (DbPair G)) :
    erase (inspect slot contents) = access contents := by
  simp [inspect]

omit [OcrGuid G] in
@[simp] theorem erase_check (c : Bool) (a : Assertion) : erase (check c a : LogM G Unit) = assert c a := rfl

omit [OcrGuid G] in
@[simp] theorem erase_scan (slot : Nat → Slot) (k : Nat) : erase (scan slot k : LogM G Unit) = pure () := rfl

theorem erase_removeDatablock (g : G) : erase (loggedRemoveDatablock std g) = removeDatablock std g := by
  simp [loggedRemoveDatablock, removeDatablock]

theorem erase_addressForGuid (g : G) : erase (loggedAddressForGuid std g) = addressForGuid std g := by
  simp [loggedAddressForGuid, addressForGuid]

theorem erase_closestDatablock (t : Int) :
    erase (loggedClosestDatablock std t) = closestDatablock std t := by
  simp [loggedClosestDatablock, closestDatablock]

theorem erase_guidOffsetForAddress (target source : Int) :
    erase (loggedGuidOffsetForAddress std target source) = guidOffsetForAddress std target source := by
  simp [loggedGuidOffsetForAddress, guidOffsetForAddress, erase_closestDatablock]

section Confinement

variable {P : Slot → Prop}

omit [OcrGuid G] in
@[simp] theorem confined_inspect (slot : Slot) (contents : Option (DbPair G)) :
    Confined P (inspect slot contents) s ↔ P slot := by
  simp [inspect, confined_bind]

omit [OcrGuid G] in
@[simp] theorem confined_check (c : Bool) (a : Assertion) : Confined P (check c a : LogM G Unit) s :=
  confined_lift _

omit [OcrGuid G] in
@[simp] theorem confined_scan (slot : Nat → Slot) (k : Nat) :
    Confined P (scan slot k : LogM G Unit) s ↔ ∀ i < k, P (slot i) := by
  simp [scan]

end Confinement

def Live (s : AcquiredDbInfo G) (slot : Slot) : Prop := slot.index < s.acquiredDbCount

theorem lowerBound_lt_count (hs : Sorted s) (g : G) :
    std.lowerBound compareGuids s.byGuid (.ofGuid g) < s.acquiredDbCount ↔
      ∃ p, Tracked s p ∧ g ≤ p.guid := by
  rw [← hs.byGuid_length]
  exact lowerBound_lt_iff std (hs.guid_sorted.imp le_of_lt) (.ofGuid g)

theorem lowerBound_base_lt_count (hs : Sorted s) {p : DbPair G} (hp : Tracked s p) :
    std.lowerBound compareBases s.byAddr (.ofBase p.baseAddr) < s.acquiredDbCount := by
  obtain ⟨hlt, _⟩ := lowerBound_base std hs hp
  rwa [hs.byAddr_length] at hlt

/-- A removal inspects the slot found, whether or not it is live; what it inspects
after that is. -/
theorem removeDatablock_confined (hs : Sorted s) {g : G} (hnull : g ≠ nullGuid) :
    Confined (Live s) (loggedRemoveDatablock std g) s ↔ ∃ p, Tracked s p ∧ g ≤ p.guid := by
  rw [← lowerBound_lt_count std hs]
  simp only [loggedRemoveDatablock, ocrGuidIsNull, hnull, decide_false, Bool.false_eq_true, if_false,
    confined_bind, confined_get, erase_get, EStateM.run_get, confined_inspect]
  constructor
  · rintro ⟨_, h⟩
    exact (h s s rfl).1
  · intro hi
    refine ⟨trivial, ?_⟩
    rintro _ _ ⟨⟩
    refine ⟨hi, ?_⟩
    simp only [erase_inspect, run_access_ok]
    rintro p _ ⟨hslot, rfl⟩
    have hlt := hs.byGuid_length.symm ▸ hi
    have he := hs.guidSlot_eq hlt
    simp only [AcquiredDbInfo.byGuid] at he
    rw [he] at hslot
    cases hslot
    have hj := lowerBound_base_lt_count std hs (List.getElem_mem hlt)
    simp only [AcquiredDbInfo.byAddr, AcquiredDbInfo.byGuid] at hi hj
    simp only [confined_check, erase_check, run_assert_ok, confined_scan, erase_scan, confined_modify,
      erase_modify, Live, Slot.index]
    simp only [EStateM.run_pure, EStateM.Result.ok.injEq, true_and]
    rintro _ _ ⟨_, rfl⟩
    refine ⟨fun k hk => hk.trans hi, ?_⟩
    have hrest : ∀ k, k < _ → k < _ := fun k hk => hk.trans hj
    simpa using ⟨hj, fun _ _ _ => hrest⟩

theorem addressForGuid_confined (hs : Sorted s) (g : G) :
    Confined (Live s) (loggedAddressForGuid std g) s := by
  have hle := lowerBound_le std (hs.guid_sorted.imp le_of_lt) (.ofGuid g)
  rw [hs.byGuid_length] at hle
  simp only [loggedAddressForGuid, confined_bind, confined_check, erase_check, run_assert_ok, confined_get,
    erase_get, EStateM.run_get, confined_inspect, decide_eq_true_eq, true_and]
  rintro _ _ ⟨_, rfl⟩ _ _ ⟨⟩ _ _ ⟨hend, rfl⟩
  refine ⟨lt_of_le_of_ne hle hend, ?_⟩
  simp

theorem closestDatablock_confined (hs : Sorted s) (t : Int) :
    Confined (Live s) (loggedClosestDatablock std t) s := by
  have hle := upperBound_byAddr_le std hs t
  rw [hs.byAddr_length] at hle
  simp only [loggedClosestDatablock, confined_bind, confined_check, erase_check, run_assert_ok, confined_get,
    erase_get, EStateM.run_get, confined_inspect, decide_eq_true_eq, true_and]
  rintro _ _ ⟨⟩ _ _ ⟨hstart, rfl⟩
  refine ⟨by simp only [Live, Slot.index, AcquiredDbInfo.byAddr] at hle ⊢; omega, ?_⟩
  intro i s' _
  split
  next => simp [confined_bind]
  next hend =>
    simp only [AcquiredDbInfo.byAddr] at hle
    have hlive := lt_of_le_of_ne hle hend
    simpa [confined_bind, Live, Slot.index] using hlive

theorem guidOffsetForAddress_confined (hs : Sorted s) (target source : Int) :
    Confined (Live s) (loggedGuidOffsetForAddress std target source) s := by
  by_cases hnull : target = 0
  · simp [loggedGuidOffsetForAddress, hnull]
  simp only [loggedGuidOffsetForAddress, hnull, if_false, confined_bind]
  refine ⟨closestDatablock_confined std hs target, ?_⟩
  rintro ⟨p, e⟩ s' _
  by_cases h : p.baseAddr ≤ source ∧ source ≤ e <;> simp [h]

inductive Lookup (G : Type) [OcrGuid G]
  | removeDatablock (guid : G) (hnull : guid ≠ nullGuid)
  | addressForGuid (guid : G) (hnull : guid ≠ nullGuid)
  | guidOffsetForAddress (target source : Int) (hnull : target ≠ 0)

namespace Lookup

def inspected (s : AcquiredDbInfo G) : Lookup G → List Slot
  | .removeDatablock guid _ => log (loggedRemoveDatablock std guid) s
  | .addressForGuid guid _ => log (loggedAddressForGuid std guid) s
  | .guidOffsetForAddress target source _ => log (loggedGuidOffsetForAddress std target source) s

/-- A GUID that is not tracked trips an assertion, and the table is left as it is. -/
def RejectsUnknown (s : AcquiredDbInfo G) : Lookup G → Prop
  | .removeDatablock guid _ => (¬ ∃ p, Tracked s p ∧ p.guid = guid) →
      ∃ a, (Bookkeeping.removeDatablock std guid).run s = .error (.assertion a) s
  | .addressForGuid guid _ => (¬ ∃ p, Tracked s p ∧ p.guid = guid) →
      ∃ a, (Bookkeeping.addressForGuid std guid).run s = .error (.assertion a) s
  | .guidOffsetForAddress _ _ _ => True

end Lookup

structure Safe (s : AcquiredDbInfo G) (op : Lookup G) : Prop where
  inspects_live : ∀ slot ∈ op.inspected std s, slot.index < s.acquiredDbCount
  rejects : op.RejectsUnknown std s

theorem rejectsUnknown (hs : Coherent s) (op : Lookup G) : op.RejectsUnknown std s := by
  cases op with
  | removeDatablock guid hnull =>
      intro hg
      exact ⟨_, removeDatablock_untracked std hs hnull hg⟩
  | addressForGuid guid hnull =>
      intro hg
      rcases addressForGuid_untracked std hs.toSorted hnull hg with h | h
      · exact ⟨_, h⟩
      · exact ⟨_, h⟩
  | guidOffsetForAddress target source hnull => trivial

/-- Every lookup is safe, but for a removal that finds the end of its range. -/
theorem lookup_safe_iff (hs : Reachable std s) (op : Lookup G) :
    Safe std s op ↔
      ∀ guid hnull, op = .removeDatablock guid hnull → ∃ p, Tracked s p ∧ guid ≤ p.guid := by
  have hc := hs.coherent
  cases op with
  | removeDatablock guid hnull =>
      have hiff := removeDatablock_confined std hc.toSorted hnull
      constructor
      · rintro h _ _ ⟨⟩
        exact hiff.mp h.inspects_live
      · intro h
        exact ⟨hiff.mpr (h guid hnull rfl), rejectsUnknown std hc _⟩
  | addressForGuid guid hnull =>
      have hsafe : Safe std s (.addressForGuid guid hnull) :=
        ⟨addressForGuid_confined std hc.toSorted guid, rejectsUnknown std hc _⟩
      simp [hsafe]
  | guidOffsetForAddress target source hnull =>
      have hsafe : Safe std s (.guidOffsetForAddress target source hnull) :=
        ⟨guidOffsetForAddress_confined std hc.toSorted target source, rejectsUnknown std hc _⟩
      simp [hsafe]

section Entries

open EntryRemoval

theorem reachable_oneEntry : Reachable reference oneEntry := by
  apply Reachable.add entry.guid entry.baseAddr .fresh
  apply addDatablock_new reference fresh_coherent.toSorted (by decide) _ (by decide)
  rintro ⟨p, hp, _⟩
  exact not_tracked_fresh p hp

def removal : Lookup Guid64 := .removeDatablock entry.guid (by decide)

theorem lookup_safe_iff_entry : Reachable reference oneEntry ∧ Safe reference oneEntry removal := by
  refine ⟨reachable_oneEntry, (lookup_safe_iff reference reachable_oneEntry removal).mpr ?_⟩
  rintro guid _ h
  cases h
  exact ⟨entry, tracked_single entry, le_rfl⟩

theorem lookup_safe_counterexample :
    Reachable reference (.fresh : AcquiredDbInfo Guid64) ∧
      .guid 0 ∈ removal.inspected reference .fresh ∧ ¬ Safe reference .fresh removal := by
  have hslot : .guid 0 ∈ removal.inspected reference .fresh := by decide
  refine ⟨.fresh, hslot, ?_⟩
  intro h
  exact absurd (h.inspects_live _ hslot) (Nat.lt_irrefl 0)

end Entries

end Ocxxr.LookupTraces

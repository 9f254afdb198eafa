import Ocxxr.BookkeepingSpec

namespace Ocxxr.EntryRemoval

open Ocr SortedSearch Bookkeeping AcquiredTable BookkeepingSpec

variable {G : Type} [OcrGuid G] (std : StdAlgorithms (DbPair G)) {s : AcquiredDbInfo G}

/-- The precondition of a removal: both orders strict, over the same pairs. -/
structure StrictlySorted (s : AcquiredDbInfo G) : Prop extends Sorted s where
  addr_strict : s.byAddr.Pairwise (fun a b => a.baseAddr < b.baseAddr)

/-- From `s` to `s'` the entry `p` is gone, nothing else has changed, and its GUID can
be entered again. -/
structure Removed (s s' : AcquiredDbInfo G) (p : DbPair G) : Prop where
  count : s'.acquiredDbCount + 1 = s.acquiredDbCount
  byGuid : (p :: s'.byGuid).Perm s.byGuid
  byAddr : (p :: s'.byAddr).Perm s.byAddr
  sorted : StrictlySorted s'
  others : ∀ q, Tracked s q → q.guid ≠ p.guid → q.guid ≠ nullGuid →
    (addressForGuid std q.guid).run s' = .ok q.baseAddr s'
  rejected : ∃ a, (addressForGuid std p.guid).run s' = .error (.assertion a) s'
  again : ∀ b, b ≠ 0 → ∃ s'', (addDatablock std p.guid b).run s' = .ok () s'' ∧
    (addressForGuid std p.guid).run s'' = .ok b s''

theorem removeDatablock_unchanged (hs : StrictlySorted s) {p : DbPair G} (hp : Tracked s p) :
    (removeDatablock std p.guid).run s = .ok () s := by
  by_cases hnull : p.guid = nullGuid
  · rw [hnull]
    exact removeDatablock_null std s
  · have hbases := nodup_of_strict DbPair.baseAddr hs.addr_strict
    rw [removeDatablock_tracked std hs.toSorted hp hnull, resorted_eq_self std hs.toSorted hbases]

theorem not_removed_self (s : AcquiredDbInfo G) (p : DbPair G) : ¬ Removed std s s p := by
  intro h
  have hc := h.count
  omega

/-- `RemoveDatablock` never removes: it returns with the table as it was. -/
theorem removeDatablock_never_removes (hs : StrictlySorted s) {p : DbPair G} (hp : Tracked s p) :
    (removeDatablock std p.guid).run s = .ok () s ∧
      ¬ ∃ s', (removeDatablock std p.guid).run s = .ok () s' ∧ Removed std s s' p := by
  have hrun := removeDatablock_unchanged std hs hp
  refine ⟨hrun, ?_⟩
  rintro ⟨s', hs', hr⟩
  rw [hrun] at hs'
  cases hs'
  exact not_removed_self std s p hr

section OneEntry

variable (p : DbPair Guid64)

theorem byGuid_single : (inserted reference .fresh p).byGuid = [p] := by
  rw [byGuid_inserted reference (by decide)]
  rfl

theorem byAddr_single : (inserted reference .fresh p).byAddr = [p] := by
  rw [byAddr_inserted reference (by decide)]
  rfl

theorem tracked_single : Tracked (inserted reference .fresh p) p := by simp [Tracked, byGuid_single]

theorem eq_of_tracked_single {q : DbPair Guid64} (h : Tracked (inserted reference .fresh p) q) : q = p := by
  rwa [Tracked, byGuid_single, List.mem_singleton] at h

theorem single_coherent (h : p.baseAddr ≠ 0) : Coherent (inserted reference .fresh p) :=
  inserted_coherent reference fresh_coherent (by decide) h (fun q hq => absurd hq (not_tracked_fresh q))

theorem single_strictlySorted (h : p.baseAddr ≠ 0) : StrictlySorted (inserted reference .fresh p) where
  toSorted := (single_coherent p h).toSorted
  addr_strict := by simp [byAddr_single]

def entry : DbPair Guid64 := ⟨⟨5⟩, 4096⟩

def oneEntry : AcquiredDbInfo Guid64 := inserted reference .fresh entry

theorem oneEntry_strictlySorted : StrictlySorted oneEntry := single_strictlySorted entry (by decide)

theorem removeDatablock_never_removes_entry :
    (removeDatablock reference entry.guid).run oneEntry = .ok () oneEntry ∧
      ¬ ∃ s', (removeDatablock reference entry.guid).run oneEntry = .ok () s' ∧
        Removed reference oneEntry s' entry :=
  removeDatablock_never_removes reference oneEntry_strictlySorted (tracked_single entry)

theorem removeDatablock_counterexample :
    StrictlySorted oneEntry ∧ Tracked oneEntry entry ∧
      (∃ s', (removeDatablock reference entry.guid).run oneEntry = .ok () s' ∧
        s'.acquiredDbCount = 1 ∧ (addressForGuid reference entry.guid).run s' = .ok 4096 s') ∧
      ¬ ∃ s', (removeDatablock reference entry.guid).run oneEntry = .ok () s' ∧
        Removed reference oneEntry s' entry := by
  have hrun := removeDatablock_unchanged reference oneEntry_strictlySorted (tracked_single entry)
  have hfind := addressForGuid_tracked reference oneEntry_strictlySorted.toSorted (tracked_single entry)
    (by decide)
  refine ⟨oneEntry_strictlySorted, tracked_single entry, ⟨oneEntry, hrun, rfl, hfind⟩, ?_⟩
  rintro ⟨s', hs', hr⟩
  rw [hrun] at hs'
  cases hs'
  exact not_removed_self reference oneEntry entry hr

end OneEntry

end Ocxxr.EntryRemoval

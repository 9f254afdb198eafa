import Ocxxr.Bookkeeping

namespace Ocxxr.AcquiredTable

open Ocr SortedSearch SlotPrefix Bookkeeping

variable {G : Type} [OcrGuid G] (std : StdAlgorithms (DbPair G))

theorem compareGuids_eq : (compareGuids : DbPair G → DbPair G → Bool) = byKey DbPair.guid := rfl

omit [OcrGuid G] in
theorem compareBases_eq : (compareBases : DbPair G → DbPair G → Bool) = byKey DbPair.baseAddr := rfl

/-- Two orders of the same pairs, by GUID and by base address. -/
structure Sorted (s : AcquiredDbInfo G) : Prop where
  count_le : s.acquiredDbCount ≤ maxDbAcquireCount
  guid_sorted : s.byGuid.Pairwise (fun a b => a.guid < b.guid)
  addr_sorted : s.byAddr.Pairwise (fun a b => a.baseAddr ≤ b.baseAddr)
  perm : s.byAddr.Perm s.byGuid

/-- The invariant of the bookkeeping: moreover nothing but zeros behind the live ranges. -/
structure Coherent (s : AcquiredDbInfo G) : Prop extends Sorted s where
  base_ne_zero : ∀ p ∈ s.byGuid, p.baseAddr ≠ 0
  guid_rest : s.dbsByGuid.toList.drop s.acquiredDbCount =
    List.replicate (maxDbAcquireCount - s.acquiredDbCount) ⟨nullGuid, 0⟩
  addr_rest : s.dbsByAddr.toList.drop s.acquiredDbCount =
    List.replicate (maxDbAcquireCount - s.acquiredDbCount) ⟨nullGuid, 0⟩

def Tracked (s : AcquiredDbInfo G) (p : DbPair G) : Prop := p ∈ s.byGuid

theorem fresh_coherent : Coherent (AcquiredDbInfo.fresh (G := G)) where
  count_le := Nat.zero_le _
  guid_sorted := by simp [AcquiredDbInfo.byGuid, AcquiredDbInfo.fresh, live]
  addr_sorted := by simp [AcquiredDbInfo.byAddr, AcquiredDbInfo.fresh, live]
  perm := by simp [AcquiredDbInfo.byAddr, AcquiredDbInfo.byGuid, AcquiredDbInfo.fresh, live]
  base_ne_zero := by simp [AcquiredDbInfo.byGuid, AcquiredDbInfo.fresh, live]
  guid_rest := by simp [AcquiredDbInfo.fresh]
  addr_rest := by simp [AcquiredDbInfo.fresh]

theorem not_tracked_fresh (p : DbPair G) : ¬ Tracked AcquiredDbInfo.fresh p := by
  simp [Tracked, AcquiredDbInfo.byGuid, AcquiredDbInfo.fresh, live]

omit [OcrGuid G] in
theorem addrSlot_eq {s : AcquiredDbInfo G} {i : Nat} (hi : i < s.byAddr.length) :
    s.addrSlot i = some s.byAddr[i] :=
  slot_eq_live hi

namespace Sorted

variable {s : AcquiredDbInfo G} (hs : Sorted s)

include hs

theorem byGuid_length : s.byGuid.length = s.acquiredDbCount := live_length hs.count_le

theorem byAddr_length : s.byAddr.length = s.acquiredDbCount := live_length hs.count_le

theorem mem_byAddr {p : DbPair G} : p ∈ s.byAddr ↔ Tracked s p := hs.perm.mem_iff

theorem guid_nodup : (s.byGuid.map DbPair.guid).Nodup := nodup_of_strict DbPair.guid hs.guid_sorted

theorem tracked_unique {p q : DbPair G} (hp : Tracked s p) (hq : Tracked s q) (h : p.guid = q.guid) :
    p = q :=
  List.inj_on_of_nodup_map hs.guid_nodup hp hq h

theorem guidSlot_eq {i : Nat} (hi : i < s.byGuid.length) : s.guidSlot i = some s.byGuid[i] := by
  have hn : i < maxDbAcquireCount := by have := hs.byGuid_length; have := hs.count_le; omega
  rw [AcquiredDbInfo.guidSlot, if_pos hn]
  exact slot_eq_live hi

end Sorted

/-- The slot just behind the live range by GUID: a zeroed one, or, when the table is
full, the first slot by address. -/
theorem Coherent.guidSlot_end {s : AcquiredDbInfo G} (hs : Coherent s) :
    ∃ p, s.guidSlot s.acquiredDbCount = some p ∧
    (p = ⟨nullGuid, 0⟩ ∨ Tracked s p) := by
  rcases Nat.lt_or_eq_of_le hs.count_le with hlt | he
  · refine ⟨⟨nullGuid, 0⟩, ?_, .inl rfl⟩
    have h := congrArg (·[0]?) hs.guid_rest
    have h0 : 0 < maxDbAcquireCount - s.acquiredDbCount := by omega
    simpa [AcquiredDbInfo.guidSlot, hlt, h0] using h
  · have h0 : 0 < s.byAddr.length := by rw [hs.byAddr_length, he]; decide
    refine ⟨s.byAddr[0], ?_, .inr (hs.mem_byAddr.mp (List.getElem_mem h0))⟩
    have h := addrSlot_eq h0
    simpa [AcquiredDbInfo.guidSlot, he, AcquiredDbInfo.addrSlot] using h

theorem Coherent.ext_tracked {s s' : AcquiredDbInfo G} (hs : Coherent s) (hs' : Coherent s')
    (h : ∀ p, Tracked s p ↔ Tracked s' p)
    (hbases : ∀ p q, Tracked s p → Tracked s q → p.baseAddr = q.baseAddr → p = q) : s = s' := by
  have hnodup : s.byGuid.Nodup := hs.guid_nodup.of_map
  have hperm : s.byGuid.Perm s'.byGuid :=
    (List.perm_ext_iff_of_nodup hnodup hs'.guid_nodup.of_map).mpr h
  have hguid := eq_of_perm_of_strict DbPair.guid hperm hs.guid_sorted hs'.guid_sorted
  have hcount : s.acquiredDbCount = s'.acquiredDbCount := by
    rw [← hs.byGuid_length, ← hs'.byGuid_length, hguid]
  have hstrict : ∀ t, Coherent t → t.byGuid.Perm s.byGuid →
      t.byAddr.Pairwise (fun a b => a.baseAddr < b.baseAddr) := by
    intro t ht hp
    apply strict_of_nodup DbPair.baseAddr ht.addr_sorted
    have hinj : (s.byGuid.map DbPair.baseAddr).Nodup :=
      hnodup.map_on (fun p hp q hq he => hbases p q hp hq he)
    exact ((ht.perm.trans hp).map DbPair.baseAddr).nodup_iff.mpr hinj
  have haddr : s.byAddr = s'.byAddr :=
    eq_of_perm_of_strict DbPair.baseAddr (hs.perm.trans (hperm.trans hs'.perm.symm))
      (hstrict s hs (.refl _)) (hstrict s' hs' hperm.symm)
  obtain ⟨count, slots, slots'⟩ := s
  obtain ⟨count', slots₁, slots₁'⟩ := s'
  obtain rfl : count = count' := hcount
  congr
  · exact ext_live count hguid (hs.guid_rest.trans hs'.guid_rest.symm)
  · exact ext_live count haddr (hs.addr_rest.trans hs'.addr_rest.symm)

def inserted (s : AcquiredDbInfo G) (p : DbPair G) : AcquiredDbInfo G where
  acquiredDbCount := s.acquiredDbCount + 1
  dbsByGuid := sortPrefix std compareGuids (store s.dbsByGuid s.acquiredDbCount p) (s.acquiredDbCount + 1)
  dbsByAddr := sortPrefix std compareBases (store s.dbsByAddr s.acquiredDbCount p) (s.acquiredDbCount + 1)

theorem byGuid_inserted {s : AcquiredDbInfo G} (hc : s.acquiredDbCount < maxDbAcquireCount) (p : DbPair G) :
    (inserted std s p).byGuid = std.sort compareGuids (s.byGuid ++ [p]) := by
  simp only [AcquiredDbInfo.byGuid, inserted]
  rw [live_sortPrefix std _ hc, live_store hc]

theorem byAddr_inserted {s : AcquiredDbInfo G} (hc : s.acquiredDbCount < maxDbAcquireCount) (p : DbPair G) :
    (inserted std s p).byAddr = std.sort compareBases (s.byAddr ++ [p]) := by
  simp only [AcquiredDbInfo.byAddr, inserted]
  rw [live_sortPrefix std _ hc, live_store hc]

theorem byGuid_inserted_perm {s : AcquiredDbInfo G} (hc : s.acquiredDbCount < maxDbAcquireCount)
    (p : DbPair G) : (inserted std s p).byGuid.Perm (p :: s.byGuid) := by
  rw [byGuid_inserted std hc]
  exact (std.sort_perm _ _).trans List.perm_append_comm

theorem tracked_inserted {s : AcquiredDbInfo G} (hc : s.acquiredDbCount < maxDbAcquireCount)
    (p q : DbPair G) : Tracked (inserted std s p) q ↔ q = p ∨ Tracked s q := by
  rw [Tracked, (byGuid_inserted_perm std hc p).mem_iff, List.mem_cons, Tracked]

theorem inserted_coherent {s : AcquiredDbInfo G} (hs : Coherent s)
    (hc : s.acquiredDbCount < maxDbAcquireCount) {p : DbPair G} (hp : p.baseAddr ≠ 0)
    (hnew : ∀ q, Tracked s q → q.guid ≠ p.guid) : Coherent (inserted std s p) where
  count_le := hc
  guid_sorted := by
    rw [byGuid_inserted std hc, compareGuids_eq]
    apply sort_strict
    rw [List.map_append, List.nodup_append]
    refine ⟨hs.guid_nodup, by simp, ?_⟩
    intro g hg g' hg'
    obtain ⟨q, hq, rfl⟩ := List.mem_map.mp hg
    obtain rfl : g' = p.guid := by simpa using hg'
    exact hnew q hq
  addr_sorted := by
    rw [byAddr_inserted std hc, compareBases_eq]
    exact sort_sorted_key std _ _
  perm := by
    rw [byGuid_inserted std hc, byAddr_inserted std hc]
    exact (std.sort_perm _ _).trans ((hs.perm.append_right [p]).trans (std.sort_perm _ _).symm)
  base_ne_zero := by
    intro q hq
    rcases (tracked_inserted std hc p q).mp hq with rfl | hq
    · exact hp
    · exact hs.base_ne_zero q hq
  guid_rest := rest_inserted std _ hc hs.guid_rest p
  addr_rest := rest_inserted std _ hc hs.addr_rest p

/-- The table after the entry for a base has been "removed": both arrays are resorted
up to the position of the entry. -/
def resorted (s : AcquiredDbInfo G) (baseAddr : Int) : AcquiredDbInfo G where
  acquiredDbCount := s.acquiredDbCount
  dbsByGuid := s.dbsByGuid
  dbsByAddr := sortPrefix std compareBases s.dbsByAddr
    (std.lowerBound compareBases s.byAddr (.ofBase baseAddr))

section Resorted

variable {s : AcquiredDbInfo G}

theorem lowerBound_byAddr_le (hs : Sorted s) (b : Int) :
    std.lowerBound compareBases s.byAddr (.ofBase b) ≤ s.acquiredDbCount := by
  have h := lowerBound_le std hs.addr_sorted (.ofBase b)
  rwa [hs.byAddr_length] at h

theorem byAddr_resorted (hs : Sorted s) (b : Int) :
    ∃ j, (resorted std s b).byAddr = std.sort compareBases (s.byAddr.take j) ++ s.byAddr.drop j := by
  have hj := lowerBound_byAddr_le std hs b
  refine ⟨std.lowerBound compareBases s.byAddr (.ofBase b), ?_⟩
  have htake : s.byAddr.take _ = _ := live_take hj
  rw [htake]
  exact live_sortPrefix_shorter std compareBases hj hs.count_le

theorem byAddr_resorted_perm (hs : Sorted s) (b : Int) :
    (resorted std s b).byAddr.Perm s.byAddr := by
  obtain ⟨j, hj⟩ := byAddr_resorted std hs b
  rw [hj]
  have h := (std.sort_perm compareBases (s.byAddr.take j)).append_right (s.byAddr.drop j)
  rwa [List.take_append_drop] at h

theorem resorted_coherent (hs : Coherent s) (b : Int) : Coherent (resorted std s b) where
  count_le := hs.count_le
  guid_sorted := hs.guid_sorted
  addr_sorted := by
    obtain ⟨j, hj⟩ := byAddr_resorted std hs.toSorted b
    have h := hs.addr_sorted
    rw [← List.take_append_drop j s.byAddr, List.pairwise_append] at h
    rw [hj, List.pairwise_append, compareBases_eq]
    refine ⟨sort_sorted_key std _ _, h.2.1, ?_⟩
    intro p hp q hq
    exact h.2.2 p ((std.sort_perm _ _).mem_iff.mp hp) q hq
  perm := (byAddr_resorted_perm std hs.toSorted b).trans hs.perm
  base_ne_zero := hs.base_ne_zero
  guid_rest := hs.guid_rest
  addr_rest :=
    (drop_sortPrefix std _ (lowerBound_byAddr_le std hs.toSorted b) hs.count_le).trans hs.addr_rest

theorem resorted_eq_self (hs : Sorted s) (hbases : (s.byAddr.map DbPair.baseAddr).Nodup) (b : Int) :
    resorted std s b = s := by
  have hj := lowerBound_byAddr_le std hs b
  have hsort : sortPrefix std compareBases s.dbsByAddr
      (std.lowerBound compareBases s.byAddr (.ofBase b)) = s.dbsByAddr := by
    apply sortPrefix_eq_self std _ (hj.trans hs.count_le)
    rw [compareBases_eq]
    apply sort_eq_self
    rw [← compareBases_eq, ← live_take hj]
    exact (strict_of_nodup _ hs.addr_sorted hbases).take
  rw [resorted, hsort]

end Resorted

end Ocxxr.AcquiredTable

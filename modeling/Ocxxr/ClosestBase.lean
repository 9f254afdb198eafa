import Ocxxr.AcquiredTable

namespace Ocxxr.ClosestBase

open Ocr SortedSearch SlotPrefix Bookkeeping AcquiredTable

variable {G : Type} [OcrGuid G] (std : StdAlgorithms (DbPair G)) {s : AcquiredDbInfo G}

/-- `p` has the greatest tracked base not above `t`, and `e` is the next base above
`t`, or the largest address when there is none. -/
structure Closest (s : AcquiredDbInfo G) (t : Int) (p : DbPair G) (e : Int) : Prop where
  tracked : Tracked s p
  base_le : p.baseAddr ≤ t
  greatest : ∀ q, Tracked s q → q.baseAddr ≤ t → q.baseAddr ≤ p.baseAddr
  next : (∃ q, Tracked s q ∧ q.baseAddr = e) ∧ t < e ∧ (∀ q, Tracked s q → t < q.baseAddr → e ≤ q.baseAddr) ∨
    e = ptrdiffMax ∧ ∀ q, Tracked s q → q.baseAddr ≤ t

theorem byAddr_le {i j : Nat} (hs : Sorted s) (hi : i < s.byAddr.length) (hj : j < s.byAddr.length)
    (hij : i ≤ j) : s.byAddr[i].baseAddr ≤ s.byAddr[j].baseAddr := by
  rcases Nat.lt_or_eq_of_le hij with h | rfl
  · exact List.pairwise_iff_getElem.mp hs.addr_sorted i j hi hj h
  · exact le_rfl

theorem lt_upperBound_byAddr (hs : Sorted s) (t : Int) {i : Nat} (hi : i < s.byAddr.length) :
    i < std.upperBound compareBases s.byAddr (.ofBase t) ↔ s.byAddr[i].baseAddr ≤ t :=
  lt_upperBound_iff std hs.addr_sorted (.ofBase t) hi

theorem upperBound_byAddr_le (hs : Sorted s) (t : Int) :
    std.upperBound compareBases s.byAddr (.ofBase t) ≤ s.byAddr.length :=
  upperBound_le std hs.addr_sorted (.ofBase t)

theorem closest_of_upperBound (hs : Sorted s) {t : Int} {j : Nat}
    (hj : std.upperBound compareBases s.byAddr (.ofBase t) = j + 1) :
    ∃ h : j < s.byAddr.length, Closest s t s.byAddr[j]
      (if h' : j + 1 < s.byAddr.length then s.byAddr[j + 1].baseAddr else ptrdiffMax) := by
  have hle := upperBound_byAddr_le std hs t
  rw [hj] at hle
  refine ⟨hle, hs.mem_byAddr.mp (List.getElem_mem hle), ?_, ?_, ?_⟩
  · exact (lt_upperBound_byAddr std hs t hle).mp (by omega)
  · intro q hq hqt
    obtain ⟨k, hk, rfl⟩ := List.getElem_of_mem (hs.mem_byAddr.mpr hq)
    have hkj := (lt_upperBound_byAddr std hs t hk).mpr hqt
    exact byAddr_le hs hk hle (by omega)
  · split
    next h =>
      have hgt := mt (lt_upperBound_byAddr std hs t h).mpr (by omega)
      refine .inl ⟨⟨_, hs.mem_byAddr.mp (List.getElem_mem h), rfl⟩, not_le.mp hgt, ?_⟩
      intro q hq hqt
      obtain ⟨k, hk, rfl⟩ := List.getElem_of_mem (hs.mem_byAddr.mpr hq)
      have hkj := mt (lt_upperBound_byAddr std hs t hk).mp (not_le.mpr hqt)
      exact byAddr_le hs h hk (by omega)
    next h =>
      refine .inr ⟨rfl, ?_⟩
      intro q hq
      obtain ⟨k, hk, rfl⟩ := List.getElem_of_mem (hs.mem_byAddr.mpr hq)
      exact (lt_upperBound_byAddr std hs t hk).mp (by omega)

theorem closestDatablock_found (hs : Sorted s) {t : Int} (ht : t ≤ ptrdiffMax)
    (hbelow : ∃ q, Tracked s q ∧ q.baseAddr ≤ t) :
    ∃ p e, (closestDatablock std t).run s = .ok (p, e) s ∧ Closest s t p e := by
  obtain ⟨q, hq, hqt⟩ := hbelow
  obtain ⟨k, hk, rfl⟩ := List.getElem_of_mem (hs.mem_byAddr.mpr hq)
  have hpos := (lt_upperBound_byAddr std hs t hk).mpr hqt
  obtain ⟨j, hj⟩ := Nat.exists_eq_succ_of_ne_zero (Nat.ne_of_gt (Nat.zero_lt_of_lt hpos))
  obtain ⟨hlt, hc⟩ := closest_of_upperBound std hs hj
  refine ⟨_, _, ?_, hc⟩
  have hle : t ≤ (if h : j + 1 < s.byAddr.length then s.byAddr[j + 1].baseAddr else ptrdiffMax) := by
    rcases hc.next with ⟨_, hlt', _⟩ | ⟨he, _⟩
    · exact hlt'.le
    · exact ht.trans he.ge
  have hbase := hc.base_le
  have hslot := addrSlot_eq hlt
  have hlen := hs.byAddr_length
  have hne : j ≠ s.acquiredDbCount := by omega
  by_cases h : j + 1 < s.byAddr.length
  · have hnext := addrSlot_eq h
    have hne' : j + 1 ≠ s.acquiredDbCount := by omega
    simp only [h, dite_true] at hle ⊢
    simp only [AcquiredDbInfo.byAddr] at hj hslot hnext hbase hle ⊢
    simp [closestDatablock, hj, hslot, hnext, hbase, hle, hne, hne']
  · have he : (j + 1 = s.acquiredDbCount) = True := eq_true (by omega)
    simp only [h, dite_false] at hle ⊢
    simp only [AcquiredDbInfo.byAddr] at hj hslot hbase hle ⊢
    simp [closestDatablock, hj, hslot, he, hbase, hle, hne]

theorem closestDatablock_below (hs : Sorted s) {t : Int} (habove : ∀ q, Tracked s q → t < q.baseAddr) :
    (closestDatablock std t).run s = .error (.assertion .belowAllBases) s := by
  have h0 : std.upperBound compareBases s.byAddr (.ofBase t) = 0 := by
    by_contra hne
    have hle := upperBound_byAddr_le std hs t
    have hlt : 0 < s.byAddr.length := by omega
    have hq := habove _ (hs.mem_byAddr.mp (List.getElem_mem hlt))
    have hqt := (lt_upperBound_byAddr std hs t hlt).mp (by omega)
    omega
  simp only [AcquiredDbInfo.byAddr] at h0
  simp [closestDatablock, h0]

theorem closestDatablock_tracked (hs : Sorted s) {t e : Int} {p : DbPair G} {s' : AcquiredDbInfo G}
    (h : (closestDatablock std t).run s = .ok (p, e) s') : Tracked s p := by
  have hle := upperBound_byAddr_le std hs t
  simp only [closestDatablock, run_bind_ok, EStateM.run_get, run_assert_ok, decide_eq_true_eq] at h
  obtain ⟨_, _, hget, _, _, ⟨hne, rfl⟩, i, s₁, hi, hrest⟩ := h
  cases hget
  have hp : p = i := by
    split at hrest
    · simp only [run_bind_ok] at hrest
      obtain ⟨_, _, _, _, _, _, hp⟩ := hrest
      cases hp
      rfl
    · simp only [run_bind_ok] at hrest
      obtain ⟨_, _, _, _, _, _, _, _, _, hp⟩ := hrest
      cases hp
      rfl
  subst hp
  have hlt : std.upperBound compareBases s.byAddr (.ofBase t) - 1 < s.byAddr.length :=
    Nat.sub_one_lt_of_le (Nat.pos_of_ne_zero hne) hle
  have hslot := addrSlot_eq hlt
  simp only [AcquiredDbInfo.byAddr] at hslot
  rw [hslot, run_access_some] at hi
  cases hi
  exact hs.mem_byAddr.mp (List.getElem_mem hlt)

theorem guidOffsetForAddress_null (source : Int) :
    (guidOffsetForAddress std 0 source).run s = .ok (nullGuid, 0) s := by
  simp [guidOffsetForAddress]

/-- What is recorded for a target whose closest tracked base is that of `p`. -/
def encoded (p : DbPair G) (e target source : Int) : G × Int :=
  if p.baseAddr ≤ source ∧ source ≤ e then (uninitializedGuid, target - source)
  else (p.guid, target - p.baseAddr)

theorem guidOffsetForAddress_closest {target : Int} (hnull : target ≠ 0) {p : DbPair G} {e : Int}
    (hrun : (closestDatablock std target).run s = .ok (p, e) s) (source : Int) :
    (guidOffsetForAddress std target source).run s = .ok (encoded p e target source) s := by
  by_cases h : p.baseAddr ≤ source ∧ source ≤ e <;>
    simp [guidOffsetForAddress, hnull, hrun, encoded, h]

theorem guidOffsetForAddress_found (hs : Sorted s) {target : Int} (hnull : target ≠ 0)
    (ht : target ≤ ptrdiffMax) (hbelow : ∃ q, Tracked s q ∧ q.baseAddr ≤ target) :
    ∃ p e, Closest s target p e ∧ ∀ source,
      (guidOffsetForAddress std target source).run s = .ok (encoded p e target source) s := by
  obtain ⟨p, e, hrun, hc⟩ := closestDatablock_found std hs ht hbelow
  exact ⟨p, e, hc, guidOffsetForAddress_closest std hnull hrun⟩

theorem guidOffsetForAddress_below (hs : Sorted s) {target : Int} (hnull : target ≠ 0)
    (habove : ∀ q, Tracked s q → target < q.baseAddr) (source : Int) :
    (guidOffsetForAddress std target source).run s = .error (.assertion .belowAllBases) s := by
  simp [guidOffsetForAddress, hnull, closestDatablock_below std hs habove]

end Ocxxr.ClosestBase

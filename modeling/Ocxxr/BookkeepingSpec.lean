import Ocxxr.AcquiredTable

namespace Ocxxr.BookkeepingSpec

open Ocr SortedSearch SlotPrefix Bookkeeping AcquiredTable

variable {G : Type} [OcrGuid G] (std : StdAlgorithms (DbPair G)) {s : AcquiredDbInfo G}

theorem binarySearch_tracked (hs : Sorted s) (g : G) :
    std.binarySearch compareGuids s.byGuid (.ofGuid g) = true ↔ ∃ p, Tracked s p ∧ p.guid = g :=
  binarySearch_iff std (hs.guid_sorted.imp le_of_lt) (.ofGuid g)

theorem addDatablock_null (g : G) : (addDatablock std g 0).run s = .ok () s := by
  simp [addDatablock]

theorem addDatablock_tracked (hs : Sorted s) {g : G} (b : Int) (hg : ∃ p, Tracked s p ∧ p.guid = g) :
    (addDatablock std g b).run s = .ok () s := by
  have h := (binarySearch_tracked std hs g).mpr hg
  by_cases hb : b = 0 <;> simp [addDatablock, hb, AcquiredDbInfo.byGuid] at h ⊢
  simp [h]

theorem addDatablock_new (hs : Sorted s) {g : G} {b : Int} (hb : b ≠ 0)
    (hg : ¬ ∃ p, Tracked s p ∧ p.guid = g) (hc : s.acquiredDbCount < maxDbAcquireCount) :
    (addDatablock std g b).run s = .ok () (inserted std s ⟨g, b⟩) := by
  have h := mt (binarySearch_tracked std hs g).mp hg
  simp [AcquiredDbInfo.byGuid] at h
  simp [addDatablock, hb, h, hc, inserted]

theorem addDatablock_full (hs : Sorted s) {g : G} {b : Int} (hb : b ≠ 0)
    (hg : ¬ ∃ p, Tracked s p ∧ p.guid = g) (hc : s.acquiredDbCount = maxDbAcquireCount) :
    (addDatablock std g b).run s = .error (.assertion .acquiredTooMany) s := by
  have h := mt (binarySearch_tracked std hs g).mp hg
  simp [AcquiredDbInfo.byGuid] at h
  have hn : ¬ s.acquiredDbCount < maxDbAcquireCount := by omega
  simp [addDatablock, hb, h, hn]

/-- Everything a call of `AddDatablock` can do. -/
theorem addDatablock_cases (hs : Sorted s) (g : G) (b : Int) :
    (b = 0 ∧ (addDatablock std g b).run s = .ok () s) ∨
    ((∃ p, Tracked s p ∧ p.guid = g) ∧ (addDatablock std g b).run s = .ok () s) ∨
    (b ≠ 0 ∧ (¬ ∃ p, Tracked s p ∧ p.guid = g) ∧ s.acquiredDbCount = maxDbAcquireCount ∧
      (addDatablock std g b).run s = .error (.assertion .acquiredTooMany) s) ∨
    (b ≠ 0 ∧ (¬ ∃ p, Tracked s p ∧ p.guid = g) ∧ s.acquiredDbCount < maxDbAcquireCount ∧
      (addDatablock std g b).run s = .ok () (inserted std s ⟨g, b⟩)) := by
  by_cases hb : b = 0
  · subst hb
    exact .inl ⟨rfl, addDatablock_null std g⟩
  by_cases hg : ∃ p, Tracked s p ∧ p.guid = g
  · exact .inr (.inl ⟨hg, addDatablock_tracked std hs b hg⟩)
  rcases Nat.lt_or_eq_of_le hs.count_le with hc | hc
  · exact .inr (.inr (.inr ⟨hb, hg, hc, addDatablock_new std hs hb hg hc⟩))
  · exact .inr (.inr (.inl ⟨hb, hg, hc, addDatablock_full std hs hb hg hc⟩))

theorem addDatablock_coherent (hs : Coherent s) {g : G} {b : Int} {s' : AcquiredDbInfo G}
    (h : (addDatablock std g b).run s = .ok () s') : Coherent s' := by
  rcases addDatablock_cases std hs.toSorted g b with ⟨_, he⟩ | ⟨_, he⟩ | ⟨_, _, _, he⟩ | ⟨hb, hg, hc, he⟩
  · rw [he] at h; cases h; exact hs
  · rw [he] at h; cases h; exact hs
  · rw [he] at h; cases h
  · rw [he] at h; cases h
    exact inserted_coherent std hs hc hb (fun q hq hqg => hg ⟨q, hq, hqg⟩)

theorem lowerBound_tracked (hs : Sorted s) {p : DbPair G} (hp : Tracked s p) :
    ∃ h : std.lowerBound compareGuids s.byGuid (.ofGuid p.guid) < s.byGuid.length,
      s.byGuid[std.lowerBound compareGuids s.byGuid (.ofGuid p.guid)] = p :=
  lowerBound_found std (.ofGuid p.guid) hs.guid_sorted hp rfl

theorem lowerBound_base (hs : Sorted s) {p : DbPair G} (hp : Tracked s p) :
    ∃ h : std.lowerBound compareBases s.byAddr (.ofBase p.baseAddr) < s.byAddr.length,
      s.byAddr[std.lowerBound compareBases s.byAddr (.ofBase p.baseAddr)].baseAddr = p.baseAddr :=
  lowerBound_key std hs.addr_sorted (.ofBase p.baseAddr) (hs.mem_byAddr.mpr hp) rfl

theorem lowerBound_untracked (hs : Sorted s) {g : G} (hg : ¬ ∃ p, Tracked s p ∧ p.guid = g) :
    std.lowerBound compareGuids s.byGuid (.ofGuid g) = s.acquiredDbCount ∨
    ∃ h : std.lowerBound compareGuids s.byGuid (.ofGuid g) < s.byGuid.length,
      s.byGuid[std.lowerBound compareGuids s.byGuid (.ofGuid g)].guid ≠ g := by
  have hle := lowerBound_le std (hs.guid_sorted.imp le_of_lt) (.ofGuid g)
  rw [hs.byGuid_length] at hle
  rcases Nat.lt_or_eq_of_le hle with h | h
  · have hlt := hs.byGuid_length.symm ▸ h
    exact .inr ⟨hlt, fun he => hg ⟨_, List.getElem_mem hlt, he⟩⟩
  · exact .inl h

theorem addressForGuid_tracked (hs : Sorted s) {p : DbPair G} (hp : Tracked s p)
    (hnull : p.guid ≠ nullGuid) : (addressForGuid std p.guid).run s = .ok p.baseAddr s := by
  obtain ⟨hlt, he⟩ := lowerBound_tracked std hs hp
  have hslot := hs.guidSlot_eq hlt
  rw [he] at hslot
  have hne : std.lowerBound compareGuids s.byGuid (.ofGuid p.guid) ≠ s.acquiredDbCount := by
    have := hs.byGuid_length; omega
  simp only [AcquiredDbInfo.byGuid] at hslot hne
  rw [addressForGuid, run_assert_bind (by simp [ocrGuidIsNull, hnull]), run_get_bind]
  dsimp only
  rw [run_assert_bind (decide_eq_true hne), run_access_bind hslot, run_assert_bind (by simp [ocrGuidIsEq])]
  rfl

theorem addressForGuid_untracked (hs : Sorted s) {g : G} (hnull : g ≠ nullGuid)
    (hg : ¬ ∃ p, Tracked s p ∧ p.guid = g) :
    (addressForGuid std g).run s = .error (.assertion .lookupUntracked) s ∨
      (addressForGuid std g).run s = .error (.assertion .lookupMismatch) s := by
  rw [addressForGuid, run_assert_bind (by simp [ocrGuidIsNull, hnull]), run_get_bind]
  dsimp only
  rcases lowerBound_untracked std hs hg with h | ⟨hlt, hne⟩
  · simp only [AcquiredDbInfo.byGuid] at h
    exact .inl (run_assert_bind_error (decide_eq_false (not_not.mpr h)) _ s)
  · have hslot := hs.guidSlot_eq hlt
    have hend : std.lowerBound compareGuids s.byGuid (.ofGuid g) ≠ s.acquiredDbCount := by
      have := hs.byGuid_length; omega
    simp only [AcquiredDbInfo.byGuid] at hslot hend hne
    right
    rw [run_assert_bind (decide_eq_true hend), run_access_bind hslot]
    exact run_assert_bind_error (decide_eq_false (Ne.symm hne)) _ s

theorem removeDatablock_null (s : AcquiredDbInfo G) :
    (removeDatablock std (nullGuid : G)).run s = .ok () s := by
  simp [removeDatablock, ocrGuidIsNull]

theorem removeDatablock_untracked (hs : Coherent s) {g : G} (hnull : g ≠ nullGuid)
    (hg : ¬ ∃ p, Tracked s p ∧ p.guid = g) :
    (removeDatablock std g).run s = .error (.assertion .releasedUntracked) s := by
  have hentry : ∃ p, s.guidSlot (std.lowerBound compareGuids s.byGuid (.ofGuid g)) = some p ∧
      p.guid ≠ g := by
    rcases lowerBound_untracked std hs.toSorted hg with h | ⟨hlt, hne⟩
    · obtain ⟨p, hp, hz | ht⟩ := hs.guidSlot_end
      · exact ⟨p, by rw [h]; exact hp, by rw [hz]; exact hnull.symm⟩
      · exact ⟨p, by rw [h]; exact hp, fun he => hg ⟨p, ht, he⟩⟩
    · exact ⟨_, hs.guidSlot_eq hlt, hne⟩
  obtain ⟨p, hp, hne⟩ := hentry
  simp only [AcquiredDbInfo.byGuid] at hp
  simp [removeDatablock, ocrGuidIsNull, hnull, hp, ocrGuidIsEq, hne.symm]

theorem sortPrefix_byGuid (hs : Sorted s) {i : Nat} (hi : i ≤ s.acquiredDbCount) :
    sortPrefix std compareGuids s.dbsByGuid i = s.dbsByGuid := by
  apply sortPrefix_eq_self std _ (hi.trans hs.count_le)
  rw [compareGuids_eq]
  apply sort_eq_self
  rw [← live_take hi]
  exact hs.guid_sorted.take

theorem removeDatablock_tracked (hs : Sorted s) {p : DbPair G} (hp : Tracked s p)
    (hnull : p.guid ≠ nullGuid) :
    (removeDatablock std p.guid).run s = .ok () (resorted std s p.baseAddr) := by
  obtain ⟨hlt, he⟩ := lowerBound_tracked std hs hp
  have hslot := hs.guidSlot_eq hlt
  rw [he] at hslot
  have hsort := sortPrefix_byGuid std hs (hs.byGuid_length ▸ hlt.le)
  obtain ⟨hlt', he'⟩ := lowerBound_base std hs hp
  have hslot' := addrSlot_eq hlt'
  simp only [AcquiredDbInfo.byGuid, AcquiredDbInfo.byAddr] at hslot hslot' he' hsort
  simp [removeDatablock, ocrGuidIsNull, hnull, hslot, ocrGuidIsEq, hsort, hslot', he', resorted,
    AcquiredDbInfo.byAddr]

/-- The tables a task can reach from its start. -/
inductive Reachable : AcquiredDbInfo G → Prop
  | fresh : Reachable .fresh
  | add {s s'} (g : G) (b : Int) (hs : Reachable s) (h : (addDatablock std g b).run s = .ok () s') :
      Reachable s'
  | remove {s s'} (g : G) (hs : Reachable s) (h : (removeDatablock std g).run s = .ok () s') :
      Reachable s'

/-- Everything a call of `RemoveDatablock` can do. -/
theorem removeDatablock_cases (hs : Coherent s) (g : G) :
    (∃ s', (removeDatablock std g).run s = .ok () s' ∧ Coherent s' ∧
      s'.acquiredDbCount = s.acquiredDbCount ∧ s'.byGuid = s.byGuid) ∨
    ((g ≠ nullGuid ∧ ¬ ∃ p, Tracked s p ∧ p.guid = g) ∧
      (removeDatablock std g).run s = .error (.assertion .releasedUntracked) s) := by
  by_cases hnull : g = nullGuid
  · subst hnull
    exact .inl ⟨s, removeDatablock_null std s, hs, rfl, rfl⟩
  by_cases hg : ∃ p, Tracked s p ∧ p.guid = g
  · obtain ⟨p, hp, rfl⟩ := hg
    exact .inl ⟨_, removeDatablock_tracked std hs.toSorted hp hnull, resorted_coherent std hs _, rfl, rfl⟩
  · exact .inr ⟨⟨hnull, hg⟩, removeDatablock_untracked std hs hnull hg⟩

theorem removeDatablock_coherent (hs : Coherent s) {g : G} {s' : AcquiredDbInfo G}
    (h : (removeDatablock std g).run s = .ok () s') :
    Coherent s' ∧ s'.acquiredDbCount = s.acquiredDbCount ∧ s'.byGuid = s.byGuid := by
  rcases removeDatablock_cases std hs g with ⟨_, he, hs'⟩ | ⟨_, he⟩
  · rw [he] at h
    cases h
    exact hs'
  · rw [he] at h
    cases h

theorem Reachable.coherent (h : Reachable std s) : Coherent s := by
  induction h with
  | fresh => exact fresh_coherent
  | add g b _ h ih => exact addDatablock_coherent std ih h
  | remove g _ h ih => exact (removeDatablock_coherent std ih h).1

end Ocxxr.BookkeepingSpec

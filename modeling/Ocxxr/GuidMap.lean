import Ocxxr.BookkeepingSpec
import Ocxxr.ClosestBase
import Mathlib.Data.Finset.Card
import Mathlib.Data.Finset.Dedup

namespace Ocxxr.GuidMap

open Ocr SortedSearch Bookkeeping AcquiredTable BookkeepingSpec ClosestBase

variable {G : Type} [OcrGuid G]

/-- What the table is for: a map from the GUID of a datablock to its base address. -/
abbrev Registry (G : Type) := G → Option Int

def Registry.add (m : Registry G) (call : G × Int) : Registry G :=
  if call.2 = 0 ∨ (m call.1).isSome then m else Function.update m call.1 (some call.2)

def Represents (s : AcquiredDbInfo G) (m : Registry G) : Prop :=
  ∀ p, Tracked s p ↔ m p.guid = some p.baseAddr

def addAll (std : StdAlgorithms (DbPair G)) (calls : List (G × Int)) : BookM G Unit :=
  forM calls (fun call => addDatablock std call.1 call.2)

def firstBase (calls : List (G × Int)) (g : G) : Option Int :=
  (calls.find? (fun call => call.1 = g ∧ call.2 ≠ 0)).map Prod.snd

def distinctGuids (calls : List (G × Int)) : Finset G :=
  ((calls.filter (fun call => call.2 ≠ 0)).map Prod.fst).toFinset

def guids (s : AcquiredDbInfo G) : Finset G := (s.byGuid.map DbPair.guid).toFinset

theorem mem_guids {s : AcquiredDbInfo G} {g : G} : g ∈ guids s ↔ ∃ p, Tracked s p ∧ p.guid = g := by
  simp [guids, Tracked]

theorem guids_card {s : AcquiredDbInfo G} (hs : Sorted s) : (guids s).card = s.acquiredDbCount := by
  rw [guids, List.toFinset_card_of_nodup hs.guid_nodup, List.length_map, hs.byGuid_length]

theorem distinctGuids_cons (call : G × Int) (calls : List (G × Int)) :
    distinctGuids (call :: calls) =
      if call.2 = 0 then distinctGuids calls else insert call.1 (distinctGuids calls) := by
  by_cases h : call.2 = 0 <;> simp [distinctGuids, h]

theorem fresh_represents : Represents (AcquiredDbInfo.fresh (G := G)) (fun _ => none) := by
  intro p
  simp [not_tracked_fresh]

theorem foldl_add_apply (calls : List (G × Int)) (m : Registry G) (g : G) :
    calls.foldl Registry.add m g = (m g).or (firstBase calls g) := by
  induction calls generalizing m with
  | nil => simp [firstBase]
  | cons call calls ih =>
      rw [List.foldl_cons, ih]
      by_cases h0 : call.2 = 0
      · simp [Registry.add, firstBase, h0]
      by_cases hg : call.1 = g
      · subst hg
        cases hm : m call.1 with
        | none => simp [Registry.add, firstBase, h0, hm]
        | some b => simp [Registry.add, hm]
      · by_cases hs : (m call.1).isSome
        · simp [Registry.add, firstBase, hs, hg]
        · simp [Registry.add, firstBase, h0, hs, hg, Function.update_of_ne (Ne.symm hg)]

variable (std : StdAlgorithms (DbPair G)) {s s' : AcquiredDbInfo G} {m : Registry G}

omit [OcrGuid G] in
theorem represents_tracked (hm : Represents s m) (g : G) :
    (∃ p, Tracked s p ∧ p.guid = g) ↔ (m g).isSome := by
  constructor
  · rintro ⟨p, hp, rfl⟩
    simp [(hm p).mp hp]
  · intro h
    obtain ⟨b, hb⟩ := Option.isSome_iff_exists.mp h
    exact ⟨⟨g, b⟩, (hm ⟨g, b⟩).mpr hb, rfl⟩

theorem represents_inserted (hm : Represents s m) (hc : s.acquiredDbCount < maxDbAcquireCount) {g : G}
    (b : Int) (hg : ¬ ∃ p, Tracked s p ∧ p.guid = g) :
    Represents (inserted std s ⟨g, b⟩) (Function.update m g (some b)) := by
  intro p
  rw [tracked_inserted std hc]
  by_cases h : p.guid = g
  · subst h
    have hp : ¬ Tracked s p := fun hp => hg ⟨p, hp, rfl⟩
    cases p
    simp_all [eq_comm]
  · have hne : p ≠ ⟨g, b⟩ := fun he => h (congrArg DbPair.guid he)
    simp [hne, hm p, Function.update_of_ne h]

/-- One call on the table is one call on the map, or trips the capacity assertion
without touching the table. -/
theorem addDatablock_refines (hs : Coherent s) (hm : Represents s m) (call : G × Int) :
    (∃ s', (addDatablock std call.1 call.2).run s = .ok () s' ∧ Coherent s' ∧
      Represents s' (m.add call) ∧
      guids s' = if call.2 = 0 then guids s else insert call.1 (guids s)) ∨
    ((addDatablock std call.1 call.2).run s = .error (.assertion .acquiredTooMany) s ∧
      s.acquiredDbCount = maxDbAcquireCount ∧ call.2 ≠ 0 ∧ call.1 ∉ guids s) := by
  have htracked := represents_tracked hm call.1
  rcases addDatablock_cases std hs.toSorted call.1 call.2 with ⟨hb, he⟩ | ⟨hg, he⟩ | ⟨hb, hg, hc, he⟩ | ⟨hb,
    hg, hc, he⟩
  · exact .inl ⟨s, he, hs, by simpa [Registry.add, hb] using hm, by simp [hb]⟩
  · refine .inl ⟨s, he, hs, by simpa [Registry.add, htracked.mp hg] using hm, ?_⟩
    split
    · rfl
    · exact (Finset.insert_eq_of_mem (mem_guids.mpr hg)).symm
  · exact .inr ⟨he, hc, hb, fun h => hg (mem_guids.mp h)⟩
  · refine .inl ⟨_, he, addDatablock_coherent std hs he, ?_, ?_⟩
    · have hadd : m.add call = Function.update m call.1 (some call.2) := by
        have hn := mt htracked.mpr hg
        simp [Registry.add, hb, hn]
      rw [hadd]
      exact represents_inserted std hm hc call.2 hg
    · ext g
      rw [mem_guids]
      simp only [tracked_inserted std hc, hb, if_false, Finset.mem_insert, mem_guids]
      constructor
      · rintro ⟨p, rfl | hp, rfl⟩
        · exact .inl rfl
        · exact .inr ⟨p, hp, rfl⟩
      · rintro (rfl | ⟨p, hp, rfl⟩)
        · exact ⟨_, .inl rfl, rfl⟩
        · exact ⟨p, .inr hp, rfl⟩

theorem addAll_cons (call : G × Int) (calls : List (G × Int)) (s : AcquiredDbInfo G) :
    (addAll std (call :: calls)).run s =
      match (addDatablock std call.1 call.2).run s with
      | .ok _ s' => (addAll std calls).run s'
      | .error e s' => .error e s' := by
  simp only [addAll, List.forM_cons, EStateM.run_bind]
  cases (addDatablock std call.1 call.2).run s <;> rfl

/-- A sequence of calls implements the same sequence on the map, as long as its
distinct GUIDs fit; the first one that does not fit trips the capacity assertion. -/
theorem addAll_refines (hs : Coherent s) (hm : Represents s m) (calls : List (G × Int)) :
    ((guids s ∪ distinctGuids calls).card ≤ maxDbAcquireCount →
      ∃ s', (addAll std calls).run s = .ok () s' ∧ Coherent s' ∧
        Represents s' (calls.foldl Registry.add m) ∧ guids s' = guids s ∪ distinctGuids calls) ∧
    (maxDbAcquireCount < (guids s ∪ distinctGuids calls).card →
      ∃ s', (addAll std calls).run s = .error (.assertion .acquiredTooMany) s' ∧ Coherent s' ∧
        s'.acquiredDbCount = maxDbAcquireCount) := by
  induction calls generalizing s m with
  | nil =>
      have hcard := guids_card hs.toSorted
      have hle := hs.count_le
      refine ⟨fun _ => ⟨s, rfl, hs, hm, by simp [distinctGuids]⟩, fun h => ?_⟩
      simp [distinctGuids] at h
      omega
  | cons call calls ih =>
      have hunion : guids s ∪ distinctGuids (call :: calls) =
          (if call.2 = 0 then guids s else insert call.1 (guids s)) ∪ distinctGuids calls := by
        rw [distinctGuids_cons]
        split
        · rfl
        · rw [Finset.union_insert, Finset.insert_union]
      rw [addAll_cons, hunion]
      rcases addDatablock_refines std hs hm call with ⟨s', he, hs', hm', hg⟩ | ⟨he, hc, hb, hg⟩
      · rw [he, ← hg]
        exact ih hs' hm'
      · rw [he]
        have hcard : maxDbAcquireCount < (insert call.1 (guids s)).card := by
          rw [Finset.card_insert_of_notMem hg, guids_card hs.toSorted, hc]
          omega
        have hsub : (insert call.1 (guids s)).card ≤ (insert call.1 (guids s) ∪ distinctGuids calls).card :=
          Finset.card_le_card Finset.subset_union_left
        simp only [hb, if_false]
        exact ⟨fun h => absurd h (by omega), fun _ => ⟨s, rfl, hs, hc⟩⟩

theorem addAll_fresh (calls : List (G × Int)) (hfit : (distinctGuids calls).card ≤ maxDbAcquireCount) :
    ∃ s, (addAll std calls).run .fresh = .ok () s ∧ Coherent s ∧ Represents s (firstBase calls) ∧
      guids s = distinctGuids calls := by
  have hg : guids (AcquiredDbInfo.fresh (G := G)) = ∅ := by
    ext g
    simp [mem_guids, not_tracked_fresh]
  obtain ⟨s, hrun, hs, hm, hd⟩ := (addAll_refines std fresh_coherent fresh_represents calls).1
    (by rwa [hg, Finset.empty_union])
  rw [hg, Finset.empty_union] at hd
  have hf : calls.foldl Registry.add (fun _ => none) = firstBase calls := by
    funext g
    simp [foldl_add_apply]
  exact ⟨s, hrun, hs, hf ▸ hm, hd⟩

theorem addAll_overflow (calls : List (G × Int)) (hfit : maxDbAcquireCount < (distinctGuids calls).card) :
    ∃ s, (addAll std calls).run .fresh = .error (.assertion .acquiredTooMany) s ∧ Coherent s ∧
      s.acquiredDbCount = maxDbAcquireCount := by
  have hg : guids (AcquiredDbInfo.fresh (G := G)) = ∅ := by
    ext g
    simp [mem_guids, not_tracked_fresh]
  exact (addAll_refines std fresh_coherent fresh_represents calls).2 (by rwa [hg, Finset.empty_union])

theorem addressForGuid_represents (hs : Sorted s) (hm : Represents s m) {g : G} (hg : g ≠ nullGuid) :
    match m g with
    | some b => (addressForGuid std g).run s = .ok b s
    | none => (addressForGuid std g).run s = .error (.assertion .lookupUntracked) s ∨
        (addressForGuid std g).run s = .error (.assertion .lookupMismatch) s := by
  cases hb : m g with
  | some b => exact addressForGuid_tracked std hs ((hm ⟨g, b⟩).mpr hb) hg
  | none =>
      apply addressForGuid_untracked std hs hg
      rw [represents_tracked hm, hb]
      simp

/-- The two sorted arrays implement one map: the first non-null base of a GUID wins,
and a GUID that does not fit any more is refused before a slot is written. -/
theorem acquired_arrays_implement_map (calls : List (G × Int)) :
    ((distinctGuids calls).card ≤ maxDbAcquireCount →
      ∃ s, (addAll std calls).run .fresh = .ok () s ∧
        s.byGuid.Pairwise (fun a b => a.guid < b.guid) ∧
        s.byAddr.Pairwise (fun a b => a.baseAddr ≤ b.baseAddr) ∧
        s.byAddr.Perm s.byGuid ∧
        s.byGuid.length = s.acquiredDbCount ∧ s.byAddr.length = s.acquiredDbCount ∧
        s.acquiredDbCount = (distinctGuids calls).card ∧
        (∀ g, g ≠ nullGuid → match firstBase calls g with
          | some b => (addressForGuid std g).run s = .ok b s
          | none => (addressForGuid std g).run s = .error (.assertion .lookupUntracked) s ∨
              (addressForGuid std g).run s = .error (.assertion .lookupMismatch) s) ∧
        (∀ t, t ≠ 0 → t ≤ ptrdiffMax → (∃ q ∈ s.byAddr, q.baseAddr ≤ t) →
          ∃ p e, (closestDatablock std t).run s = .ok (p, e) s ∧ p ∈ s.byAddr ∧ p.baseAddr ≤ t ∧
            (∀ q ∈ s.byAddr, q.baseAddr ≤ t → q.baseAddr ≤ p.baseAddr) ∧
            ∀ source, (guidOffsetForAddress std t source).run s = .ok (encoded p e t source) s) ∧
        (∀ g b, (distinctGuids calls).card = maxDbAcquireCount → firstBase calls g = none → b ≠ 0 →
          (addDatablock std g b).run s = .error (.assertion .acquiredTooMany) s)) ∧
    (maxDbAcquireCount < (distinctGuids calls).card →
      ∃ s, (addAll std calls).run .fresh = .error (.assertion .acquiredTooMany) s ∧
        s.acquiredDbCount = maxDbAcquireCount) := by
  constructor
  · intro hfit
    obtain ⟨s, hrun, hs, hm, hd⟩ := addAll_fresh std calls hfit
    have hcount : s.acquiredDbCount = (distinctGuids calls).card := by rw [← guids_card hs.toSorted, hd]
    refine ⟨s, hrun, hs.guid_sorted, hs.addr_sorted, hs.perm, hs.byGuid_length, hs.byAddr_length,
      hcount, fun g hg => addressForGuid_represents std hs.toSorted hm hg, ?_, ?_⟩
    · rintro t h0 ht ⟨q, hq, hqt⟩
      obtain ⟨p, e, hclosest, hc⟩ := closestDatablock_found std hs.toSorted ht ⟨q, hs.mem_byAddr.mp hq, hqt⟩
      exact ⟨p, e, hclosest, hs.mem_byAddr.mpr hc.tracked, hc.base_le,
        fun q hq => hc.greatest q (hs.mem_byAddr.mp hq), guidOffsetForAddress_closest std h0 hclosest⟩
    · intro g b hfull hg hb
      refine addDatablock_full std hs.toSorted hb ?_ (hcount.trans hfull)
      rw [represents_tracked hm, hg]
      simp
  · intro hover
    obtain ⟨s, hrun, -, hc⟩ := addAll_overflow std calls hover
    exact ⟨s, hrun, hc⟩

end Ocxxr.GuidMap

import Ocxxr.EntryRemoval
import Ocxxr.Relocation

namespace Ocxxr.OutsideDatablocks

open Ocr SortedSearch Bookkeeping AcquiredTable BookkeepingSpec ClosestBase BasedPointer Relocation

variable {G : Type} [OcrGuid G] (std : StdAlgorithms (DbPair G)) {len : G → Int} {s : AcquiredDbInfo G}
  {d : DbPair G} {target this : Int}

section Cells

/-- In every later task that tracks the datablock, at whatever base, the cell, which has
not moved, leads to the same byte of it. -/
def StaysPut (d : DbPair G) (this target : Int) (cell : BasedPtr G) : Prop :=
  ∀ s', Reachable std s' → ∀ d', Tracked s' d' → d'.guid = d.guid →
    (get std this cell).run s' = .ok (d'.baseAddr + (target - d.baseAddr)) s'

def Clear (s : AcquiredDbInfo G) (d : DbPair G) (this : Int) : Prop :=
  this < d.baseAddr ∨ ∃ q, Tracked s q ∧ d.baseAddr < q.baseAddr ∧ q.baseAddr < this

variable {std}

theorem staysPut_guid (hreal : IsReal d.guid) (this target : Int) :
    StaysPut std d this target ⟨d.guid, target - d.baseAddr⟩ := by
  intro s' hs' d' hd' hg
  rw [← hg] at hreal ⊢
  exact get_tracked std hs'.coherent.toSorted hd' hreal _ _

theorem not_staysPut_selfRelative (hpos : 0 < d.baseAddr) (this target : Int) :
    ¬ StaysPut std d this target ⟨uninitializedGuid, target - this⟩ := by
  intro h
  have hadd : (addDatablock std d.guid (d.baseAddr + 1)).run .fresh =
      .ok () (inserted std .fresh ⟨d.guid, d.baseAddr + 1⟩) :=
    addDatablock_new std fresh_coherent.toSorted (by omega) (by simp [not_tracked_fresh]) fresh_room
  have htracked : Tracked (inserted std .fresh ⟨d.guid, d.baseAddr + 1⟩) ⟨d.guid, d.baseAddr + 1⟩ :=
    (tracked_inserted std fresh_room _ _).mpr (.inl rfl)
  have hget := h _ (.add d.guid (d.baseAddr + 1) .fresh hadd) _ htracked rfl
  rw [get_selfRelative] at hget
  injection hget with hvalue
  simp only at hvalue
  omega

omit [OcrGuid G] in
theorem selfRelative_range_iff (hspan : Spans len d target) (haddr : this ≤ ptrdiffMax) {e : Int}
    (hc : Closest s target d e) :
    d.baseAddr ≤ this ∧ this ≤ e ↔ ¬ Clear s d this := by
  have hend := hspan.2
  rw [Clear, not_or, not_lt]
  apply and_congr_right
  intro _
  constructor
  · rintro hle ⟨q, hq, habove, hbelow⟩
    have hpast : target < q.baseAddr := by
      by_contra hnot
      have hgreatest := hc.greatest q hq (by omega)
      omega
    rcases hc.next with ⟨-, -, hmin⟩ | ⟨-, hmax⟩
    · have hnext := hmin q hq hpast
      omega
    · have hall := hmax q hq
      omega
  · intro hnone
    rcases hc.next with ⟨⟨q, hq, rfl⟩, hlt, -⟩ | ⟨rfl, -⟩
    · by_contra hnot
      have hlow := hspan.1
      exact hnone ⟨q, hq, by omega, by omega⟩
    · exact haddr

theorem set_outside (hs : Sorted s) (hp : Placed len s) (hd : Tracked s d) (hspan : Spans len d target)
    (haddr : this ≤ ptrdiffMax) :
    (Clear s d this → (BasedPointer.set std this target).run s = .ok ⟨d.guid, target - d.baseAddr⟩ s) ∧
    (¬ Clear s d this → (BasedPointer.set std this target).run s = .ok ⟨uninitializedGuid, target - this⟩ s) := by
  have hlow := hspan.1
  have hhigh := hspan.2
  have hpos := hp.base_pos d hd
  have hend := hp.end_le d hd
  obtain ⟨p, e, hc, hset⟩ := set_found std hs (by omega) (by omega) ⟨d, hd, hlow⟩
  obtain rfl := hp.closest_eq hd hspan hc
  have hrange := selfRelative_range_iff hspan haddr hc
  rw [hset this, cellFor, encoded]
  constructor
  · intro hclear
    rw [if_neg (fun h => hrange.mp h hclear)]
  · intro hclear
    rw [if_pos (hrange.mpr hclear)]

/-- A cell, outside of all datablocks in particular, records the datablock of its target,
and leads there wherever that is placed, exactly when it lies clear of it. -/
theorem outside_cell_iff (hs : Reachable std s) (hp : Placed len s) (hd : Tracked s d) (hreal : IsReal d.guid)
    (hspan : Spans len d target) (haddr : this ≤ ptrdiffMax) :
    ∃ cell, (BasedPointer.set std this target).run s = .ok cell s ∧
      (cell = ⟨d.guid, target - d.baseAddr⟩ ↔ Clear s d this) ∧
      (StaysPut std d this target cell ↔ Clear s d this) := by
  obtain ⟨hguid, hself⟩ := set_outside hs.coherent.toSorted hp hd hspan haddr
  by_cases hclear : Clear s d this
  · refine ⟨_, hguid hclear, iff_of_true rfl hclear, ?_⟩
    exact iff_of_true (staysPut_guid hreal this target) hclear
  · refine ⟨_, hself hclear, iff_of_false ?_ hclear, ?_⟩
    · intro he
      exact hreal.2.1 (congrArg BasedPtr.targetGuid he).symm
    · exact iff_of_false (not_staysPut_selfRelative (hp.base_pos d hd) this target) hclear

theorem outside_cell_iff_below : ∃ cell, (BasedPointer.set reference 512 4200).run adjacent = .ok cell adjacent ∧
    (cell = ⟨upper.guid, 4200 - upper.baseAddr⟩ ↔ Clear adjacent upper 512) ∧
    (StaysPut reference upper 512 4200 cell ↔ Clear adjacent upper 512) :=
  outside_cell_iff adjacent_reachable adjacent_placed upper_tracked (by refine ⟨?_, ?_, ?_⟩ <;> decide)
    (by constructor <;> decide) (by decide)

theorem outside_cell_counterexample :
    (∀ q, Tracked adjacent q → ¬ Spans blockLen q 1048576) ∧ Spans blockLen upper 4200 ∧
      (BasedPointer.set reference 1048576 4200).run adjacent = .ok ⟨uninitializedGuid, -1044376⟩ adjacent ∧
      ¬ StaysPut reference upper 1048576 4200 ⟨uninitializedGuid, -1044376⟩ := by
  have hspan : Spans blockLen upper 4200 := by constructor <;> decide
  have hclear : ¬ Clear adjacent upper 1048576 := by
    rintro (hlow | ⟨q, hq, habove, -⟩)
    · exact absurd hlow (by decide)
    · rcases (tracked_adjacent q).mp hq with rfl | rfl
      · exact lt_irrefl _ habove
      · exact absurd habove (by decide)
  refine ⟨?_, hspan, ?_, not_staysPut_selfRelative (by decide) 1048576 4200⟩
  · intro q hq hin
    have hend := hin.2
    rcases (tracked_adjacent q).mp hq with rfl | rfl
    · exact absurd hend (by decide)
    · exact absurd hend (by decide)
  · exact (set_outside adjacent_reachable.coherent.toSorted adjacent_placed upper_tracked hspan
    (by decide)).2 hclear

end Cells

section Targets

structure Discerns (std : StdAlgorithms (DbPair G)) (len : G → Int) (s : AcquiredDbInfo G) (this target : Int) :
    Prop where
  refuses : (∀ p, Tracked s p → ¬ Spans len p target) →
    ∃ a, (BasedPointer.set std this target).run s = .error (.assertion a) s
  attributes : ∀ p, Tracked s p → Spans len p target → ∃ e,
    (closestDatablock std target).run s = .ok (p, e) s ∧
      (BasedPointer.set std this target).run s = .ok (cellFor p e target this) s

variable {std}

theorem attributed (hs : Sorted s) (hp : Placed len s) (hd : Tracked s d) (hspan : Spans len d target)
    (this : Int) : ∃ e, (closestDatablock std target).run s = .ok (d, e) s ∧
      (BasedPointer.set std this target).run s = .ok (cellFor d e target this) s := by
  have hlow := hspan.1
  have hhigh := hspan.2
  have hpos := hp.base_pos d hd
  have hend := hp.end_le d hd
  obtain ⟨p, e, hrun, hc⟩ := closestDatablock_found std hs (by omega) ⟨d, hd, hlow⟩
  obtain rfl := hp.closest_eq hd hspan hc
  have henc := guidOffsetForAddress_closest std (by omega) hrun this
  exact ⟨e, hrun, by simp [BasedPointer.set, henc, cellFor]⟩

/-- Targets are told apart rightly exactly inside the datablocks and below all of them. -/
theorem foreign_target_iff (hs : Reachable std s) (hp : Placed len s) (hnull : target ≠ 0)
    (ht : target ≤ ptrdiffMax) (this : Int) : Discerns std len s this target ↔
      (∃ p, Tracked s p ∧ Spans len p target) ∨ ∀ p, Tracked s p → target < p.baseAddr := by
  have hsorted := hs.coherent.toSorted
  constructor
  · intro h
    by_contra hneither
    obtain ⟨hnone, hbelow⟩ := not_or.mp hneither
    obtain ⟨a, herror⟩ := h.refuses (fun p hp hspan => hnone ⟨p, hp, hspan⟩)
    have hsome : ∃ q, Tracked s q ∧ q.baseAddr ≤ target := by
      by_contra hno
      exact hbelow (fun p hp => not_le.mp (fun hle => hno ⟨p, hp, hle⟩))
    obtain ⟨p, e, -, hset⟩ := set_found std hsorted hnull ht hsome
    rw [hset this] at herror
    cases herror
  · rintro (⟨d, hd, hspan⟩ | hbelow)
    · exact ⟨fun hnone => absurd hspan (hnone d hd), fun p hp' hspan' => attributed hsorted hp hp' hspan' this⟩
    · refine ⟨fun _ => ⟨.belowAllBases, ?_⟩, ?_⟩
      · simp [BasedPointer.set, guidOffsetForAddress_below std hsorted hnull hbelow]
      · intro p hp' hspan
        have hlt := hbelow p hp'
        have hle := hspan.1
        omega

theorem foreign_target_iff_inside : Discerns reference blockLen adjacent 512 4200 ↔
    (∃ p, Tracked adjacent p ∧ Spans blockLen p 4200) ∨ ∀ p, Tracked adjacent p → 4200 < p.baseAddr :=
  foreign_target_iff adjacent_reachable adjacent_placed (by decide) (by decide) 512

theorem foreign_target_counterexample :
    (∀ p, Tracked adjacent p → ¬ Spans blockLen p 5000) ∧
      (∃ cell, (BasedPointer.set reference 512 5000).run adjacent = .ok cell adjacent) ∧
      ¬ Discerns reference blockLen adjacent 512 5000 := by
  have hforeign : ∀ p, Tracked adjacent p → ¬ Spans blockLen p 5000 := by
    intro p hp hin
    have hend := hin.2
    rcases (tracked_adjacent p).mp hp with rfl | rfl
    · exact absurd hend (by decide)
    · exact absurd hend (by decide)
  obtain ⟨p, e, -, hset⟩ := set_found reference adjacent_reachable.coherent.toSorted
    (show (5000 : Int) ≠ 0 by decide)
    (by decide) ⟨upper, upper_tracked, by decide⟩
  refine ⟨hforeign, ⟨_, hset 512⟩, ?_⟩
  intro h
  obtain ⟨a, herror⟩ := h.refuses hforeign
  have hboth := (hset 512).symm.trans herror
  cases hboth

end Targets

end Ocxxr.OutsideDatablocks

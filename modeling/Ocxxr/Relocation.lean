import Ocxxr.BasedPointer

namespace Ocxxr.Relocation

open Ocr SortedSearch Bookkeeping AcquiredTable BookkeepingSpec ClosestBase BasedPointer

variable {G : Type} [OcrGuid G] (std : StdAlgorithms (DbPair G))

/-- The address is one of the bytes of the datablock; `len` gives the sizes that the
datablocks keep wherever they are placed. -/
def Spans (len : G → Int) (p : DbPair G) (a : Int) : Prop :=
  p.baseAddr ≤ a ∧ a < p.baseAddr + len p.guid

structure Placed (len : G → Int) (s : AcquiredDbInfo G) : Prop where
  base_pos : ∀ p, Tracked s p → 0 < p.baseAddr
  len_nonneg : ∀ p, Tracked s p → 0 ≤ len p.guid
  end_le : ∀ p, Tracked s p → p.baseAddr + len p.guid ≤ ptrdiffMax + 1
  apart : ∀ p q, Tracked s p → Tracked s q → p ≠ q →
    p.baseAddr < q.baseAddr ∧ p.baseAddr + len p.guid ≤ q.baseAddr ∨
    q.baseAddr < p.baseAddr ∧ q.baseAddr + len q.guid ≤ p.baseAddr

variable {std} {len : G → Int} {s : AcquiredDbInfo G}

omit [OcrGuid G] in
theorem Placed.closest_eq (hp : Placed len s) {d p : DbPair G} {target e : Int} (hd : Tracked s d)
    (hspan : Spans len d target) (hc : Closest s target p e) : p = d := by
  by_contra hne
  have hle := hc.greatest d hd hspan.1
  have hb := hc.base_le
  have hs := hspan.2
  rcases hp.apart p d hc.tracked hd hne with h | h
  · omega
  · omega

/-- The cell opens the datablock tracked right above that of the target, and the whole
chain of cells lies between the two bases. -/
structure Straddles (s : AcquiredDbInfo G) (d₁ d₂ : DbPair G) (cells : List Int) (cell : Int) : Prop where
  above : d₂.baseAddr < d₁.baseAddr
  adjacent : ∀ q, Tracked s q → d₂.baseAddr < q.baseAddr → d₁.baseAddr ≤ q.baseAddr
  opens : cell = d₁.baseAddr
  between : ∀ a ∈ cells, d₂.baseAddr ≤ a ∧ a ≤ d₁.baseAddr

omit [OcrGuid G] in
theorem Placed.straddles_iff (hp : Placed len s) {d₁ d₂ : DbPair G} {target e cell : Int} {cells : List Int}
    (h₁ : Tracked s d₁) (h₂ : Tracked s d₂) (hne : d₁ ≠ d₂) (hcell : Spans len d₁ cell)
    (hmem : cell ∈ cells) (hspan : Spans len d₂ target) (hc : Closest s target d₂ e) :
    (∀ a ∈ cells, d₂.baseAddr ≤ a ∧ a ≤ e) ↔ Straddles s d₁ d₂ cells cell := by
  have hb := hspan.1
  have ht := hspan.2
  constructor
  · intro hall
    have hin := hall cell hmem
    have hlt := hcell.2
    have hge := hcell.1
    rcases hp.apart d₁ d₂ h₁ h₂ hne with h | h
    · omega
    · have hnext : ∀ q, Tracked s q → d₂.baseAddr < q.baseAddr → e ≤ q.baseAddr := by
        intro q hq hlq
        have hqt : ¬ q.baseAddr ≤ target := fun hle => by have := hc.greatest q hq hle; omega
        rcases hc.next with ⟨_, _, hmin⟩ | ⟨_, hmax⟩
        · exact hmin q hq (by omega)
        · exact absurd (hmax q hq) hqt
      have he := hnext d₁ h₁ h.1
      have heq : e = d₁.baseAddr := by omega
      subst heq
      exact ⟨h.1, hnext, by omega, hall⟩
  · intro hs a ha
    have hab := hs.between a ha
    have habove := hs.above
    have hgt : ¬ d₁.baseAddr ≤ target := fun hle => by have := hc.greatest d₁ h₁ hle; omega
    refine ⟨hab.1, ?_⟩
    rcases hc.next with ⟨⟨q, hq, hqe⟩, hte, _⟩ | ⟨_, hmax⟩
    · have hadj := hs.adjacent q hq (by have := hc.base_le; omega)
      omega
    · exact absurd (hmax d₁ h₁) hgt

variable (std len)

/-- In every later task that tracks both datablocks, wherever they are placed, the cell
at its new address leads to the new address of the target. -/
def Survives (d₁ d₂ : DbPair G) (cellAddr target : Int) (cell : BasedPtr G) : Prop :=
  ∀ s', Reachable std s' → Placed len s' → ∀ d₁' d₂', Tracked s' d₁' → Tracked s' d₂' →
    d₁'.guid = d₁.guid → d₂'.guid = d₂.guid →
    (get std (d₁'.baseAddr + (cellAddr - d₁.baseAddr)) cell).run s' =
      .ok (d₂'.baseAddr + (target - d₂.baseAddr)) s'

variable {std len}

theorem survives_guid {d₁ d₂ : DbPair G} (hreal : IsReal d₂.guid) (cellAddr target : Int) :
    Survives std len d₁ d₂ cellAddr target ⟨d₂.guid, target - d₂.baseAddr⟩ := by
  intro s' hs' _ d₁' d₂' _ h₂' _ hg₂
  rw [← hg₂] at hreal ⊢
  exact get_tracked std hs'.coherent.toSorted h₂' hreal _ _

theorem survives_selfRelative (d : DbPair G) (cellAddr target : Int) :
    Survives std len d d cellAddr target ⟨uninitializedGuid, target - cellAddr⟩ := by
  intro s' hs' _ d₁' d₂' h₁' h₂' hg₁ hg₂
  have he := hs'.coherent.tracked_unique h₁' h₂' (hg₁.trans hg₂.symm)
  subst he
  rw [get_selfRelative]
  congr 1
  omega

def swapped (std : StdAlgorithms (DbPair G)) (len : G → Int) (d₁ d₂ : DbPair G) : AcquiredDbInfo G :=
  inserted std (inserted std .fresh ⟨d₁.guid, d₂.baseAddr⟩) ⟨d₂.guid, d₂.baseAddr + len d₁.guid⟩

theorem fresh_room : (AcquiredDbInfo.fresh (G := G)).acquiredDbCount < maxDbAcquireCount :=
  show 0 < 256 by omega

theorem inserted_fresh_room (p : DbPair G) : (inserted std .fresh p).acquiredDbCount < maxDbAcquireCount :=
  show 0 + 1 < 256 by omega

theorem tracked_swapped (d₁ d₂ q : DbPair G) : Tracked (swapped std len d₁ d₂) q ↔
    q = ⟨d₂.guid, d₂.baseAddr + len d₁.guid⟩ ∨ q = ⟨d₁.guid, d₂.baseAddr⟩ := by
  rw [swapped, tracked_inserted std (inserted_fresh_room _), tracked_inserted std fresh_room]
  simp [not_tracked_fresh]

theorem swapped_reachable {d₁ d₂ : DbPair G} (hne : d₁.guid ≠ d₂.guid) (hpos : 0 < d₂.baseAddr)
    (hlen : 0 ≤ len d₁.guid) : Reachable std (swapped std len d₁ d₂) := by
  have hfirst : (addDatablock std d₁.guid d₂.baseAddr).run .fresh =
      .ok () (inserted std .fresh ⟨d₁.guid, d₂.baseAddr⟩) :=
    addDatablock_new std fresh_coherent.toSorted (by omega) (by simp [not_tracked_fresh]) fresh_room
  have hr := Reachable.add d₁.guid d₂.baseAddr .fresh hfirst
  apply Reachable.add d₂.guid (d₂.baseAddr + len d₁.guid) hr
  refine addDatablock_new std hr.coherent.toSorted (by omega) ?_ (inserted_fresh_room _)
  rintro ⟨p, hp, hg⟩
  rw [tracked_inserted std fresh_room] at hp
  rcases hp with rfl | hp
  · exact hne hg
  · exact not_tracked_fresh p hp

theorem swapped_placed {d₁ d₂ : DbPair G} (hpos : 0 < d₂.baseAddr) (h₁ : 0 < len d₁.guid)
    (h₂ : 0 ≤ len d₂.guid) (hend : d₂.baseAddr + len d₁.guid + len d₂.guid ≤ ptrdiffMax + 1) :
    Placed len (swapped std len d₁ d₂) := by
  refine ⟨?_, ?_, ?_, ?_⟩
  · intro p hp
    rcases (tracked_swapped d₁ d₂ p).mp hp with rfl | rfl <;> simp only <;> omega
  · intro p hp
    rcases (tracked_swapped d₁ d₂ p).mp hp with rfl | rfl <;> simp only <;> omega
  · intro p hp
    rcases (tracked_swapped d₁ d₂ p).mp hp with rfl | rfl <;> simp only <;> omega
  · intro p q hp hq hpq
    rcases (tracked_swapped d₁ d₂ p).mp hp with rfl | rfl <;>
      rcases (tracked_swapped d₁ d₂ q).mp hq with rfl | rfl
    · exact absurd rfl hpq
    · right; simp only; omega
    · left; simp only; omega
    · exact absurd rfl hpq

theorem Placed.swapped_placed (hp : Placed len s) {d₁ d₂ : DbPair G} (h₁ : Tracked s d₁)
    (h₂ : Tracked s d₂) (habove : d₂.baseAddr < d₁.baseAddr) {cell : Int} (hcell : Spans len d₁ cell) :
    Placed len (swapped std len d₁ d₂) := by
  have hlow := hcell.1
  have hhigh := hcell.2
  have hne : d₁ ≠ d₂ := by
    rintro rfl
    omega
  have hend := hp.end_le d₁ h₁
  refine Relocation.swapped_placed (hp.base_pos d₂ h₂) (by omega) (hp.len_nonneg d₂ h₂) ?_
  rcases hp.apart d₁ d₂ h₁ h₂ hne with h | h
  · omega
  · omega

theorem not_survives_selfRelative (hp : Placed len s) {d₁ d₂ : DbPair G} (h₁ : Tracked s d₁)
    (h₂ : Tracked s d₂) (hne : d₁.guid ≠ d₂.guid) (habove : d₂.baseAddr < d₁.baseAddr) {cell : Int}
    (hcell : Spans len d₁ cell) (target : Int) :
    ¬ Survives std len d₁ d₂ cell target ⟨uninitializedGuid, target - cell⟩ := by
  intro hsurv
  have hr : Reachable std (swapped std len d₁ d₂) :=
    swapped_reachable hne (hp.base_pos d₂ h₂) (hp.len_nonneg d₁ h₁)
  have hget := hsurv _ hr (hp.swapped_placed h₁ h₂ habove hcell) _ _
    ((tracked_swapped d₁ d₂ _).mpr (.inr rfl)) ((tracked_swapped d₁ d₂ _).mpr (.inl rfl)) rfl rfl
  rw [get_selfRelative] at hget
  injection hget with hval
  dsimp only at hval
  have hlow := hcell.1
  have hhigh := hcell.2
  omega

def lastCell (first : Int) (copies : List Int) : Int := (first :: copies).getLast (List.cons_ne_nil _ _)

theorem setAlong_found (hs : Sorted s) (hp : Placed len s) {d₂ : DbPair G} (h₂ : Tracked s d₂)
    (hreal : IsReal d₂.guid) {target : Int} (hspan : Spans len d₂ target) (first : Int) (copies : List Int) :
    ∃ e, Closest s target d₂ e ∧ (setAlong std target first copies).run s =
      .ok (if ∀ a ∈ first :: copies, d₂.baseAddr ≤ a ∧ a ≤ e then
          ⟨uninitializedGuid, target - lastCell first copies⟩
        else ⟨d₂.guid, target - d₂.baseAddr⟩) s := by
  have hlow := hspan.1
  have hhigh := hspan.2
  have hpos := hp.base_pos d₂ h₂
  have hend := hp.end_le d₂ h₂
  obtain ⟨p, e, hc, hset⟩ := set_found std hs (by omega) (by omega) ⟨d₂, h₂, hlow⟩
  obtain rfl := hp.closest_eq h₂ hspan hc
  refine ⟨e, hc, ?_⟩
  have hcopy := copyAlong_cellFor std hreal hset first copies
  simp only [setAlong, EStateM.run_bind, hset first, hcopy, lastCell]

/-- A pointer set through any chain of cells survives every relocation, and is encoded
relative to its cell only inside one datablock, unless the cell opens the datablock
right above that of the target and the chain lies in between. -/
theorem basedPtr_survives_iff (hs : Reachable std s) (hp : Placed len s) {d₁ d₂ : DbPair G}
    (h₁ : Tracked s d₁) (h₂ : Tracked s d₂) (hreal : IsReal d₂.guid) (first : Int) (copies : List Int)
    (hcell : Spans len d₁ (lastCell first copies)) (target : Int) (hspan : Spans len d₂ target) :
    ∃ cell, (setAlong std target first copies).run s = .ok cell s ∧
      (Survives std len d₁ d₂ (lastCell first copies) target cell ↔
        ¬ Straddles s d₁ d₂ (first :: copies) (lastCell first copies)) ∧
      ((cell.targetGuid = uninitializedGuid → d₁ = d₂) ↔
        ¬ Straddles s d₁ d₂ (first :: copies) (lastCell first copies)) := by
  have hsorted := hs.coherent.toSorted
  obtain ⟨e, hc, hrun⟩ := setAlong_found hsorted hp h₂ hreal hspan first copies
  refine ⟨_, hrun, ?_⟩
  have hmem : lastCell first copies ∈ first :: copies := List.getLast_mem _
  by_cases hd : d₁ = d₂
  · subst hd
    have hn : ¬ Straddles s d₁ d₁ (first :: copies) (lastCell first copies) :=
      fun h => lt_irrefl _ h.above
    refine ⟨iff_of_true ?_ hn, iff_of_true (fun _ => rfl) hn⟩
    split
    · exact survives_selfRelative d₁ _ target
    · exact survives_guid hreal _ target
  · have hiff := hp.straddles_iff h₁ h₂ hd hcell hmem hspan hc
    have hguid : d₁.guid ≠ d₂.guid := fun h => hd (hsorted.tracked_unique h₁ h₂ h)
    by_cases h : Straddles s d₁ d₂ (first :: copies) (lastCell first copies)
    · rw [if_pos (hiff.mpr h)]
      refine ⟨iff_of_false ?_ (not_not.mpr h), iff_of_false ?_ (not_not.mpr h)⟩
      · exact not_survives_selfRelative hp h₁ h₂ hguid h.above hcell target
      · exact fun himp => hd (himp rfl)
    · rw [if_neg (mt hiff.mp h)]
      refine ⟨iff_of_true (survives_guid hreal _ target) h, iff_of_true ?_ h⟩
      exact fun hu => absurd hu hreal.2.1

section AdjacentBlocks

def lower : DbPair Guid64 := ⟨⟨5⟩, 4096⟩

def upper : DbPair Guid64 := ⟨⟨6⟩, 4160⟩

def blockLen : Guid64 → Int := fun _ => 64

def adjacent : AcquiredDbInfo Guid64 := swapped reference blockLen lower ⟨upper.guid, lower.baseAddr⟩

theorem tracked_adjacent (q : DbPair Guid64) : Tracked adjacent q ↔ q = upper ∨ q = lower :=
  tracked_swapped lower ⟨upper.guid, lower.baseAddr⟩ q

theorem adjacent_reachable : Reachable reference adjacent :=
  swapped_reachable (by decide) (by decide) (by decide)

theorem adjacent_placed : Placed blockLen adjacent :=
  swapped_placed (by decide) (by decide) (by decide) (by decide)

theorem upper_tracked : Tracked adjacent upper := (tracked_adjacent upper).mpr (.inl rfl)

theorem lower_tracked : Tracked adjacent lower := (tracked_adjacent lower).mpr (.inr rfl)

theorem basedPtr_survives_iff_adjacent :
    ∃ cell, (setAlong reference 4100 512 [4168]).run adjacent = .ok cell adjacent ∧
      (Survives reference blockLen upper lower (lastCell 512 [4168]) 4100 cell ↔
        ¬ Straddles adjacent upper lower [512, 4168] (lastCell 512 [4168])) ∧
      ((cell.targetGuid = uninitializedGuid → upper = lower) ↔
        ¬ Straddles adjacent upper lower [512, 4168] (lastCell 512 [4168])) :=
  basedPtr_survives_iff adjacent_reachable adjacent_placed upper_tracked lower_tracked
    (by refine ⟨?_, ?_, ?_⟩ <;> decide) 512 [4168] (by constructor <;> decide) 4100
    (by constructor <;> decide)

theorem basedPtr_relocation_counterexample :
    Reachable reference adjacent ∧ Placed blockLen adjacent ∧ Tracked adjacent upper ∧
      Tracked adjacent lower ∧ Spans blockLen upper 4160 ∧ Spans blockLen lower 4100 ∧
      (setAlong reference 4100 4160 []).run adjacent = .ok ⟨uninitializedGuid, -60⟩ adjacent ∧
      ¬ Survives reference blockLen upper lower 4160 4100 ⟨uninitializedGuid, -60⟩ := by
  have hcell : Spans blockLen upper 4160 := by constructor <;> decide
  have htarget : Spans blockLen lower 4100 := by constructor <;> decide
  have hreal : IsReal lower.guid := by refine ⟨?_, ?_, ?_⟩ <;> decide
  have hstraddles : Straddles adjacent upper lower [4160] 4160 := by
    refine ⟨by decide, ?_, rfl, ?_⟩
    · intro q hq hlt
      rcases (tracked_adjacent q).mp hq with rfl | rfl
      · exact le_rfl
      · exact absurd hlt (lt_irrefl _)
    · intro a ha
      obtain rfl : a = 4160 := by simpa using ha
      exact ⟨by decide, by decide⟩
  obtain ⟨e, hc, hrun⟩ := setAlong_found adjacent_reachable.coherent.toSorted adjacent_placed
    lower_tracked hreal htarget 4160 []
  rw [if_pos ((adjacent_placed.straddles_iff upper_tracked lower_tracked (by decide) hcell
    (List.mem_singleton_self _) htarget hc).mpr hstraddles)] at hrun
  exact ⟨adjacent_reachable, adjacent_placed, upper_tracked, lower_tracked, hcell, htarget, hrun,
    not_survives_selfRelative adjacent_placed upper_tracked lower_tracked (by decide) (by decide)
      hcell 4100⟩

end AdjacentBlocks

end Ocxxr.Relocation

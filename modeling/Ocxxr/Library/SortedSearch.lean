import Mathlib.Data.List.Sort
import Mathlib.Data.List.TakeWhile
import Mathlib.Order.Defs.Unbundled

namespace Ocxxr.SortedSearch

variable {α κ : Type}

def Partitioned (p : α → Bool) (l : List α) : Prop := l.Pairwise (fun a b => p b = true → p a = true)

/-- The algorithms of `<algorithm>` on a range, as far as their specification goes:
sorting may order equivalent elements in any way, and the searches answer only on
ranges partitioned by the value searched for. -/
structure StdAlgorithms (α : Type) where
  sort : (α → α → Bool) → List α → List α
  lowerBound : (α → α → Bool) → List α → α → Nat
  upperBound : (α → α → Bool) → List α → α → Nat
  binarySearch : (α → α → Bool) → List α → α → Bool
  sort_perm : ∀ lt l, (sort lt l).Perm l
  sort_sorted : ∀ lt l, IsStrictWeakOrder α (fun a b => lt a b = true) →
    (sort lt l).Pairwise (fun a b => lt b a = false)
  lowerBound_spec : ∀ lt l v, Partitioned (fun x => lt x v) l →
    lowerBound lt l v = (l.takeWhile (fun x => lt x v)).length
  upperBound_spec : ∀ lt l v, Partitioned (fun x => !lt v x) l →
    upperBound lt l v = (l.takeWhile (fun x => !lt v x)).length
  binarySearch_spec : ∀ lt l v, Partitioned (fun x => lt x v) l →
    Partitioned (fun x => !lt v x) l →
    binarySearch lt l v = l.any (fun x => !lt x v && !lt v x)

theorem Partitioned.getElem {p : α → Bool} {l : List α} (hp : Partitioned p l) {i j : Nat}
    (hi : i < l.length) (hj : j < l.length) (hij : i ≤ j) (h : p l[j] = true) : p l[i] = true := by
  rcases Nat.lt_or_eq_of_le hij with hlt | rfl
  · exact List.pairwise_iff_getElem.mp hp i j hi hj hlt h
  · exact h

theorem takeWhile_getElem {p : α → Bool} {l : List α} {i : Nat} (hi : i < l.length)
    (h : i < (l.takeWhile p).length) : p l[i] = true := by
  have hm := List.mem_takeWhile_imp (List.getElem_mem h)
  rwa [List.IsPrefix.getElem (List.takeWhile_prefix p) h] at hm

theorem takeWhile_stop {p : α → Bool} {l : List α} (h : (l.takeWhile p).length < l.length) :
    p l[(l.takeWhile p).length] = false := by
  induction l with
  | nil => simp at h
  | cons a l ih =>
      cases ha : p a with
      | false => simp [ha]
      | true =>
          simp only [List.takeWhile_cons_of_pos ha, List.length_cons, List.getElem_cons_succ]
          exact ih (by simpa [List.takeWhile_cons_of_pos ha] using h)

theorem lt_takeWhile_iff {p : α → Bool} {l : List α} (hp : Partitioned p l) {i : Nat}
    (hi : i < l.length) : i < (l.takeWhile p).length ↔ p l[i] = true := by
  refine ⟨takeWhile_getElem hi, fun h => ?_⟩
  by_contra hn
  have hk : (l.takeWhile p).length < l.length := by omega
  have hs := hp.getElem hk hi (by omega) h
  rw [takeWhile_stop hk] at hs
  cases hs

/-- The halving loop of the search algorithms: `first` and `len` delimit the part of
the range still undecided, and `fuel` bounds the number of halvings. -/
def partitionPoint (p : α → Bool) (l : List α) : Nat → Nat → Nat → Nat
  | 0, first, _ => first
  | fuel + 1, first, len =>
      if len = 0 then first
      else if (l[first + len / 2]?).all p then
        partitionPoint p l fuel (first + len / 2 + 1) (len - len / 2 - 1)
      else partitionPoint p l fuel first (len / 2)

/-- The partition point stays between `first` and `first + len`, and the fuel covers
the undecided part. -/
theorem partitionPoint_eq {p : α → Bool} {l : List α} (hp : Partitioned p l) (fuel first len : Nat)
    (hfuel : len ≤ fuel) (hlen : first + len ≤ l.length)
    (hlow : first ≤ (l.takeWhile p).length) (hhigh : (l.takeWhile p).length ≤ first + len) :
    partitionPoint p l fuel first len = (l.takeWhile p).length := by
  induction fuel generalizing first len with
  | zero => rw [partitionPoint]; omega
  | succ fuel ih =>
      rw [partitionPoint]
      split
      next h0 => omega
      next h0 =>
        have hmid : first + len / 2 < l.length := by omega
        have hiff := lt_takeWhile_iff hp hmid
        rw [List.getElem?_eq_getElem hmid, Option.all_some]
        split
        next hm => exact ih _ _ (by omega) (by omega) (by have := hiff.mpr hm; omega) (by omega)
        next hm => exact ih _ _ (by omega) (by omega) hlow (by have := mt hiff.mp hm; omega)

def search (p : α → Bool) (l : List α) : Nat := partitionPoint p l l.length 0 l.length

theorem search_eq {p : α → Bool} {l : List α} (hp : Partitioned p l) :
    search p l = (l.takeWhile p).length := by
  have hle := (List.takeWhile_prefix p (l := l)).length_le
  exact partitionPoint_eq hp l.length 0 l.length le_rfl (by omega) (by omega) (by omega)

theorem search_found {p q : α → Bool} {l : List α} (hp : Partitioned p l) (hq : Partitioned q l) :
    (l[search p l]?).any q = l.any (fun x => !p x && q x) := by
  rw [search_eq hp, Bool.eq_iff_iff, Option.any_eq_true, List.any_eq_true]
  constructor
  · rintro ⟨x, hx, hqx⟩
    obtain ⟨hk, rfl⟩ := List.getElem?_eq_some_iff.mp hx
    exact ⟨_, List.getElem_mem hk, by simp [takeWhile_stop hk, hqx]⟩
  · rintro ⟨x, hx, hxp⟩
    simp only [Bool.and_eq_true, Bool.not_eq_true'] at hxp
    obtain ⟨j, hj, rfl⟩ := List.getElem_of_mem hx
    have hkj : (l.takeWhile p).length ≤ j := by
      have h := mt (lt_takeWhile_iff hp hj).mp (by simp [hxp.1])
      omega
    exact ⟨_, List.getElem?_eq_getElem (by omega), hq.getElem (by omega) hj hkj hxp.2⟩

theorem insertionSort_sorted (lt : α → α → Bool)
    (hlt : IsStrictWeakOrder α (fun a b => lt a b = true)) (l : List α) :
    (l.insertionSort (fun a b => lt b a = false)).Pairwise (fun a b => lt b a = false) := by
  have htotal : Std.Total (fun a b : α => lt b a = false) := by
    refine ⟨fun a b => ?_⟩
    cases hab : lt b a with
    | false => exact .inl rfl
    | true =>
        right
        have hn : ¬ lt a b = true := fun h => hlt.irrefl a (hlt.trans a b a h hab)
        simpa using hn
  have htrans : IsTrans α (fun a b : α => lt b a = false) := by
    refine ⟨fun a b c hba hcb => ?_⟩
    by_contra hca
    simp only [Bool.not_eq_false] at hca
    have hab : ¬ lt a b = true := fun h => by simp [hlt.trans c a b hca h] at hcb
    have hbc : ¬ lt b c = true := fun h => by simp [hlt.trans b c a h hca] at hba
    have he := hlt.incomp_trans a b c ⟨hab, by simp [hba]⟩ ⟨hbc, by simp [hcb]⟩
    exact he.2 hca
  exact List.pairwise_insertionSort _ l

/-- The algorithms of a simple standard library: insertion sort and binary search by
halving. -/
def reference : StdAlgorithms α where
  sort lt l := l.insertionSort (fun a b => lt b a = false)
  lowerBound lt l v := search (fun x => lt x v) l
  upperBound lt l v := search (fun x => !lt v x) l
  binarySearch lt l v := (l[search (fun x => lt x v) l]?).any (fun x => !lt v x)
  sort_perm _ l := List.perm_insertionSort _ l
  sort_sorted lt l hlt := insertionSort_sorted lt hlt l
  lowerBound_spec _ _ _ h := search_eq h
  upperBound_spec _ _ _ h := search_eq h
  binarySearch_spec _ _ _ hlow hupp := search_found hlow hupp

section Keys

variable [LinearOrder κ] (std : StdAlgorithms α) (key : α → κ)

def byKey (a b : α) : Bool := decide (key a < key b)

theorem byKey_strictWeakOrder : IsStrictWeakOrder α (fun a b => byKey key a b = true) where
  irrefl a := by simp [byKey]
  trans a b c := by simpa [byKey] using lt_trans
  incomp_trans a b c := by
    simp only [byKey, decide_eq_true_eq, not_lt]
    rintro ⟨hba, hab⟩ ⟨hcb, hbc⟩
    exact ⟨hcb.trans hba, hab.trans hbc⟩

theorem sort_sorted_key (l : List α) :
    (std.sort (byKey key) l).Pairwise (fun a b => key a ≤ key b) := by
  simpa [byKey] using std.sort_sorted (byKey key) l (byKey_strictWeakOrder key)

theorem strict_of_nodup {l : List α} (hle : l.Pairwise (fun a b => key a ≤ key b))
    (hn : (l.map key).Nodup) : l.Pairwise (fun a b => key a < key b) :=
  (hle.and (List.pairwise_map.mp hn)).imp (fun h => lt_of_le_of_ne h.1 h.2)

theorem nodup_of_strict {l : List α} (h : l.Pairwise (fun a b => key a < key b)) :
    (l.map key).Nodup :=
  List.pairwise_map.mpr (h.imp ne_of_lt)

theorem eq_of_perm_of_strict {l l' : List α} (h : l.Perm l')
    (hl : l.Pairwise (fun a b => key a < key b)) (hl' : l'.Pairwise (fun a b => key a < key b)) :
    l = l' :=
  List.Perm.eq_of_pairwise (fun _ _ _ _ hab hba => absurd (hab.trans hba) (lt_irrefl _)) hl hl' h

theorem sort_strict {l : List α} (hn : (l.map key).Nodup) :
    (std.sort (byKey key) l).Pairwise (fun a b => key a < key b) :=
  strict_of_nodup key (sort_sorted_key std key l)
    (((std.sort_perm (byKey key) l).map key).nodup_iff.mpr hn)

theorem sort_eq_self {l : List α} (hl : l.Pairwise (fun a b => key a < key b)) :
    std.sort (byKey key) l = l :=
  eq_of_perm_of_strict key (std.sort_perm _ l) (sort_strict std key (nodup_of_strict key hl)) hl

variable {key} {l : List α} (hl : l.Pairwise (fun a b => key a ≤ key b)) (v : α)

include hl

theorem partitioned_lt : Partitioned (fun x => byKey key x v) l :=
  hl.imp (fun hab hb => by simp only [byKey, decide_eq_true_eq] at hb ⊢; exact hab.trans_lt hb)

theorem partitioned_le : Partitioned (fun x => !byKey key v x) l :=
  hl.imp (fun hab hb => by
    simp only [byKey, Bool.not_eq_true', decide_eq_false_iff_not, not_lt] at hb ⊢
    exact hab.trans hb)

theorem lowerBound_le : std.lowerBound (byKey key) l v ≤ l.length := by
  rw [std.lowerBound_spec _ _ _ (partitioned_lt hl v)]
  exact (List.takeWhile_prefix _).length_le

theorem lt_lowerBound_iff {i : Nat} (hi : i < l.length) :
    i < std.lowerBound (byKey key) l v ↔ key l[i] < key v := by
  rw [std.lowerBound_spec _ _ _ (partitioned_lt hl v), lt_takeWhile_iff (partitioned_lt hl v) hi]
  simp [byKey]

theorem lowerBound_lt_iff :
    std.lowerBound (byKey key) l v < l.length ↔ ∃ x ∈ l, key v ≤ key x := by
  constructor
  · intro h
    exact ⟨_, List.getElem_mem h, not_lt.mp (mt (lt_lowerBound_iff std hl v h).mpr (lt_irrefl _))⟩
  · rintro ⟨x, hx, hvx⟩
    obtain ⟨j, hj, rfl⟩ := List.getElem_of_mem hx
    have hstop := mt (lt_lowerBound_iff std hl v hj).mp (not_lt.mpr hvx)
    omega

theorem upperBound_le : std.upperBound (byKey key) l v ≤ l.length := by
  rw [std.upperBound_spec _ _ _ (partitioned_le hl v)]
  exact (List.takeWhile_prefix _).length_le

theorem lt_upperBound_iff {i : Nat} (hi : i < l.length) :
    i < std.upperBound (byKey key) l v ↔ key l[i] ≤ key v := by
  rw [std.upperBound_spec _ _ _ (partitioned_le hl v), lt_takeWhile_iff (partitioned_le hl v) hi]
  simp [byKey]

theorem binarySearch_iff : std.binarySearch (byKey key) l v = true ↔ ∃ x ∈ l, key x = key v := by
  rw [std.binarySearch_spec _ _ _ (partitioned_lt hl v) (partitioned_le hl v), List.any_eq_true]
  apply exists_congr
  intro x
  apply and_congr_right
  intro _
  simp only [byKey, Bool.and_eq_true, Bool.not_eq_true', decide_eq_false_iff_not, not_lt]
  exact ⟨fun h => le_antisymm h.2 h.1, fun h => ⟨h.ge, h.le⟩⟩

theorem lowerBound_key {x : α} (hx : x ∈ l) (hkey : key x = key v) :
    ∃ h : std.lowerBound (byKey key) l v < l.length,
      key l[std.lowerBound (byKey key) l v] = key v := by
  obtain ⟨j, hj, rfl⟩ := List.getElem_of_mem hx
  have hstop := mt (lt_lowerBound_iff std hl v hj).mp (by simp [hkey])
  have hlt : std.lowerBound (byKey key) l v < l.length := by omega
  have hge := mt (lt_lowerBound_iff std hl v hlt).mpr (lt_irrefl _)
  refine ⟨hlt, le_antisymm ?_ (not_lt.mp hge)⟩
  rcases Nat.lt_or_eq_of_le (Nat.le_of_not_lt hstop) with h | h
  · exact (List.pairwise_iff_getElem.mp hl _ j hlt hj h).trans hkey.le
  · simp only [h, hkey, le_refl]

omit hl in
theorem lowerBound_found (hs : l.Pairwise (fun a b => key a < key b)) {x : α} (hx : x ∈ l)
    (hkey : key x = key v) :
    ∃ h : std.lowerBound (byKey key) l v < l.length, l[std.lowerBound (byKey key) l v] = x := by
  obtain ⟨hlt, he⟩ := lowerBound_key std (hs.imp le_of_lt) v hx hkey
  exact ⟨hlt, List.inj_on_of_nodup_map (nodup_of_strict key hs) (List.getElem_mem hlt) hx
    (he.trans hkey.symm)⟩

end Keys

end Ocxxr.SortedSearch

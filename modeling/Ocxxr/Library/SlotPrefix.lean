import Ocxxr.Library.SortedSearch

namespace Ocxxr.SlotPrefix

open SortedSearch

variable {α : Type} {n : Nat}

/-- The first `k` slots of a fixed array, as the range `[start, start + k)`. -/
def live (slots : Vector α n) (k : Nat) : List α := slots.toList.take k

def store (slots : Vector α n) (k : Nat) (a : α) : Vector α n := slots.setIfInBounds k a

/-- `std::sort` on the first `k` slots; the slots behind them keep their contents. -/
def sortPrefix (std : StdAlgorithms α) (lt : α → α → Bool) (slots : Vector α n) (k : Nat) : Vector α n :=
  ⟨(std.sort lt (live slots k) ++ slots.toList.drop k).toArray, by
    have h := (std.sort_perm lt (live slots k)).length_eq
    simp only [live, List.length_take, Vector.length_toList] at h
    simp only [List.size_toArray, List.length_append, List.length_drop, Vector.length_toList, h, live]
    omega⟩

theorem live_length {slots : Vector α n} {k : Nat} (hk : k ≤ n) : (live slots k).length = k := by
  simp [live, hk]

theorem slot_eq_live {slots : Vector α n} {k i : Nat} (hi : i < (live slots k).length) :
    slots[i]? = some (live slots k)[i] := by
  have hin : i < k ∧ i < n := by simpa [live] using hi
  simp [live, hin.2]

theorem live_take {slots : Vector α n} {j k : Nat} (hjk : j ≤ k) :
    (live slots k).take j = live slots j := by
  simp [live, List.take_take, hjk]

theorem live_store {slots : Vector α n} {k : Nat} (hk : k < n) (a : α) :
    live (store slots k a) (k + 1) = live slots k ++ [a] := by
  simp [live, store, List.take_add_one, hk, List.take_set_of_le le_rfl]

theorem drop_store {slots : Vector α n} {k : Nat} (a : α) :
    (store slots k a).toList.drop (k + 1) = slots.toList.drop (k + 1) := by
  simp [store, List.drop_set_of_lt (Nat.lt_succ_self k)]

variable (std : StdAlgorithms α) (lt : α → α → Bool)

theorem sortPrefix_toList (slots : Vector α n) (k : Nat) :
    (sortPrefix std lt slots k).toList = std.sort lt (live slots k) ++ slots.toList.drop k := by
  simp [sortPrefix, Vector.toList]

theorem live_sortPrefix {slots : Vector α n} {k : Nat} (hk : k ≤ n) :
    live (sortPrefix std lt slots k) k = std.sort lt (live slots k) := by
  have h := (std.sort_perm lt (live slots k)).length_eq
  rw [live_length hk] at h
  rw [live, sortPrefix_toList, List.take_left' h]

theorem drop_sortPrefix {slots : Vector α n} {j k : Nat} (hjk : j ≤ k) (hk : k ≤ n) :
    (sortPrefix std lt slots j).toList.drop k = slots.toList.drop k := by
  have h := (std.sort_perm lt (live slots j)).length_eq
  rw [live_length (hjk.trans hk)] at h
  obtain ⟨d, rfl⟩ := Nat.exists_eq_add_of_le hjk
  rw [sortPrefix_toList, ← List.drop_drop, List.drop_left' h, List.drop_drop]

theorem rest_inserted {slots : Vector α n} {k : Nat} {rest : α} (hk : k < n)
    (h : slots.toList.drop k = List.replicate (n - k) rest) (a : α) :
    (sortPrefix std lt (store slots k a) (k + 1)).toList.drop (k + 1) = List.replicate (n - (k + 1)) rest := by
  have hrest := congrArg (List.drop 1) h
  rw [List.drop_drop, List.drop_replicate] at hrest
  rw [drop_sortPrefix std lt le_rfl hk, drop_store, hrest]
  congr 1

theorem ext_live {slots slots' : Vector α n} (k : Nat) (hlive : live slots k = live slots' k)
    (hdrop : slots.toList.drop k = slots'.toList.drop k) : slots = slots' := by
  have h : slots.toList = slots'.toList := by
    rw [← List.take_append_drop k slots.toList, ← List.take_append_drop k slots'.toList, hdrop]
    exact congrArg (· ++ _) hlive
  exact Vector.toList_inj.mp h

theorem sortPrefix_eq_self {slots : Vector α n} {k : Nat} (hk : k ≤ n)
    (h : std.sort lt (live slots k) = live slots k) : sortPrefix std lt slots k = slots :=
  ext_live k ((live_sortPrefix std lt hk).trans h) (drop_sortPrefix std lt le_rfl hk)

theorem live_sortPrefix_shorter {slots : Vector α n} {j k : Nat} (hjk : j ≤ k) (hk : k ≤ n) :
    live (sortPrefix std lt slots j) k = std.sort lt (live slots j) ++ (live slots k).drop j := by
  have h := (std.sort_perm lt (live slots j)).length_eq
  rw [live_length (hjk.trans hk)] at h
  rw [live, sortPrefix_toList, List.take_append, h, List.take_of_length_le (by omega)]
  simp [live, List.drop_take]

end Ocxxr.SlotPrefix

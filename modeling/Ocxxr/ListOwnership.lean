import Ocxxr.Library.GhostRuns
import Ocxxr.DatablockLists

namespace Ocxxr.ListOwnership

open Faults Ocr AcquiredData DatablockLists GhostRuns

variable {G : Type}

/-- The lists of a program are numbered in the order in which they are built. -/
inductive Command (G : Type)
  | construct (size : Nat)
  | add (k : Nat) (datablock : Datablock G)
  | index (k i : Nat) (body : Datablock G → Datablock G)
  | iterate (k : Nat) (body : Datablock G → Datablock G)
  | move (k : Nat)

abbrev ListsM (G : Type) := EStateM Fault (List (DatablockList G))

def onList (k : Nat) (f : DatablockList G → ListsM G (DatablockList G)) : ListsM G Unit := do
  let lists ← get
  let list ← access lists[k]?
  let list' ← f list
  set (lists.set k list')

def exec [OcrGuid G] : Command G → ListsM G Unit
  | .construct size => modify (· ++ [ofSize size])
  | .add k datablock => onList k (add · datablock)
  | .index k i body => onList k (update body · i)
  | .iterate k body => onList k (forEach body)
  | .move k => do
      let lists ← get
      let list ← access lists[k]?
      set (lists.set k (move list).2 ++ [(move list).1])

def machine (G : Type) [OcrGuid G] : Machine (Command G) (List (DatablockList G)) Unit Fault where
  exec := exec
  effect := fun _ _ => ()

/-- The representation invariant and what it is for: no call reaches an element outside
the storage of the list. -/
structure Sound (list : DatablockList G) : Prop where
  count_le : list.count ≤ list.capacity
  capacity_eq : list.capacity = list.data.length
  index_within : ∀ i body, FailsWith (· ≠ .invalidAccess) (update body list i : ListsM G _)
  add_within : ∀ datablock, FailsWith (· ≠ .invalidAccess) (add list datablock : ListsM G _)
  iterate_within : ∀ body, FailsWith (· ≠ .invalidAccess) (forEach body list : ListsM G _)
  add_rejected : list.data = [] →
    ∀ datablock s, (add list datablock : ListsM G _).run s = .error (.assertion .listOverflow) s

variable {σ : Type} {list list' : DatablockList G} {s s' : σ}

theorem index_within (h : list.capacity ≤ list.data.length) (i : Nat) :
    FailsWith (· ≠ .invalidAccess) (index list i : EStateM Fault σ _) := by
  refine (failsWith_assert _ nofun).bind_of_run ?_
  intro _ s s' hassert
  obtain ⟨hi, -⟩ := run_assert_ok.mp hassert
  apply failsWith_access_some
  simpa using lt_of_lt_of_le (of_decide_eq_true hi) h

theorem update_within (h : list.capacity ≤ list.data.length) (i : Nat) (body : Datablock G → Datablock G) :
    FailsWith (· ≠ .invalidAccess) (update body list i : EStateM Fault σ _) :=
  (index_within h i).bind (fun _ => failsWith_pure _)

theorem add_within (h : list.capacity ≤ list.data.length) (datablock : Datablock G) :
    FailsWith (· ≠ .invalidAccess) (add list datablock : EStateM Fault σ _) := by
  refine (failsWith_assert _ nofun).bind_of_run ?_
  intro _ s s' hassert
  obtain ⟨hcount, -⟩ := run_assert_ok.mp hassert
  refine (failsWith_access_some ?_).bind (fun _ => failsWith_pure _)
  simpa using lt_of_lt_of_le (of_decide_eq_true hcount) h

/-- Elements may differ, but not the fields or the storage that guard them. -/
def SameShape (list list' : DatablockList G) : Prop :=
  list'.count = list.count ∧ list'.capacity = list.capacity ∧ list'.data.length = list.data.length

theorem SameShape.trans {list'' : DatablockList G} (h : SameShape list list') (h' : SameShape list' list'') :
    SameShape list list'' :=
  ⟨h'.1.trans h.1, h'.2.1.trans h.2.1, h'.2.2.trans h.2.2⟩

theorem stored_shape {x : EStateM Fault σ (Datablock G)} {body : Datablock G → Datablock G} {i : Nat}
    (h : (x >>= fun datablock => pure { list with data := list.data.set i (body datablock) }).run s =
      .ok list' s') : SameShape list list' := by
  obtain ⟨datablock, s₁, -, hpure⟩ := run_bind_ok.mp h
  cases hpure
  exact ⟨rfl, rfl, List.length_set⟩

theorem visits_shape {body : Datablock G → Datablock G} {indices : List Nat}
    (h : (indices.foldlM (visit body) list).run s = .ok list' s') : SameShape list list' := by
  induction indices generalizing list s with
  | nil =>
      cases h
      exact ⟨rfl, rfl, rfl⟩
  | cons i rest ih =>
      rw [List.foldlM_cons] at h
      obtain ⟨list₁, s₁, hvisit, hrest⟩ := run_bind_ok.mp h
      exact (stored_shape hvisit).trans (ih hrest)

theorem visit_within {i : Nat} (h : i < list.data.length) (body : Datablock G → Datablock G) :
    FailsWith (· ≠ .invalidAccess) (visit body list i : EStateM Fault σ _) :=
  (failsWith_access_some (by simpa using h)).bind (fun _ => failsWith_pure _)

theorem visits_within (body : Datablock G → Datablock G) (indices : List Nat)
    (h : ∀ i ∈ indices, i < list.data.length) :
    FailsWith (· ≠ .invalidAccess) (indices.foldlM (visit body) list : EStateM Fault σ _) := by
  induction indices generalizing list with
  | nil => exact failsWith_pure _
  | cons i rest ih =>
      rw [List.foldlM_cons]
      refine (visit_within (h i List.mem_cons_self) body).bind_of_run ?_
      intro list₁ s s₁ hvisit
      apply ih
      intro j hj
      rw [(stored_shape hvisit).2.2]
      exact h j (List.mem_cons_of_mem i hj)

theorem forEach_within (h : list.count ≤ list.data.length) (body : Datablock G → Datablock G) :
    FailsWith (· ≠ .invalidAccess) (forEach body list : EStateM Fault σ _) := by
  apply visits_within
  intro i hi
  exact lt_of_lt_of_le (List.mem_range.mp hi) h

theorem add_full (h : list.capacity ≤ list.count) (datablock : Datablock G) (s : σ) :
    (add list datablock).run s = .error (.assertion .listOverflow) s := by
  have hfull : decide (list.count < list.capacity) = false := decide_eq_false (Nat.not_lt.mpr h)
  simp [add, hfull]

/-- The two fields decide it: what is said of the operations follows from them. -/
theorem sound_iff : Sound list ↔ list.count ≤ list.capacity ∧ list.capacity = list.data.length := by
  constructor
  · intro h
    exact ⟨h.count_le, h.capacity_eq⟩
  · rintro ⟨hcount, hcapacity⟩
    refine ⟨hcount, hcapacity, update_within hcapacity.le, add_within hcapacity.le, ?_, ?_⟩
    · exact forEach_within (hcount.trans hcapacity.le)
    · intro hdata datablock s
      apply add_full
      simp [hcapacity, hdata]

theorem sound_ofSize [OcrGuid G] (size : Nat) : Sound (ofSize size : DatablockList G) := by
  rw [sound_iff]
  simp [ofSize]

theorem Sound.of_shape (h : Sound list) (hshape : SameShape list list') : Sound list' := by
  rw [sound_iff] at h ⊢
  obtain ⟨hcount, hcapacity, hlength⟩ := hshape
  rw [hcount, hcapacity, hlength]
  exact h

theorem Sound.add (h : Sound list) {datablock : Datablock G}
    (hrun : (add list datablock).run s = .ok list' s') : Sound list' := by
  obtain ⟨_, s₁, hassert, hrun⟩ := run_bind_ok.mp hrun
  obtain ⟨_, s₂, -, hpure⟩ := run_bind_ok.mp hrun
  cases hpure
  obtain ⟨hroom, -⟩ := run_assert_ok.mp hassert
  rw [sound_iff]
  exact ⟨of_decide_eq_true hroom, h.capacity_eq.trans List.length_set.symm⟩

theorem sound_moved_iff (h : Sound list) : Sound (move list).2 ↔ list.capacity = 0 := by
  have hcount := h.count_le
  simp only [sound_iff, move, List.length_nil]
  omega

def AllSound (lists : List (DatablockList G)) : Prop := ∀ list ∈ lists, Sound list

def MovesEmpty : List (DatablockList G) → Command G → Prop
  | lists, .move k => ∀ list, lists[k]? = some list → list.capacity = 0
  | _, _ => True

variable {lists lists' : List (DatablockList G)}

theorem AllSound.set (h : AllSound lists) (hlist : Sound list) (k : Nat) : AllSound (lists.set k list) := by
  intro l hl
  rcases List.mem_or_eq_of_mem_set hl with hl | rfl
  · exact h l hl
  · exact hlist

theorem onList_ok {k : Nat} {f : DatablockList G → ListsM G (DatablockList G)}
    (h : (onList k f).run lists = .ok () lists') :
    ∃ list list' s', lists[k]? = some list ∧ (f list).run lists = .ok list' s' ∧ lists' = lists.set k list' := by
  obtain ⟨_, _, hget, h⟩ := run_bind_ok.mp h
  cases hget
  obtain ⟨list, s₁, haccess, h⟩ := run_bind_ok.mp h
  obtain ⟨hlist, rfl⟩ := run_access_ok.mp haccess
  obtain ⟨list', s', hf, h⟩ := run_bind_ok.mp h
  cases h
  exact ⟨list, list', s', hlist, hf, rfl⟩

theorem AllSound.onList (h : AllSound lists) {k : Nat} {f : DatablockList G → ListsM G (DatablockList G)}
    (hf : ∀ list list' s', Sound list → (f list).run lists = .ok list' s' → Sound list')
    (hrun : (onList k f).run lists = .ok () lists') : AllSound lists' := by
  obtain ⟨list, list', s', hlist, hstep, rfl⟩ := onList_ok hrun
  exact h.set (hf list list' s' (h list (List.mem_of_getElem? hlist)) hstep) k

section Runs

variable [OcrGuid G]

theorem move_ok {k : Nat} (h : (exec (.move k)).run lists = .ok () lists') :
    ∃ list, lists[k]? = some list ∧ lists' = lists.set k (move list).2 ++ [(move list).1] := by
  obtain ⟨_, _, hget, h⟩ := run_bind_ok.mp h
  cases hget
  obtain ⟨list, s₁, haccess, h⟩ := run_bind_ok.mp h
  obtain ⟨hlist, rfl⟩ := run_access_ok.mp haccess
  cases h
  exact ⟨list, hlist, rfl⟩

theorem exec_move {k : Nat} (h : lists[k]? = some list) :
    (exec (.move k)).run lists = .ok () (lists.set k (move list).2 ++ [(move list).1]) := by
  simp [exec, h]

theorem move_keeps_iff (h : AllSound lists) (k : Nat) :
    (∀ lists', (exec (.move k)).run lists = .ok () lists' → AllSound lists') ↔ MovesEmpty lists (.move k) := by
  constructor
  · intro hkeeps list hlist
    have hmem : (move list).2 ∈ lists.set k (move list).2 :=
      List.mem_set (List.getElem?_eq_some_iff.mp hlist).1 _
    have hsound := hkeeps _ (exec_move hlist) _ (List.mem_append_left _ hmem)
    exact (sound_moved_iff (h list (List.mem_of_getElem? hlist))).mp hsound
  · intro hempty lists' hrun
    obtain ⟨list, hlist, rfl⟩ := move_ok hrun
    have hsound := h list (List.mem_of_getElem? hlist)
    have hmoved := (sound_moved_iff hsound).mpr (hempty list hlist)
    intro l hl
    rcases List.mem_append.mp hl with hl | hl
    · exact h.set hmoved k l hl
    · rw [List.mem_singleton.mp hl]
      exact hsound

theorem exec_keeps_iff (h : AllSound lists) (command : Command G) :
    (∀ lists', (exec command).run lists = .ok () lists' → AllSound lists') ↔ MovesEmpty lists command := by
  cases command with
  | construct size =>
      refine iff_of_true ?_ trivial
      intro lists' hrun l hl
      cases hrun
      rcases List.mem_append.mp hl with hl | hl
      · exact h l hl
      · rw [List.mem_singleton.mp hl]
        exact sound_ofSize size
  | add k datablock =>
      refine iff_of_true ?_ trivial
      intro lists' hrun
      exact h.onList (fun _ _ _ hlist hadd => hlist.add hadd) hrun
  | index k i body =>
      refine iff_of_true ?_ trivial
      intro lists' hrun
      exact h.onList (fun _ _ _ hlist hupdate => hlist.of_shape (stored_shape hupdate)) hrun
  | iterate k body =>
      refine iff_of_true ?_ trivial
      intro lists' hrun
      exact h.onList (fun _ _ _ hlist hvisits => hlist.of_shape (visits_shape hvisits)) hrun
  | move k => exact move_keeps_iff h k

/-- The storage goes with the move, but the capacity and the count stay behind. -/
theorem lists_sound_iff (commands : List (Command G)) :
    (machine G).Always AllSound [] commands ↔ (machine G).Guarded MovesEmpty [] commands :=
  Machine.always_iff (M := machine G) (fun _ command h => exec_keeps_iff h command) (by simp [AllSound])

end Runs

theorem lists_sound_counterexample :
    ¬ (machine Guid64).Always AllSound [] [.construct 1, .move 0] ∧
      ∃ s, ((machine Guid64).run [.construct 1, .move 0, .index 0 0 id]).run [] = .error .invalidAccess s := by
  refine ⟨?_, _, rfl⟩
  intro h
  have hlists := h [.construct 1, .move 0] _ (List.prefix_refl _) rfl
  have hmoved := hlists ⟨1, 0, []⟩ List.mem_cons_self
  cases hmoved.capacity_eq

end Ocxxr.ListOwnership

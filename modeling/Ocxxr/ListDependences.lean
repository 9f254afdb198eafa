import Ocxxr.VarArgsForwarding

namespace Ocxxr.ListDependences

open Ocr AcquiredData DatablockLists TaskLaunch TaskCreation TaskCreationSpec VarArgsForwarding

variable {G σ : Type} [OcrGuid G]

section Filling

def fill (capacity : Nat) (datablocks : List (Datablock G)) : EStateM Fault σ (DatablockList G) :=
  datablocks.foldlM add (ofSize capacity)

/-- The datablocks added come first, and null datablocks are left behind them. -/
structure Filled (list : DatablockList G) (capacity : Nat) (datablocks : List (Datablock G)) : Prop where
  capacity_eq : list.capacity = capacity
  count_eq : list.count = datablocks.length
  count_le : datablocks.length ≤ capacity
  data_eq : list.data = datablocks ++ List.replicate (capacity - datablocks.length) ⟨⟨nullGuid⟩, 0⟩

theorem ofSize_filled (capacity : Nat) : Filled (ofSize capacity : DatablockList G) capacity [] :=
  ⟨rfl, rfl, Nat.zero_le _, by simp [ofSize]⟩

variable {capacity : Nat} {datablocks : List (Datablock G)} {list list' : DatablockList G}

theorem Filled.add (h : Filled list capacity datablocks) {datablock : Datablock G} {t t' : σ}
    (hrun : (add list datablock).run t = .ok list' t') : Filled list' capacity (datablocks ++ [datablock]) := by
  obtain ⟨_, _, hroom, hrest⟩ := run_bind_ok.mp hrun
  obtain ⟨hlt, rfl⟩ := run_assert_ok.mp hroom
  obtain ⟨_, _, _, hstored⟩ := run_bind_ok.mp hrest
  cases hstored
  simp only [h.count_eq, h.capacity_eq, decide_eq_true_eq] at hlt
  obtain ⟨rest, hr⟩ := Nat.exists_eq_add_of_lt hlt
  have hn : capacity - datablocks.length = rest + 1 := by omega
  have hn' : capacity - (datablocks.length + 1) = rest := by omega
  refine ⟨h.capacity_eq, by simp [h.count_eq], by simpa using Nat.succ_le_of_lt hlt, ?_⟩
  simp [h.data_eq, h.count_eq, hn, hn', List.replicate_succ]

theorem Filled.addAll (h : Filled list capacity datablocks) {more : List (Datablock G)} {t t' : σ}
    (hrun : (more.foldlM DatablockLists.add list).run t = .ok list' t') :
    Filled list' capacity (datablocks ++ more) := by
  induction more generalizing list datablocks t with
  | nil =>
      cases hrun
      simpa using h
  | cons datablock more ih =>
      rw [List.foldlM_cons] at hrun
      obtain ⟨_, _, hadd, hrest⟩ := run_bind_ok.mp hrun
      simpa using ih (h.add hadd) hrest

theorem fill_filled {t t' : σ} (hrun : (fill capacity datablocks).run t = .ok list t') :
    Filled list capacity datablocks :=
  (ofSize_filled capacity).addAll hrun

end Filling

section Treatment

variable (ocr : OcrEdt G) (info : FnInfo) (task : G) (mode : AccessMode)

def dependencesOn (datablocks : List (Datablock G)) : List (Dependence G) :=
  datablocks.zipIdx.map (fun datablock =>
    ⟨datablock.1.handle.guid, task, BitVec.ofNat 32 (info.depCount + datablock.2), mode⟩)

def callsAfter {α : Type} (x : OcrM G α) (log : List (OcrCall G)) : List (OcrCall G) :=
  match x.run log with
  | .ok _ log' => log'
  | .error _ log' => log'

def Rejects {α : Type} (x : OcrM G α) : Prop := ∀ log, ∃ a, x.run log = .error (.assertion a) log

/-- `DependOnList` rejects a list that `CreateTask` would reject, or attaches what was
added to it; and it attaches no null dependence behind that. -/
structure TreatedAlike (list : DatablockList G) (datablocks : List (Datablock G)) : Prop where
  rejected_or_attached :
    Rejects (Task.dependOnList ocr info task list mode) ∧
        (∀ builder params deps, Rejects (TaskBuilder.createTask ocr info builder params deps (some list))) ∨
      (∀ builder params deps log log',
        (TaskBuilder.createTask ocr info builder params deps (some list)).run log ≠
          .error (.assertion .listIncomplete) log') ∧
        Attaches (Task.dependOnList ocr info task list mode) (dependencesOn info task mode datablocks)
  never_null : ∀ log (dependences : List (Dependence G)),
    callsAfter (Task.dependOnList ocr info task list mode) log = log ++ dependences.map .addDependence →
      ∀ dependence ∈ dependences, info.depCount + datablocks.length ≤ dependence.slot.toNat →
        dependence.source ≠ nullGuid

variable {ocr info task mode}

omit [OcrGuid G] in
theorem attaches_callsAfter {x : OcrM G Unit} {dependences : List (Dependence G)} (h : Attaches x dependences)
    (log : List (OcrCall G)) : callsAfter x log = log ++ dependences.map .addDependence := by
  rw [callsAfter, h log]

omit [OcrGuid G] in
theorem calls_inj {log : List (OcrCall G)} {l l' : List (Dependence G)}
    (h : log ++ l.map .addDependence = log ++ l'.map .addDependence) : l = l' := by
  apply List.map_injective_iff.mpr _ (List.append_cancel_left h)
  rintro _ _ ⟨⟩
  rfl

omit [OcrGuid G] in
theorem attaches_unique {x : OcrM G Unit} {l l' : List (Dependence G)} (h : Attaches x l) (h' : Attaches x l') :
    l = l' :=
  calls_inj ((attaches_callsAfter h []).symm.trans (attaches_callsAfter h' []))

omit [OcrGuid G] in
theorem slot_of_dependencesOn {datablocks : List (Datablock G)}
    (hroom : info.depCount + datablocks.length < 2 ^ 32)
    {dependence : Dependence G} (h : dependence ∈ dependencesOn info task mode datablocks) :
    dependence.slot.toNat < info.depCount + datablocks.length := by
  obtain ⟨⟨datablock, j⟩, hj, rfl⟩ := List.mem_map.mp h
  have hlt : j < datablocks.length := by
    have hget := List.mem_zipIdx_iff_getElem?.mp hj
    exact (List.getElem?_eq_some_iff.mp hget).1
  simp only [BitVec.toNat_ofNat]
  omega

variable {capacity : Nat} {datablocks : List (Datablock G)} {list : DatablockList G}

/-- `DependOnList` attaches the whole storage: behind the datablocks added it goes on
with the null ones. -/
theorem Filled.dependOnList_attaches (h : Filled list capacity datablocks) (hocr : Accepting ocr)
    (hroom : info.depCount + capacity < 2 ^ 32) :
    Attaches (Task.dependOnList ocr info task list mode) (dependencesOn info task mode
      (datablocks ++ List.replicate (capacity - datablocks.length) ⟨⟨nullGuid⟩, 0⟩)) := by
  have hlen : list.data.length = list.capacity := by
    have := h.count_le
    rw [h.data_eq, h.capacity_eq, List.length_append, List.length_replicate]
    omega
  have hcap : list.capacity < 2 ^ 32 := by rw [h.capacity_eq]; omega
  have hrun : Attaches (Task.dependOnList ocr info task list mode) _ :=
    TaskCreationSpec.dependOnList_attaches hocr task mode hcap hlen.ge
  rw [← hlen, List.take_length, h.data_eq] at hrun
  simpa only [dependencesOn, BitVec.ofNat_add] using hrun

/-- The two operations agree on the lists that are full, and on no others. -/
theorem list_treated_alike_iff {t t' : σ} (hlist : (fill capacity datablocks).run t = .ok list t')
    (hocr : Accepting ocr) (hroom : info.depCount + capacity < 2 ^ 32) :
    TreatedAlike ocr info task mode list datablocks ↔ datablocks.length = capacity := by
  have hf := fill_filled hlist
  have hrun : Attaches (Task.dependOnList ocr info task list mode) _ := hf.dependOnList_attaches hocr hroom
  constructor
  · intro h
    rcases h.rejected_or_attached with ⟨hrejects, _⟩ | ⟨_, hattaches⟩
    · obtain ⟨a, ha⟩ := hrejects []
      cases (hrun []).symm.trans ha
    · have hlen := congrArg List.length (attaches_unique hrun hattaches)
      have hle := hf.count_le
      simp [dependencesOn] at hlen
      omega
  · intro h
    rw [h, Nat.sub_self, List.replicate_zero, List.append_nil] at hrun
    refine ⟨.inr ⟨?_, hrun⟩, ?_⟩
    · intro builder params deps log log' herr
      apply incomplete_of_error herr
      rw [hf.count_eq, hf.capacity_eq, h]
    · intro log dependences hcalls dependence hd hslot
      rw [attaches_callsAfter hrun] at hcalls
      rw [← calls_inj hcalls] at hd
      have hlt := slot_of_dependencesOn (by omega) hd
      omega

end Treatment

section Partial

def added : Datablock Guid64 := ⟨⟨⟨5⟩⟩, 4096⟩

def whole : DatablockList Guid64 := ⟨1, 1, [added]⟩

def half : DatablockList Guid64 := ⟨2, 1, [added, ⟨⟨nullGuid⟩, 0⟩]⟩

theorem list_treated_alike_iff_whole :
    TreatedAlike accepting oneStatic ⟨7⟩ .default whole [added] ↔ [added].length = 1 :=
  have hlist : (fill 1 [added]).run () = .ok whole () := rfl
  list_treated_alike_iff hlist (fun _ _ => rfl) (by decide)

theorem list_treated_alike_counterexample :
    (fill 2 [added]).run () = .ok half () ∧
    (TaskBuilder.createTask accepting oneStatic plain none [⟨4⟩] (some half)).run [] =
      .error (.assertion .listIncomplete) [] ∧
    (Task.dependOnList accepting oneStatic ⟨7⟩ half .default).run [] =
      .ok () [.addDependence ⟨⟨5⟩, ⟨7⟩, 1, .default⟩, .addDependence ⟨nullGuid, ⟨7⟩, 2, .default⟩] ∧
    ¬ TreatedAlike accepting oneStatic ⟨7⟩ .default half [added] := by
  refine ⟨rfl, createTask_incomplete (by decide) [], rfl, ?_⟩
  intro h
  have hnull := h.never_null [] [⟨⟨5⟩, ⟨7⟩, 1, .default⟩, ⟨nullGuid, ⟨7⟩, 2, .default⟩] rfl
    ⟨nullGuid, ⟨7⟩, 2, .default⟩
  exact hnull (List.mem_cons_of_mem _ List.mem_cons_self) (by decide) rfl

end Partial

end Ocxxr.ListDependences

import Ocxxr.ArgumentOrder
import Ocxxr.TaskCreationSpec

namespace Ocxxr.VarArgsForwarding

open Faults Ocr SortedSearch Bookkeeping Allocator TaskState AcquiredData AcquiredTable GuidMap
  DatablockLists TaskLaunch TaskLaunchSpec ArgumentOrder TaskCreation TaskCreationSpec

variable {G : Type}

section Faults

variable [OcrGuid G] {ocr : OcrEdt G} {info : FnInfo} {builder : TaskBuilder G}

theorem fillDepv_assertionless (depc : BitVec 32) (deps : List G) (varArgs : DatablockList G) :
    FailsWith (Eq Fault.invalidAccess) (TaskBuilder.fillDepv info depc deps varArgs) :=
  (fillDepv_steady rfl depc deps varArgs).fails

theorem incomplete_of_error {params : Option (List (BitVec 64))} {deps : List G} {list : DatablockList G}
    {log log' : List (OcrCall G)}
    (h : (TaskBuilder.createTask ocr info builder params deps (some list)).run log =
      .error (.assertion .listIncomplete) log') : list.count ≠ list.capacity := by
  rcases run_bind_error.mp h with h | ⟨_, _, _, h⟩
  · rcases run_bind_error.mp h with h | ⟨_, _, _, h⟩
    · cases (run_assert_error.mp h).2.1
    rcases run_bind_error.mp h with h | ⟨_, _, _, h⟩
    · simpa using (run_assert_error.mp h).1
    rcases run_bind_error.mp h with h | ⟨_, _, _, h⟩
    · cases fillDepv_assertionless _ _ _ _ _ _ h
    rcases run_bind_error.mp h with h | ⟨_, _, _, h⟩
    · cases (run_assert_error.mp h).2.1
    · cases h
  · cases h

theorem createTask_incomplete {params : Option (List (BitVec 64))} {deps : List G} {list : DatablockList G}
    (h : list.count ≠ list.capacity) (log : List (OcrCall G)) :
    (TaskBuilder.createTask ocr info builder params deps (some list)).run log =
      .error (.assertion .listIncomplete) log := by
  simp [TaskBuilder.createTask, TaskBuilder.createFullTaskVarArgs, h]

end Faults

section Forwarding

variable [OcrGuid G]

def attachments (info : FnInfo) (task : G) (mode : AccessMode) (deps : List (OcrEdtDep G)) : List (OcrCall G) :=
  deps.zipIdx.map (fun dep => .addDependence
    ⟨dep.1.guid, task, BitVec.ofNat 32 info.depCount + BitVec.ofNat 32 dep.2, mode⟩)

/-- The list holds the given dependences, and can be passed on as it is. -/
structure Forwards (list : DatablockList G) (deps : List (OcrEdtDep G)) : Prop where
  contents : elements list = deps.map datablockOf
  count_eq : list.count = deps.length
  capacity_eq : list.capacity = deps.length
  creation : ∀ (ocr : OcrEdt G) info builder params sources log log',
    (TaskBuilder.createTask ocr info builder params sources (some list)).run log ≠
      .error (.assertion .listIncomplete) log'
  attachment : ∀ ocr, Accepting ocr → ∀ info task mode log,
    (Task.dependOnList ocr info task list mode).run log = .ok () (log ++ attachments info task mode deps)

theorem received_forwards {depv : List (OcrEdtDep G)} (hu : depv.length < 2 ^ 32) :
    Forwards (received 0 depv) depv where
  contents := received_elements 0 depv
  count_eq := rfl
  capacity_eq := rfl
  creation := fun _ _ _ _ _ _ _ h => incomplete_of_error h rfl
  attachment := by
    intro ocr hocr info task mode log
    have hcap : (received 0 depv).capacity < 2 ^ 32 := hu
    have hdata : (received 0 depv).data.take (received 0 depv).capacity = depv.map datablockOf :=
      received_elements 0 depv
    refine (dependOnList_attaches hocr task mode hcap (by simp [received]) log).trans ?_
    rw [hdata, List.zipIdx_map, List.map_map, List.map_map]
    rfl

variable {std : StdAlgorithms (DbPair G)} {info : FnInfo} {paramv : List (BitVec 64)} {depv : List (OcrEdtDep G)}

/-- The arguments that the user function is called with end with the list received,
which can be passed on whole just when the task has no static dependences. -/
theorem received_list_forwards_iff {order : List Initializer} (ho : order.Perm info.initializers)
    (hd : info.depCount ≤ depv.length) (hu : depv.length < 2 ^ 32) (hv : info.hasVarArgs = true)
    {parents : List (TaskLocalState G)} {headers : Headers} {args : List (Arg G)} {thread : Thread G}
    (hrun : (unpackArgs std info order paramv depv).run ⟨.zero :: parents, headers⟩ = .ok args thread) :
    ∃ list, args.getLast? = some (.list list) ∧
      (Forwards list (depv.drop info.depCount) ↔ info.depCount = 0) := by
  have hplaced : (unpackArgs std info order paramv depv).run (placed .null parents headers .fresh) =
      .ok args thread := hrun
  have hn : NullsForNullHandles info depv := by
    by_contra hn
    obtain ⟨a, thread', herr, -⟩ := unpackArgs_rejected ho hd hn
    cases herr.symm.trans hplaced
  have hargs : args = info.initializers.map (argOf info paramv depv) := by
    rw [unpackArgs_run ho hd hn] at hplaced
    exact report_ok hplaced
  refine ⟨received info.depCount depv, ?_, ?_⟩
  · rw [hargs, FnInfo.initializers, hv]
    simp [argOf]
  · constructor
    · intro h
      have hcap : depv.length = (depv.drop info.depCount).length := h.capacity_eq
      rw [List.length_drop] at hcap
      omega
    · intro h
      rw [h]
      exact received_forwards hu

end Forwarding

section OneStatic

def oneStatic : FnInfo := ⟨none, [.datablock], true⟩

def noStatic : FnInfo := ⟨none, [], true⟩

def twoDeps : List (OcrEdtDep Guid64) := [⟨⟨5⟩, 4096⟩, ⟨⟨6⟩, 8192⟩]

def started : Thread Guid64 := ⟨[.zero], fun _ => none⟩

theorem unpacked (info : FnInfo) (hd : info.depCount ≤ twoDeps.length) (hn : NullsForNullHandles info twoDeps)
    (hcalls : (info.initializers.flatMap (callsOf info twoDeps)).length ≤ maxDbAcquireCount) :
    ∃ thread, (unpackArgs reference info info.initializers [] twoDeps).run started =
      .ok (info.initializers.map (argOf info [] twoDeps)) thread := by
  obtain ⟨dbs, hrun⟩ := unpackArgs_returns (.refl _) hd hn ((distinctGuids_card_le _).trans hcalls)
  exact ⟨_, hrun⟩

theorem received_list_forwards_iff_noStatic : ∃ list,
    (noStatic.initializers.map (argOf noStatic [] twoDeps)).getLast? = some (.list list) ∧
      (Forwards list (twoDeps.drop noStatic.depCount) ↔ noStatic.depCount = 0) := by
  obtain ⟨thread, hrun⟩ := unpacked noStatic (by decide) (fun j hj => by cases hj) (by decide)
  exact received_list_forwards_iff (.refl _) (by decide) (by decide) rfl hrun

theorem received_list_counterexample :
    (∃ thread, (unpackArgs reference oneStatic oneStatic.initializers [] twoDeps).run started =
      .ok [.datablock ⟨⟨⟨5⟩⟩, 4096⟩, .list (received 1 twoDeps)] thread) ∧
    (TaskBuilder.createTask accepting noStatic plain none [] (some (received 1 twoDeps))).run [] =
      .error (.assertion .listIncomplete) [] ∧
    (∃ log, (Task.dependOnList accepting noStatic ⟨7⟩ (received 1 twoDeps) .default).run [] = .ok () log ∧
      log.length = 2) ∧
    ¬ Forwards (received 1 twoDeps) (twoDeps.drop oneStatic.depCount) := by
  have hpartial : (received 1 twoDeps).count ≠ (received 1 twoDeps).capacity := by decide
  have hnulls : NullsForNullHandles oneStatic twoDeps := by
    intro j hj
    rcases j with _ | j <;> cases hj
  refine ⟨unpacked oneStatic (by decide) hnulls (by decide), createTask_incomplete hpartial [], ⟨_, rfl, rfl⟩, ?_⟩
  intro h
  exact absurd h.capacity_eq (by decide)

end OneStatic

end Ocxxr.VarArgsForwarding

import Ocxxr.GuidMap
import Ocxxr.TaskLaunch

namespace Ocxxr.TaskLaunchSpec

open Ocr SortedSearch Bookkeeping Allocator TaskState AcquiredData AcquiredTable BookkeepingSpec GuidMap
  DatablockLists TaskLaunch

variable {G α β : Type}

def placed (arena : DatablockAllocator) (parents : List (TaskLocalState G)) (headers : Headers)
    (dbs : AcquiredDbInfo G) : Thread G := ⟨⟨dbs, arena⟩ :: parents, headers⟩

def report (place : AcquiredDbInfo G → Thread G) (value : α) :
    EStateM.Result Fault (AcquiredDbInfo G) Unit → EStateM.Result Fault (Thread G) α
  | .ok _ dbs => .ok value (place dbs)
  | .error e dbs => .error e (place dbs)

section Reports

variable {place : AcquiredDbInfo G → Thread G} {x : ThreadM G α} {f : α → ThreadM G β} {a : α} {b : β}
  {thread : Thread G}

theorem report_bind_pure {r : EStateM.Result Fault (AcquiredDbInfo G) Unit}
    (h : x.run thread = report place a r) (hf : ∀ dbs, (f a).run (place dbs) = .ok b (place dbs)) :
    (x >>= f).run thread = report place b r := by
  rw [EStateM.run_bind, h]
  cases r with
  | ok _ dbs => exact hf dbs
  | error e dbs => rfl

theorem report_ok {r : EStateM.Result Fault (AcquiredDbInfo G) Unit} {a' : α}
    (h : report place a r = .ok a' thread) : a' = a := by
  cases r with
  | ok _ dbs =>
      cases h
      rfl
  | error e dbs => cases h

theorem inTask_run (arena : DatablockAllocator) (parents : List (TaskLocalState G)) (headers : Headers)
    (x : BookM G Unit) (dbs : AcquiredDbInfo G) :
    (inTask x).run (placed arena parents headers dbs) = report (placed arena parents headers) () (x.run dbs) := by
  cases h : x.run dbs with
  | ok _ dbs' => exact inTask_ok.mpr ⟨_, parents, dbs', rfl, h, rfl⟩
  | error e dbs' =>
      simp only [inTask, placed, EStateM.run] at h ⊢
      rw [h]
      rfl

variable [OcrGuid G] {std : StdAlgorithms (DbPair G)} {dbs : AcquiredDbInfo G}

theorem addAll_append (calls calls' : List (G × Int)) (dbs : AcquiredDbInfo G) :
    (addAll std (calls ++ calls')).run dbs = match (addAll std calls).run dbs with
      | .ok _ dbs => (addAll std calls').run dbs
      | .error e dbs => .error e dbs := by
  simp only [addAll, List.forM_append, EStateM.run_bind]
  cases (forM calls fun call => addDatablock std call.1 call.2).run dbs <;> rfl

theorem report_bind {calls calls' : List (G × Int)}
    (h : x.run (place dbs) = report place a ((addAll std calls).run dbs))
    (hf : ∀ dbs, (f a).run (place dbs) = report place b ((addAll std calls').run dbs)) :
    (x >>= f).run (place dbs) = report place b ((addAll std (calls ++ calls')).run dbs) := by
  rw [EStateM.run_bind, h, addAll_append]
  cases (addAll std calls).run dbs with
  | ok _ dbs => exact hf dbs
  | error e dbs => rfl

/-- Each element adds its own calls, so a list of them adds all, from the left. -/
theorem report_mapM {ι : Type} {f : ι → ThreadM G β} (value : ι → β) (callsOf : ι → List (G × Int)) {l : List ι}
    (hf : ∀ i ∈ l, ∀ dbs, (f i).run (place dbs) = report place (value i) ((addAll std (callsOf i)).run dbs)) :
    (l.mapM f).run (place dbs) = report place (l.map value) ((addAll std (l.flatMap callsOf)).run dbs) := by
  induction l generalizing dbs with
  | nil => rfl
  | cons i l ih =>
      rw [List.mapM_cons, List.flatMap_cons]
      apply report_bind (hf i List.mem_cons_self dbs)
      intro dbs
      apply report_bind_pure (ih (fun i hi => hf i (List.mem_cons_of_mem _ hi)))
      intro dbs
      rfl

end Reports

variable [OcrGuid G] {std : StdAlgorithms (DbPair G)}

def datablockOf (dep : OcrEdtDep G) : Datablock G := ⟨⟨dep.guid⟩, dep.ptr⟩

def calls (deps : List (OcrEdtDep G)) : List (G × Int) := deps.map (fun dep => (dep.guid, dep.ptr))

def depAt (depv : List (OcrEdtDep G)) (j : Nat) : OcrEdtDep G := depv[j]?.getD ⟨nullGuid, 0⟩

theorem getElem?_depAt {depv : List (OcrEdtDep G)} {j : Nat} (hj : j < depv.length) :
    depv[j]? = some (depAt depv j) := by
  simp [depAt, hj]

def received (depCount : Nat) (depv : List (OcrEdtDep G)) : DatablockList G where
  capacity := depv.length
  count := depv.length - depCount
  data := (depv.drop depCount).map datablockOf ++
    List.replicate (depv.length - (depv.length - depCount)) ⟨⟨nullGuid⟩, 0⟩

theorem received_elements (s : Nat) (depv : List (OcrEdtDep G)) :
    elements (received s depv) = (depv.drop s).map datablockOf := by
  rw [elements, received]
  exact List.take_left' (by simp)

def callsOf (info : FnInfo) (depv : List (OcrEdtDep G)) : Initializer → List (G × Int)
  | .param => []
  | .dep .nullHandle _ => []
  | .dep _ j => calls [depAt depv j]
  | .varArgs => calls (depv.drop info.depCount)

def depArg : DepType → OcrEdtDep G → Arg G
  | .datablock, dep => .datablock (datablockOf dep)
  | .arena, dep => .arena ⟨⟨dep.guid⟩, dep.ptr⟩
  | .nullHandle, dep => .nullHandle dep.guid

def argOf (info : FnInfo) (paramv : List (BitVec 64)) (depv : List (OcrEdtDep G)) : Initializer → Arg G
  | .param => .param paramv
  | .dep type j => depArg type (depAt depv j)
  | .varArgs => .list (received info.depCount depv)

/-- A null handle takes nothing but the null dependence. -/
def Accepts (depv : List (OcrEdtDep G)) : Initializer → Prop
  | .dep .nullHandle j => depAt depv j = ⟨nullGuid, 0⟩
  | _ => True

section Evaluation

variable {arena : DatablockAllocator} {parents : List (TaskLocalState G)} {headers : Headers}
  {info : FnInfo} {paramv : List (BitVec 64)} {depv : List (OcrEdtDep G)}

theorem addAll_single (dep : OcrEdtDep G) : addAll std (calls [dep]) = addDatablock std dep.guid dep.ptr := by
  simp [addAll, calls]

theorem ofDep_run (dep : OcrEdtDep G) (dbs : AcquiredDbInfo G) :
    (Datablock.ofDep std dep).run (placed arena parents headers dbs) =
      report (placed arena parents headers) (datablockOf dep) ((addAll std (calls [dep])).run dbs) := by
  rw [addAll_single]
  exact report_bind_pure (inTask_run arena parents headers _ dbs) (fun _ => rfl)

theorem arenaOfDep_run (dep : OcrEdtDep G) (dbs : AcquiredDbInfo G) :
    (AcquiredData.Arena.ofDep std dep).run (placed arena parents headers dbs) =
      report (placed arena parents headers) ⟨⟨dep.guid⟩, dep.ptr⟩ ((addAll std (calls [dep])).run dbs) := by
  rw [addAll_single]
  exact report_bind_pure (inTask_run arena parents headers _ dbs) (fun _ => rfl)

omit [OcrGuid G] in
theorem add_run {σ : Type} {list : DatablockList G} (hcount : list.count < list.capacity)
    (hdata : list.count < list.data.length) (db : Datablock G) (s : σ) :
    (add list db).run s =
      .ok { list with data := list.data.set list.count db, count := list.count + 1 } s := by
  simp [add, hcount, hdata]

theorem addDeps_run (deps : List (OcrEdtDep G)) (front back : List (Datablock G)) (capacity : Nat)
    (hroom : front.length + deps.length ≤ capacity) (hback : deps.length ≤ back.length) (dbs : AcquiredDbInfo G) :
    (addDeps std deps ⟨capacity, front.length, front ++ back⟩).run (placed arena parents headers dbs) =
      report (placed arena parents headers)
        ⟨capacity, front.length + deps.length, front ++ deps.map datablockOf ++ back.drop deps.length⟩
        ((addAll std (calls deps)).run dbs) := by
  induction deps generalizing front back dbs with
  | nil => simp [addDeps, calls, addAll, report]
  | cons dep rest ih =>
      cases back with
      | nil => simp at hback
      | cons slot back =>
          simp only [List.length_cons] at hroom hback
          have hsplit : calls (dep :: rest) = calls [dep] ++ calls rest := rfl
          rw [addDeps, hsplit]
          apply report_bind (ofDep_run dep dbs)
          intro dbs
          rw [EStateM.run_bind, add_run (by simp only; omega) (by simp)]
          have h := ih (front ++ [datablockOf dep]) back (by simp; omega) (by omega) dbs
          simpa [Nat.add_assoc, Nat.add_comm 1] using h

theorem unpackVarArgs_run (depCount : Nat) (dbs : AcquiredDbInfo G) :
    (unpackVarArgs std depCount depv).run (placed arena parents headers dbs) =
      report (placed arena parents headers) (received depCount depv)
        ((addAll std (calls (depv.drop depCount))).run dbs) := by
  have h : (addDeps std (depv.drop depCount) (ofSize depv.length)).run (placed arena parents headers dbs) =
      report (placed arena parents headers) (received depCount depv)
        ((addAll std (calls (depv.drop depCount))).run dbs) := by
    have hdata : received depCount depv = ⟨depv.length,
      ([] : List (Datablock G)).length + (depv.drop depCount).length,
        [] ++ (depv.drop depCount).map datablockOf ++
          (List.replicate depv.length ⟨⟨nullGuid⟩, 0⟩).drop (depv.drop depCount).length⟩ := by
      simp [received]
    rw [hdata]
    exact addDeps_run (depv.drop depCount) [] _ depv.length (by simp) (by simp) dbs
  exact report_bind_pure h (fun _ => rfl)

theorem dep_mem {type : DepType} {j : Nat} : .dep type j ∈ info.initializers ↔ info.deps[j]? = some type := by
  simp only [FnInfo.initializers, List.mem_append, List.mem_map, Prod.exists, Initializer.dep.injEq,
    List.mem_zipIdx_iff_getElem?]
  cases info.param.isSome <;> cases info.hasVarArgs <;> simp

theorem varArgs_mem : .varArgs ∈ info.initializers ↔ info.hasVarArgs = true := by
  cases hv : info.hasVarArgs <;> cases hp : info.param.isSome <;> simp [FnInfo.initializers, hv, hp]

theorem bounded_of_mem {type : DepType} {j : Nat} (hi : .dep type j ∈ info.initializers) : j < info.depCount :=
  (List.getElem?_eq_some_iff.mp (dep_mem.mp hi)).1

variable {i : Initializer} (hi : i ∈ info.initializers) (hd : info.depCount ≤ depv.length)

include hi hd

theorem evaluateArg_run (hacc : Accepts depv i) (dbs : AcquiredDbInfo G) :
    (evaluateArg std info paramv depv i).run (placed arena parents headers dbs) =
      report (placed arena parents headers) (argOf info paramv depv i)
        ((addAll std (callsOf info depv i)).run dbs) := by
  cases i with
  | param => rfl
  | varArgs => exact report_bind_pure (unpackVarArgs_run _ dbs) (fun _ => rfl)
  | dep type j =>
      have hj := getElem?_depAt ((bounded_of_mem hi).trans_le hd)
      cases type with
      | datablock =>
          simp only [evaluateArg, hj, access, pure_bind]
          exact report_bind_pure (ofDep_run _ dbs) (fun _ => rfl)
      | arena =>
          simp only [evaluateArg, hj, access, pure_bind]
          exact report_bind_pure (arenaOfDep_run _ dbs) (fun _ => rfl)
      | nullHandle =>
          have hnull : depAt depv j = ⟨nullGuid, 0⟩ := hacc
          simp [evaluateArg, hj, hnull, nullHandleOfDep, ocrGuidIsNull, argOf, depArg, callsOf, addAll, report]

theorem evaluateArg_rejected (hacc : ¬ Accepts depv i) (dbs : AcquiredDbInfo G) :
    (evaluateArg std info paramv depv i).run (placed arena parents headers dbs) =
      .error (.assertion .nullHandleDep) (placed arena parents headers dbs) := by
  cases i with
  | param => exact absurd trivial hacc
  | varArgs => exact absurd trivial hacc
  | dep type j =>
      have hj := getElem?_depAt ((bounded_of_mem hi).trans_le hd)
      cases type with
      | datablock => exact absurd trivial hacc
      | arena => exact absurd trivial hacc
      | nullHandle =>
          have hnull : ((depAt depv j).ptr = 0 && ocrGuidIsNull (depAt depv j).guid) = false := by
            by_contra h
            simp only [Bool.not_eq_false, Bool.and_eq_true, decide_eq_true_eq, ocrGuidIsNull] at h
            apply hacc
            rw [Accepts, ← h.1, ← h.2]
          simp [evaluateArg, hj, nullHandleOfDep, hnull]

end Evaluation

end Ocxxr.TaskLaunchSpec

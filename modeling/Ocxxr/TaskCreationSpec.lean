import Ocxxr.TaskCreation

namespace Ocxxr.TaskCreationSpec

open Faults Ocr AcquiredData DatablockLists TaskLaunch TaskCreation

variable {G α : Type} {ocr : OcrEdt G} {info : FnInfo}

def Accepting (ocr : OcrEdt G) : Prop := ∀ log dependence, ocr.addDependence log dependence = 0

/-- The code returns after nothing but the given calls for dependences. -/
def Attaches (x : OcrM G Unit) (dependences : List (Dependence G)) : Prop :=
  ∀ log, x.run log = .ok () (log ++ dependences.map .addDependence)

theorem attaches_pure : Attaches (pure () : OcrM G Unit) [] := by
  intro log
  simp

theorem Attaches.bind {x y : OcrM G Unit} {l l' : List (Dependence G)} (hx : Attaches x l) (hy : Attaches y l') :
    Attaches (x >>= fun _ => y) (l ++ l') := by
  intro log
  rw [EStateM.run_bind, hx log]
  simp only [hy _, List.map_append, List.append_assoc]

theorem attaches_forM {ι : Type} {f : ι → OcrM G Unit} {dependences : ι → List (Dependence G)} {l : List ι}
    (h : ∀ i ∈ l, Attaches (f i) (dependences i)) : Attaches (forM l f) (l.flatMap dependences) := by
  induction l with
  | nil => exact attaches_pure
  | cons i l ih =>
      rw [List.forM_cons, List.flatMap_cons]
      exact (h i List.mem_cons_self).bind (ih (fun i hi => h i (List.mem_cons_of_mem _ hi)))

section Dependences

variable (hocr : Accepting ocr) (task : G) (mode : AccessMode)

include hocr

theorem ocrAddDependence_attaches (dependence : Dependence G) :
    Attaches (ocrAddDependence ocr dependence) [dependence] := by
  intro log
  simp [ocrAddDependence, hocr _ _]

theorem dependOn_attaches (slot : BitVec 32) (src : G) :
    Attaches (Task.dependOn ocr task slot src mode) [⟨src, task, slot, mode⟩] :=
  ocrAddDependence_attaches hocr _

theorem dependOnWithinList_attaches (index : BitVec 32) (src : G) :
    Attaches (Task.dependOnWithinList ocr info task index src mode)
      [⟨src, task, BitVec.ofNat 32 info.depCount + index, mode⟩] :=
  ocrAddDependence_attaches hocr _

theorem dependOnRange_attaches {start stop : Nat} {srcs : List G} (h : stop - start ≤ srcs.length) :
    Attaches (Task.dependOnRange ocr task mode start stop srcs)
      (((srcs.take (stop - start)).zipIdx start).map
        (fun src => ⟨src.1, task, BitVec.ofNat 32 src.2, mode⟩)) := by
  induction srcs generalizing start with
  | nil =>
      have hstop : stop ≤ start := Nat.sub_eq_zero_iff_le.mp (Nat.le_zero.mp h)
      simpa [Task.dependOnRange, hstop] using attaches_pure
  | cons src next ih =>
      rw [Task.dependOnRange]
      split
      next hstop => simpa [Nat.sub_eq_zero_of_le hstop] using attaches_pure
      next hstop =>
        have hn : stop - start = stop - (start + 1) + 1 := by omega
        rw [hn, List.take_succ_cons, List.zipIdx_cons, List.map_cons]
        exact (dependOn_attaches hocr task mode _ src).bind (ih (by simp only [List.length_cons] at h; omega))

omit hocr in
theorem index_attaches {list : DatablockList G} {j : Nat} {datablock : Datablock G} (hcap : j < list.capacity)
    (hdata : list.data[j]? = some datablock) {f : Datablock G → OcrM G Unit} {l : List (Dependence G)}
    (h : Attaches (f datablock) l) : Attaches (index list j >>= f) l := by
  intro log
  simp [index, hcap, hdata, h log]

theorem dependOnList_attaches {src : DatablockList G} (hcap : src.capacity < 2 ^ 32)
    (hdata : src.capacity ≤ src.data.length) :
    Attaches (Task.dependOnList ocr info task src mode)
      ((src.data.take src.capacity).zipIdx.map (fun datablock =>
        ⟨datablock.1.handle.guid, task, BitVec.ofNat 32 info.depCount + BitVec.ofNat 32 datablock.2, mode⟩)) := by
  have hcount : List.range (BitVec.ofNat 32 src.capacity).toNat =
      (src.data.take src.capacity).zipIdx.map Prod.snd := by
    rw [BitVec.toNat_ofNat, Nat.mod_eq_of_lt hcap, List.zipIdx_map_snd, List.length_take, min_eq_left hdata,
      List.range_eq_range']
  rw [Task.dependOnList, hcount, List.forM_map, List.map_eq_flatMap]
  apply attaches_forM
  intro datablock h
  have hslot := List.mem_zipIdx_iff_getElem?.mp h
  rw [List.getElem?_take] at hslot
  split at hslot
  next hlt => exact index_attaches hlt hslot (ocrAddDependence_attaches hocr _)
  next => cases hslot

end Dependences

section Faults

open TaskBuilder

variable {P : Fault → Prop} (h : P .invalidAccess)

include h

theorem store_steady (depv : List G) (i : Nat) (guid : G) : Steady P (store depv i guid) := by
  rw [store]
  split
  next => exact steady_pure _
  next => exact steady_throw h

theorem storeDeps_steady (depv guids : List G) (i : Nat) : Steady P (storeDeps depv i guids) := by
  induction guids generalizing depv i with
  | nil => exact steady_pure _
  | cons guid rest ih => exact (store_steady h depv i guid).bind (fun depv => ih depv _)

theorem storeVarArgs_steady (n : Nat) (depv : List G) (i : Nat) (data : List (Datablock G)) :
    Steady P (storeVarArgs n depv i data) := by
  induction n generalizing depv i data with
  | zero => exact steady_pure _
  | succ n ih =>
      cases data with
      | nil => exact steady_throw h
      | cons datablock next => exact (store_steady h depv i _).bind (fun depv => ih depv _ _)

theorem fillDepv_steady [OcrGuid G] (depc : BitVec 32) (deps : List G) (varArgs : DatablockList G) :
    Steady P (fillDepv info depc deps varArgs) := by
  rw [fillDepv]
  split
  next =>
    exact (storeDeps_steady h _ _ _).bind
      (fun depv => (storeVarArgs_steady h _ _ _ _).bind (fun depv => steady_pure _))
  next => exact steady_pure _

omit h in
theorem init_failsWith (hparams : P (.assertion .paramsMissing)) (outEvent : Bool) (template : G)
    (paramv : Option (List (BitVec 64))) (depc : BitVec 32) (depv : Option (List G)) (hint : Int)
    (flags : BitVec 16) :
    FailsWith P (Task.init ocr info outEvent template paramv depc depv hint flags) := by
  refine (failsWith_assert _ hparams).bind (fun _ => failsWith_get.bind (fun log => ?_))
  exact (failsWith_modify _).bind (fun _ => failsWith_pure _)

end Faults

section Requests

open TaskBuilder

variable {builder : TaskBuilder G} {outEvent : Bool} {params : Option (List (BitVec 64))}

structure Complete (list : DatablockList G) : Prop where
  count_eq : list.count = list.capacity
  data_length : list.data.length = list.capacity

def sources (list : DatablockList G) : List G := (elements list).map (fun datablock => datablock.handle.guid)

theorem Complete.elements_eq {list : DatablockList G} (h : Complete list) : elements list = list.data := by
  rw [elements, h.count_eq, ← h.data_length, List.take_length]

theorem Complete.sources_length {list : DatablockList G} (h : Complete list) :
    (sources list).length = list.capacity := by
  rw [sources, List.length_map, h.elements_eq, h.data_length]

def depvPtr (depv : List G) : Option (List G) := if 0 < depv.length then some depv else none

def request (builder : TaskBuilder G) (outEvent : Bool) (params : Option (List (BitVec 64))) (depc : Nat)
    (depv : Option (List G)) : EdtRequest G :=
  ⟨builder.templateGuid, params, BitVec.ofNat 32 depc, depv, builder.flags, builder.hint, outEvent⟩

/-- The code returns after nothing but the given request for a task. -/
def Creates (ocr : OcrEdt G) (x : OcrM G (EdtAnswer G)) (request : EdtRequest G) : Prop :=
  ∀ log, x.run log = .ok (ocr.edtCreate log request) (log ++ [.edtCreate request])

theorem init_creates (hp : params.isSome = info.param.isSome) (depc : Nat) (depv : Option (List G)) :
    Creates ocr (Task.init ocr info outEvent builder.templateGuid params (BitVec.ofNat 32 depc) depv
      builder.hint builder.flags) (request builder outEvent params depc depv) := by
  intro log
  have hpresent : (params.isSome || info.param.isNone) = true := by
    cases hi : info.param <;> simp_all
  simp [Task.init, hpresent, ocrEdtCreate, request]

theorem creates_of_assert {c : Bool} {a : Assertion} {x : OcrM G (EdtAnswer G)} {r : EdtRequest G} (hc : c = true)
    (h : Creates ocr x r) : Creates ocr (assert c a >>= fun _ => x) r := by
  subst hc
  exact h

theorem creates_of_run {β : Type} {x : OcrM G β} {b : β} {f : β → OcrM G (EdtAnswer G)} {r : EdtRequest G}
    (hx : ∀ log, x.run log = .ok b log) (h : Creates ocr (f b) r) : Creates ocr (x >>= f) r := by
  intro log
  rw [EStateM.run_bind, hx log]
  exact h log

theorem store_run (front back : List G) (old guid : G) (log : List (OcrCall G)) :
    (store (front ++ old :: back) front.length guid).run log = .ok (front ++ guid :: back) log := by
  simp [store]

theorem storeDeps_run (front guids back : List G) (h : guids.length ≤ back.length) (log : List (OcrCall G)) :
    (storeDeps (front ++ back) front.length guids).run log =
      .ok (front ++ guids ++ back.drop guids.length) log := by
  induction guids generalizing front back with
  | nil => simp [storeDeps]
  | cons guid rest ih =>
      cases back with
      | nil => simp at h
      | cons old back =>
          rw [storeDeps, EStateM.run_bind, store_run]
          simpa using ih (front ++ [guid]) back (by simpa using h)

theorem storeDeps_replicate (guids : List G) (m : Nat) (old : G) (log : List (OcrCall G)) :
    (storeDeps (List.replicate (guids.length + m) old) 0 guids).run log =
      .ok (guids ++ List.replicate m old) log := by
  have h := storeDeps_run [] guids (List.replicate (guids.length + m) old) (by simp) log
  simpa using h

theorem storeVarArgs_run (n : Nat) (front back : List G) (data : List (Datablock G)) (hback : n ≤ back.length)
    (hdata : n ≤ data.length) (log : List (OcrCall G)) :
    (storeVarArgs n (front ++ back) front.length data).run log =
      .ok (front ++ (data.take n).map (fun datablock => datablock.handle.guid) ++ back.drop n) log := by
  induction n generalizing front back data with
  | zero => simp [storeVarArgs]
  | succ n ih =>
      cases back with
      | nil => simp at hback
      | cons old back =>
          cases data with
          | nil => simp at hdata
          | cons datablock next =>
              rw [storeVarArgs, EStateM.run_bind, store_run]
              simpa using ih (front ++ [datablock.handle.guid]) back next (by simpa using hback)
                (by simpa using hdata)

variable [OcrGuid G] (hevent : outEvent = false ∨ builder.flags ≠ edtPropFinish G)
  (hp : params.isSome = info.param.isSome)

include hevent hp

omit hp in
theorem event_allowed : (!outEvent || decide (builder.flags ≠ edtPropFinish G)) = true := by
  rcases hevent with h | h <;> simp [h]

theorem createFullTask_creates {deps : List G} (hd : deps.length = info.depCount) (hs : info.depCount < 2 ^ 32) :
    Creates ocr (createFullTask ocr info builder outEvent params deps)
      (request builder outEvent params deps.length (depvPtr deps)) := by
  have hdepc : (BitVec.ofNat 32 info.depCount).toNat = deps.length := by
    rw [BitVec.toNat_ofNat, Nat.mod_eq_of_lt hs, hd]
  have hpos : 0 < BitVec.ofNat 32 info.depCount ↔ 0 < deps.length := by
    rw [BitVec.lt_def, hdepc]
    rfl
  have hptr : (if 0 < BitVec.ofNat 32 info.depCount then
      some ((deps ++ [nullGuid]).take (BitVec.ofNat 32 info.depCount).toNat) else none) = depvPtr deps := by
    simp only [hpos, hdepc, List.take_left, depvPtr]
  apply creates_of_assert (event_allowed hevent)
  simp only [hptr, hd]
  exact init_creates hp _ _

omit hevent hp in
/-- The null GUIDs behind the static sources are overwritten, up to the last one, for
which the array has one element more than the task has slots. -/
theorem fillDepv_run {deps : List G} {varArgs : DatablockList G} (hd : deps.length = info.depCount)
    (hc : Complete varArgs) (hs : info.depCount + varArgs.capacity + 1 < 2 ^ 32) (log : List (OcrCall G)) :
    (fillDepv info (BitVec.ofNat 32 (info.depCount + varArgs.capacity)) deps varArgs).run log =
      .ok (depvPtr (deps ++ sources varArgs)) log := by
  have hlen : (deps ++ sources varArgs).length = info.depCount + varArgs.capacity := by
    rw [List.length_append, hc.sources_length, hd]
  have hdepc : (BitVec.ofNat 32 (info.depCount + varArgs.capacity)).toNat = info.depCount + varArgs.capacity := by
    rw [BitVec.toNat_ofNat]
    omega
  have hsize : (BitVec.ofNat 32 (info.depCount + varArgs.capacity) + 1).toNat =
      info.depCount + varArgs.capacity + 1 := by
    rw [BitVec.toNat_add, hdepc]
    exact Nat.mod_eq_of_lt hs
  have hpos : 0 < BitVec.ofNat 32 (info.depCount + varArgs.capacity) ↔ 0 < (deps ++ sources varArgs).length := by
    rw [BitVec.lt_def, hdepc, hlen]
    rfl
  rw [fillDepv, depvPtr]
  simp only [hpos, hdepc, hsize, Nat.add_sub_cancel_left]
  split
  next =>
    have hn : info.depCount + varArgs.capacity + 1 = (deps ++ [nullGuid]).length + varArgs.capacity := by
      simp only [List.length_append, List.length_singleton]
      omega
    have hback : deps ++ [nullGuid] ++ List.replicate varArgs.capacity (nullGuid : G) =
        deps ++ List.replicate (varArgs.capacity + 1) nullGuid := by
      rw [List.append_assoc, List.singleton_append, ← List.replicate_succ]
    have hvar := storeVarArgs_run varArgs.capacity deps
      (List.replicate (varArgs.capacity + 1) nullGuid) varArgs.data
      (by simp) hc.data_length.ge log
    have hsources : (varArgs.data.take varArgs.capacity).map (fun datablock => datablock.handle.guid) =
        sources varArgs := by
      rw [sources, elements, hc.count_eq]
    rw [hsources, hd] at hvar
    rw [EStateM.run_bind, hn, storeDeps_replicate, hback]
    simp only [EStateM.run_bind, hvar, EStateM.run_pure]
    rw [← hlen, List.take_left]
  next => rfl

theorem createFullTaskVarArgs_creates {deps : List G} {varArgs : DatablockList G}
    (hd : deps.length = info.depCount) (hc : Complete varArgs)
    (hs : info.depCount + varArgs.capacity + 1 < 2 ^ 32) :
    Creates ocr (createFullTaskVarArgs ocr info builder outEvent params deps varArgs)
      (request builder outEvent params (deps ++ sources varArgs).length (depvPtr (deps ++ sources varArgs))) := by
  have hlen : (deps ++ sources varArgs).length = info.depCount + varArgs.capacity := by
    rw [List.length_append, hc.sources_length, hd]
  apply creates_of_assert (event_allowed hevent)
  apply creates_of_assert (by simp [hc.count_eq])
  apply creates_of_run (fillDepv_run hd hc hs)
  rw [hlen]
  exact init_creates hp _ _

theorem createNullTask_creates {n : BitVec 32} (hn : n = 0 ∨ info.hasVarArgs = true) :
    Creates ocr (createNullTask ocr info builder outEvent params n)
      (request builder outEvent params (info.depCount + n.toNat) none) := by
  have hcount : (decide (n = 0) || info.hasVarArgs) = true := by
    rcases hn with h | h <;> simp [h]
  exact creates_of_assert (event_allowed hevent) (creates_of_assert hcount (init_creates hp _ _))

end Requests

section Examples

def accepting : OcrEdt Guid64 := ⟨fun _ _ => ⟨⟨7⟩, ⟨8⟩⟩, fun _ _ => 0⟩

def builderWith (flags : BitVec 16) : TaskBuilder Guid64 := ⟨⟨3⟩, 0, flags⟩

def plain : TaskBuilder Guid64 := builderWith (edtPropNone Guid64)

end Examples

end Ocxxr.TaskCreationSpec

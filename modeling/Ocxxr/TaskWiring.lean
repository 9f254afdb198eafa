import Ocxxr.ArgumentOrder
import Ocxxr.TaskCreationSpec

namespace Ocxxr.TaskWiring

open Ocr SortedSearch Bookkeeping Allocator TaskState AcquiredData GuidMap DatablockLists TaskLaunch
  TaskLaunchSpec ArgumentOrder TaskCreation TaskCreationSpec

inductive Wiring (G : Type)
  | dependOn (slot : Nat) (src : G) (mode : AccessMode)
  | dependOnRange (start stop : Nat) (srcs : List G) (mode : AccessMode)
  | dependOnList (src : DatablockList G) (mode : AccessMode)
  | dependOnWithinList (index : BitVec 32) (src : G) (mode : AccessMode)

variable {G : Type}

namespace Wiring

def perform (ocr : OcrEdt G) (info : FnInfo) (task : G) : Wiring G → OcrM G Unit
  | dependOn slot src mode => Task.dependOn ocr task (BitVec.ofNat 32 slot) src mode
  | dependOnRange start stop srcs mode => Task.dependOnRange ocr task mode start stop srcs
  | dependOnList src mode => Task.dependOnList ocr info task src mode
  | dependOnWithinList index src mode => Task.dependOnWithinList ocr info task index src mode

def slots (info : FnInfo) : Wiring G → List Nat
  | dependOn slot _ _ => [slot]
  | dependOnRange start stop _ _ => List.range' start (stop - start)
  | dependOnList src _ => List.range' info.depCount src.capacity
  | dependOnWithinList index _ _ => [info.depCount + index.toNat]

/-- The operation compiles for the task, and its sources are the ones planned. -/
def Takes (info : FnInfo) (gs : List G) : Wiring G → Prop
  | dependOn slot src _ => slot < info.depCount ∧ gs[slot]? = some src
  | dependOnRange start stop srcs _ => stop ≤ info.depCount ∧ (gs.drop start).take (stop - start) <+: srcs
  | dependOnList src _ => Complete src ∧ gs.drop info.depCount = sources src
  | dependOnWithinList index src _ => gs[info.depCount + index.toNat]? = some src

end Wiring

def performAll (ocr : OcrEdt G) (info : FnInfo) (task : G) (ops : List (Wiring G)) : OcrM G Unit :=
  forM ops (fun op => op.perform ocr info task)

section Assignments

variable [OcrGuid G]

def planned (gs : List G) (j : Nat) : Nat × G := (j, gs.getD j nullGuid)

def assignedBy (task : G) : OcrCall G → List (Nat × G)
  | .edtCreate request =>
      ((request.depv.getD []).zipIdx.map Prod.swap).filter (fun slot => !ocrGuidIsUninitialized slot.2)
  | .addDependence dependence =>
      if dependence.destination = task then [(dependence.slot.toNat, dependence.source)] else []

def assigned (task : G) (calls : List (OcrCall G)) : List (Nat × G) := calls.flatMap (assignedBy task)

theorem zipIdx_planned {front gs : List G} {a : Nat} (h : front <+: gs.drop a) :
    (front.zipIdx a).map Prod.swap = (List.range' a front.length).map (planned gs) := by
  induction front generalizing a with
  | nil => rfl
  | cons g front ih =>
      obtain ⟨rest, hdrop, hfront⟩ := List.cons_prefix_iff.mp h
      have hslot : gs[a]? = some g := by
        have h0 := congrArg (·[0]?) hdrop
        simpa using h0
      have hrest : gs.drop (a + 1) = rest := by
        rw [← List.drop_drop, hdrop, List.drop_one, List.tail_cons]
      rw [List.zipIdx_cons, List.map_cons, List.length_cons, List.range'_succ, List.map_cons,
        ih (hrest.symm ▸ hfront)]
      simp [planned, hslot]

theorem planned_all (gs : List G) : gs.zipIdx.map Prod.swap = (List.range gs.length).map (planned gs) := by
  rw [List.range_eq_range']
  exact zipIdx_planned (List.prefix_rfl)

theorem assigned_dependences {task : G} {dependences : List (Dependence G)}
    (h : ∀ d ∈ dependences, d.destination = task) :
    assigned task (dependences.map .addDependence) = dependences.map (fun d => (d.slot.toNat, d.source)) := by
  induction dependences with
  | nil => rfl
  | cons d rest ih =>
      have hd : d.destination = task := h d List.mem_cons_self
      have hrest := ih (fun d hd => h d (List.mem_cons_of_mem _ hd))
      simp only [assigned] at hrest
      simp [assigned, assignedBy, hd, hrest]

end Assignments

section Operations

variable [OcrGuid G] {ocr : OcrEdt G} {info : FnInfo} {gs : List G}

def Assigns (x : OcrM G Unit) (task : G) (gs : List G) (slots : List Nat) : Prop :=
  ∃ dependences, Attaches x dependences ∧ (∀ d ∈ dependences, d.destination = task) ∧
    dependences.map (fun d => (d.slot.toNat, d.source)) = slots.map (planned gs)

theorem assigns_of_front {x : OcrM G Unit} {task : G} {mode : AccessMode} {front : List G} {a : Nat}
    (hfront : front <+: gs.drop a) (hs : gs.length < 2 ^ 32) (hx : Attaches x ((front.zipIdx a).map
      (fun src => ⟨src.1, task, BitVec.ofNat 32 src.2, mode⟩))) :
    Assigns x task gs (List.range' a front.length) := by
  refine ⟨_, hx, ?_, ?_⟩
  · intro d hd
    obtain ⟨src, -, rfl⟩ := List.mem_map.mp hd
    rfl
  · rw [← zipIdx_planned hfront, List.map_map]
    apply List.map_congr_left
    intro src hsrc
    have hle := hfront.length_le
    have hlow := List.le_snd_of_mem_zipIdx hsrc
    have hhigh := List.snd_lt_add_of_mem_zipIdx hsrc
    rw [List.length_drop] at hle
    have hslot : (BitVec.ofNat 32 src.2).toNat = src.2 := by
      rw [BitVec.toNat_ofNat]
      exact Nat.mod_eq_of_lt (by omega)
    have hswap : src.swap = (src.2, src.1) := rfl
    simp only [Function.comp_apply, hslot, hswap]

omit [OcrGuid G] in
theorem singleton_front {j : Nat} {g : G} (h : gs[j]? = some g) : [g] <+: gs.drop j := by
  obtain ⟨hj, rfl⟩ := List.getElem?_eq_some_iff.mp h
  rw [List.drop_eq_getElem_cons hj]
  exact ⟨_, rfl⟩

theorem Assigns.append {x y : OcrM G Unit} {task : G} {slots slots' : List Nat} (hx : Assigns x task gs slots)
    (hy : Assigns y task gs slots') : Assigns (x >>= fun _ => y) task gs (slots ++ slots') := by
  obtain ⟨l, hl, hdest, hmap⟩ := hx
  obtain ⟨l', hl', hdest', hmap'⟩ := hy
  refine ⟨l ++ l', hl.bind hl', ?_, by rw [List.map_append, List.map_append, hmap, hmap']⟩
  intro d hd
  rcases List.mem_append.mp hd with hd | hd
  · exact hdest d hd
  · exact hdest' d hd

variable (hocr : Accepting ocr) (hs : gs.length < 2 ^ 32) (task : G)

include hocr hs

theorem perform_assigns {op : Wiring G} (hop : op.Takes info gs) (hd : info.depCount ≤ gs.length) :
    Assigns (op.perform ocr info task) task gs (op.slots info) := by
  cases op with
  | dependOn slot src mode =>
      obtain ⟨-, hsrc⟩ := hop
      exact assigns_of_front (singleton_front hsrc) hs (dependOn_attaches hocr task mode _ src)
  | dependOnRange start stop srcs mode =>
      obtain ⟨hstop, hsrcs⟩ := hop
      have hlen : ((gs.drop start).take (stop - start)).length = stop - start := by
        rw [List.length_take, List.length_drop]
        omega
      have htake := List.prefix_iff_eq_take.mp hsrcs
      rw [hlen] at htake
      have hx := dependOnRange_attaches hocr task mode (hlen.symm.trans_le hsrcs.length_le)
      rw [← htake] at hx
      have h := assigns_of_front (List.take_prefix _ _) hs hx
      rwa [hlen] at h
  | dependOnList src mode =>
      obtain ⟨hc, hsrc⟩ := hop
      have hcap : src.capacity ≤ gs.length := by
        rw [← hc.sources_length, ← hsrc, List.length_drop]
        omega
      have hx : Attaches (Task.dependOnList ocr info task src mode) _ :=
        dependOnList_attaches hocr task mode (hcap.trans_lt hs) hc.data_length.ge
      have hdependences : (src.data.take src.capacity).zipIdx.map (fun datablock =>
          Dependence.mk datablock.1.handle.guid task
            (BitVec.ofNat 32 info.depCount + BitVec.ofNat 32 datablock.2) mode) =
            ((sources src).zipIdx info.depCount).map (fun src => ⟨src.1, task, BitVec.ofNat 32 src.2, mode⟩) := by
        rw [sources, hc.elements_eq, ← hc.data_length, List.take_length, List.zipIdx_map,
          List.zipIdx_eq_map_add (i := info.depCount), List.map_map, List.map_map]
        apply List.map_congr_left
        intro datablock _
        simp [BitVec.ofNat_add, BitVec.add_comm]
      rw [hdependences] at hx
      have h := assigns_of_front (hsrc ▸ List.prefix_rfl) hs hx
      rwa [hc.sources_length] at h
  | dependOnWithinList index src mode =>
      have hx : Attaches (Task.dependOnWithinList ocr info task index src mode) _ :=
        dependOnWithinList_attaches hocr task mode index src
      have hslot : BitVec.ofNat 32 info.depCount + index = BitVec.ofNat 32 (info.depCount + index.toNat) := by
        simp [BitVec.ofNat_add]
      rw [hslot] at hx
      exact assigns_of_front (singleton_front hop) hs hx

theorem performAll_assigns {ops : List (Wiring G)} (hops : ∀ op ∈ ops, op.Takes info gs)
    (hd : info.depCount ≤ gs.length) :
    Assigns (performAll ocr info task ops) task gs (ops.flatMap (Wiring.slots info)) := by
  induction ops with
  | nil => exact ⟨[], attaches_pure, by simp, rfl⟩
  | cons op ops ih =>
      rw [performAll, List.forM_cons, List.flatMap_cons]
      exact (perform_assigns hocr hs task (hops op List.mem_cons_self) hd).append
        (ih (fun op hop => hops op (List.mem_cons_of_mem _ hop)))

end Operations

structure Plan (G : Type) where
  info : FnInfo
  builder : TaskBuilder G
  params : Option (List (BitVec 64))
  deps : List G
  varArgs : Option (DatablockList G)

def Plan.gs (plan : Plan G) : List G := plan.deps ++ plan.varArgs.elim [] sources

/-- The sources fit the task function, their number fits 32 bits, and none of them is
the placeholder for a missing one. -/
structure Plan.Valid [OcrGuid G] (plan : Plan G) : Prop where
  params : plan.params.isSome = plan.info.param.isSome
  deps_length : plan.deps.length = plan.info.depCount
  varArgs_isSome : plan.varArgs.isSome = plan.info.hasVarArgs
  complete : ∀ list, plan.varArgs = some list → Complete list
  count_lt : plan.gs.length < 2 ^ 32
  real : ∀ g ∈ plan.gs, g ≠ uninitializedGuid

/-- The functions that make a task: with all of its sources, with none, or with some. -/
inductive Creation
  | full
  | null (future : Bool)
  | padded (future : Bool) (given : Nat)

namespace Creation

def make [OcrGuid G] (ocr : OcrEdt G) (plan : Plan G) : Creation → OcrM G G
  | full => TaskBuilder.createTask ocr plan.info plan.builder plan.params plan.deps plan.varArgs
  | null false =>
      TaskBuilder.createTaskPartial ocr plan.info plan.builder plan.params
        (BitVec.ofNat 32 (plan.gs.length - plan.info.depCount))
  | null true => do
      let future ← TaskBuilder.createFuturePartial ocr plan.info plan.builder plan.params
        (BitVec.ofNat 32 (plan.gs.length - plan.info.depCount))
      pure future.task
  | padded false given =>
      TaskBuilder.createTaskPartialDeps ocr plan.info plan.builder plan.params (plan.deps.take given)
  | padded true given => do
      let future ← TaskBuilder.createFuturePartialDeps ocr plan.info plan.builder plan.params
        (plan.deps.take given)
      pure future.task

def given (plan : Plan G) : Creation → Nat
  | full => plan.gs.length
  | null _ => 0
  | padded _ given => given

def isFuture : Creation → Bool
  | full => false
  | null future => future
  | padded future _ => future

/-- Some of the sources are given to tasks without a list only, no future is made of a
finish task, and `CreateTask` with a list counts one slot more than there are. -/
structure Allowed [OcrGuid G] (plan : Plan G) (creation : Creation) : Prop where
  room : creation = full → plan.info.hasVarArgs = true → plan.gs.length + 1 < 2 ^ 32
  event : creation.isFuture = false ∨ plan.builder.flags ≠ edtPropFinish G
  proper : ∀ future given, creation = padded future given →
    plan.info.hasVarArgs = false ∧ 0 < given ∧ given < plan.info.depCount

end Creation

def wire [OcrGuid G] (ocr : OcrEdt G) (plan : Plan G) (creation : Creation) (ops : List (Wiring G)) :
    OcrM G G := do
  let task ← creation.make ocr plan
  performAll ocr plan.info task ops
  pure task

section Agreement

variable [OcrGuid G] {ocr : OcrEdt G} {plan : Plan G}

/-- The calls ask for one task, with a slot for every source, and give every slot its
source, once. -/
structure Wired (plan : Plan G) (task : G) (calls : List (OcrCall G)) : Prop where
  created : ∃ outEvent depv dependences,
    calls = .edtCreate (request plan.builder outEvent plan.params plan.gs.length depv) ::
      List.map OcrCall.addDependence dependences
  assigned : (assigned task calls).Perm (plan.gs.zipIdx.map Prod.swap)

theorem provided_padded {front : List G} (hreal : ∀ g ∈ front, g ≠ uninitializedGuid) (n : Nat) :
    ((front ++ List.replicate n uninitializedGuid).zipIdx.map Prod.swap).filter
      (fun slot => !ocrGuidIsUninitialized slot.2) = front.zipIdx.map Prod.swap := by
  have hmem : ∀ {l : List G} {a : Nat} {slot : Nat × G}, slot ∈ (l.zipIdx a).map Prod.swap → slot.2 ∈ l := by
    intro l a slot hslot
    obtain ⟨src, hsrc, rfl⟩ := List.mem_map.mp hslot
    exact List.fst_mem_of_mem_zipIdx hsrc
  have hfront : (front.zipIdx.map Prod.swap).filter (fun slot => !ocrGuidIsUninitialized slot.2) =
      front.zipIdx.map Prod.swap := by
    apply List.filter_eq_self.mpr
    intro slot hslot
    simp [ocrGuidIsUninitialized, hreal _ (hmem hslot)]
  have hback : (((List.replicate n (uninitializedGuid : G)).zipIdx (0 + front.length)).map Prod.swap).filter
      (fun slot => !ocrGuidIsUninitialized slot.2) = [] := by
    apply List.filter_eq_nil_iff.mpr
    intro slot hslot
    simp [ocrGuidIsUninitialized, List.eq_of_mem_replicate (hmem hslot)]
  rw [List.zipIdx_append, List.map_append, List.filter_append, hfront, hback, List.append_nil]

structure Made (ocr : OcrEdt G) (plan : Plan G) (x : OcrM G G) (given : Nat) : Prop where
  given_le : given ≤ plan.gs.length
  run : ∃ outEvent depv,
    (∀ log, x.run log =
      .ok (ocr.edtCreate log (request plan.builder outEvent plan.params plan.gs.length depv)).guid
      (log ++ [.edtCreate (request plan.builder outEvent plan.params plan.gs.length depv)])) ∧
    ∀ task, assignedBy task (.edtCreate (request plan.builder outEvent plan.params plan.gs.length depv)) =
      (List.range' 0 given).map (planned plan.gs)

theorem assignedBy_request (task : G) (builder : TaskBuilder G) (outEvent : Bool)
    (params : Option (List (BitVec 64))) (depc : Nat) {front : List G} (hfront : front <+: plan.gs)
    (hreal : ∀ g ∈ plan.gs, g ≠ uninitializedGuid) (n : Nat) :
    assignedBy task (.edtCreate (request builder outEvent params depc
      (depvPtr (front ++ List.replicate n uninitializedGuid)))) =
      (List.range' 0 front.length).map (planned plan.gs) := by
  have hdepv : (depvPtr (front ++ List.replicate n (uninitializedGuid : G))).getD [] =
      front ++ List.replicate n uninitializedGuid := by
    rw [depvPtr]
    split
    next => rfl
    next h => exact (List.eq_nil_of_length_eq_zero (by omega)).symm
  rw [assignedBy, request, hdepv, provided_padded (fun g hg => hreal g (hfront.mem hg))]
  exact zipIdx_planned hfront

omit [OcrGuid G] in
theorem guid_run {x : OcrM G (EdtAnswer G)} {r : EdtRequest G} (h : Creates ocr x r) (log : List (OcrCall G)) :
    (x >>= fun answer => pure answer.guid).run log = .ok (ocr.edtCreate log r).guid (log ++ [.edtCreate r]) := by
  rw [EStateM.run_bind, h log]
  rfl

theorem made_full (hv : plan.Valid) (hroom : plan.info.hasVarArgs = true → plan.gs.length + 1 < 2 ^ 32) :
    Made ocr plan (Creation.full.make ocr plan) plan.gs.length := by
  have hprovided : ∀ task, assignedBy task (.edtCreate
      (request plan.builder false plan.params plan.gs.length (depvPtr plan.gs))) =
        (List.range' 0 plan.gs.length).map (planned plan.gs) := by
    intro task
    have h := assignedBy_request task plan.builder false plan.params plan.gs.length List.prefix_rfl hv.real 0
    rwa [List.replicate_zero, List.append_nil] at h
  refine ⟨le_rfl, false, depvPtr plan.gs, fun log => ?_, hprovided⟩
  simp only [Creation.make, TaskBuilder.createTask]
  cases hlist : plan.varArgs with
  | none =>
      have hgs : plan.gs = plan.deps := by simp [Plan.gs, hlist]
      have hcount := hv.count_lt
      rw [hgs, hv.deps_length] at hcount
      rw [hgs]
      exact guid_run (createFullTask_creates (.inl rfl) hv.params hv.deps_length hcount) log
  | some list =>
      have hc := hv.complete list hlist
      have hgs : plan.gs = plan.deps ++ sources list := by simp [Plan.gs, hlist]
      have hvar : plan.info.hasVarArgs = true := by rw [← hv.varArgs_isSome, hlist]; rfl
      have hroom := hroom hvar
      rw [hgs, List.length_append, hv.deps_length, hc.sources_length] at hroom
      rw [hgs]
      exact guid_run (createFullTaskVarArgs_creates (.inl rfl) hv.params hv.deps_length hc hroom) log

theorem gs_length (hv : plan.Valid) : plan.info.depCount ≤ plan.gs.length ∧
    (plan.gs.length - plan.info.depCount = 0 ∨ plan.info.hasVarArgs = true) ∧
    (plan.info.hasVarArgs = false → plan.gs = plan.deps) := by
  rw [Plan.gs, List.length_append, hv.deps_length, ← hv.varArgs_isSome]
  cases plan.varArgs with
  | none => simp
  | some list => simp

theorem made_null (hv : plan.Valid) {future : Bool} (he : future = false ∨ plan.builder.flags ≠ edtPropFinish G) :
    Made ocr plan ((Creation.null future).make ocr plan) 0 := by
  have hlt := hv.count_lt
  obtain ⟨hle, hvar, -⟩ := gs_length hv
  have hcount : (BitVec.ofNat 32 (plan.gs.length - plan.info.depCount)).toNat =
      plan.gs.length - plan.info.depCount := by
    rw [BitVec.toNat_ofNat]
    exact Nat.mod_eq_of_lt (by omega)
  have hn : BitVec.ofNat 32 (plan.gs.length - plan.info.depCount) = 0 ∨ plan.info.hasVarArgs = true := by
    rcases hvar with h | h
    · exact .inl (by rw [h]; rfl)
    · exact .inr h
  have hassert : (decide (BitVec.ofNat 32 (plan.gs.length - plan.info.depCount) = 0) ||
      plan.info.hasVarArgs) = true := by
    simpa using hn
  have hrun : Creates ocr (TaskBuilder.createNullTask ocr plan.info plan.builder future plan.params _)
      (request plan.builder future plan.params _ none) := createNullTask_creates he hv.params hn
  rw [hcount, Nat.add_sub_cancel' hle] at hrun
  refine ⟨Nat.zero_le _, future, none, fun log => ?_, fun task => rfl⟩
  cases future with
  | false =>
      simp only [Creation.make, TaskBuilder.createTaskPartial, hassert, EStateM.run_bind, run_assert_true,
        hrun log, EStateM.run_pure]
  | true =>
      simp only [Creation.make, TaskBuilder.createFuturePartial, hassert, EStateM.run_bind, run_assert_true,
        hrun log, EStateM.run_pure]

theorem made_padded (hv : plan.Valid) {future : Bool} {given : Nat}
    (he : future = false ∨ plan.builder.flags ≠ edtPropFinish G) (hvar : plan.info.hasVarArgs = false)
    (hg : given < plan.info.depCount) : Made ocr plan ((Creation.padded future given).make ocr plan) given := by
  have hgs := (gs_length hv).2.2 hvar
  have hlen := hv.deps_length
  have hlt := hv.count_lt
  have hfront : plan.deps.take given <+: plan.gs := hgs ▸ List.take_prefix _ _
  have htake : (plan.deps.take given).length = given := by
    rw [List.length_take]
    omega
  have hpadded : (plan.deps.take given ++ TaskBuilder.missing plan.info (plan.deps.take given)).length =
      plan.info.depCount := by
    rw [List.length_append, TaskBuilder.missing, List.length_replicate, htake]
    omega
  have hgslen : plan.gs.length = plan.info.depCount := by rw [hgs, hlen]
  have hrun : Creates ocr (TaskBuilder.createFullTask ocr plan.info plan.builder future plan.params _) _ :=
    createFullTask_creates he hv.params hpadded (by omega)
  rw [hpadded, ← hgslen] at hrun
  refine ⟨by omega, future, depvPtr (plan.deps.take given ++ TaskBuilder.missing plan.info (plan.deps.take given)),
    fun log => ?_, fun task => ?_⟩
  · cases future with
    | false => exact guid_run hrun log
    | true =>
        simp only [Creation.make, TaskBuilder.createFuturePartialDeps, TaskBuilder.padFuture,
          TaskBuilder.createFuture, EStateM.run_bind, hrun log, EStateM.run_pure]
  · have h := assignedBy_request task plan.builder future plan.params plan.gs.length hfront hv.real
      (plan.info.depCount - (plan.deps.take given).length)
    exact h.trans (by rw [htake])

theorem creation_made (hv : plan.Valid) {creation : Creation} (ha : creation.Allowed plan) :
    Made ocr plan (creation.make ocr plan) (creation.given plan) := by
  cases creation with
  | full => exact made_full hv (ha.room rfl)
  | null future => exact made_null hv ha.event
  | padded future given =>
      obtain ⟨hvar, -, hlt⟩ := ha.proper future given rfl
      exact made_padded hv ha.event hvar hlt

theorem wire_wired (hocr : Accepting ocr) (hv : plan.Valid) {creation : Creation} (ha : creation.Allowed plan)
    {ops : List (Wiring G)} (hops : ∀ op ∈ ops, op.Takes plan.info plan.gs)
    (hcover : (ops.flatMap (Wiring.slots plan.info)).Perm
      (List.range' (creation.given plan) (plan.gs.length - creation.given plan))) (log : List (OcrCall G)) :
    ∃ task calls, (wire ocr plan creation ops).run log = .ok task (log ++ calls) ∧ Wired plan task calls := by
  have hmade : Made ocr plan (creation.make ocr plan) _ := creation_made hv ha
  obtain ⟨hle, outEvent, depv, hrun, hprovided⟩ := hmade
  generalize hr : request plan.builder outEvent plan.params plan.gs.length depv = r at hrun hprovided
  obtain ⟨dependences, hattach, hdest, hmap⟩ :=
    performAll_assigns hocr hv.count_lt (ocr.edtCreate log r).guid hops (gs_length hv).1
  refine ⟨(ocr.edtCreate log r).guid, .edtCreate r :: dependences.map .addDependence, ?_,
    ⟨outEvent, depv, dependences, by rw [hr]⟩, ?_⟩
  · rw [wire, EStateM.run_bind, hrun log]
    simp only [EStateM.run_bind, hattach _, EStateM.run_pure, List.append_assoc, List.singleton_append]
  · have hsplit : List.range plan.gs.length = List.range' 0 (creation.given plan) ++
        List.range' (creation.given plan) (plan.gs.length - creation.given plan) := by
      have h := List.range'_append_1 (s := 0) (m := creation.given plan)
        (n := plan.gs.length - creation.given plan)
      rw [Nat.zero_add, Nat.add_sub_cancel' hle] at h
      rw [h, List.range_eq_range']
    have hassigned : assigned (ocr.edtCreate log r).guid (.edtCreate r :: dependences.map .addDependence) =
        (List.range' 0 (creation.given plan) ++ ops.flatMap (Wiring.slots plan.info)).map (planned plan.gs) := by
      rw [List.map_append, ← hprovided, ← hmap, ← assigned_dependences hdest]
      rfl
    rw [planned_all, hsplit, hassigned]
    exact (hcover.append_left _).map _

theorem launched_depv {task : G} {calls : List (OcrCall G)} (hw : Wired plan task calls)
    {provide : G → OcrEdtDep G} {depv : List (OcrEdtDep G)} (hlen : depv.length = plan.gs.length)
    (hdepv : ∀ slot ∈ assigned task calls, depv[slot.1]? = some (provide slot.2)) :
    depv = plan.gs.map provide := by
  apply List.ext_getElem?
  intro j
  rw [List.getElem?_map]
  cases hj : plan.gs[j]? with
  | none =>
      rw [List.getElem?_eq_none_iff] at hj
      exact List.getElem?_eq_none (hlen.trans_le hj)
  | some g =>
      apply hdepv (j, g)
      rw [hw.assigned.mem_iff]
      exact List.mem_map.mpr ⟨(g, j), List.mem_zipIdx_iff_getElem?.mpr hj, rfl⟩

/-- The user function is called with the parameter, the datablocks of the static
sources and a list of those of the others, each in its place. -/
def Delivers (plan : Plan G) (provide : G → OcrEdtDep G) (paramv : List (BitVec 64))
    (args : List (Arg G)) : Prop :=
  ∃ list, args = (if plan.info.param.isSome then [.param paramv] else []) ++
      List.zipWith depArg plan.info.deps (plan.deps.map provide) ++
      (if plan.info.hasVarArgs then [.list list] else []) ∧
    elements list = ((plan.varArgs.elim [] sources).map provide).map datablockOf

theorem delivers_args (hv : plan.Valid) (provide : G → OcrEdtDep G) (paramv : List (BitVec 64)) :
    Delivers plan provide paramv (plan.info.initializers.map (argOf plan.info paramv (plan.gs.map provide))) := by
  have hparam : (if plan.info.param.isSome then [Initializer.param] else []).map
      (argOf plan.info paramv (plan.gs.map provide)) = if plan.info.param.isSome then [.param paramv] else [] := by
    split <;> rfl
  have hlist : (if plan.info.hasVarArgs then [Initializer.varArgs] else []).map
      (argOf plan.info paramv (plan.gs.map provide)) =
        if plan.info.hasVarArgs then [.list (received plan.info.depCount (plan.gs.map provide))] else [] := by
    split <;> rfl
  have hdeps : (plan.info.deps.zipIdx.map (fun dep => Initializer.dep dep.1 dep.2)).map
      (argOf plan.info paramv (plan.gs.map provide)) =
        List.zipWith depArg plan.info.deps (plan.deps.map provide) := by
    have hlen : plan.info.deps.length = plan.deps.length := hv.deps_length.symm
    apply List.ext_getElem
    · simp [hlen]
    · intro j hj _
      have hj' : j < plan.deps.length := by simpa [hlen] using hj
      simp [argOf, depAt, Plan.gs, List.getElem?_append_left, hj']
  refine ⟨received plan.info.depCount (plan.gs.map provide), ?_, ?_⟩
  · rw [FnInfo.initializers, List.map_append, List.map_append, hparam, hlist, hdeps]
  · rw [received_elements, ← hv.deps_length, ← List.map_drop, Plan.gs, List.drop_left]

/-- All ways of wiring a task agree: the slots are given their sources, each once, and
a launch with what the sources provide delivers it, in whatever order the arguments are
evaluated. -/
theorem task_wirings_agree {std : StdAlgorithms (DbPair G)} (hocr : Accepting ocr) (hv : plan.Valid)
    {creation : Creation} (ha : creation.Allowed plan) {ops : List (Wiring G)}
    (hops : ∀ op ∈ ops, op.Takes plan.info plan.gs)
    (hcover : (ops.flatMap (Wiring.slots plan.info)).Perm
      (List.range' (creation.given plan) (plan.gs.length - creation.given plan))) (log : List (OcrCall G)) :
    ∃ task calls, (wire ocr plan creation ops).run log = .ok task (log ++ calls) ∧ Wired plan task calls ∧
      ∀ (provide : G → OcrEdtDep G) (paramv : List (BitVec 64)) (depv : List (OcrEdtDep G)),
        paramv.length = plan.info.paramWordCount → depv.length = plan.gs.length →
        (∀ slot ∈ assigned task calls, depv[slot.1]? = some (provide slot.2)) →
        NullsForNullHandles plan.info depv →
        (distinctGuids (TaskLaunchSpec.calls depv)).card ≤ maxDbAcquireCount →
        ∃ args, Delivers plan provide paramv args ∧ ∀ order, order.Perm plan.info.initializers →
          ∀ userFn thread, ∃ dbs, (internalFn std plan.info order userFn paramv depv).run thread =
            (enter userFn args).run ⟨⟨dbs, .null⟩ :: thread.tasks, thread.headers⟩ := by
  obtain ⟨task, calls, hrun, hw⟩ := wire_wired hocr hv ha hops hcover log
  refine ⟨task, calls, hrun, hw, ?_⟩
  intro provide paramv depv hp hlen hdepv hn hfit
  obtain rfl := launched_depv hw hlen hdepv
  have hf : Fits plan.info paramv (plan.gs.map provide) := by
    refine ⟨hp, (gs_length hv).1.trans_eq hlen.symm, fun hvar => ?_⟩
    rw [hlen, (gs_length hv).2.2 hvar, hv.deps_length]
  exact ⟨_, delivers_args hv provide paramv, fun order ho userFn thread =>
    launch_enters hf hn ho hfit userFn thread⟩

end Agreement

section Plans

def provide (g : Guid64) : OcrEdtDep Guid64 := ⟨g, 4096 * g.word⟩

def pairPlan : Plan Guid64 :=
  ⟨⟨none, [.datablock], true⟩, plain, none, [⟨5⟩], some ⟨1, 1, [⟨⟨⟨6⟩⟩, 0⟩]⟩⟩

theorem pairPlan_valid : pairPlan.Valid where
  params := rfl
  deps_length := rfl
  varArgs_isSome := rfl
  complete := by
    intro list h
    cases h
    exact ⟨rfl, rfl⟩
  count_lt := by decide
  real := by decide

def pairOps : List (Wiring Guid64) :=
  [.dependOnWithinList 0 ⟨6⟩ .default, .dependOnRange 0 1 [⟨5⟩] .constant]

theorem pairOps_take : ∀ op ∈ pairOps, op.Takes pairPlan.info pairPlan.gs := by
  intro op hop
  rcases List.mem_cons.mp hop with rfl | hop
  · rfl
  · obtain rfl := List.mem_singleton.mp hop
    exact ⟨le_rfl, List.prefix_rfl⟩

theorem accepting_accepts : Accepting accepting := fun _ _ => rfl

theorem task_wirings_agree_pair : ∃ task calls args,
    (wire accepting pairPlan (.null true) pairOps).run [] = .ok task ([] ++ calls) ∧
    Wired pairPlan task calls ∧ Delivers pairPlan provide [] args ∧ ∀ userFn thread, ∃ dbs,
      (internalFn reference pairPlan.info pairPlan.info.initializers userFn []
        (pairPlan.gs.map provide)).run thread =
        (enter userFn args).run ⟨⟨dbs, .null⟩ :: thread.tasks, thread.headers⟩ := by
  have ha : (Creation.null true).Allowed pairPlan := ⟨nofun, .inr (by decide), nofun⟩
  have hcover : (pairOps.flatMap (Wiring.slots pairPlan.info)).Perm (List.range' 0 (pairPlan.gs.length - 0)) := by
    decide
  obtain ⟨task, calls, hrun, hw, hlaunch⟩ :=
    task_wirings_agree accepting_accepts pairPlan_valid ha pairOps_take hcover []
  have hdepv : ∀ slot ∈ assigned task calls, (pairPlan.gs.map provide)[slot.1]? = some (provide slot.2) := by
    intro slot hslot
    obtain ⟨src, hsrc, rfl⟩ := List.mem_map.mp (hw.assigned.mem_iff.mp hslot)
    rw [List.getElem?_map]
    exact congrArg (Option.map provide) (List.mem_zipIdx_iff_getElem?.mp hsrc)
  have hnulls : NullsForNullHandles pairPlan.info (pairPlan.gs.map provide) := by
    intro j hj
    rcases j with _ | j <;> cases hj
  obtain ⟨args, hargs, hstart⟩ := hlaunch provide [] (pairPlan.gs.map provide) rfl rfl hdepv hnulls
    ((distinctGuids_card_le _).trans (by decide))
  exact ⟨task, calls, args, hrun, hw, hargs, hstart _ (.refl _)⟩

def widePlan (n : Nat) : Plan Guid64 :=
  ⟨⟨none, List.replicate n .datablock, false⟩, plain, none, (List.range n).map (fun i : Nat => ⟨i + 1⟩), none⟩

theorem widePlan_gs (n : Nat) : (widePlan n).gs = (List.range n).map (fun i : Nat => ⟨i + 1⟩) :=
  List.append_nil _

theorem widePlan_valid {n : Nat} (hn : n < 2 ^ 32) : (widePlan n).Valid where
  params := rfl
  deps_length := by simp [widePlan, FnInfo.depCount]
  varArgs_isSome := rfl
  complete := nofun
  count_lt := by simpa [widePlan_gs] using hn
  real := by
    intro g hg he
    rw [widePlan_gs] at hg
    obtain ⟨i, -, rfl⟩ := List.mem_map.mp hg
    have hword := congrArg Guid64.word he
    change (i : Int) + 1 = -2 at hword
    omega

theorem widePlan_distinct (n : Nat) :
    (distinctGuids (calls ((widePlan n).gs.map provide))).card = n := by
  have hguids : (calls ((widePlan n).gs.map provide)).map Prod.fst = (widePlan n).gs := by
    simp [calls, provide, Function.comp_def]
  rw [distinctGuids_card_of_nodup, ← List.length_map (f := Prod.fst), hguids, widePlan_gs]
  · simp
  · rw [hguids, widePlan_gs]
    apply List.nodup_range.map
    intro i j h
    have hword := congrArg Guid64.word h
    simp only at hword
    omega
  · intro call hcall
    obtain ⟨dep, hdep, rfl⟩ := mem_calls.mp hcall
    obtain ⟨g, hg, rfl⟩ := List.mem_map.mp hdep
    rw [widePlan_gs] at hg
    obtain ⟨i, -, rfl⟩ := List.mem_map.mp hg
    simp only [provide]
    omega

/-- With one dependence more than a task can acquire, the slots are given their sources,
and the launch stops before the user function. -/
theorem task_wirings_counterexample :
    (∃ task calls, (wire accepting (widePlan 257) .full []).run [] = .ok task ([] ++ calls) ∧
      Wired (widePlan 257) task calls) ∧
    Fits (widePlan 257).info [] ((widePlan 257).gs.map provide) ∧
    ∀ order, order.Perm (widePlan 257).info.initializers → ∀ userFn thread, ∃ thread',
      (internalFn reference (widePlan 257).info order userFn [] ((widePlan 257).gs.map provide)).run thread =
        .error (.assertion .acquiredTooMany) thread' := by
  have hv : (widePlan 257).Valid := widePlan_valid (by decide)
  have ha : Creation.full.Allowed (widePlan 257) := ⟨nofun, .inl rfl, nofun⟩
  have hlen : ((widePlan 257).gs.map provide).length = (widePlan 257).info.depCount := by
    rw [List.length_map, widePlan_gs, List.length_map, List.length_range, FnInfo.depCount, widePlan,
      List.length_replicate]
  have hf : Fits (widePlan 257).info [] ((widePlan 257).gs.map provide) := ⟨rfl, hlen.ge, fun _ => hlen⟩
  have hn : NullsForNullHandles (widePlan 257).info ((widePlan 257).gs.map provide) := by
    intro j hj
    cases List.eq_of_mem_replicate (List.mem_of_getElem? hj)
  refine ⟨wire_wired accepting_accepts hv ha (by simp) ?_ [], hf, ?_⟩
  · simp [Creation.given]
  · intro order ho userFn thread
    exact launch_overflows hf hn ho (by rw [widePlan_distinct]; decide) userFn thread

end Plans

end Ocxxr.TaskWiring

import Ocxxr.TaskPrograms
import Ocxxr.TaskCreationSpec
import Ocxxr.Library.TaskAdequacy

namespace Ocxxr.TaskProgramRules

open TaskGraph TaskContracts TaskAdequacy Ocr SortedSearch Bookkeeping TaskState AcquiredData
  AcquiredTable BookkeepingSpec GuidMap DatablockLists TaskLaunch TaskLaunchSpec ArgumentOrder
  TaskCreation TaskPrograms

section Threads

variable {G : Type} [OcrGuid G]

/-- A task is running on the thread, and its table has at most `k` entries. -/
def Room (k : Nat) (thread : Thread G) : Prop :=
  ∃ task parents m, thread.tasks = task :: parents ∧ Coherent task.acquiredDbs ∧ Represents task.acquiredDbs m ∧
    task.acquiredDbs.acquiredDbCount ≤ k

def Listed (g : G) (thread : Thread G) : Prop :=
  ∃ task parents, thread.tasks = task :: parents ∧ g ∈ guids task.acquiredDbs

theorem popTaskState_run {k : Nat} {thread : Thread G} (h : Room k thread) :
    ∃ thread', popTaskState.run thread = .ok () thread' := by
  obtain ⟨task, parents, m, ht, -⟩ := h
  exact ⟨_, popTaskState_ok.mpr ⟨task, parents, ht, rfl⟩⟩

theorem add_room (std : StdAlgorithms (DbPair G)) {k : Nat} {thread : Thread G} (h : Room k thread)
    (hk : k < maxDbAcquireCount) (d : G) (ptr : Int) :
    ∃ thread', (inTask (addDatablock std d ptr)).run thread = .ok () thread' ∧ Room (k + 1) thread' ∧
      (ptr ≠ 0 → Listed d thread') := by
  obtain ⟨task, parents, m, ht, hs, hm, hcount⟩ := h
  rcases addDatablock_refines std hs hm (d, ptr) with ⟨dbs, hrun, hs', hm', hguids⟩ | ⟨-, hfull, -⟩
  · refine ⟨_, inTask_ok.mpr ⟨task, parents, dbs, ht, hrun, rfl⟩, ⟨_, parents, _, rfl, hs', hm', ?_⟩, ?_⟩
    · rw [← guids_card hs'.toSorted, hguids]
      have hcard := guids_card hs.toSorted
      split
      next => omega
      next =>
        have hle := Finset.card_insert_le d (guids task.acquiredDbs)
        simp only at hle ⊢
        omega
    · intro hptr
      refine ⟨_, parents, rfl, ?_⟩
      rw [hguids, if_neg hptr]
      exact Finset.mem_insert_self d _
  · omega

theorem create_run (std : StdAlgorithms (DbPair G)) {k : Nat} {thread : Thread G} (h : Room k thread)
    (hk : k < maxDbAcquireCount) (d : G) {ptr : Int}
    (hptr : ptr ≠ 0) (sizeofT count : BitVec 64) : ∃ thread',
      (Datablock.create std (granting d ptr) sizeofT count).run thread = .ok ⟨⟨d⟩, ptr⟩ thread' ∧
        Room (k + 1) thread' ∧ Listed d thread' := by
  obtain ⟨thread', hadd, hroom, hlisted⟩ := add_room std h hk d ptr
  refine ⟨thread', ?_, hroom, hlisted hptr⟩
  simp only [Datablock.create, DatablockHandle.init, granting, ok, run_bind_ok, if_true]
  exact ⟨(d, ptr), thread', ⟨(), thread, rfl, (), thread', hadd, rfl⟩, rfl⟩

theorem release_run (std : StdAlgorithms (DbPair G)) {k : Nat} {thread : Thread G} (h : Room k thread) {d : G}
    (hd : Listed d thread) (ptr : Int) : ∃ thread',
      (Datablock.release std (granting d ptr) ⟨⟨d⟩, ptr⟩).run thread = .ok () thread' ∧ Room k thread' := by
  obtain ⟨task, parents, m, ht, hs, hm, hcount⟩ := h
  obtain ⟨task', parents', ht', hmem⟩ := hd
  rw [ht] at ht'
  cases ht'
  rcases removeDatablock_cases std hs d with ⟨dbs, hrun, hs', hcount', hguids⟩ | ⟨⟨-, hnone⟩, -⟩
  · have hrelease : (Datablock.release std (granting d ptr) ⟨⟨d⟩, ptr⟩).run thread =
        .ok () { thread with tasks := { task with acquiredDbs := dbs } :: parents } := by
      simp only [Datablock.release, granting, ok, run_bind_ok]
      exact ⟨(), thread, rfl, inTask_ok.mpr ⟨task, parents, dbs, ht, hrun, rfl⟩⟩
    have hrepresents : Represents dbs m := by
      intro p
      rw [Tracked, hguids]
      exact hm p
    exact ⟨_, hrelease, _, parents, m, rfl, hs', hrepresents, hcount'.trans_le hcount⟩
  · exact absurd (mem_guids.mp hmem) hnone

end Threads

section Launch

variable {F O G : Type} [OcrGuid G] {std : StdAlgorithms (DbPair G)} {info : FnInfo} {paramv : List (BitVec 64)}
  {depv : List (OcrEdtDep G)}

/-- Code of the library alone runs as `InternalFn` runs it. -/
theorem internalFn_lift (runtime : Runtime G) (userFn : List (Arg G) → ThreadM G G) :
    TaskPrograms.internalFn runtime info (fun args => (lift (userFn args) : TaskM F O G G)) paramv depv =
      lift (TaskLaunch.internalFn runtime.std info (runtime.order info) userFn paramv depv) := by
  funext thread
  rw [internalFn_eq]
  simp only [TaskPrograms.internalFn, lift, bind, StateT.bind, EStateM.bind, EStateM.run, enter]
  cases hp : prologue runtime.std info (runtime.order info) paramv depv thread with
  | error e thread' => rfl
  | ok args thread' =>
      simp only [Prog.bind]
      cases hu : userFn args thread' with
      | error e thread' => rfl
      | ok result thread' =>
          simp only [Prog.bind]
          cases hq : popTaskState thread' with
          | error e thread' => rfl
          | ok u thread' => rfl

theorem prologue_run (std : StdAlgorithms (DbPair G)) (hf : Fits info paramv depv)
    (hn : NullsForNullHandles info depv) {order : List Initializer}
    (ho : order.Perm info.initializers) (hlen : depv.length ≤ maxDbAcquireCount) (thread : Thread G) : ∃ thread',
      (prologue std info order paramv depv).run thread =
        .ok (info.initializers.map (argOf info paramv depv)) thread' ∧ Room depv.length thread' := by
  have hdeps : (info.hasVarArgs || decide (depv.length = info.depCount)) = true := by
    cases hv : info.hasVarArgs with
    | true => rfl
    | false => simpa using hf.deps_eq hv
  have hover := distinctGuids_congr (fun _ hc => mem_ordered hf hn ho hc)
  have hcard : (distinctGuids (order.flatMap (callsOf info depv))).card ≤ depv.length := by
    rw [hover]
    exact (distinctGuids_card_le _).trans (by rw [calls, List.length_map])
  obtain ⟨dbs, hadd, hs, hm, hguids⟩ := addAll_fresh std _ (hcard.trans hlen)
  refine ⟨placed .null thread.tasks thread.headers dbs, ?_, _, _, _, rfl, hs, hm, ?_⟩
  · have hunpack : (unpackArgs std info order paramv depv).run (placed .null thread.tasks thread.headers .fresh) =
        .ok (info.initializers.map (argOf info paramv depv)) (placed .null thread.tasks thread.headers dbs) := by
      rw [unpackArgs_run ho hf.deps_le hn, hadd]
      rfl
    simp only [prologue, hf.params, hdeps, hf.deps_le, decide_true, assert, if_true, pure_bind]
    rw [EStateM.run_bind, pushTaskState_run]
    exact hunpack
  · rw [← guids_card hs.toSorted, hguids]
    exact hcard

end Launch

variable {F O G α β : Type} [OcrGuid G] {P : Spec (TaskPrograms.signature F O G)}
  {K : Known (TaskPrograms.signature F O G)} {h : Holding (TaskPrograms.signature F O G)} {n : Nat}
  {thread : Thread G}

abbrev Post (F O G α : Type) : Type :=
  α → Thread G → Known (TaskPrograms.signature F O G) → Holding (TaskPrograms.signature F O G) → Nat → Prop

/-- What a part of a task's code needs, on a thread, and how it ends. -/
def Meets (P : Spec (TaskPrograms.signature F O G)) (x : TaskM F O G α) (thread : Thread G)
    (K : Known (TaskPrograms.signature F O G)) (h : Holding (TaskPrograms.signature F O G)) (n : Nat)
    (post : Post F O G α) : Prop :=
  Wp P (x.run thread) K h n (fun p K h n => post p.1 p.2 K h n)

section Combinators

variable {post : Post F O G β}

theorem meets_pure {b : β} (hpost : post b thread K h n) : Meets P (pure b) thread K h n post := hpost

theorem meets_bind {x : TaskM F O G α} {f : α → TaskM F O G β}
    (hx : Meets P x thread K h n (fun a thread K h n => Meets P (f a) thread K h n post)) :
    Meets P (x >>= f) thread K h n post := by
  rw [Meets, StateT.run_bind, wp_bind]
  exact hx

theorem meets_lift {x : ThreadM G β} {b : β} {thread' : Thread G} (hrun : x.run thread = .ok b thread')
    (hpost : post b thread' K h n) : Meets P (lift x) thread K h n post := by
  have hlift : (lift x : TaskM F O G β).run thread = .pure (b, thread') := by
    simp only [lift, StateT.run, hrun]
  rw [Meets, hlift]
  exact hpost

theorem meets_call {c : Call (TaskPrograms.signature F O G)}
    {post : Post F O G c.Answer}
    (hreq : Requires P c K h n (fun answer K h n => post answer thread K h n)) :
    Meets P (call c) thread K h (n + 1) post :=
  wp_call hreq

end Combinators

section Operations

variable {runtime : Runtime G} {task : G}

theorem meets_createDatablock {k : Nat} (hroom : Room k thread) (hk : k < maxDbAcquireCount)
    {sizeofT count : BitVec 64}
    {post : Post F O G (Datablock G)}
    (hpost : ∀ d v thread', ¬ P.reserved d → h.block d = none → Room (k + 1) thread' → Listed d thread' →
      post ⟨⟨d⟩, runtime.address task d⟩ thread' K
        { h with block := Function.update h.block d (some (v, true)) } n) :
    Meets P (createDatablock runtime task sizeofT count) thread K h (n + 1) post := by
  apply meets_bind
  apply meets_call
  intro d v hreal hnone
  obtain ⟨thread', hrun, hroom', hlisted⟩ := create_run runtime.std hroom hk d
    (runtime.address_ne task d) sizeofT count
  exact meets_lift hrun (hpost d v thread' hreal hnone hroom' hlisted)

theorem meets_releaseDatablock {k : Nat} (hroom : Room k thread) {d : G} {ptr : Int} (hlisted : Listed d thread)
    {v : Content} {released : Bool} (hheld : h.block d = some (v, released)) {post : Post F O G Unit}
    (hpost : ∀ thread', Room k thread' →
      post () thread' K { h with block := Function.update h.block d (some (v, true)) } n) :
    Meets P (releaseDatablock runtime ⟨⟨d⟩, ptr⟩) thread K h (n + 1) post := by
  apply meets_bind
  apply meets_call
  obtain ⟨thread', hrun, hroom'⟩ := release_run runtime.std hroom hlisted ptr
  exact ⟨v, released, hheld, meets_lift hrun (hpost thread' hroom')⟩

variable {datablock : Datablock G} (hptr : datablock.dataPtr ≠ 0)

include hptr in
theorem meets_readWord {value : BitVec 64} {released : Bool}
    (hheld : h.block datablock.handle.guid = some (.word value, released))
    {post : Post F O G (BitVec 64)}
    (hpost : post value thread K h n) : Meets P (readWord datablock) thread K h (n + 1) post := by
  rw [readWord, if_neg hptr]
  apply meets_bind
  apply meets_call
  exact ⟨.word value, released, hheld, hpost⟩

include hptr in
theorem meets_writeWord {value : BitVec 64} (hheld : (h.block datablock.handle.guid).isSome)
    {post : Post F O G Unit}
    (hpost : post () thread K
      { h with block := Function.update h.block datablock.handle.guid (some (.word value, false)) } n) :
    Meets P (writeWord datablock value) thread K h (n + 1) post := by
  rw [writeWord, if_neg hptr]
  exact meets_call ⟨hheld, hpost⟩

theorem meets_destroyHandle {handle : DatablockHandle G} (hheld : (h.block handle.guid).isSome)
    {post : Post F O G Unit}
    (hpost : post () thread K { h with block := Function.update h.block handle.guid none } n) :
    Meets P (destroyHandle handle) thread K h (n + 1) post := by
  apply meets_bind
  exact meets_call ⟨hheld, meets_lift rfl hpost⟩

theorem meets_mainTaskArgs {argv : List String} {released : Bool}
    (hheld : h.block datablock.handle.guid = some (.mainTaskArgs argv, released))
    {post : Post F O G (List String)}
    (hpost : post argv thread K h n) : Meets P (mainTaskArgs datablock) thread K h (n + 1) post := by
  apply meets_bind
  apply meets_call
  exact ⟨.mainTaskArgs argv, released, hheld, hpost⟩

theorem meets_createOnceEvent (κ : Contract (TaskPrograms.signature F O G))
    {post : Post F O G G}
    (hpost : ∀ e, ¬ P.reserved e → h.event e = none →
      post e thread K { h with event := Function.update h.event e (some (κ, false)) } n) :
    Meets P createOnceEvent thread K h (n + 1) post := by
  have hself : ocrGuidIsNull (nullGuid : G) = !false := by simp [ocrGuidIsNull]
  rw [createOnceEvent, eventInit, if_pos hself]
  exact meets_call ⟨κ, hpost⟩

theorem meets_satisfy {e : G} {handle : DatablockHandle G} {κ : Contract (TaskPrograms.signature F O G)}
    {v : Content} {released : Bool} (hreal : handle.guid ≠ nullGuid) (hevent : h.event e = some (κ, true))
    (hheld : h.block handle.guid = some (v, released)) (hclean : P.shared ∨ released = true)
    (hκ : κ.holds (some v))
    {post : Post F O G Unit}
    (hpost : post () thread K { h with
      event := Function.update h.event e none
      block := Function.update h.block handle.guid none } n) :
    Meets P (satisfy e handle) thread K h (n + 1) post := by
  have hpayload : payload handle.guid = some handle.guid := by simp [payload, ocrGuidIsNull, hreal]
  rw [satisfy, hpayload]
  exact meets_call ⟨κ, v, released, hevent, hheld, hclean, hκ, hpost⟩

section Templates

variable {f : F} {template : G}

theorem meets_createKnown {post : Post F O G G}
    (hpost : ∀ g, ¬ P.reserved g → K g = none → post g thread (Function.update K g (some (.internalFn f))) h n) :
    Meets P (createTemplate f) thread K h (n + 1) post :=
  meets_call (.inl hpost)

theorem meets_createTemplate {post : Post F O G G}
    (hpost : ∀ g, ¬ P.reserved g → K g = none → h.template g = none →
      post g thread K { h with template := Function.update h.template g (some (.internalFn f)) } n) :
    Meets P (createTemplate f) thread K h (n + 1) post :=
  meets_call (.inr hpost)

theorem meets_destroyTemplate (hheld : (h.template template).isSome) {post : Post F O G Unit}
    (hpost : post () thread K { h with template := Function.update h.template template none } n) :
    Meets P (destroyTemplate template) thread K h (n + 1) post :=
  meets_call ⟨hheld, hpost⟩

end Templates

theorem meets_print {o : O} (ho : P.noise o = false) {l : List O} (hl : h.duty = some l) {post : Post F O G Unit}
    (hpost : post () thread K { h with duty := some (l ++ [o]) } n) :
    Meets P (print o) thread K h (n + 1) post :=
  meets_call (.inr ⟨ho, l, hl, hpost⟩)

theorem meets_noise {o : O} (ho : P.noise o = true) {post : Post F O G Unit} (hpost : post () thread K h n) :
    Meets P (print o) thread K h (n + 1) post :=
  meets_call (.inl ⟨ho, hpost⟩)

theorem meets_shutdown {l : List O} (hl : h.duty = some l) (hdone : P.Done l) {post : Post F O G Unit} :
    Meets P shutdown thread K h (n + 1) post :=
  meets_call ⟨l, hl, hdone⟩

end Operations

section Creation

variable {info : FnInfo} {template : G} {params : Option (List (BitVec 64))} {deps : List G}

omit [OcrGuid G] in
theorem returned_ok (a : α) (log : List (OcrCall G)) : (returned (.ok a log) : TaskM F O G α) = pure a := rfl

/-- Code that asks for one task is one call of the runtime. -/
theorem submit_creates {x : OcrEdt G → OcrM G α} {request : EdtRequest G} {f : EdtAnswer G → α}
    (hx : ∀ ocr, (x ocr).run [] = .ok (f (ocr.edtCreate [] request)) [.edtCreate request]) :
    (submit x : TaskM F O G α) = TaskPrograms.ocrEdtCreate request >>= fun answer => pure (f answer) := by
  simp only [submit, hx, returned_ok]
  rfl

theorem submit_attaches {x : OcrEdt G → OcrM G Unit} (dependence : Dependence G)
    (hx : ∀ ocr : OcrEdt G, TaskCreationSpec.Accepting ocr → (x ocr).run [] = .ok () [.addDependence dependence]) :
    (submit x : TaskM F O G Unit) =
      call (.attach dependence.destination dependence.slot.toNat (source dependence.source)) := by
  have hrun : ∀ answer : EdtAnswer G, (x (answering answer)).run [] = .ok () [.addDependence dependence] :=
    fun answer => hx _ (fun _ _ => rfl)
  simp only [submit, hrun, returned_ok]
  rfl

theorem sources_request {builder : TaskBuilder G} {outEvent : Bool} (hlen : deps.length < 2 ^ 32) :
    sources (TaskCreationSpec.request builder outEvent params deps.length (TaskCreationSpec.depvPtr deps)) =
      deps.map source := by
  rw [sources, TaskCreationSpec.request, TaskCreationSpec.depvPtr]
  split
  next h =>
    split at h
    next => cases h
    next hpos =>
      obtain rfl := List.length_eq_zero_iff.mp (Nat.eq_zero_of_not_pos hpos)
      rfl
  next depv h =>
    split at h
    next =>
      cases h
      rw [BitVec.toNat_ofNat, Nat.mod_eq_of_lt hlen, List.take_length]
    next => cases h

theorem createTask_eq (hd : deps.length = info.depCount) (hs : info.depCount < 2 ^ 32)
    (hp : params.isSome = info.param.isSome) :
    (TaskPrograms.createTask info template params deps : TaskM F O G G) =
      TaskPrograms.ocrEdtCreate (TaskCreationSpec.request (taskBuilder template) false params deps.length
        (TaskCreationSpec.depvPtr deps)) >>= fun answer => pure answer.guid := by
  apply submit_creates
  intro ocr
  have hcreate : (TaskBuilder.createFullTask ocr info (taskBuilder template) false params deps).run [] = _ :=
    TaskCreationSpec.createFullTask_creates (.inl rfl) hp hd hs []
  simp only [TaskBuilder.createTask, EStateM.run_bind, hcreate]
  rfl

omit [OcrGuid G] in
theorem named_objects (deps : List G) :
    named (S := TaskPrograms.signature F O G) (deps.map Source.object) = deps := by
  induction deps with
  | nil => rfl
  | cons e rest ih => exact congrArg (e :: ·) ih

theorem map_source (hreal : ∀ e ∈ deps, IsReal e) : deps.map source = deps.map Source.object := by
  apply List.map_congr_left
  intro e he
  obtain ⟨hnull, huninit, -⟩ := hreal e he
  simp [source, ocrGuidIsUninitialized, ocrGuidIsNull, hnull, huninit]

/-- A task whose slots are all given events: some of the events that its creator has to
satisfy are for it to satisfy from now on. -/
theorem meets_createTask {f : F} (brief : Brief (TaskPrograms.signature F O G)) (passed : G → Bool) {m : Nat}
    {left : G → Option (Contract (TaskPrograms.signature F O G) × Bool)} {post : Post F O G G}
    (hd : deps.length = info.depCount) (hs : info.depCount < 2 ^ 32) (hp : params.isSome = info.param.isSome)
    (hcode : K template = some (.internalFn f) ∨ h.template template = some (.internalFn f))
    (hreal : ∀ e ∈ deps, IsReal e) (hnodup : deps.Nodup)
    (hfeeds : List.Forall₂ (fun e κ => h.event e = some (κ, false)) deps brief.contracts)
    (hgiven : ∀ e, brief.event e = if passed e then arm (deps.map Source.object) h.event e else none)
    (hleft : ∀ e, left e = if passed e then none else arm (deps.map Source.object) h.event e)
    (hrank : ∀ e p, brief.event e = some p → ∀ κ ∈ brief.contracts, κ.rank < p.1.rank)
    (hduty : brief.duty = none ∨ brief.duty = h.duty) (hpre : P.Pre K (.internalFn f) (params.getD []) brief)
    (hpost : ∀ u, ¬ P.reserved u → post u thread K
      { h with event := left, duty := if brief.duty.isSome then none else h.duty } m) :
    Meets P (TaskPrograms.createTask info template params deps) thread K h (m + brief.budget + 1) post := by
  rw [createTask_eq hd hs hp, TaskPrograms.ocrEdtCreate, sources_request (hd ▸ hs), map_source hreal]
  apply meets_bind
  apply meets_bind
  apply meets_call
  have hfeeds' : List.Forall₂ (Feeds h) (deps.map Source.object) brief.contracts :=
    List.forall₂_map_left_iff.mpr hfeeds
  refine ⟨rfl, .internalFn f, hcode, brief, passed, m, rfl, hfeeds', by rwa [named_objects], funext hgiven, hrank,
    hduty, hpre, ?_⟩
  intro u hu hslot
  have hevents : left = fun e => if passed e then none else arm (deps.map Source.object) h.event e := funext hleft
  have hslots : (fun k : G × Nat => if k.1 = u then leftOpen (deps.map Source.object) brief.contracts k.2
      else h.slot k) = h.slot := by
    funext ⟨v, j⟩
    by_cases hv : v = u
    · subst hv
      rw [if_pos rfl, hslot j, leftOpen, List.getElem?_map]
      cases deps[j]? <;> rfl
    · exact if_neg hv
  have hrest := hpost u hu
  rw [hevents] at hrest
  rw [← hslots] at hrest
  exact hrest

def owing (e : G) (κ : Contract (TaskPrograms.signature F O G)) :
    G → Option (Contract (TaskPrograms.signature F O G) × Bool) :=
  Function.update (fun _ => none) e (some (κ, true))

@[simp] theorem owing_self (e : G) (κ : Contract (TaskPrograms.signature F O G)) : owing e κ e = some (κ, true) :=
  Function.update_self _ _ _

theorem ne_of_owing {e e' : G} {κ : Contract (TaskPrograms.signature F O G)} (h : owing e κ e' = none) :
    e' ≠ e := by
  rintro rfl
  rw [owing_self] at h
  cases h

theorem owing_update (e : G) (κ : Contract (TaskPrograms.signature F O G)) :
    Function.update (owing e κ) e none = fun _ => none := by
  rw [owing, Function.update_idem]
  exact Function.update_eq_self e (fun _ => none)

section Passing

variable (e : G) (κ : Contract (TaskPrograms.signature F O G))

theorem arm_owing : arm (S := TaskPrograms.signature F O G) ([].map Source.object)
    (owing e κ) e = some (κ, true) := by
  rw [List.map_nil, arm_nil]
  exact owing_self e κ

theorem owing_passed :
    Function.update (arm (S := TaskPrograms.signature F O G) ([].map Source.object) (owing e κ)) e none =
      fun _ => none := by
  rw [List.map_nil, arm_nil, owing_update]

end Passing

/-- A task to which its creator passes one event to satisfy. -/
theorem meets_createOwing {f : F} {e : G} {κ : Contract (TaskPrograms.signature F O G)}
    {contracts : List (Contract (TaskPrograms.signature F O G))} {budget m : Nat}
    {left : G → Option (Contract (TaskPrograms.signature F O G) × Bool)} {post : Post F O G G}
    (hd : deps.length = info.depCount) (hs : info.depCount < 2 ^ 32) (hp : params.isSome = info.param.isSome)
    (hcode : K template = some (.internalFn f) ∨ h.template template = some (.internalFn f))
    (hreal : ∀ e ∈ deps, IsReal e) (hnodup : deps.Nodup)
    (hfeeds : List.Forall₂ (fun e κ => h.event e = some (κ, false)) deps contracts)
    (hleft : Function.update (arm (deps.map Source.object) h.event) e none = left)
    (he : arm (deps.map Source.object) h.event e = some (κ, true)) (hrank : ∀ κ' ∈ contracts, κ'.rank < κ.rank)
    (hpre : P.Pre K (.internalFn f) (params.getD []) ⟨owing e κ, contracts, none, budget⟩)
    (hpost : ∀ u, ¬ P.reserved u → post u thread K { h with event := left } m) :
    Meets P (TaskPrograms.createTask info template params deps) thread K h (m + budget + 1) post := by
  subst hleft
  refine meets_createTask ⟨owing e κ, contracts, none, budget⟩
    (fun e' => decide (e' = e)) hd hs hp hcode hreal hnodup
    hfeeds ?_ ?_ ?_ (.inl rfl) hpre hpost
  · intro e'
    by_cases heq : e' = e
    · subst heq
      simp [owing, he]
    · simp [owing, heq]
  · intro e'
    by_cases heq : e' = e
    · subst heq
      simp
    · simp [heq]
  · intro e' p hp κ' hκ'
    by_cases heq : e' = e
    · subst heq
      simp only [owing, Function.update_self, Option.some.injEq] at hp
      subst hp
      exact hrank κ' hκ'
    · simp [owing, heq] at hp

theorem createTaskPartial_eq {count : BitVec 32} (hcount : count = 0 ∨ info.hasVarArgs = true)
    (hp : params.isSome = info.param.isSome) :
    (TaskPrograms.createTaskPartial info template params count : TaskM F O G G) =
      TaskPrograms.ocrEdtCreate (TaskCreationSpec.request (taskBuilder template) false params
        (info.depCount + count.toNat) none) >>= fun answer => pure answer.guid := by
  have hassert : (decide (count = 0) || info.hasVarArgs) = true := by
    rcases hcount with hc | hc <;> simp [hc]
  apply submit_creates
  intro ocr
  have hcreate : (TaskBuilder.createNullTask ocr info (taskBuilder template) false params count).run [] = _ :=
    TaskCreationSpec.createNullTask_creates (.inl rfl) hp hcount []
  simp only [TaskBuilder.createTaskPartial, hassert, assert, if_true, pure_bind, EStateM.run_bind, hcreate]
  rfl

/-- A task that is created without its dependences: its creator has to see to them. -/
theorem meets_createTaskPartial {f : F} (brief : Brief (TaskPrograms.signature F O G)) {count : BitVec 32}
    {m : Nat} {post : Post F O G G} (hcount : count = 0 ∨ info.hasVarArgs = true)
    (hp : params.isSome = info.param.isSome)
    (hcode : K template = some (.internalFn f) ∨ h.template template = some (.internalFn f))
    (hlength : brief.contracts.length = info.depCount + count.toNat) (hsize : info.depCount + count.toNat < 2 ^ 32)
    (hevent : brief.event = fun _ => none) (hduty : brief.duty = none ∨ brief.duty = h.duty)
    (hpre : P.Pre K (.internalFn f) (params.getD []) brief)
    (hpost : ∀ u, ¬ P.reserved u → post u thread K
      { h with
        slot := fun k => if k.1 = u then brief.contracts[k.2]? else h.slot k
        duty := if brief.duty.isSome then none else h.duty } m) :
    Meets P (TaskPrograms.createTaskPartial info template params count) thread K h
      (m + brief.budget + 1) post := by
  have hsources : sources (TaskCreationSpec.request (taskBuilder template) false params
      (info.depCount + count.toNat) none) = List.replicate brief.contracts.length Source.later := by
    rw [sources, TaskCreationSpec.request, hlength]
    simp only [BitVec.toNat_ofNat, Nat.mod_eq_of_lt hsize]
  rw [createTaskPartial_eq hcount hp, TaskPrograms.ocrEdtCreate, hsources]
  apply meets_bind
  apply meets_bind
  apply meets_call
  refine ⟨rfl, .internalFn f, hcode, brief, fun _ => false, m, rfl, feeds_later _ h, ?_, hevent, ?_, hduty,
    hpre, ?_⟩
  · rw [named_later]
    exact List.nodup_nil
  · intro e p he
    rw [hevent] at he
    cases he
  · intro u hu hslot
    have hslots : (fun k : G × Nat => if k.1 = u then brief.contracts[k.2]? else h.slot k) =
        fun k => if k.1 = u then leftOpen (List.replicate brief.contracts.length .later) brief.contracts k.2
          else h.slot k := by
      funext k
      rw [leftOpen_later]
    have hrest := hpost u hu
    rw [hslots] at hrest
    rw [arm_later]
    exact hrest

theorem meets_dependOnWithinList {u e : G} {index : BitVec 32} {κ : Contract (TaskPrograms.signature F O G)}
    {post : Post F O G Unit} (hsize : info.depCount + index.toNat < 2 ^ 32)
    (hslot : h.slot (u, info.depCount + index.toNat) = some κ) (hreal : IsReal e)
    (hevent : h.event e = some (κ, false))
    (hpost : post () thread K
      { h with
        slot := Function.update h.slot (u, info.depCount + index.toNat) none
        event := Function.update h.event e (some (κ, true)) } n) :
    Meets P (TaskPrograms.dependOnWithinList info u index e) thread K h (n + 1) post := by
  have hindex : (BitVec.ofNat 32 info.depCount + index).toNat = info.depCount + index.toNat := by
    rw [BitVec.toNat_add, BitVec.toNat_ofNat, Nat.mod_eq_of_lt (Nat.lt_of_le_of_lt (Nat.le_add_right _ _) hsize),
      Nat.mod_eq_of_lt hsize]
  have hsource : source e = .object e := by
    obtain ⟨hnull, huninit, -⟩ := hreal
    simp [source, ocrGuidIsUninitialized, ocrGuidIsNull, hnull, huninit]
  rw [TaskPrograms.dependOnWithinList, submit_attaches
    ⟨e, u, BitVec.ofNat 32 info.depCount + index, .default⟩, hindex, hsource]
  · exact meets_call ⟨κ, hslot, hevent, hpost⟩
  · intro ocr hocr
    exact TaskCreationSpec.dependOnWithinList_attaches hocr u .default index e []

end Creation

section Entries

variable {runtime : Runtime G} {paramv : List (BitVec 64)} {post : Known (TaskPrograms.signature F O G) →
  Holding (TaskPrograms.signature F O G) → Nat → Prop}

theorem index_received {depv : List (OcrEdtDep G)} {j : Nat} {d : Datablock G}
    (h : (depv.map datablockOf)[j]? = some d) (thread : Thread G) :
    (index (received 0 depv) j).run thread = .ok d thread := by
  have hj : j < depv.length := by
    have hlt := (List.getElem?_eq_some_iff.mp h).1
    rwa [List.length_map] at hlt
  have hdata : (received 0 depv).data[j]? = some d := by
    rw [received, List.drop_zero, List.getElem?_append_left (by rwa [List.length_map]), h]
  have hassert : decide (j < (received 0 depv).capacity) = true := decide_eq_true hj
  simp only [index, hassert, assert, if_true, pure_bind, hdata]
  rfl

/-- How the code of a user ends: its task is still the one that runs. -/
def Ends {α : Type}
    (post : Known (TaskPrograms.signature F O G) → Holding (TaskPrograms.signature F O G) → Nat → Prop) :
    Post F O G α :=
  fun _ thread K h n => (∃ k, Room k thread) ∧ post K h n

theorem meets_internalFn {info : FnInfo} {depv : List (OcrEdtDep G)} {userFn : List (Arg G) → TaskM F O G G}
    (hf : Fits info paramv depv) (hnull : .nullHandle ∉ info.deps) (hlen : depv.length ≤ maxDbAcquireCount)
    (huser : ∀ thread, Room depv.length thread →
      Meets P (userFn (info.initializers.map (argOf info paramv depv))) thread K h n (Ends post)) :
    Meets P (TaskPrograms.internalFn runtime info userFn paramv depv) thread K h n (fun _ _ => post) := by
  have hn : NullsForNullHandles info depv := fun _ hj => absurd (List.mem_of_getElem? hj) hnull
  obtain ⟨thread₁, hrun, hroom⟩ := prologue_run runtime.std hf hn (runtime.order_perm info) hlen thread
  apply meets_bind
  apply meets_lift hrun
  apply meets_bind
  refine wp_mono_post ?_ (huser thread₁ hroom)
  rintro ⟨result, thread₂⟩ K h n ⟨⟨k, hk⟩, hpost⟩
  obtain ⟨thread₃, hpop⟩ := popTaskState_run hk
  apply meets_bind
  exact meets_lift hpop hpost

theorem meets_mainEdt {dep : OcrEdtDep G} {main : Datablock G → TaskM F O G Unit}
    (huser : ∀ thread, Room 1 thread → Meets P (main (datablockOf dep)) thread K h n (Ends post)) :
    Meets P (TaskPrograms.mainEdt runtime main [] [dep]) thread K h n (fun _ _ => post) := by
  have hroom : Room 0 ({ thread with tasks := .zero :: thread.tasks } : Thread G) :=
    ⟨.zero, thread.tasks, _, rfl, fresh_coherent, fresh_represents, le_rfl⟩
  obtain ⟨thread₁, hadd, hroom₁, -⟩ := add_room runtime.std hroom (by decide) dep.guid dep.ptr
  have hargs : (mainPrologue runtime.std [] [dep]).run thread = .ok (datablockOf dep) thread₁ := by
    rw [mainPrologue, run_assert_bind (by rfl), EStateM.run_bind, pushTaskState_run]
    simp only [List.getElem?_cons_zero]
    rw [run_access_bind rfl, Datablock.ofDep, run_bind_ok]
    exact ⟨(), thread₁, hadd, rfl⟩
  apply meets_bind
  apply meets_lift hargs
  apply meets_bind
  refine wp_mono_post ?_ (huser thread₁ hroom₁)
  rintro ⟨result, thread₂⟩ K h n ⟨⟨k, hk⟩, hpost⟩
  obtain ⟨thread₃, hpop⟩ := popTaskState_run hk
  apply meets_bind
  exact meets_lift hpop hpost

theorem safe_body {program : Program F O G} {task : G} {code : EntryFn F} {payloads : List (Option G)}
    (hentry : Meets P (entry runtime program task code paramv (payloads.map (dep runtime task)))
    (runtime.thread task) K h n
      (fun _ _ => Leaves none)) :
    Safe P (body runtime program task code paramv payloads) K h n := by
  rw [Safe, body, wp_bind]
  exact hentry

end Entries

section Correctness

variable {P : Spec (TaskPrograms.signature F O G)} {host : Host (TaskPrograms.signature F O G)}
  {program : Program F O G} {argv : List String} {main args : G} {used : Set G} {state : host.State} {n : Nat}

def argsContract (argv : List String) : Contract (TaskPrograms.signature F O G) :=
  ⟨fun payload => payload = some (.mainTaskArgs argv), 0⟩

omit [OcrGuid G] in
theorem arrives_args [DecidableEq G] {payloads : List (Option G)} {arrived : G → Option (Content × Bool)}
    (h : Arrives P [argsContract argv] payloads arrived) :
    ∃ d released, payloads = [some d] ∧ arrived d = some (.mainTaskArgs argv, released) := by
  obtain ⟨ds, rfl, -, hds⟩ := h.blocks (by simp [argsContract])
  obtain ⟨d, rfl⟩ := List.length_eq_one_iff.mp hds.length_eq
  obtain ⟨-, v, released, hd, -, hv⟩ := (List.forall₂_cons.mp hds).1
  cases hv
  exact ⟨d, released, rfl, hd⟩

/-- A program whose tasks are safe is correct on every runtime, from its first task on. -/
theorem correct_of_verified (hP : P.Monotone) (hdoc : host.Documented P.shared)
    (hV : Verified (body runtime program) P) (hreserved : P.reserved = fun g => ¬ IsReal g)
    (hpre : P.Pre (fun _ => none) .mainEdt [] ⟨fun _ => none, [argsContract argv], some [], n⟩)
    (hstart : Starts host argv main args used state) :
    Correct (body runtime program) (fun printed => P.Done (P.report printed)) n
      (⟨state, fun _ => none⟩ : Config host) := by
  refine adequate hP hdoc hV hstart.view hpre rfl hstart.main_used hstart.args_used ?_ ?_
  · rw [hreserved]
    exact not_not.mpr hstart.args_real
  · rw [hreserved]
    exact hstart.reserved_used

def usedAtStart : Set GuidWord := fun g => ¬ IsReal g ∨ g = ⟨1⟩ ∨ g = ⟨2⟩

def plainStart (argv : List String) : World (TaskPrograms.signature F O GuidWord) Unit :=
  .begin ⟨1⟩ ⟨2⟩ .mainEdt [] (.mainTaskArgs argv) usedAtStart

theorem plainStart_starts {shared : Prop} :
    Starts (plainHost shared : Host (TaskPrograms.signature F O GuidWord)) argv ⟨1⟩ ⟨2⟩ usedAtStart
      (plainStart argv) where
  view := rfl
  main_used := .inr (.inl rfl)
  args_used := .inr (.inr rfl)
  args_real := ⟨by decide, by decide, by decide⟩
  reserved_used _ hg := .inl hg

end Correctness

end Ocxxr.TaskProgramRules

import Ocxxr.TaskLaunchSpec

namespace Ocxxr.ArgumentOrder

open Ocr SortedSearch Bookkeeping Allocator TaskState AcquiredData AcquiredTable BookkeepingSpec GuidMap
  DatablockLists TaskLaunch TaskLaunchSpec

variable {G : Type} [OcrGuid G] {std : StdAlgorithms (DbPair G)} {info : FnInfo} {paramv : List (BitVec 64)}
  {depv : List (OcrEdtDep G)}

structure Fits (info : FnInfo) (paramv : List (BitVec 64)) (depv : List (OcrEdtDep G)) : Prop where
  params : paramv.length = info.paramWordCount
  deps_le : info.depCount ≤ depv.length
  deps_eq : info.hasVarArgs = false → depv.length = info.depCount

/-- What the runtime guarantees of the datablocks that one task acquires. -/
structure Consistent (depv : List (OcrEdtDep G)) : Prop where
  same : ∀ a ∈ depv, ∀ b ∈ depv, a.guid = b.guid → a.ptr = b.ptr
  distinct : ∀ a ∈ depv, ∀ b ∈ depv, a.ptr ≠ 0 → b.ptr ≠ 0 → a.ptr = b.ptr → a.guid = b.guid

def NullsForNullHandles (info : FnInfo) (depv : List (OcrEdtDep G)) : Prop :=
  ∀ j : Nat, info.deps[j]? = some .nullHandle → depAt depv j = ⟨nullGuid, 0⟩

theorem accepts_iff : (∀ i ∈ info.initializers, Accepts depv i) ↔ NullsForNullHandles info depv := by
  constructor
  · intro h j hj
    exact h _ (dep_mem.mpr hj)
  · intro h i hi
    cases i with
    | param => trivial
    | varArgs => trivial
    | dep type j =>
        cases type with
        | datablock => trivial
        | arena => trivial
        | nullHandle => exact h j (dep_mem.mp hi)

section Unpacking

variable {arena : DatablockAllocator} {parents : List (TaskLocalState G)} {headers : Headers}

theorem value_run {i : Initializer} (hi : i ∈ info.initializers) (hd : info.depCount ≤ depv.length)
    (hacc : Accepts depv i) (dbs : AcquiredDbInfo G) :
    (do
      let arg ← evaluateArg std info paramv depv i
      pure (i, arg)).run (placed arena parents headers dbs) =
      report (placed arena parents headers) (i, argOf info paramv depv i)
        ((addAll std (callsOf info depv i)).run dbs) :=
  report_bind_pure (evaluateArg_run hi hd hacc dbs) (fun _ => rfl)

theorem unpackArgs_run {order : List Initializer} (ho : order.Perm info.initializers)
    (hd : info.depCount ≤ depv.length) (hacc : NullsForNullHandles info depv) (dbs : AcquiredDbInfo G) :
    (unpackArgs std info order paramv depv).run (placed arena parents headers dbs) =
      report (placed arena parents headers) (info.initializers.map (argOf info paramv depv))
        ((addAll std (order.flatMap (callsOf info depv))).run dbs) := by
  have hvalue : ∀ i ∈ order, ∀ dbs, (do
      let arg ← evaluateArg std info paramv depv i
      pure (i, arg)).run (placed arena parents headers dbs) = _ :=
    fun i hi => value_run (ho.mem_iff.mp hi) hd (accepts_iff.mpr hacc i (ho.mem_iff.mp hi))
  apply report_bind_pure (report_mapM _ _ hvalue)
  intro dbs
  have hlookup : info.initializers.filterMap
      (fun i => (order.map (fun i => (i, argOf info paramv depv i))).lookup i) =
        info.initializers.map (argOf info paramv depv) :=
    calc
      _ = info.initializers.filterMap (some ∘ argOf info paramv depv) :=
          List.filterMap_congr (fun i hi => List.lookup_graph _ (ho.mem_iff.mpr hi))
      _ = info.initializers.map (argOf info paramv depv) := congrFun List.filterMap_eq_map _
  rw [hlookup]
  rfl

theorem unpackArgs_returns {order : List Initializer} (ho : order.Perm info.initializers)
    (hd : info.depCount ≤ depv.length) (hn : NullsForNullHandles info depv)
    (hfit : (distinctGuids (order.flatMap (callsOf info depv))).card ≤ maxDbAcquireCount) :
    ∃ dbs, (unpackArgs std info order paramv depv).run (placed arena parents headers .fresh) =
      .ok (info.initializers.map (argOf info paramv depv)) (placed arena parents headers dbs) := by
  obtain ⟨dbs, hrun, -⟩ := addAll_fresh std _ hfit
  refine ⟨dbs, ?_⟩
  rw [unpackArgs_run ho hd hn, hrun]
  rfl

/-- Whatever comes before it, the null handle that is not given the null dependence
is reached, unless the table overflows first. -/
theorem mapM_rejected {l : List Initializer} (hl : ∀ i ∈ l, i ∈ info.initializers)
    (hd : info.depCount ≤ depv.length) (hacc : ∃ i ∈ l, ¬ Accepts depv i) {dbs : AcquiredDbInfo G}
    {m : Registry G} (hdbs : Coherent dbs) (hm : Represents dbs m) :
    ∃ a thread, (l.mapM (fun i => do
      let arg ← evaluateArg std info paramv depv i
      pure (i, arg))).run (placed arena parents headers dbs) = .error (.assertion a) thread ∧
        (a = .nullHandleDep ∨ a = .acquiredTooMany) := by
  induction l generalizing dbs m with
  | nil => simp at hacc
  | cons i l ih =>
      have hi := hl i List.mem_cons_self
      rw [List.mapM_cons, EStateM.run_bind]
      by_cases h : Accepts depv i
      · rw [value_run hi hd h]
        obtain ⟨hfits, hover⟩ := addAll_refines std hdbs hm (callsOf info depv i)
        rcases Nat.lt_or_ge maxDbAcquireCount (guids dbs ∪ distinctGuids (callsOf info depv i)).card with hlt | hle
        · obtain ⟨_, hrun, -⟩ := hover hlt
          rw [hrun]
          exact ⟨.acquiredTooMany, _, rfl, .inr rfl⟩
        · obtain ⟨_, hrun, hdbs', hm', -⟩ := hfits hle
          have hrest : ∃ i ∈ l, ¬ Accepts depv i := by
            obtain ⟨k, hk, hnot⟩ := hacc
            rcases List.mem_cons.mp hk with rfl | hk
            · exact absurd h hnot
            · exact ⟨k, hk, hnot⟩
          obtain ⟨a, thread, hfail, ha⟩ := ih (fun k hk => hl k (List.mem_cons_of_mem _ hk)) hrest hdbs' hm'
          rw [hrun]
          refine ⟨a, thread, ?_, ha⟩
          simp only [report, EStateM.run_bind, hfail]
      · rw [EStateM.run_bind, evaluateArg_rejected hi hd h]
        exact ⟨.nullHandleDep, _, rfl, .inl rfl⟩

theorem unpackArgs_rejected {order : List Initializer} (ho : order.Perm info.initializers)
    (hd : info.depCount ≤ depv.length) (hn : ¬ NullsForNullHandles info depv) :
    ∃ a thread, (unpackArgs std info order paramv depv).run (placed arena parents headers .fresh) =
      .error (.assertion a) thread ∧ (a = .nullHandleDep ∨ a = .acquiredTooMany) := by
  have hacc : ∃ i ∈ order, ¬ Accepts depv i := by
    rw [← accepts_iff] at hn
    push Not at hn
    obtain ⟨i, hi, hi'⟩ := hn
    exact ⟨i, ho.mem_iff.mpr hi, hi'⟩
  obtain ⟨a, thread, hrun, ha⟩ := mapM_rejected (fun i hi => ho.mem_iff.mp hi) hd hacc fresh_coherent
    fresh_represents
  refine ⟨a, thread, ?_, ha⟩
  rw [unpackArgs, EStateM.run_bind, hrun]

end Unpacking

section Canonicity

def Holds (dbs : AcquiredDbInfo G) (depv : List (OcrEdtDep G)) : Prop :=
  ∀ p : DbPair G, Tracked dbs p ↔ ∃ dep ∈ depv, dep.ptr ≠ 0 ∧ p = ⟨dep.guid, dep.ptr⟩

omit [OcrGuid G] in
theorem mem_calls {deps : List (OcrEdtDep G)} {call : G × Int} :
    call ∈ calls deps ↔ ∃ dep ∈ deps, call = (dep.guid, dep.ptr) := by
  simp [calls, eq_comm]

theorem mem_callsOf (hf : Fits info paramv depv) (hn : NullsForNullHandles info depv) {call : G × Int}
    (hc : call.2 ≠ 0) : call ∈ info.initializers.flatMap (callsOf info depv) ↔ call ∈ calls depv := by
  rw [List.mem_flatMap, mem_calls]
  constructor
  · rintro ⟨i, hi, hcall⟩
    cases i with
    | param => simp [callsOf] at hcall
    | varArgs =>
        obtain ⟨dep, hdep, rfl⟩ := mem_calls.mp hcall
        exact ⟨dep, List.mem_of_mem_drop hdep, rfl⟩
    | dep type j =>
        have hj := (bounded_of_mem hi).trans_le hf.deps_le
        have hmem : depAt depv j ∈ depv := List.mem_of_getElem? (getElem?_depAt hj)
        cases type with
        | nullHandle => simp [callsOf] at hcall
        | datablock => exact ⟨_, hmem, by simpa [callsOf, calls] using hcall⟩
        | arena => exact ⟨_, hmem, by simpa [callsOf, calls] using hcall⟩
  · rintro ⟨dep, hdep, rfl⟩
    obtain ⟨k, hk, rfl⟩ := List.getElem_of_mem hdep
    by_cases hstatic : k < info.depCount
    · have htype : info.deps[k]? = some info.deps[k] := List.getElem?_eq_getElem hstatic
      refine ⟨.dep info.deps[k] k, dep_mem.mpr htype, ?_⟩
      have hat : depAt depv k = depv[k] := by simp [depAt, hk]
      cases hd : info.deps[k] with
      | nullHandle =>
          have hnull := hn k (htype.trans (congrArg some hd))
          rw [hat] at hnull
          exact absurd (congrArg OcrEdtDep.ptr hnull) hc
      | datablock => simp [callsOf, calls, hat]
      | arena => simp [callsOf, calls, hat]
    · have hvar : info.hasVarArgs = true := by
        by_contra hv
        have := hf.deps_eq (by simpa using hv)
        omega
      refine ⟨.varArgs, varArgs_mem.mpr hvar, mem_calls.mpr ⟨depv[k], ?_, rfl⟩⟩
      exact List.mem_drop_iff_getElem.mpr ⟨k - info.depCount, by omega, by congr 1; omega⟩

theorem distinctGuids_card_le (c : List (G × Int)) : (distinctGuids c).card ≤ c.length := by
  apply (List.toFinset_card_le _).trans
  rw [List.length_map]
  exact List.length_filter_le _ _

theorem distinctGuids_card_of_nodup {c : List (G × Int)} (hnodup : (c.map Prod.fst).Nodup)
    (hbase : ∀ call ∈ c, call.2 ≠ 0) : (distinctGuids c).card = c.length := by
  have hall : c.filter (fun call => call.2 ≠ 0) = c := List.filter_eq_self.mpr (by simpa using hbase)
  rw [distinctGuids, hall, List.toFinset_card_of_nodup hnodup, List.length_map]

theorem distinctGuids_congr {c c' : List (G × Int)}
    (h : ∀ call : G × Int, call.2 ≠ 0 → (call ∈ c ↔ call ∈ c')) :
    distinctGuids c = distinctGuids c' := by
  ext g
  simp only [distinctGuids, List.mem_toFinset, List.mem_map, List.mem_filter, decide_eq_true_eq]
  constructor
  · rintro ⟨call, ⟨hmem, hne⟩, rfl⟩
    exact ⟨call, ⟨(h call hne).mp hmem, hne⟩, rfl⟩
  · rintro ⟨call, ⟨hmem, hne⟩, rfl⟩
    exact ⟨call, ⟨(h call hne).mpr hmem, hne⟩, rfl⟩

theorem firstBase_eq_some {c : List (G × Int)}
    (hsame : ∀ g b b', (g, b) ∈ c → (g, b') ∈ c → b ≠ 0 → b' ≠ 0 → b = b') {g : G} {b : Int} :
    firstBase c g = some b ↔ b ≠ 0 ∧ (g, b) ∈ c := by
  have hfirst : ∀ {call}, c.find? (fun call => call.1 = g ∧ call.2 ≠ 0) = some call →
      call ∈ c ∧ call.1 = g ∧ call.2 ≠ 0 := by
    intro call h
    exact ⟨List.mem_of_find?_eq_some h, by simpa using List.find?_some h⟩
  simp only [firstBase, Option.map_eq_some_iff]
  constructor
  · rintro ⟨⟨g', b'⟩, h, rfl⟩
    obtain ⟨hmem, rfl, hne⟩ := hfirst h
    exact ⟨hne, hmem⟩
  · rintro ⟨hne, hmem⟩
    have hsome : (c.find? (fun call => call.1 = g ∧ call.2 ≠ 0)).isSome := by
      rw [List.find?_isSome]
      exact ⟨(g, b), hmem, by simpa using hne⟩
    obtain ⟨⟨g', b'⟩, h⟩ := Option.isSome_iff_exists.mp hsome
    obtain ⟨hmem', rfl, hne'⟩ := hfirst h
    exact ⟨_, h, hsame _ _ _ hmem' hmem hne' hne⟩

theorem holds_of_calls (hc : Consistent depv) {c : List (G × Int)}
    (hmem : ∀ call : G × Int, call.2 ≠ 0 → (call ∈ c ↔ call ∈ calls depv))
    (hfit : (distinctGuids (calls depv)).card ≤ maxDbAcquireCount) :
    ∃ dbs, (addAll std c).run .fresh = .ok () dbs ∧ Coherent dbs ∧ Holds dbs depv := by
  have hsame : ∀ g b b', (g, b) ∈ c → (g, b') ∈ c → b ≠ 0 → b' ≠ 0 → b = b' := by
    intro g b b' hb hb' hne hne'
    obtain ⟨dep, hdep, he⟩ := mem_calls.mp ((hmem _ hne).mp hb)
    obtain ⟨dep', hdep', he'⟩ := mem_calls.mp ((hmem _ hne').mp hb')
    obtain ⟨rfl, rfl⟩ := Prod.mk.inj he
    obtain ⟨hguid, rfl⟩ := Prod.mk.inj he'
    exact hc.same dep hdep dep' hdep' hguid
  obtain ⟨dbs, hrun, hdbs, hm, -⟩ := addAll_fresh std c (distinctGuids_congr hmem ▸ hfit)
  refine ⟨dbs, hrun, hdbs, fun p => ?_⟩
  rw [hm p, firstBase_eq_some hsame]
  constructor
  · rintro ⟨hne, hp⟩
    obtain ⟨dep, hdep, he⟩ := mem_calls.mp ((hmem _ hne).mp hp)
    cases p
    cases he
    exact ⟨dep, hdep, hne, rfl⟩
  · rintro ⟨dep, hdep, hne, rfl⟩
    exact ⟨hne, (hmem _ hne).mpr (mem_calls.mpr ⟨dep, hdep, rfl⟩)⟩

theorem holds_unique (hc : Consistent depv) {dbs dbs' : AcquiredDbInfo G} (h : Coherent dbs)
    (h' : Coherent dbs') (hh : Holds dbs depv) (hh' : Holds dbs' depv) : dbs = dbs' := by
  apply h.ext_tracked h' (fun p => (hh p).trans (hh' p).symm)
  intro p q hp hq he
  obtain ⟨a, ha, hane, rfl⟩ := (hh p).mp hp
  obtain ⟨b, hb, hbne, rfl⟩ := (hh q).mp hq
  rw [DbPair.mk.injEq]
  exact ⟨hc.distinct a ha b hb hane hbne he, he⟩

end Canonicity

section Launch

/-- Either every order of evaluation overflows the table, or all of them enter the user
function with one and the same table. -/
def OrderIndependent (std : StdAlgorithms (DbPair G)) (info : FnInfo) (paramv : List (BitVec 64))
    (depv : List (OcrEdtDep G)) (thread : Thread G) : Prop :=
  (maxDbAcquireCount < (distinctGuids (calls depv)).card ∧
    ∀ order, order.Perm info.initializers → ∀ userFn, ∃ thread',
      (internalFn std info order userFn paramv depv).run thread = .error (.assertion .acquiredTooMany) thread') ∨
  ∃ args dbs, Holds dbs depv ∧
    ∀ order, order.Perm info.initializers → ∀ userFn,
      (internalFn std info order userFn paramv depv).run thread =
        (enter userFn args).run ⟨⟨dbs, .null⟩ :: thread.tasks, thread.headers⟩

theorem internalFn_run (hf : Fits info paramv depv) (order : List Initializer)
    (userFn : List (Arg G) → ThreadM G G) (thread : Thread G) :
    (internalFn std info order userFn paramv depv).run thread =
      (unpackArgs std info order paramv depv >>= enter userFn).run
        (placed .null thread.tasks thread.headers .fresh) := by
  have hdeps : (info.hasVarArgs || decide (depv.length = info.depCount)) = true := by
    cases hv : info.hasVarArgs with
    | true => rfl
    | false => simpa using hf.deps_eq hv
  simp only [internalFn, hf.params, hdeps, hf.deps_le, decide_true, assert, if_true, pure_bind]
  rw [EStateM.run_bind, pushTaskState_run]
  rfl

theorem launch_run (hf : Fits info paramv depv) (hn : NullsForNullHandles info depv) {order : List Initializer}
    (ho : order.Perm info.initializers) (userFn : List (Arg G) → ThreadM G G) (thread : Thread G) :
    (internalFn std info order userFn paramv depv).run thread =
      match (addAll std (order.flatMap (callsOf info depv))).run .fresh with
      | .ok _ dbs => (enter userFn (info.initializers.map (argOf info paramv depv))).run
          ⟨⟨dbs, .null⟩ :: thread.tasks, thread.headers⟩
      | .error e dbs => .error e ⟨⟨dbs, .null⟩ :: thread.tasks, thread.headers⟩ := by
  rw [internalFn_run hf, EStateM.run_bind, unpackArgs_run ho hf.deps_le hn]
  cases (addAll std (order.flatMap (callsOf info depv))).run .fresh <;> rfl

theorem launch_rejected (hf : Fits info paramv depv) (hn : ¬ NullsForNullHandles info depv)
    {order : List Initializer} (ho : order.Perm info.initializers) (userFn : List (Arg G) → ThreadM G G)
    (thread : Thread G) :
    ∃ a thread', (internalFn std info order userFn paramv depv).run thread = .error (.assertion a) thread' ∧
      (a = .nullHandleDep ∨ a = .acquiredTooMany) := by
  obtain ⟨a, thread', hrun, ha⟩ := unpackArgs_rejected ho hf.deps_le hn
  refine ⟨a, thread', ?_, ha⟩
  rw [internalFn_run hf, EStateM.run_bind, hrun]

theorem mem_ordered (hf : Fits info paramv depv) (hn : NullsForNullHandles info depv) {order : List Initializer}
    (ho : order.Perm info.initializers) {call : G × Int} (hc : call.2 ≠ 0) :
    call ∈ order.flatMap (callsOf info depv) ↔ call ∈ calls depv := by
  rw [← mem_callsOf hf hn hc]
  exact (ho.flatMap_right _).mem_iff

theorem launch_overflows (hf : Fits info paramv depv) (hn : NullsForNullHandles info depv)
    {order : List Initializer} (ho : order.Perm info.initializers)
    (hlt : maxDbAcquireCount < (distinctGuids (calls depv)).card)
    (userFn : List (Arg G) → ThreadM G G) (thread : Thread G) : ∃ thread',
      (internalFn std info order userFn paramv depv).run thread =
        .error (.assertion .acquiredTooMany) thread' := by
  have hover := distinctGuids_congr (fun _ hc => mem_ordered hf hn ho hc)
  obtain ⟨dbs, hrun, -⟩ := addAll_overflow std _ (hover ▸ hlt)
  rw [launch_run hf hn ho, hrun]
  exact ⟨_, rfl⟩

theorem launch_enters (hf : Fits info paramv depv) (hn : NullsForNullHandles info depv) {order : List Initializer}
    (ho : order.Perm info.initializers) (hfit : (distinctGuids (calls depv)).card ≤ maxDbAcquireCount)
    (userFn : List (Arg G) → ThreadM G G) (thread : Thread G) : ∃ dbs,
      (internalFn std info order userFn paramv depv).run thread =
        (enter userFn (info.initializers.map (argOf info paramv depv))).run
          ⟨⟨dbs, .null⟩ :: thread.tasks, thread.headers⟩ := by
  have hover := distinctGuids_congr (fun _ hc => mem_ordered hf hn ho hc)
  obtain ⟨dbs, hrun, -⟩ := addAll_fresh std _ (hover ▸ hfit)
  refine ⟨dbs, ?_⟩
  rw [launch_run hf hn ho, hrun]

theorem task_start_order_independent (hf : Fits info paramv depv) (hc : Consistent depv) (thread : Thread G) :
    (NullsForNullHandles info depv → OrderIndependent std info paramv depv thread) ∧
    (¬ NullsForNullHandles info depv → ∀ order, order.Perm info.initializers → ∀ userFn, ∃ a thread',
      (internalFn std info order userFn paramv depv).run thread = .error (.assertion a) thread' ∧
        (a = .nullHandleDep ∨ a = .acquiredTooMany)) := by
  refine ⟨fun hn => ?_, fun hn order ho userFn => launch_rejected hf hn ho userFn thread⟩
  rcases Nat.lt_or_ge maxDbAcquireCount (distinctGuids (calls depv)).card with hlt | hle
  · exact .inl ⟨hlt, fun order ho userFn => launch_overflows hf hn ho hlt userFn thread⟩
  · have hholds : ∀ order : List Initializer, order.Perm info.initializers → ∃ dbs,
        (addAll std (order.flatMap (callsOf info depv))).run .fresh = .ok () dbs ∧ Coherent dbs ∧ Holds dbs depv :=
      fun _ ho => holds_of_calls hc (fun _ hc => mem_ordered hf hn ho hc) hle
    obtain ⟨dbs, -, hdbs, hh⟩ := hholds _ (.refl _)
    refine .inr ⟨info.initializers.map (argOf info paramv depv), dbs, hh, fun order ho userFn => ?_⟩
    obtain ⟨dbs', hrun, hdbs', hh'⟩ := hholds order ho
    rw [launch_run hf hn ho, hrun, holds_unique hc hdbs hdbs' hh hh']

end Launch

section Signatures

def listTask : FnInfo := ⟨none, [.datablock, .arena], true⟩

def repeated : List (OcrEdtDep Guid64) := [⟨⟨5⟩, 4096⟩, ⟨⟨6⟩, 8192⟩, ⟨⟨0⟩, 0⟩, ⟨⟨5⟩, 4096⟩]

theorem task_start_order_independent_repeated : OrderIndependent reference listTask [] repeated Thread.idle := by
  have hf : Fits listTask [] repeated := ⟨rfl, by decide, nofun⟩
  have hc : Consistent repeated := ⟨by decide, by decide⟩
  apply (task_start_order_independent hf hc Thread.idle).1
  intro j hj
  rcases j with _ | _ | j <;> cases hj

/-- `void(Datablock<T>, NullHandle)`: only behind another argument is a `NullHandle` a
dependence, and not the parameter. -/
def nullHandleTask : FnInfo := ⟨none, [.datablock, .nullHandle], false⟩

def carried : List (OcrEdtDep Guid64) := [⟨⟨5⟩, 4096⟩, ⟨⟨6⟩, 8192⟩]

/-- A datablock that satisfies a null handle: no order enters the user function, and
none overflows the table. -/
theorem task_start_order_counterexample : Fits nullHandleTask [] carried ∧ Consistent carried ∧
    ¬ OrderIndependent reference nullHandleTask [] carried Thread.idle := by
  refine ⟨⟨rfl, le_rfl, fun _ => rfl⟩, ⟨by decide, by decide⟩, ?_⟩
  rintro (⟨hlt, -⟩ | ⟨args, dbs, -, hrun⟩)
  · exact absurd (hlt.trans_le (distinctGuids_card_le _)) (by decide)
  · cases hrun nullHandleTask.initializers (.refl _) (fun _ => pure nullGuid)

end Signatures

end Ocxxr.ArgumentOrder

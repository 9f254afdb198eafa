import Ocxxr.ClosestBase
import Ocxxr.EntryRemoval
import Ocxxr.TaskOperations
import Mathlib.Data.Set.Card

namespace Ocxxr.HeldDatablocks

open Ocr SortedSearch Bookkeeping AcquiredTable BookkeepingSpec ClosestBase Allocator TaskState
  AcquiredData TaskOperations

section Ledger

variable {G : Type}

/-- The datablocks a task holds after a step, by the protocol of acquiring, releasing
and destroying. -/
def ledger (held : Set (DbPair G)) (step : Step G) : Set (DbPair G) :=
  {p | step.acquires = some p ∧ p.baseAddr ≠ 0 ∨ p ∈ held ∧ step.givesUp ≠ some p.guid}

def heldAfter (steps : List (Step G)) : Set (DbPair G) := steps.foldl ledger ∅

/-- The step brings no second base for a GUID held, and gives up no datablock held. -/
structure Keeps (held : Set (DbPair G)) (step : Step G) : Prop where
  acquires : ∀ p, step.acquires = some p → p.baseAddr ≠ 0 → ∀ q ∈ held, q.guid = p.guid → q = p
  givesUp : ∀ g, step.givesUp = some g → ∀ q ∈ held, q.guid ≠ g

variable {held : Set (DbPair G)} {step : Step G}

theorem heldAfter_snoc (steps : List (Step G)) (step : Step G) :
    heldAfter (steps ++ [step]) = ledger (heldAfter steps) step := List.foldl_concat ledger ∅ step steps

theorem mem_ledger_acquired {p q : DbPair G} (ha : step.acquires = some p) (hg : step.givesUp = none) :
    q ∈ ledger held step ↔ q = p ∧ p.baseAddr ≠ 0 ∨ q ∈ held := by
  simp only [ledger, ha, hg, Set.mem_ofPred_eq, Option.some.injEq, ne_eq, reduceCtorEq, not_false_eq_true,
    and_true]
  apply or_congr_left
  constructor
  · rintro ⟨rfl, hb⟩
    exact ⟨rfl, hb⟩
  · rintro ⟨rfl, hb⟩
    exact ⟨rfl, hb⟩

theorem mem_ledger_givenUp {g : G} {q : DbPair G} (ha : step.acquires = none) (hg : step.givesUp = some g) :
    q ∈ ledger held step ↔ q ∈ held ∧ q.guid ≠ g := by
  simp [ledger, ha, hg, eq_comm]

theorem keeps_acquired {p : DbPair G} (ha : step.acquires = some p) (hg : step.givesUp = none) :
    Keeps held step ↔ (p.baseAddr ≠ 0 → ∀ q ∈ held, q.guid = p.guid → q = p) := by
  constructor
  · exact fun h => h.acquires p ha
  · intro h
    refine ⟨?_, ?_⟩
    · intro q hq
      rw [ha] at hq
      cases hq
      exact h
    · intro g hg'
      rw [hg] at hg'
      cases hg'

theorem keeps_givenUp {g : G} (ha : step.acquires = none) (hg : step.givesUp = some g) :
    Keeps held step ↔ ∀ q ∈ held, q.guid ≠ g := by
  constructor
  · exact fun h => h.givesUp g hg
  · intro h
    refine ⟨?_, ?_⟩
    · intro q hq
      rw [ha] at hq
      cases hq
    · intro g' hg'
      rw [hg] at hg'
      cases hg'
      exact h

end Ledger

variable {G : Type} [OcrGuid G] (std : StdAlgorithms (DbPair G))

def taskRun (steps : List (Step G)) : ThreadM G Unit := do
  pushTaskState
  performAll std steps

def Tracks (thread : Thread G) (held : Set (DbPair G)) : Prop :=
  ∃ task parents, thread.tasks = task :: parents ∧ ∀ p, Tracked task.acquiredDbs p ↔ p ∈ held

structure Accurate (thread : Thread G) (held : Set (DbPair G)) : Prop where
  tracks : Tracks thread held
  room : ∀ (step : Step G) thread', (step.perform std).run thread = .error (.assertion .acquiredTooMany) thread' →
    maxDbAcquireCount < (ledger held step).ncard
  attributed : ∀ target source g offset thread',
    (inTask (guidOffsetForAddress std target source)).run thread = .ok (g, offset) thread' →
    g = nullGuid ∨ g = uninitializedGuid ∨ ∃ b, ⟨g, b⟩ ∈ held

variable {std} {held : Set (DbPair G)} {step : Step G} {dbs dbs' : AcquiredDbInfo G}

theorem effect_coherent (hs : Coherent dbs) (he : Effect std step dbs dbs') : Coherent dbs' := by
  cases he with
  | add p _ _ h => exact addDatablock_coherent std hs h
  | remove g _ _ h => exact (removeDatablock_coherent std hs h).1
  | ignore g _ _ h => exact h ▸ hs

omit [OcrGuid G] in
/-- No step takes a pair out of the table, so giving up a datablock that is held breaks
the agreement. -/
theorem givenUp_iff {g : G} (ha : step.acquires = none) (hg : step.givesUp = some g)
    (ht : ∀ p, Tracked dbs p ↔ p ∈ held) (hsame : dbs'.byGuid = dbs.byGuid) :
    (∀ p, Tracked dbs' p ↔ p ∈ ledger held step) ↔ Keeps held step := by
  rw [keeps_givenUp ha hg]
  simp only [mem_ledger_givenUp ha hg, Tracked, hsame]
  simp only [Tracked] at ht
  constructor
  · exact fun h q hq => ((h q).mp ((ht q).mpr hq)).2
  · exact fun h q => ⟨fun hq => ⟨(ht q).mp hq, h q ((ht q).mp hq)⟩, fun hq => (ht q).mpr hq.1⟩

theorem acquired_iff {p : DbPair G} (ha : step.acquires = some p) (hg : step.givesUp = none)
    (hs : Coherent dbs) (ht : ∀ p, Tracked dbs p ↔ p ∈ held)
    (h : (addDatablock std p.guid p.baseAddr).run dbs = .ok () dbs') :
    (∀ q, Tracked dbs' q ↔ q ∈ ledger held step) ↔ Keeps held step := by
  rw [keeps_acquired ha hg]
  simp only [mem_ledger_acquired ha hg]
  rcases addDatablock_cases std hs.toSorted p.guid p.baseAddr with
    ⟨hb, he⟩ | ⟨⟨q, hq, hqg⟩, he⟩ | ⟨_, _, _, he⟩ | ⟨hb, hnew, hc, he⟩
  · rw [he] at h
    cases h
    exact iff_of_true (fun q => by simp [hb, ht q]) (fun hb' => absurd hb hb')
  · rw [he] at h
    cases h
    constructor
    · intro hall hb q' hq' hqg'
      have hp : Tracked dbs p := (hall p).mpr (.inl ⟨rfl, hb⟩)
      exact hs.tracked_unique ((ht q').mpr hq') hp hqg'
    · intro hkeep q'
      rw [ht]
      refine ⟨.inr, ?_⟩
      rintro (⟨rfl, hb⟩ | hq')
      · have hmem := (ht q).mp hq
        rwa [hkeep hb q hmem hqg] at hmem
      · exact hq'
  · rw [he] at h
    cases h
  · rw [he] at h
    cases h
    refine iff_of_true (fun q => ?_) (fun _ q hq hqg => absurd ⟨q, (ht q).mpr hq, hqg⟩ hnew)
    rw [tracked_inserted std hc, ht]
    simp [hb]

theorem effect_tracks_iff (hs : Coherent dbs) (ht : ∀ p, Tracked dbs p ↔ p ∈ held)
    (he : Effect std step dbs dbs') : (∀ p, Tracked dbs' p ↔ p ∈ ledger held step) ↔ Keeps held step := by
  cases he with
  | add p ha hg h => exact acquired_iff ha hg hs ht h
  | remove g ha hg h => exact givenUp_iff ha hg ht (removeDatablock_coherent std hs h).2.2
  | ignore g ha hg h => exact givenUp_iff ha hg ht (congrArg AcquiredDbInfo.byGuid h)

theorem ncard_tracked (hs : Sorted dbs) : {p | Tracked dbs p}.ncard = dbs.acquiredDbCount := by
  have hnodup : dbs.byGuid.Nodup := hs.guid_nodup.of_map
  have h : {p | Tracked dbs p} = (dbs.byGuid.toFinset : Set (DbPair G)) := by
    ext p
    simp [Tracked]
  rw [h, Set.ncard_coe_finset, List.toFinset_card_of_nodup hnodup, hs.byGuid_length]

theorem ncard_ledger_of_full (hs : Coherent dbs) (ht : ∀ p, Tracked dbs p ↔ p ∈ held) {p : DbPair G}
    (ha : step.acquires = some p) (hg : step.givesUp = none)
    (h : (addDatablock std p.guid p.baseAddr).run dbs = .error (.assertion .acquiredTooMany) dbs') :
    maxDbAcquireCount < (ledger held step).ncard := by
  rcases addDatablock_cases std hs.toSorted p.guid p.baseAddr with
    ⟨_, he⟩ | ⟨_, he⟩ | ⟨hb, hnew, hc, he⟩ | ⟨_, _, _, he⟩
  · rw [he] at h; cases h
  · rw [he] at h; cases h
  · have hheld : {q | Tracked dbs q} = held := Set.ext ht
    have hledger : ledger held step = insert p held := by
      ext q
      rw [mem_ledger_acquired ha hg, Set.mem_insert_iff]
      simp [hb]
    have hfinite : held.Finite := by
      rw [← hheld]
      exact Set.Finite.ofFinset dbs.byGuid.toFinset (by simp [Tracked])
    have hp : p ∉ held := fun hp => hnew ⟨p, (ht p).mpr hp, rfl⟩
    rw [hledger, Set.ncard_insert_of_notMem hp hfinite, ← hheld, ncard_tracked hs.toSorted, hc]
    exact Nat.lt_succ_self _
  · rw [he] at h; cases h

theorem guid_of_encoded (hs : Sorted dbs) {target source offset : Int} {g : G}
    (h : (guidOffsetForAddress std target source).run dbs = .ok (g, offset) dbs') :
    g = nullGuid ∨ g = uninitializedGuid ∨ ∃ b, Tracked dbs ⟨g, b⟩ := by
  by_cases h0 : target = 0
  · subst h0
    rw [guidOffsetForAddress_null] at h
    cases h
    exact .inl rfl
  simp only [guidOffsetForAddress, h0, if_false, run_bind_ok] at h
  obtain ⟨⟨i, e⟩, s₁, hclosest, h⟩ := h
  have htracked := closestDatablock_tracked std hs hclosest
  dsimp only at h
  split at h
  · cases h
    exact .inr (.inl rfl)
  · cases h
    exact .inr (.inr ⟨i.baseAddr, htracked⟩)

theorem taskRun_nil {start thread : Thread G} (h : (taskRun std []).run start = .ok () thread) :
    thread.tasks = .zero :: start.tasks := by
  simp only [taskRun, run_bind_ok, pushTaskState_run] at h
  obtain ⟨_, _, hpush, hall⟩ := h
  cases hpush
  cases hall
  rfl

theorem taskRun_snoc {steps : List (Step G)} {start thread : Thread G} :
    (taskRun std (steps ++ [step])).run start = .ok () thread ↔
      ∃ thread', (taskRun std steps).run start = .ok () thread' ∧
        (step.perform std).run thread' = .ok () thread := by
  simp only [taskRun, performAll, List.forM_append, run_bind_ok]
  constructor
  · rintro ⟨_, _, hpush, _, thread', hall, hstep⟩
    refine ⟨thread', ⟨_, _, hpush, hall⟩, ?_⟩
    simpa using hstep
  · rintro ⟨thread', ⟨_, _, hpush, hall⟩, hstep⟩
    refine ⟨_, _, hpush, _, thread', hall, ?_⟩
    simpa using hstep

theorem taskRun_coherent {steps : List (Step G)} {start thread : Thread G}
    (h : (taskRun std steps).run start = .ok () thread) :
    ∃ task parents, thread.tasks = task :: parents ∧ Coherent task.acquiredDbs := by
  induction steps using List.reverseRecOn generalizing thread with
  | nil => exact ⟨_, _, taskRun_nil h, fresh_coherent⟩
  | append_singleton steps step ih =>
      obtain ⟨thread', hrun, hstep⟩ := taskRun_snoc.mp h
      obtain ⟨task, parents, ht, hs⟩ := ih hrun
      obtain ⟨task', parents', dbs, ht', hthread, he⟩ := perform_ok ht hstep
      rw [ht] at ht'
      cases ht'
      exact ⟨_, _, hthread, effect_coherent hs he⟩

theorem accurate_of_tracks {thread : Thread G} {task : TaskLocalState G} {parents : List (TaskLocalState G)}
    (ht : thread.tasks = task :: parents) (hs : Coherent task.acquiredDbs)
    (h : ∀ p, Tracked task.acquiredDbs p ↔ p ∈ held) : Accurate std thread held := by
  refine ⟨⟨task, parents, ht, h⟩, ?_, ?_⟩
  · intro step thread' hfull
    obtain ⟨p, dbs, ha, hg, hadd⟩ := perform_full ht hs hfull
    exact ncard_ledger_of_full hs h ha hg hadd
  · intro target source g offset thread' hrun
    obtain ⟨task', parents', dbs, ht', hrun, -⟩ := inTask_ok.mp hrun
    rw [ht] at ht'
    cases ht'
    rcases guid_of_encoded hs.toSorted hrun with hn | hu | ⟨b, hb⟩
    · exact .inl hn
    · exact .inr (.inl hu)
    · exact .inr (.inr ⟨b, (h _).mp hb⟩)

theorem accurate_iff {thread : Thread G} {task : TaskLocalState G} {parents : List (TaskLocalState G)}
    (ht : thread.tasks = task :: parents) (hs : Coherent task.acquiredDbs) :
    Accurate std thread held ↔ ∀ p, Tracked task.acquiredDbs p ↔ p ∈ held := by
  refine ⟨fun h => ?_, accurate_of_tracks ht hs⟩
  obtain ⟨task', parents', ht', htracks⟩ := h.tracks
  rw [ht] at ht'
  cases ht'
  exact htracks

theorem step_accurate_iff {steps : List (Step G)} {start thread thread' : Thread G}
    (hrun : (taskRun std steps).run start = .ok () thread) (h : Accurate std thread held)
    (hstep : (step.perform std).run thread = .ok () thread') :
    Accurate std thread' (ledger held step) ↔ Keeps held step := by
  obtain ⟨task, parents, ht, hs⟩ := taskRun_coherent hrun
  obtain ⟨task', parents', dbs, ht', hthread, he⟩ := perform_ok ht hstep
  rw [ht] at ht'
  cases ht'
  rw [accurate_iff hthread (effect_coherent hs he)]
  exact effect_tracks_iff hs ((accurate_iff ht hs).mp h) he

/-- Along a run the table agrees with the ledger exactly as long as no step gives up a
datablock that is held, or brings a GUID held at another base. -/
theorem tracks_held_iff (steps : List (Step G)) {start final : Thread G}
    (hrun : (taskRun std steps).run start = .ok () final) :
    (∀ before, before <+: steps → ∀ thread, (taskRun std before).run start = .ok () thread →
      Accurate std thread (heldAfter before)) ↔
    ∀ before step, before ++ [step] <+: steps → Keeps (heldAfter before) step := by
  induction steps using List.reverseRecOn generalizing final with
  | nil =>
      refine iff_of_true ?_ ?_
      · intro before hpre thread hthread
        obtain rfl := List.prefix_nil.mp hpre
        obtain ⟨task, parents, ht, hs⟩ := taskRun_coherent hthread
        have hzero := taskRun_nil hthread
        rw [ht] at hzero
        cases hzero
        exact accurate_of_tracks ht hs (by simp [not_tracked_fresh, heldAfter, TaskLocalState.zero])
      · intro before step hpre
        simpa using List.prefix_nil.mp hpre
  | append_singleton steps step ih =>
      obtain ⟨thread', hrun', hstep⟩ := taskRun_snoc.mp hrun
      constructor
      · intro hall before step' hpre
        have hsteps := (ih hrun').mp (fun before hpre => hall before (hpre.trans (List.prefix_append _ _)))
        rcases List.prefix_concat_iff.mp hpre with he | hpre
        · obtain ⟨rfl, hlast⟩ := List.append_inj' he rfl
          obtain rfl : step' = step := by simpa using hlast
          have hlast := hall _ List.prefix_rfl final hrun
          rw [heldAfter_snoc] at hlast
          have hbefore := hall _ (List.prefix_append _ _) thread' hrun'
          exact (step_accurate_iff hrun' hbefore hstep).mp hlast
        · exact hsteps before step' hpre
      · intro hkeep before hpre thread hthread
        have hsteps := (ih hrun').mpr (fun before step' hpre =>
          hkeep before step' (hpre.trans (List.prefix_append _ _)))
        rcases List.prefix_concat_iff.mp hpre with rfl | hpre
        · rw [hrun] at hthread
          cases hthread
          rw [heldAfter_snoc]
          exact (step_accurate_iff hrun' (hsteps steps List.prefix_rfl thread' hrun') hstep).mpr
            (hkeep steps step List.prefix_rfl)
        · exact hsteps before hpre thread hthread

section CreateThenRelease

open EntryRemoval

def granting (p : DbPair Guid64) : OcrDb Guid64 where
  ocrDbCreate _ := ⟨0, p.guid, p.baseAddr⟩
  ocrDbRelease _ := 0
  ocrDbDestroy _ := 0

def dependence (p : DbPair Guid64) : Step Guid64 := ⟨.datablockOfDep ⟨p.guid, p.baseAddr⟩, granting p⟩

def create (p : DbPair Guid64) : Step Guid64 := ⟨.datablockCreate 8 4, granting p⟩

def release (p : DbPair Guid64) : Step Guid64 := ⟨.datablockRelease ⟨⟨p.guid⟩, p.baseAddr⟩, granting p⟩

def tracking (dbs : AcquiredDbInfo Guid64) : Thread Guid64 := ⟨[⟨dbs, .null⟩], fun _ => none⟩

def holding : Thread Guid64 := tracking oneEntry

def second : DbPair Guid64 := ⟨⟨6⟩, 8192⟩

def third : DbPair Guid64 := ⟨⟨7⟩, 12288⟩

/-- A task that has one datablock from the start and creates two, and between them
releases a null datablock. -/
def heldSteps : List (Step Guid64) :=
  [dependence entry, create second, release ⟨nullGuid, 0⟩, create third]

def heldPair : AcquiredDbInfo Guid64 := inserted reference oneEntry second

def heldTriple : AcquiredDbInfo Guid64 := inserted reference heldPair third

theorem create_run {dbs : AcquiredDbInfo Guid64} {p : DbPair Guid64} (hs : Sorted dbs) (hp : p.baseAddr ≠ 0)
    (hnew : ∀ q, Tracked dbs q → q.guid ≠ p.guid) (hc : dbs.acquiredDbCount < maxDbAcquireCount) :
    ((create p).perform reference).run (tracking dbs) = .ok () (tracking (inserted reference dbs p)) := by
  have hadd := addDatablock_new reference hs hp (fun ⟨q, hq, hg⟩ => hnew q hq hg) hc
  have hinit : (DatablockHandle.init reference (granting p) (8 * 4) true).run (tracking dbs) =
      .ok (p.guid, p.baseAddr) (tracking (inserted reference dbs p)) :=
    run_bind_ok.mpr ⟨(), _, rfl, run_bind_ok.mpr ⟨(), _, inTask_ok.mpr ⟨_, [], _, rfl, hadd, rfl⟩, rfl⟩⟩
  exact run_bind_ok.mpr ⟨_, _, run_bind_ok.mpr ⟨_, _, hinit, rfl⟩, rfl⟩

theorem createEntry_run : (taskRun reference [create entry]).run Thread.idle = .ok () holding := rfl

theorem heldSteps_run : (taskRun reference heldSteps).run Thread.idle = .ok () (tracking heldTriple) := by
  have hentry : ∀ q, Tracked oneEntry q → q.guid ≠ second.guid := by
    intro q hq
    obtain rfl := eq_of_tracked_single entry hq
    decide
  have hpair : Coherent heldPair :=
    inserted_coherent reference (single_coherent entry (by decide)) (by decide) (by decide) hentry
  have hboth : ∀ q, Tracked heldPair q → q.guid ≠ third.guid := by
    intro q hq
    rcases (tracked_inserted reference (by decide) second q).mp hq with rfl | hq
    · decide
    · obtain rfl := eq_of_tracked_single entry hq
      decide
  have hstart : (taskRun reference [dependence entry]).run Thread.idle = .ok () holding := rfl
  have hnull : ((release ⟨nullGuid, 0⟩).perform reference).run (tracking heldPair) = .ok () (tracking heldPair) :=
    run_bind_ok.mpr ⟨(), _, rfl, inTask_ok.mpr ⟨_, [], _, rfl, removeDatablock_null reference heldPair, rfl⟩⟩
  have hsecond := create_run oneEntry_strictlySorted.toSorted (by decide) hentry (by decide)
  have hthird := create_run hpair.toSorted (by decide) hboth (show 2 < 256 by decide)
  have hall : (taskRun reference ((([dependence entry] ++ [create second]) ++ [release ⟨nullGuid, 0⟩]) ++
      [create third])).run Thread.idle = .ok () (tracking heldTriple) :=
    taskRun_snoc.mpr ⟨_, taskRun_snoc.mpr ⟨_, taskRun_snoc.mpr ⟨_, hstart, hsecond⟩, hnull⟩, hthird⟩
  exact hall

theorem tracks_held_iff_create :
    (∀ before, before <+: heldSteps → ∀ thread, (taskRun reference before).run Thread.idle = .ok () thread →
      Accurate reference thread (heldAfter before)) ↔
    ∀ before step, before ++ [step] <+: heldSteps → Keeps (heldAfter before) step :=
  tracks_held_iff heldSteps heldSteps_run

theorem release_run : ((release entry).perform reference).run holding = .ok () holding := by
  have hrem := removeDatablock_unchanged reference oneEntry_strictlySorted (tracked_single entry)
  simp only [release, Step.perform, Datablock.release, ok, run_bind_ok, run_assert_ok]
  exact ⟨(), _, ⟨rfl, rfl⟩, inTask_ok.mpr ⟨⟨oneEntry, .null⟩, [], oneEntry, rfl, hrem, rfl⟩⟩

theorem tracks_held_counterexample :
    (taskRun reference [create entry, release entry]).run Thread.idle = .ok () holding ∧
      heldAfter [create entry, release entry] = ∅ ∧
      (∃ task parents, holding.tasks = task :: parents ∧ Tracked task.acquiredDbs entry) ∧
      ¬ Tracks holding (heldAfter [create entry, release entry]) := by
  have hrun : (taskRun reference ([create entry] ++ [release entry])).run Thread.idle = .ok () holding :=
    taskRun_snoc.mpr ⟨holding, createEntry_run, release_run⟩
  have hheld : heldAfter [create entry, release entry] = ∅ := by
    ext p
    have hrel : (release entry).givesUp = some entry.guid := rfl
    rw [show [create entry, release entry] = [create entry] ++ [release entry] from rfl, heldAfter_snoc,
      mem_ledger_givenUp rfl hrel, show heldAfter [create entry] = ledger ∅ (create entry) from rfl,
      mem_ledger_acquired (p := entry) rfl rfl]
    simp only [Set.mem_empty_iff_false, or_false, iff_false]
    rintro ⟨⟨rfl, -⟩, hne⟩
    exact hne rfl
  refine ⟨hrun, hheld, ⟨_, _, rfl, tracked_single entry⟩, ?_⟩
  rintro ⟨task, parents, ht, h⟩
  cases ht
  have hmem := (h entry).mp (tracked_single entry)
  rw [hheld] at hmem
  exact hmem

end CreateThenRelease

end Ocxxr.HeldDatablocks

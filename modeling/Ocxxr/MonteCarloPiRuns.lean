import Ocxxr.MonteCarloPi
import Ocxxr.TaskProgramRules

namespace Ocxxr.MonteCarloPi

open TaskGraph TaskContracts TaskAdequacy Ocr Bookkeeping TaskState AcquiredData DatablockLists
  TaskLaunch TaskLaunchSpec ArgumentOrder TaskPrograms TaskProgramRules

section Contracts

variable {G : Type} [WordGuid G] (atoi : String → BitVec 32) (argv : List String)

/-- A worker counts at most all of its points. -/
def pointsContract : Contract (signature TaskFn Line G) :=
  ⟨fun payload => ∃ total : BitVec 64, payload = some (.word total) ∧ total.toNat ≤ iters, 0⟩

def count : BitVec 32 := if argv.length < 2 then 10 else atoi (argv.getD 1 "")

def countLine : Line := if argv.length < 2 then .missingTaskCount 10 else .taskCount (count atoi argv)

def workerSteps : Nat := iters + 7

def accumulatorSteps (n : Nat) : Nat := 2 * n + 5

def mainCountSteps : Nat := if argv.length < 2 then 2 else 3

def mainSteps : Nat :=
  8 + mainCountSteps argv + accumulatorSteps (count atoi argv).toNat + (3 + workerSteps) * (count atoi argv).toNat

/-- What the program may print, but for the workers. -/
def Estimates (printed : List Line) : Prop :=
  ∃ sum : BitVec 64, sum.toNat ≤ iters * (count atoi argv).toNat ∧
    printed = [.mainTaskStarted, countLine atoi argv, .accumulatorStarted,
      .piEquals sum (BitVec.ofNat 64 (count atoi argv).toNat), .shuttingDown]

def isWorkerLine : Line → Bool
  | .workerStarted _ => true
  | _ => false

inductive Pre (K : Known (signature TaskFn Line G)) :
    EntryFn TaskFn → List (BitVec 64) → Brief (signature TaskFn Line G) → Prop
  | mainEdt : Pre K .mainEdt [] ⟨fun _ => none, [argsContract argv], some [], mainSteps atoi argv⟩
  | piWorkerTask (args : WorkerArgs G) :
      Pre K (.internalFn .piWorkerTask) args.words ⟨owing args.output pointsContract, [], none, workerSteps⟩
  | piAccumulatorTask : Pre K (.internalFn .piAccumulatorTask) []
      ⟨fun _ => none, List.replicate (count atoi argv).toNat pointsContract,
        some [.mainTaskStarted, countLine atoi argv], accumulatorSteps (count atoi argv).toNat⟩

/-- Workers release what they have written, so that it does not matter when writes are seen. -/
def spec : Spec (signature TaskFn Line G) where
  Pre := Pre atoi argv
  noise := isWorkerLine
  Done := Estimates atoi argv
  reserved := fun g => ¬ IsReal g
  shared := False

theorem spec_monotone : (spec (G := G) atoi argv).Monotone where
  pre := by
    intro K K' code params brief hK hpre
    cases hpre with
    | mainEdt => exact .mainEdt
    | piWorkerTask args => exact .piWorkerTask args
    | piAccumulatorTask => exact .piAccumulatorTask

end Contracts

section Loops

variable {G : Type} [WordGuid G] {atoi : String → BitVec 32} {argv : List String} {runtime : Runtime G} {task : G}
  {K : Known (signature TaskFn Line G)} {h : Holding (signature TaskFn Line G)} {n : Nat} {thread : Thread G}

theorem meets_countPoints (remaining : Nat) {total : BitVec 64} (hsize : total.toNat + remaining < 2 ^ 64)
    {post : Post TaskFn Line G (BitVec 64)}
    (hpost : ∀ total' : BitVec 64, total'.toNat ≤ total.toNat + remaining → post total' thread K h n) :
    Meets (spec atoi argv) (countPoints remaining total) thread K h (n + remaining) post := by
  induction remaining generalizing total with
  | zero => exact meets_pure (hpost total le_rfl)
  | succ remaining ih =>
      have hnext : (total + 1).toNat = total.toNat + 1 := by
        have hone : (1 : BitVec 64).toNat = 1 := rfl
        rw [BitVec.toNat_add, hone]
        omega
      apply meets_bind
      apply meets_call
      intro inside
      cases inside with
      | true =>
          apply ih (by rw [if_pos rfl, hnext]; omega)
          intro total' hle
          rw [if_pos rfl, hnext] at hle
          exact hpost total' (by omega)
      | false =>
          apply ih (by simp only [Bool.false_eq_true, if_false]; omega)
          intro total' hle
          simp only [Bool.false_eq_true, if_false] at hle
          exact hpost total' (by omega)

theorem meets_sumPoints {varArgs : DatablockList G} {rest : List (Datablock G)} {i : Nat} {sum counted : BitVec 64}
    (hindex : ∀ j d, rest[j]? = some d → ∀ thread : Thread G, (index varArgs (i + j)).run thread = .ok d thread)
    (hptr : ∀ d ∈ rest, d.dataPtr ≠ 0) (hnodup : (rest.map (fun d => d.handle.guid)).Nodup)
    (hheld : ∀ d ∈ rest, ∃ v c, h.block d.handle.guid = some (.word v, c) ∧ v.toNat ≤ iters)
    (hsize : sum.toNat + iters * rest.length < 2 ^ 64) {post : Post TaskFn Line G (BitVec 64 × BitVec 64)}
    (hpost : ∀ block (sum' : BitVec 64), sum'.toNat ≤ sum.toNat + iters * rest.length →
      post (sum', counted + BitVec.ofNat 64 rest.length) thread K { h with block := block } n) :
    Meets (spec atoi argv) (sumPoints varArgs rest.length i sum counted) thread K h
      (n + 2 * rest.length) post := by
  induction rest generalizing i sum counted h with
  | nil =>
      have hlast := hpost h.block sum le_rfl
      rw [List.length_nil, BitVec.add_zero] at hlast
      exact meets_pure hlast
  | cons d rest ih =>
      obtain ⟨v, c, hd, hv⟩ := hheld d List.mem_cons_self
      rw [List.map_cons, List.nodup_cons] at hnodup
      rw [List.length_cons, Nat.mul_succ] at hsize
      have hsum : (sum + v).toNat = sum.toNat + v.toNat := by
        rw [BitVec.toNat_add]
        omega
      have hhead := hindex 0 d rfl
      apply meets_bind
      apply meets_lift (hhead thread)
      apply meets_bind
      apply meets_readWord (hptr d List.mem_cons_self) hd
      apply meets_bind
      apply meets_lift (hhead thread)
      apply meets_bind
      apply meets_destroyHandle (by rw [hd]; rfl)
      apply ih
      · intro j d' hj thread
        rw [Nat.add_assoc, Nat.add_comm 1 j]
        exact hindex (j + 1) d' hj thread
      · exact fun d' hd' => hptr d' (List.mem_cons_of_mem d hd')
      · exact hnodup.2
      · intro d' hd'
        have hne : d'.handle.guid ≠ d.handle.guid := by
          intro he
          exact hnodup.1 (he ▸ List.mem_map_of_mem hd')
        simp only [Function.update_of_ne hne]
        exact hheld d' (List.mem_cons_of_mem d hd')
      · rw [hsum]
        omega
      · intro block sum' hle
        rw [hsum] at hle
        have hcounted : counted + 1 + BitVec.ofNat 64 rest.length =
            counted + BitVec.ofNat 64 (rest.length + 1) := by
          rw [BitVec.ofNat_add, BitVec.add_assoc, BitVec.add_comm 1]
          rfl
        rw [hcounted]
        apply hpost block sum'
        rw [List.length_cons, Nat.mul_succ]
        omega

theorem meets_piWorkerTask {args : WorkerArgs G} {k : Nat} (hroom : Room k thread) (hk : k < maxDbAcquireCount)
    (howes : h.event = owing args.output pointsContract) {post : Post TaskFn Line G Unit}
    (hpost : ∀ thread' block, (∃ k, Room k thread') → post () thread' K
      { h with event := fun _ => none, block := block } n) :
    Meets (spec atoi argv) (piWorkerTask runtime task args) thread K h (n + 4 + iters + 1) post := by
  obtain ⟨block, event, slot, template, duty⟩ := h
  obtain rfl : event = _ := howes
  apply meets_bind
  apply meets_noise rfl
  apply meets_bind
  apply meets_countPoints iters (by decide)
  intro total htotal
  have hle : total.toNat ≤ iters := by
    have hzero : (0 : BitVec 64).toNat = 0 := rfl
    omega
  apply meets_bind
  apply meets_createDatablock hroom hk
  intro d v thread' hd hnone hroom' hlisted
  have hreal : IsReal d := not_not.mp hd
  apply meets_bind
  apply meets_writeWord (runtime.address_ne task d) (by simp)
  apply meets_bind
  refine meets_releaseDatablock hroom' hlisted (by exact Function.update_self _ _ _) ?_
  intro thread'' hroom''
  refine meets_satisfy hreal.1 (by exact owing_self _ _) (by exact Function.update_self _ _ _) (by exact .inr rfl)
    (by exact ⟨total, rfl, hle⟩) ?_
  rw [owing_update]
  exact hpost thread'' _ ⟨_, hroom''⟩

theorem meets_piAccumulatorTask {varArgs : DatablockList G} {datablocks : List (Datablock G)}
    (hlength : datablocks.length = (count atoi argv).toNat) (hcount : varArgs.count = datablocks.length)
    (hindex : ∀ j d, datablocks[j]? = some d → ∀ thread : Thread G, (index varArgs j).run thread = .ok d thread)
    (hptr : ∀ d ∈ datablocks, d.dataPtr ≠ 0) (hnodup : (datablocks.map (fun d => d.handle.guid)).Nodup)
    (hheld : ∀ d ∈ datablocks, ∃ v c, h.block d.handle.guid = some (.word v, c) ∧ v.toNat ≤ iters)
    (hduty : h.duty = some [.mainTaskStarted, countLine atoi argv]) {post : Post TaskFn Line G Unit} :
    Meets (spec atoi argv) (piAccumulatorTask varArgs) thread K h
      (n + 3 + 2 * (count atoi argv).toNat + 1) post := by
  have hsize : iters * (count atoi argv).toNat < 2 ^ 64 := by
    have hlt := (count atoi argv).isLt
    rw [iters]
    omega
  have hzero : (0 : BitVec 64).toNat = 0 := rfl
  rw [← hlength] at hsize
  apply meets_bind
  apply meets_print rfl hduty
  apply meets_bind
  rw [hcount, ← hlength]
  apply meets_sumPoints (by simpa only [Nat.zero_add] using hindex) hptr hnodup (by exact hheld)
    (by rw [hzero]; omega)
  intro block sum hsum
  rw [hzero, Nat.zero_add] at hsum
  have hcounted : (0 : BitVec 64) + BitVec.ofNat 64 datablocks.length = BitVec.ofNat 64 datablocks.length :=
    BitVec.zero_add _
  rw [hcounted]
  apply meets_bind
  apply meets_print rfl rfl
  apply meets_bind
  apply meets_print rfl rfl
  apply meets_shutdown rfl
  exact ⟨sum, hlength ▸ hsum, hlength ▸ rfl⟩

def openFrom (accumTask : G) (i stop : Nat) : G × Nat → Option (Contract (signature TaskFn Line G)) :=
  fun k => if k.1 = accumTask ∧ i ≤ k.2 ∧ k.2 < stop then some pointsContract else none

theorem openFrom_first {accumTask : G} {i stop : Nat} (hi : i < stop) :
    openFrom accumTask i stop (accumTask, i) = some pointsContract := if_pos ⟨rfl, le_rfl, hi⟩

theorem openFrom_update (accumTask : G) (i stop : Nat) :
    Function.update (openFrom accumTask i stop) (accumTask, i) none = openFrom accumTask (i + 1) stop := by
  funext ⟨u, j⟩
  by_cases hu : u = accumTask
  · subst hu
    by_cases hj : j = i
    · subst hj
      simp [openFrom]
    · have hle : i ≤ j ↔ i + 1 ≤ j := by omega
      simp [openFrom, hj, hle]
  · simp [openFrom, hu]

theorem openFrom_end (accumTask : G) (stop : Nat) : openFrom accumTask stop stop = fun _ => none := by
  funext k
  apply if_neg
  rintro ⟨-, hle, hlt⟩
  omega

theorem openFrom_start (accumTask : G) (n : Nat) :
    (fun k : G × Nat => if k.1 = accumTask then (List.replicate n pointsContract)[k.2]? else none) =
      openFrom accumTask 0 n := by
  funext ⟨u, j⟩
  by_cases hu : u = accumTask
  · by_cases hj : j < n
    · simp [openFrom, hu, hj]
    · simp [openFrom, hu, hj]
  · simp [openFrom, hu]

theorem meets_launchWorkers {workerTaskTemplate accumTask : G} (remaining : Nat) {i stop : Nat}
    (hstop : i + remaining = stop) (hsize : stop < 2 ^ 32)
    (htemplate : h.template workerTaskTemplate = some (.internalFn .piWorkerTask))
    (hslot : h.slot = openFrom accumTask i stop) (hevent : h.event = fun _ => none)
    {post : Post TaskFn Line G Unit} (hpost : post () thread K { h with slot := fun _ => none } n) :
    Meets (spec atoi argv) (launchWorkers runtime task workerTaskTemplate accumTask remaining i) thread K h
      (n + (3 + workerSteps) * remaining) post := by
  obtain ⟨block, event, slot, template, duty⟩ := h
  obtain rfl : event = _ := hevent
  obtain rfl : slot = _ := hslot
  induction remaining generalizing i with
  | zero =>
      obtain rfl : i = stop := hstop
      rw [openFrom_end]
      exact meets_pure hpost
  | succ remaining ih =>
      have hindex : (BitVec.ofNat 32 i).toNat = i := by
        rw [BitVec.toNat_ofNat]
        omega
      have hsteps : n + (3 + workerSteps) * (remaining + 1) =
          n + (3 + workerSteps) * remaining + workerSteps + 1 + 1 + 1 := by
        rw [Nat.mul_succ]
        omega
      rw [hsteps]
      apply meets_bind
      apply meets_createOnceEvent pointsContract
      intro out hout hnew
      apply meets_bind
      have hzero : (info .piAccumulatorTask).depCount + (BitVec.ofNat 32 i).toNat = i := by
        rw [hindex]
        exact Nat.zero_add i
      refine meets_dependOnWithinList ?_ ?_ (not_not.mp hout) (Function.update_self _ _ _) ?_
      · rw [hzero]
        omega
      · rw [hzero]
        exact openFrom_first (by omega)
      rw [hzero, Function.update_idem, openFrom_update]
      apply meets_bind
      refine meets_createOwing rfl (by decide) rfl (.inr htemplate) nofun .nil .nil (owing_passed _ _)
        (arm_owing _ _) nofun (.piWorkerTask ⟨runtime.padding task, BitVec.ofNat 32 i, out⟩) ?_
      intro worker _
      exact ih (by omega) htemplate hpost

theorem meets_mainCount {args : Datablock G} {released : Bool}
    (hargs : h.block args.handle.guid = some (.mainTaskArgs argv, released))
    (hduty : h.duty = some [.mainTaskStarted]) {post : Post TaskFn Line G (BitVec 32)}
    (hpost : post (count atoi argv) thread K { h with duty := some [.mainTaskStarted, countLine atoi argv] } n) :
    Meets (spec atoi argv) (mainCount atoi args) thread K h (n + mainCountSteps argv) post := by
  obtain ⟨block, event, slot, template, duty⟩ := h
  obtain rfl : duty = _ := hduty
  rw [mainCountSteps]
  by_cases hlen : argv.length < 2
  · rw [countLine, count, if_pos hlen, if_pos hlen] at hpost
    rw [if_pos hlen]
    apply meets_bind
    apply meets_mainTaskArgs hargs
    rw [if_pos hlen]
    apply meets_bind
    apply meets_print rfl (l := [.mainTaskStarted]) rfl
    exact hpost
  · rw [countLine, count, if_neg hlen, if_neg hlen] at hpost
    rw [if_neg hlen]
    apply meets_bind
    apply meets_mainTaskArgs hargs
    rw [if_neg hlen]
    apply meets_bind
    apply meets_mainTaskArgs hargs
    apply meets_bind
    apply meets_print rfl (l := [.mainTaskStarted]) rfl
    exact hpost

theorem meets_main {args : Datablock G} {released : Bool} (hcount : (count atoi argv).toNat ≤ maxDbAcquireCount)
    (hargs : h.block args.handle.guid = some (.mainTaskArgs argv, released)) (hduty : h.duty = some [])
    (hevent : h.event = fun _ => none) (hslot : h.slot = fun _ => none) {m : Nat}
    (hm : m + 1 = mainSteps atoi argv) {post : Post TaskFn Line G Unit}
    (hpost : ∀ template, post () thread K { h with template := template, duty := none } 1) :
    Meets (spec atoi argv) (main runtime task atoi args) thread K h m post := by
  obtain ⟨block, event, slot, template, duty⟩ := h
  obtain rfl : event = _ := hevent
  obtain rfl : slot = _ := hslot
  obtain rfl : duty = _ := hduty
  have hsmall : (count atoi argv).toNat < 2 ^ 31 := hcount.trans_lt (by decide)
  have hint : (count atoi argv).toInt.toNat = (count atoi argv).toNat := by
    rw [BitVec.toInt_eq_toNat_cond, if_pos (by omega), Int.toNat_natCast]
  obtain rfl : m = 1 + 1 + (3 + workerSteps) * (count atoi argv).toNat + 1 +
      accumulatorSteps (count atoi argv).toNat + 1 + 1 + 1 + mainCountSteps argv + 1 := by
    rw [mainSteps] at hm
    omega
  apply meets_bind
  apply meets_print rfl (l := []) rfl
  apply meets_bind
  apply meets_mainCount (by exact hargs) rfl
  apply meets_bind
  apply meets_createTemplate
  intro workerTaskTemplate hworker hworkerKnown hworkerNew
  apply meets_bind
  apply meets_createTemplate
  intro accumTaskTemplate haccum haccumKnown haccumNew
  have hne : workerTaskTemplate ≠ accumTaskTemplate := by
    rintro rfl
    simp at haccumNew
  apply meets_bind
  refine meets_createTaskPartial
    ⟨fun _ => none, List.replicate (count atoi argv).toNat pointsContract,
      some [.mainTaskStarted, countLine atoi argv], accumulatorSteps (count atoi argv).toNat⟩
    (.inr rfl) rfl (.inr (Function.update_self _ _ _)) ?_ ?_ rfl (.inr rfl) .piAccumulatorTask ?_
  · rw [List.length_replicate]
    exact (Nat.zero_add _).symm
  · exact Nat.lt_of_le_of_lt (Nat.zero_add _).le (count atoi argv).isLt
  intro accumTask _
  simp only [openFrom_start]
  apply meets_bind
  apply meets_destroyTemplate (by simp)
  apply meets_bind
  rw [hint]
  apply meets_launchWorkers _ (Nat.zero_add _) (count atoi argv).isLt (by simp [hne]) rfl rfl
  apply meets_destroyTemplate (by simp [hne])
  exact hpost _

end Loops

section Runs

variable {G : Type} [WordGuid G] {runtime : Runtime G} {atoi : String → BitVec 32} {argv : List String} {task : G}
  {K : Known (signature TaskFn Line G)} {arrived : G → Option (Content × Bool)}

theorem safe_mainEdt {m : Nat} (hm : m + 1 = mainSteps atoi argv)
    (hcount : (count atoi argv).toNat ≤ maxDbAcquireCount)
    {d : G} {released : Bool} (hargs : arrived d = some (.mainTaskArgs argv, released)) :
    Safe (spec atoi argv) (body runtime (program atoi) task .mainEdt [] [some d]) K
      ⟨arrived, fun _ => none, fun _ => none, fun _ => none, some []⟩ m := by
  apply safe_body
  apply meets_mainEdt
  intro thread hroom
  apply meets_main hcount hargs rfl rfl rfl hm
  intro template
  exact ⟨⟨1, hroom⟩, Nat.one_pos, fun _ => rfl, fun _ => rfl, rfl⟩

theorem safe_piWorkerTask {args : WorkerArgs G} :
    Safe (spec atoi argv) (body runtime (program atoi) task (.internalFn .piWorkerTask) args.words []) K
      ⟨arrived, owing args.output pointsContract, fun _ => none, fun _ => none, none⟩ (1 + 4 + iters + 1) := by
  apply safe_body
  apply meets_internalFn ⟨rfl, le_rfl, fun _ => rfl⟩ (by simp [program, info]) (by simp)
  intro thread hroom
  change Meets _ (userFn runtime task .piWorkerTask [.param args.words]) _ _ _ _ _
  rw [userFn_piWorkerTask]
  apply meets_bind
  apply meets_piWorkerTask hroom (by simp [maxDbAcquireCount]) rfl
  intro thread' block hroom'
  exact ⟨hroom', Nat.one_pos, fun _ => rfl, fun _ => rfl, rfl⟩

theorem safe_piAccumulatorTask (hcount : (count atoi argv).toNat ≤ maxDbAcquireCount) {ds : List G}
    (hlength : ds.length = (count atoi argv).toNat) (hnodup : ds.Nodup)
    (hds : ∀ d ∈ ds, ∃ v c, arrived d = some (.word v, c) ∧ v.toNat ≤ iters) :
    Safe (spec atoi argv) (body runtime (program atoi) task (.internalFn .piAccumulatorTask) [] (ds.map some)) K
      ⟨arrived, fun _ => none, fun _ => none, fun _ => none, some [.mainTaskStarted, countLine atoi argv]⟩
      (3 + 2 * (count atoi argv).toNat + 1) := by
  have hdeps : ((ds.map some).map (dep runtime task)).length = (count atoi argv).toNat := by
    rw [List.length_map, List.length_map, hlength]
  apply safe_body
  have hfits : Fits (info .piAccumulatorTask) [] ((ds.map some).map (dep runtime task)) :=
    ⟨rfl, Nat.zero_le _, fun hv => absurd (hv : true = false) (by decide)⟩
  apply meets_internalFn hfits (by simp [info]) (hdeps.trans_le hcount)
  intro thread hroom
  change Meets _ (piAccumulatorTask (received 0 ((ds.map some).map (dep runtime task))) >>= fun _ => pure nullGuid)
    _ _ _ _ _
  apply meets_bind
  refine meets_piAccumulatorTask ((List.length_map datablockOf).trans hdeps) (List.length_map datablockOf).symm
    (fun j d hd thread => index_received hd thread) ?_ ?_ ?_ rfl
  · intro d hd
    simp only [List.map_map, List.mem_map] at hd
    obtain ⟨g, -, rfl⟩ := hd
    exact runtime.address_ne task g
  · simpa [List.map_map, Function.comp_def, datablockOf, dep] using hnodup
  · intro d hd
    simp only [List.map_map, List.mem_map] at hd
    obtain ⟨g, hg, rfl⟩ := hd
    exact hds g hg

variable (runtime) in
theorem verified (hcount : (count atoi argv).toNat ≤ maxDbAcquireCount) :
    Verified (body runtime (program atoi)) (spec atoi argv) := by
  intro K code params brief hpre t payloads arrived harrives
  cases hpre with
  | mainEdt =>
      obtain ⟨d, released, rfl, hd⟩ := arrives_args harrives
      exact ⟨mainSteps atoi argv - 1, by simp only [mainSteps]; omega,
        safe_mainEdt (by rw [mainSteps]; omega) hcount hd⟩
  | piWorkerTask args =>
      obtain rfl : payloads = [] := List.length_eq_zero_iff.mp harrives.length_eq
      exact ⟨1 + 4 + iters + 1, by simp only [workerSteps]; omega, safe_piWorkerTask⟩
  | piAccumulatorTask =>
      obtain ⟨ds, rfl, hnodup, hds⟩ := harrives.blocks (by simp [pointsContract])
      have hlength := hds.length_eq
      rw [List.length_replicate] at hlength
      have hvalues : ∀ d ∈ ds, ∃ v c, arrived d = some (.word v, c) ∧ v.toNat ≤ iters := by
        intro d hd
        obtain ⟨j, hj, rfl⟩ := List.getElem_of_mem hd
        obtain ⟨-, v, c, hv, -, htotal⟩ := hds.get hj (by rw [List.length_replicate, ← hlength]; exact hj)
        rw [List.get_eq_getElem, List.getElem_replicate] at htotal
        obtain ⟨total, htotal, hle⟩ := htotal
        cases htotal
        exact ⟨total, c, hv, hle⟩
      exact ⟨3 + 2 * (count atoi argv).toNat + 1, by simp only [accumulatorSteps]; omega,
        safe_piAccumulatorTask hcount hlength hnodup hvalues⟩

variable (runtime) {host : Host (signature TaskFn Line G)} {main args : G} {used : Set G} {state : host.State}

end Runs

end Ocxxr.MonteCarloPi

import Ocxxr.Fibonacci
import Ocxxr.TaskProgramRules

namespace Ocxxr.Fibonacci

open TaskGraph TaskContracts TaskAdequacy Ocr Bookkeeping TaskState AcquiredData TaskLaunch
  TaskLaunchSpec ArgumentOrder TaskPrograms TaskProgramRules

section Values

/-- A Fibonacci number, as far as 64 bits hold it. -/
def fibValue (n : Nat) : BitVec 64 := BitVec.ofNat 64 (Nat.fib n)

theorem fibValue_small {n : BitVec 32} (h : n < 2) : fibValue n.toNat = n.setWidth 64 := by
  have hn : n.toNat < 2 := h
  apply BitVec.eq_of_toNat_eq
  rw [fibValue, BitVec.toNat_ofNat, BitVec.toNat_setWidth]
  rcases Nat.lt_succ_iff_lt_or_eq.mp hn with hn | hn
  · rw [Nat.lt_one_iff.mp hn]
    rfl
  · rw [hn]
    rfl

theorem fibValue_add {n : Nat} (h : 2 ≤ n) : fibValue (n - 1) + fibValue (n - 2) = fibValue n := by
  obtain ⟨k, rfl⟩ := Nat.exists_eq_add_of_le' h
  have hsum : Nat.fib (k + 2) = Nat.fib (k + 1) + Nat.fib k := by
    rw [Nat.fib_add_two, Nat.add_comm]
  rw [fibValue, fibValue, fibValue, ← BitVec.ofNat_add]
  exact congrArg (BitVec.ofNat 64) hsum.symm

theorem sequentialFib_eq (n : BitVec 32) : sequentialFib n = fibValue n.toNat := by
  fun_induction sequentialFib n with
  | case1 n h => exact (fibValue_small h).symm
  | case2 n h ihone ihtwo =>
      obtain ⟨hn, hone, htwo⟩ := toNat_pred h
      rw [ihone, ihtwo, hone, htwo, fibValue_add hn]

def steps : Nat → Nat
  | 0 => 5
  | 1 => 5
  | n + 2 => 14 + steps (n + 1) + steps n

def continuationSteps : Nat := 7

def checkSteps : Nat := 5

theorem steps_small {n : Nat} (h : n < 2) : steps n = 5 := by
  rcases Nat.lt_succ_iff_lt_or_eq.mp h with h | h
  · rw [Nat.lt_one_iff.mp h, steps]
  · rw [h, steps]

theorem steps_add {n : Nat} (h : 2 ≤ n) : steps n = 14 + steps (n - 1) + steps (n - 2) := by
  obtain ⟨k, rfl⟩ := Nat.exists_eq_add_of_le' h
  rfl

theorem steps_eq (n : Nat) : steps n + 14 = 19 * Nat.fib (n + 1) := by
  fun_induction steps n with
  | case1 => rfl
  | case2 => rfl
  | case3 n ihone ihtwo =>
      have hsum : Nat.fib (n + 1 + 1 + 1) = Nat.fib (n + 1) + Nat.fib (n + 1 + 1) := Nat.fib_add_two
      change _ = 19 * Nat.fib (n + 1 + 1 + 1)
      omega

end Values

section Contracts

variable {G : Type} [WordGuid G] (atoi : String → BitVec 32) (argv : List String)

def resultContract (n : Nat) : Contract (signature TaskFn String G) :=
  ⟨fun payload => payload = some (.word (fibValue n)), n⟩

def chosen : BitVec 32 := if argv.length ≠ 2 then 10 else atoi (argv.getD 1 "")

def preamble : List String := if argv.length ≠ 2 then [usageLine 10] else []

def report : List String :=
  preamble argv ++ [resultLine (chosen atoi argv) (fibValue (chosen atoi argv).toNat)]

/-- The tasks of the program, and what each of them is created for. -/
inductive Pre (K : Known (signature TaskFn String G)) :
    EntryFn TaskFn → List (BitVec 64) → Brief (signature TaskFn String G) → Prop
  | mainEdt : Pre K .mainEdt [] ⟨fun _ => none, [argsContract argv], some [],
    11 + checkSteps + steps (chosen atoi argv).toNat⟩
  | checkResult (padding : BitVec 32) : Pre K (.internalFn .checkResult) [packed padding (chosen atoi argv)]
      ⟨fun _ => none, [resultContract (chosen atoi argv).toNat], some (preamble argv), checkSteps⟩
  | fibContinuation (params : FibContinuationParams G) (hn : 2 ≤ params.n.toNat) :
      Pre K (.internalFn .fibContinuation) params.words
        ⟨owing params.output (resultContract params.n.toNat),
          [resultContract (params.n.toNat - 1), resultContract (params.n.toNat - 2)], none, continuationSteps⟩
  | fib (params : FibParams G) (htask : K params.taskTemplate = some (.internalFn .fib))
      (hcontinuation : K params.continuationTemplate = some (.internalFn .fibContinuation)) :
      Pre K (.internalFn .fib) params.words
        ⟨owing params.output (resultContract params.n.toNat), [], none, steps params.n.toNat⟩

/-- The datablocks of the program pass from task to task without a release. -/
def spec : Spec (signature TaskFn String G) where
  Pre := Pre atoi argv
  noise := fun _ => false
  Done := fun printed => printed = report atoi argv
  reserved := fun g => ¬ IsReal g
  shared := True

theorem spec_monotone : (spec (G := G) atoi argv).Monotone where
  pre := by
    intro K K' code params brief hK hpre
    cases hpre with
    | mainEdt => exact .mainEdt
    | checkResult padding => exact .checkResult padding
    | fibContinuation params hn => exact .fibContinuation params hn
    | fib params htask hcontinuation => exact .fib params (hK _ _ htask) (hK _ _ hcontinuation)

theorem report_spec (printed : List String) : (spec (G := G) atoi argv).report printed = printed := by
  simp [Spec.report, spec]

end Contracts

section Tasks

variable {G : Type} [WordGuid G] {atoi : String → BitVec 32} {argv : List String} {runtime : Runtime G} {task : G}
  {K : Known (signature TaskFn String G)} {h : Holding (signature TaskFn String G)} {m : Nat} {thread : Thread G}

theorem meets_checkResult {n : BitVec 32} {result : Datablock G} {released : Bool} (hptr : result.dataPtr ≠ 0)
    (hheld : h.block result.handle.guid = some (.word (fibValue n.toNat), released)) {l : List String}
    (hduty : h.duty = some l) (hreport : l ++ [resultLine n (fibValue n.toNat)] = report atoi argv)
    {post : Post TaskFn String G Unit} :
    Meets (spec atoi argv) (checkResult n result) thread K h (m + 4) post := by
  apply meets_bind
  apply meets_readWord hptr hheld
  apply meets_bind
  apply meets_print rfl hduty
  apply meets_bind
  apply meets_readWord hptr (by exact hheld)
  rw [if_pos (sequentialFib_eq n).symm]
  exact meets_shutdown rfl hreport

theorem meets_fibContinuation {params : FibContinuationParams G} {lhs rhs : Datablock G} {n : Nat} (hn : 2 ≤ n)
    (hlhs : lhs.dataPtr ≠ 0) (hrhs : rhs.dataPtr ≠ 0) (hreal : lhs.handle.guid ≠ nullGuid)
    (hne : lhs.handle.guid ≠ rhs.handle.guid) {c c' : Bool}
    (hleft : h.block lhs.handle.guid = some (.word (fibValue (n - 1)), c))
    (hright : h.block rhs.handle.guid = some (.word (fibValue (n - 2)), c'))
    (howes : h.event params.output = some (resultContract n, true)) {post : Post TaskFn String G Unit}
    (hpost : ∀ block, post () thread K
      { h with event := Function.update h.event params.output none, block := block } m) :
    Meets (spec atoi argv) (fibContinuation params lhs rhs) thread K h (m + 5) post := by
  apply meets_bind
  apply meets_readWord hrhs hright
  apply meets_bind
  apply meets_readWord hlhs hleft
  apply meets_bind
  apply meets_writeWord hlhs (by rw [hleft]; rfl)
  apply meets_bind
  apply meets_destroyHandle (by simp [Function.update_of_ne hne.symm, hright])
  have hsum : Function.update (Function.update h.block lhs.handle.guid
      (some (.word (fibValue (n - 1) + fibValue (n - 2)), false))) rhs.handle.guid none lhs.handle.guid =
        some (.word (fibValue n), false) := by
    rw [Function.update_of_ne hne, Function.update_self, fibValue_add hn]
  exact meets_satisfy hreal (by exact howes) (by exact hsum) (by exact .inl trivial) (by exact rfl) (hpost _)

section Fork

variable {output lhsOutput rhsOutput : G} {κ κlhs κrhs : Contract (signature TaskFn String G)}
  (hlhs : lhsOutput ≠ output) (hrhs : rhsOutput ≠ output) (hne : rhsOutput ≠ lhsOutput)

def forked (output lhsOutput rhsOutput : G) (κ κlhs κrhs : Contract (signature TaskFn String G)) :
    G → Option (Contract (signature TaskFn String G) × Bool) :=
  Function.update (Function.update (owing output κ) lhsOutput (some (κlhs, false))) rhsOutput (some (κrhs, false))

include hne in
theorem forked_lhs : forked output lhsOutput rhsOutput κ κlhs κrhs lhsOutput = some (κlhs, false) := by
  rw [forked, Function.update_of_ne hne.symm, Function.update_self]

theorem forked_rhs : forked output lhsOutput rhsOutput κ κlhs κrhs rhsOutput = some (κrhs, false) := by
  rw [forked, Function.update_self]

include hlhs hrhs

theorem arm_forked_output : arm (S := signature TaskFn String G) ([lhsOutput, rhsOutput].map Source.object)
    (forked output lhsOutput rhsOutput κ κlhs κrhs) output = some (κ, true) := by
  rw [arm, forked, Function.update_of_ne hrhs.symm, Function.update_of_ne hlhs.symm, owing, Function.update_self]
  rfl

include hne in
omit hlhs hrhs in
theorem passed_lhs : Function.update (arm (S := signature TaskFn String G) ([].map Source.object)
    (Function.update (owing lhsOutput κlhs) rhsOutput (some (κrhs, true)))) lhsOutput none =
      owing rhsOutput κrhs := by
  rw [List.map_nil, arm_nil, Function.update_comm hne, owing_update]
  rfl

include hne

theorem arm_forked : Function.update (arm (S := signature TaskFn String G)
    ([lhsOutput, rhsOutput].map Source.object)
    (forked output lhsOutput rhsOutput κ κlhs κrhs)) output none =
      Function.update (owing lhsOutput κlhs) rhsOutput (some (κrhs, true)) := by
  funext e
  by_cases hout : e = output
  · subst hout
    simp [owing, hlhs.symm, hrhs.symm]
  · by_cases hright : e = rhsOutput
    · subst hright
      simp [arm, forked, hout, named]
    · by_cases hleft : e = lhsOutput
      · subst hleft
        simp [arm, forked, owing, hout, hright, named]
      · simp [arm, forked, owing, hout, hright, hleft]

end Fork

theorem fib_pre {params : FibParams G} (htask : K params.taskTemplate = some (.internalFn .fib))
    (hcontinuation : K params.continuationTemplate = some (.internalFn .fibContinuation)) {n' : BitVec 32}
    {n : Nat} (hn : n'.toNat = n) (output : G) :
    (spec atoi argv).Pre K (.internalFn .fib) (FibParams.words { params with n := n', output := output })
      ⟨owing output (resultContract n), [], none, steps n⟩ := by
  subst hn
  exact .fib { params with n := n', output := output } htask hcontinuation

theorem meets_fork {params : FibParams G} {lhsOutput rhsOutput : G} (hn : ¬ params.n < 2)
    (htask : K params.taskTemplate = some (.internalFn .fib))
    (hcontinuation : K params.continuationTemplate = some (.internalFn .fibContinuation))
    (hlhs : lhsOutput ≠ params.output) (hrhs : rhsOutput ≠ params.output) (hne : rhsOutput ≠ lhsOutput)
    (hrealLhs : IsReal lhsOutput) (hrealRhs : IsReal rhsOutput)
    (hevents : h.event = forked params.output lhsOutput rhsOutput (resultContract params.n.toNat)
      (resultContract (params.n.toNat - 1)) (resultContract (params.n.toNat - 2)))
    {post : Post TaskFn String G Unit} (hpost : post () thread K { h with event := fun _ => none } m) :
    Meets (spec atoi argv) (do
      let continuationParams : FibContinuationParams G := ⟨runtime.padding task, params.n, params.output⟩
      let _ ← createTask (info .fibContinuation) params.continuationTemplate (some continuationParams.words)
        [lhsOutput, rhsOutput]
      let params := { params with n := params.n - 1, output := lhsOutput }
      let _ ← createTask (info .fib) params.taskTemplate (some params.words) []
      let params := { params with n := params.n - 1, output := rhsOutput }
      let _ ← createTask (info .fib) params.taskTemplate (some params.words) []) thread K h
      (m + steps (params.n.toNat - 2) + 1 + steps (params.n.toNat - 1) + 1 + continuationSteps + 1) post := by
  obtain ⟨hle, hone, htwo⟩ := toNat_pred hn
  obtain ⟨block, event, slot, template, duty⟩ := h
  obtain rfl : event = _ := hevents
  have hcontinuationPre : (spec atoi argv).Pre K (.internalFn .fibContinuation)
      (FibContinuationParams.words ⟨runtime.padding task, params.n, params.output⟩)
      ⟨owing params.output (resultContract params.n.toNat),
        [resultContract (params.n.toNat - 1), resultContract (params.n.toNat - 2)], none, continuationSteps⟩ :=
    .fibContinuation ⟨runtime.padding task, params.n, params.output⟩ hle
  have htwo' : (params.n - 1 - 1).toNat = params.n.toNat - 2 := by
    rw [← htwo]
    congr 1
    bv_omega
  apply meets_bind
  refine meets_createOwing rfl (by decide) rfl (.inl hcontinuation) ?_ ?_ ?_ (arm_forked hlhs hrhs hne) ?_ ?_
    hcontinuationPre ?_
  · intro e he
    rcases List.mem_pair.mp he with rfl | rfl
    · exact hrealLhs
    · exact hrealRhs
  · simpa using hne.symm
  · exact .cons (forked_lhs hne) (.cons forked_rhs .nil)
  · exact arm_forked_output hlhs hrhs
  · intro κ hκ
    rcases List.mem_pair.mp hκ with rfl | rfl
    · exact Nat.sub_lt_of_pos_le Nat.one_pos (by omega)
    · exact Nat.sub_lt_of_pos_le Nat.two_pos hle
  intro continuation _
  apply meets_bind
  refine meets_createOwing rfl (by decide) rfl (.inl htask) nofun .nil .nil (passed_lhs hne) ?_ nofun
    (fib_pre htask hcontinuation hone lhsOutput) ?_
  · rw [List.map_nil, arm_nil]
    exact (Function.update_of_ne hne.symm _ _).trans (Function.update_self _ _ _)
  intro left _
  apply meets_bind
  refine meets_createOwing rfl (by decide) rfl (.inl htask) nofun .nil .nil (owing_passed _ _)
    (arm_owing _ _) nofun (fib_pre htask hcontinuation htwo' rhsOutput) ?_
  intro right _
  exact hpost

theorem meets_fib {params : FibParams G} {k : Nat} (hroom : Room k thread) (hk : k < maxDbAcquireCount)
    (htask : K params.taskTemplate = some (.internalFn .fib))
    (hcontinuation : K params.continuationTemplate = some (.internalFn .fibContinuation))
    (howes : h.event = owing params.output (resultContract params.n.toNat))
    (hm : m + 1 = steps params.n.toNat) {post : Post TaskFn String G Unit}
    (hpost : ∀ thread' block, (∃ k, Room k thread') → post () thread' K
      { h with event := fun _ => none, block := block } 1) :
    Meets (spec atoi argv) (fib runtime task params) thread K h m post := by
  obtain ⟨block, event, slot, template, duty⟩ := h
  obtain rfl : event = _ := howes
  rw [fib]
  split
  next hsmall =>
    obtain rfl : m = 1 + 1 + 1 + 1 := by
      rw [steps_small hsmall] at hm
      exact Nat.succ_injective hm
    apply meets_bind
    apply meets_createDatablock hroom hk
    intro d v thread' hd hnone hroom' _
    have hreal : IsReal d := not_not.mp hd
    apply meets_bind
    apply meets_writeWord (runtime.address_ne task d) (by simp)
    refine meets_satisfy hreal.1 (by exact owing_self _ _) (by exact Function.update_self _ _ _)
      (by exact .inl trivial)
      (by exact congrArg (fun v => some (Content.word v)) (fibValue_small hsmall).symm) ?_
    rw [owing_update]
    exact hpost thread' _ ⟨_, hroom'⟩
  next hlarge =>
    obtain rfl : m = 1 + steps (params.n.toNat - 2) + 1 + steps (params.n.toNat - 1) + 1 +
        continuationSteps + 1 + 1 + 1 := by
      rw [steps_add (toNat_pred hlarge).1] at hm
      rw [continuationSteps]
      omega
    apply meets_bind
    apply meets_createOnceEvent (resultContract (params.n.toNat - 1))
    intro lhsOutput hlhs hlhsNew
    apply meets_bind
    apply meets_createOnceEvent (resultContract (params.n.toNat - 2))
    intro rhsOutput hrhs hrhsNew
    have hne : rhsOutput ≠ lhsOutput := by
      rintro rfl
      simp at hrhsNew
    simp only [Function.update_of_ne hne] at hrhsNew
    exact meets_fork hlarge htask hcontinuation (ne_of_owing hlhsNew) (ne_of_owing hrhsNew) hne (not_not.mp hlhs)
      (not_not.mp hrhs) rfl (hpost thread _ ⟨k, hroom⟩)

theorem arm_root {rootOutput : G} (κ : Contract (signature TaskFn String G)) :
    arm ([rootOutput].map Source.object) (Function.update (fun _ => none) rootOutput (some (κ, false))) =
      owing rootOutput κ := by
  funext e
  by_cases he : e = rootOutput
  · subst he
    simp [arm, named]
  · simp [arm, owing, he]

theorem meets_mainNumber {args : Datablock G} {released : Bool}
    (hargs : h.block args.handle.guid = some (.mainTaskArgs argv, released)) (hduty : h.duty = some [])
    {post : Post TaskFn String G (BitVec 32)}
    (hpost : post (chosen atoi argv) thread K { h with duty := some (preamble argv) } m) :
    Meets (spec atoi argv) (mainNumber atoi args) thread K h (m + 2) post := by
  obtain ⟨block, event, slot, template, duty⟩ := h
  obtain rfl : duty = _ := hduty
  apply meets_bind
  apply meets_mainTaskArgs hargs
  by_cases hlen : argv.length ≠ 2
  · rw [chosen, preamble, if_pos hlen, if_pos hlen] at hpost
    rw [if_pos hlen]
    apply meets_bind
    apply meets_print (l := []) rfl rfl
    exact hpost
  · rw [chosen, preamble, if_neg hlen, if_neg hlen] at hpost
    rw [if_neg hlen]
    apply meets_bind
    exact meets_mainTaskArgs hargs hpost

theorem meets_main {args : Datablock G} {released : Bool}
    (hargs : h.block args.handle.guid = some (.mainTaskArgs argv, released)) (hduty : h.duty = some [])
    (hevents : h.event = fun _ => none) {post : Post TaskFn String G Unit}
    (hpost : ∀ K block template, post () thread K
      { h with event := fun _ => none, block := block, template := template, duty := none } 1) :
    Meets (spec atoi argv) (main runtime task atoi args) thread K h
      (10 + checkSteps + steps (chosen atoi argv).toNat) post := by
  obtain ⟨block, event, slot, template, duty⟩ := h
  obtain rfl : event = _ := hevents
  obtain rfl : duty = _ := hduty
  have hcount : 10 + checkSteps + steps (chosen atoi argv).toNat =
      1 + steps (chosen atoi argv).toNat + 1 + 1 + checkSteps + 1 + 1 + 1 + 1 + 1 + 1 + 1 := by
    omega
  rw [hcount, main]
  apply meets_bind
  apply meets_mainNumber hargs rfl
  apply meets_bind
  apply meets_createKnown
  intro fibTemplate hfib hfibNew
  apply meets_bind
  apply meets_createKnown
  intro continuationTemplate hcontinuation hcontinuationNew
  apply meets_bind
  apply meets_createOnceEvent (resultContract (chosen atoi argv).toNat)
  intro rootOutput hroot hrootNew
  apply meets_bind
  apply meets_createTemplate
  intro resultTemplate hresult hresultKnown hresultNew
  have hne : fibTemplate ≠ continuationTemplate := by
    rintro rfl
    simp at hcontinuationNew
  apply meets_bind
  refine meets_createTask
    ⟨fun _ => none, [resultContract (chosen atoi argv).toNat], some (preamble argv), checkSteps⟩
      (fun _ => false) rfl
    (by decide) rfl (.inr (Function.update_self _ _ _)) ?_ (List.nodup_singleton _)
    (.cons (Function.update_self _ _ _) .nil) (fun _ => rfl)
    (fun e => (congrFun (arm_root _) e).symm) nofun (.inr rfl) (.checkResult _) ?_
  · intro e he
    rw [List.mem_singleton.mp he]
    exact not_not.mp hroot
  intro check _
  apply meets_bind
  apply meets_destroyTemplate (by simp)
  apply meets_bind
  refine meets_createOwing rfl (by decide) rfl (.inl ?_) nofun .nil .nil (owing_passed _ _) (arm_owing _ _) nofun
    (.fib ⟨runtime.padding task, chosen atoi argv, rootOutput, fibTemplate, continuationTemplate⟩ ?_ ?_) ?_
  · simp [hne]
  · simp [hne]
  · simp
  intro root _
  exact hpost _ _ _

end Tasks

section Runs

variable {G : Type} [WordGuid G] {runtime : Runtime G} {atoi : String → BitVec 32} {argv : List String} {task : G}
  {K : Known (signature TaskFn String G)} {arrived : G → Option (Content × Bool)}

theorem safe_mainEdt {d : G} {released : Bool} (hargs : arrived d = some (.mainTaskArgs argv, released)) :
    Safe (spec atoi argv) (body runtime (program atoi) task .mainEdt [] [some d]) K
      ⟨arrived, fun _ => none, fun _ => none, fun _ => none, some []⟩
      (10 + checkSteps + steps (chosen atoi argv).toNat) := by
  apply safe_body
  apply meets_mainEdt
  intro thread hroom
  apply meets_main hargs rfl rfl
  intro K block template
  exact ⟨⟨1, hroom⟩, Nat.one_pos, fun _ => rfl, fun _ => rfl, rfl⟩

theorem safe_checkResult {padding : BitVec 32} {d : G} {released : Bool}
    (hresult : arrived d = some (.word (fibValue (chosen atoi argv).toNat), released)) :
    Safe (spec atoi argv) (body runtime (program atoi) task (.internalFn .checkResult)
      [packed padding (chosen atoi argv)]
      [some d]) K ⟨arrived, fun _ => none, fun _ => none, fun _ => none, some (preamble argv)⟩ 4 := by
  apply safe_body
  apply meets_internalFn ⟨rfl, le_rfl, fun _ => rfl⟩ (by simp [program, info]) (by simp [maxDbAcquireCount])
  intro thread hroom
  change Meets _ (userFn runtime task .checkResult [.param [packed padding (chosen atoi argv)],
    .datablock (datablockOf (dep runtime task (some d)))]) _ _ _ _ _
  rw [userFn_checkResult]
  apply meets_bind
  exact meets_checkResult (runtime.address_ne task d) hresult rfl rfl

theorem safe_fibContinuation {params : FibContinuationParams G} (hn : 2 ≤ params.n.toNat) {lhs rhs : G}
    {c c' : Bool} (hreal : IsReal lhs) (hne : lhs ≠ rhs)
    (hleft : arrived lhs = some (.word (fibValue (params.n.toNat - 1)), c))
    (hright : arrived rhs = some (.word (fibValue (params.n.toNat - 2)), c')) :
    Safe (spec atoi argv) (body runtime (program atoi) task (.internalFn .fibContinuation) params.words
      [some lhs, some rhs]) K
      ⟨arrived, owing params.output (resultContract params.n.toNat), fun _ => none, fun _ => none, none⟩ 6 := by
  apply safe_body
  apply meets_internalFn ⟨rfl, le_rfl, fun _ => rfl⟩ (by simp [program, info])
    (by simp [maxDbAcquireCount])
  intro thread hroom
  change Meets _ (userFn runtime task .fibContinuation [.param params.words,
    .datablock (datablockOf (dep runtime task (some lhs))),
      .datablock (datablockOf (dep runtime task (some rhs)))]) _ _ _ _ _
  rw [userFn_fibContinuation]
  apply meets_bind
  apply meets_fibContinuation hn (runtime.address_ne task lhs)
    (runtime.address_ne task rhs) hreal.1 hne hleft hright
    (owing_self _ _)
  intro block
  rw [owing_update]
  exact ⟨⟨_, hroom⟩, Nat.one_pos, fun _ => rfl, fun _ => rfl, rfl⟩

theorem safe_fib {params : FibParams G} {m : Nat} (hm : m + 1 = steps params.n.toNat)
    (htask : K params.taskTemplate = some (.internalFn .fib))
    (hcontinuation : K params.continuationTemplate = some (.internalFn .fibContinuation)) :
    Safe (spec atoi argv) (body runtime (program atoi) task (.internalFn .fib) params.words []) K
      ⟨arrived, owing params.output (resultContract params.n.toNat), fun _ => none, fun _ => none, none⟩ m := by
  apply safe_body
  apply meets_internalFn ⟨rfl, le_rfl, fun _ => rfl⟩ (by simp [program, info]) (by simp)
  intro thread hroom
  change Meets _ (userFn runtime task .fib [.param params.words]) _ _ _ _ _
  rw [userFn_fib]
  apply meets_bind
  apply meets_fib hroom (by simp [maxDbAcquireCount]) htask hcontinuation rfl hm
  intro thread' block hroom'
  exact ⟨hroom', Nat.one_pos, fun _ => rfl, fun _ => rfl, rfl⟩

variable (runtime atoi argv)

theorem verified : Verified (body runtime (program atoi)) (spec atoi argv) := by
  intro K code params brief hpre t payloads arrived harrives
  cases hpre with
  | mainEdt =>
      obtain ⟨d, released, rfl, hd⟩ := arrives_args harrives
      exact ⟨_, by simp only; omega, safe_mainEdt hd⟩
  | checkResult padding =>
      obtain ⟨ds, rfl, -, hds⟩ := harrives.blocks (by simp [resultContract])
      obtain ⟨d, rfl⟩ := List.length_eq_one_iff.mp hds.length_eq
      obtain ⟨-, v, c, hd, -, hv⟩ := (List.forall₂_cons.mp hds).1
      cases hv
      exact ⟨4, Nat.lt_succ_self 4, safe_checkResult hd⟩
  | fibContinuation params hn =>
      obtain ⟨ds, rfl, hnodup, hds⟩ := harrives.blocks (by simp [resultContract])
      obtain ⟨lhs, rhs, rfl⟩ := List.length_eq_two.mp hds.length_eq
      obtain ⟨⟨hreal, v, c, hleft, -, hv⟩, htail⟩ := List.forall₂_cons.mp hds
      obtain ⟨-, v', c', hright, -, hv'⟩ := (List.forall₂_cons.mp htail).1
      cases hv
      cases hv'
      exact ⟨6, Nat.lt_succ_self 6, safe_fibContinuation hn (not_not.mp hreal)
        (by simpa using hnodup) hleft hright⟩
  | fib params htask hcontinuation =>
      obtain rfl : payloads = [] := List.length_eq_zero_iff.mp harrives.length_eq
      have hpos : 0 < steps params.n.toNat := by
        have := steps_eq params.n.toNat
        have := Nat.fib_pos.mpr (Nat.succ_pos params.n.toNat)
        omega
      exact ⟨steps params.n.toNat - 1, Nat.sub_lt hpos Nat.one_pos,
        safe_fib (Nat.sub_add_cancel hpos) htask hcontinuation⟩

variable {host : Host (signature TaskFn String G)} {main args : G} {used : Set G} {state : host.State}

end Runs

end Ocxxr.Fibonacci

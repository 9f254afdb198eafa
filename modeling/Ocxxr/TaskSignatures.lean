import Ocxxr.TaskLaunch

namespace Ocxxr.TaskSignatures

open TaskLaunch

/-- The parameter types of a task function. A `plain` type neither derives from
`AcquiredData` nor converts to a `DataHandle`. -/
inductive ArgType (T : Type)
  | plain (t : T)
  | datablock (t : T)
  | arena (t : T)
  | nullHandle
  | datablockList (t : T)
  deriving DecidableEq, Repr

inductive Parameter (T : Type)
  | element (t : T)
  | arenaState (t : T)
  | void
  deriving DecidableEq, Repr

structure DataHandleList (T : Type) where
  element : T
  deriving DecidableEq, Repr

/-- The function types hold their parameter lists. -/
structure VarArgsInfo (T : Type) where
  hasVarArgs : Bool
  depsFn : List (ArgType T)
  varArgsFn : List (ArgType T)
  varArgsHandleFn : List (DataHandleList T)
  varArgsType : Option T
  depCount : Nat
  deriving DecidableEq, Repr

structure TaskArgInfo (T : Type) extends VarArgsInfo T where
  hasParam : Bool
  paramCount : Nat
  paramFn : List (ArgType T)
  type : Option (ArgType T)
  depStart : Nat
  deriving DecidableEq, Repr

variable {T : Type}

def unpackError : String := "Expected an OCR data container type."

namespace ArgType

/-- `std::is_base_of` with `AcquiredData`: the null handle is an `ObjectHandle`. -/
def derivesAcquiredData : ArgType T → Bool
  | plain _ => false
  | datablock _ => true
  | arena _ => true
  | nullHandle => false
  | datablockList _ => true

def unpack : ArgType T → Except String (Parameter T)
  | plain _ => .error unpackError
  | datablock t => .ok (.element t)
  | arena t => .ok (.arenaState t)
  | nullHandle => .ok .void
  | datablockList _ => .error unpackError

def isDependence : ArgType T → Bool
  | plain _ => false
  | datablock _ => true
  | arena _ => true
  | nullHandle => true
  | datablockList _ => false

def depType : ArgType T → Option DepType
  | plain _ => none
  | datablock _ => some .datablock
  | arena _ => some .arena
  | nullHandle => some .nullHandle
  | datablockList _ => none

end ArgType

open ArgType

/-- The first two cases are the more specialised ones. -/
def varArgsInfoHelp (argsAcc : List (ArgType T)) : List (ArgType T) → Except String (VarArgsInfo T)
  | [datablockList t] => .ok ⟨true, argsAcc, [datablockList t], [⟨t⟩], some t, argsAcc.length⟩
  | [] => .ok ⟨false, argsAcc, [], [], none, argsAcc.length⟩
  | a :: allArgs => do
      let _ ← a.unpack
      varArgsInfoHelp (argsAcc ++ [a]) allArgs

def taskArgInfoHelp (hasParam : Bool) (t : ArgType T) (as : List (ArgType T)) :
    Except String (TaskArgInfo T) :=
  if hasParam then do
    let info ← varArgsInfoHelp [] as
    pure ⟨info, true, 1, [t], some t, 1⟩
  else do
    let info ← varArgsInfoHelp [] (t :: as)
    pure ⟨info, false, 0, [], none, 0⟩

def taskArgInfo : List (ArgType T) → Except String (TaskArgInfo T)
  | [] => do
      let info ← varArgsInfoHelp [] []
      pure ⟨info, false, 0, [], none, 0⟩
  | t :: as => taskArgInfoHelp (!t.derivesAcquiredData) t as

abbrev DependenceType (T : Type) := { a : ArgType T // a.isDependence }

/-- A signature of the grammar: nothing else can be written down. -/
structure Signature (T : Type) where
  param : Option T
  deps : List (DependenceType T)
  varArgs : Option T

namespace Signature

def args (signature : Signature T) : List (ArgType T) :=
  signature.param.toList.map plain ++ signature.deps.map Subtype.val ++
    signature.varArgs.toList.map datablockList

end Signature

/-- What the grammar says of a parameter list that is accepted. -/
structure Splits (args : List (ArgType T)) (info : TaskArgInfo T) : Prop where
  concat : info.paramFn ++ info.depsFn ++ info.varArgsFn = args
  depCount : info.depCount = args.countP isDependence
  depStart : ∀ i, args.findIdx? isDependence = some i → info.depStart = i
  position : ∀ i a, args[i]? = some a →
    (a.isDependence ↔ info.depStart ≤ i ∧ i < info.depStart + info.depCount)

def OneGrammar (args : List (ArgType T)) : Prop :=
  ((∃ info, taskArgInfo args = .ok info) ↔ ∃ signature : Signature T, signature.args = args) ∧
    ∀ info, taskArgInfo args = .ok info → Splits args info

def tailInfo (argsAcc : List (ArgType T)) (deps : List (DependenceType T)) (varArgs : Option T) :
    VarArgsInfo T where
  hasVarArgs := varArgs.isSome
  depsFn := argsAcc ++ deps.map Subtype.val
  varArgsFn := varArgs.toList.map datablockList
  varArgsHandleFn := varArgs.toList.map DataHandleList.mk
  varArgsType := varArgs
  depCount := argsAcc.length + deps.length

theorem varArgsInfoHelp_dependence {a : ArgType T} (h : a.isDependence) (argsAcc allArgs : List (ArgType T)) :
    varArgsInfoHelp argsAcc (a :: allArgs) = varArgsInfoHelp (argsAcc ++ [a]) allArgs := by
  cases a with
  | plain t => cases h
  | datablock t => rfl
  | arena t => rfl
  | nullHandle => rfl
  | datablockList t => cases h

theorem varArgsInfoHelp_tail (argsAcc : List (ArgType T)) (deps : List (DependenceType T))
    (varArgs : Option T) :
    varArgsInfoHelp argsAcc (deps.map Subtype.val ++ varArgs.toList.map datablockList) =
      .ok (tailInfo argsAcc deps varArgs) := by
  induction deps generalizing argsAcc with
  | nil => cases varArgs <;> simp [varArgsInfoHelp, tailInfo]
  | cons a rest ih =>
      rw [List.map_cons, List.cons_append, varArgsInfoHelp_dependence a.2, ih]
      simp [tailInfo]
      omega

theorem varArgsInfoHelp_accepts {argsAcc args : List (ArgType T)} {info : VarArgsInfo T}
    (h : varArgsInfoHelp argsAcc args = .ok info) :
    ∃ (deps : List (DependenceType T)) (varArgs : Option T),
      args = deps.map Subtype.val ++ varArgs.toList.map datablockList := by
  induction args generalizing argsAcc with
  | nil => exact ⟨[], none, rfl⟩
  | cons a rest ih =>
      by_cases ha : a.isDependence
      · rw [varArgsInfoHelp_dependence ha] at h
        obtain ⟨deps, varArgs, rfl⟩ := ih h
        exact ⟨⟨a, ha⟩ :: deps, varArgs, rfl⟩
      · cases a with
        | plain t => cases h
        | datablock t => exact absurd rfl ha
        | arena t => exact absurd rfl ha
        | nullHandle => exact absurd rfl ha
        | datablockList t =>
            cases rest with
            | nil => exact ⟨[], some t, rfl⟩
            | cons b rest => cases h

def splitAt (paramFn : Option (ArgType T)) (deps : List (DependenceType T)) (varArgs : Option T) :
    TaskArgInfo T where
  toVarArgsInfo := tailInfo [] deps varArgs
  hasParam := paramFn.isSome
  paramCount := paramFn.toList.length
  paramFn := paramFn.toList
  type := paramFn
  depStart := paramFn.toList.length

def concat (paramFn : Option (ArgType T)) (deps : List (DependenceType T)) (varArgs : Option T) :
    List (ArgType T) :=
  paramFn.toList ++ deps.map Subtype.val ++ varArgs.toList.map datablockList

theorem taskArgInfo_param {t : ArgType T} (h : t.derivesAcquiredData = false)
    (deps : List (DependenceType T)) (varArgs : Option T) :
    taskArgInfo (concat (some t) deps varArgs) = .ok (splitAt (some t) deps varArgs) := by
  have htail := varArgsInfoHelp_tail [] deps varArgs
  change taskArgInfo (t :: (deps.map Subtype.val ++ varArgs.toList.map datablockList)) = _
  rw [taskArgInfo, h, taskArgInfoHelp, htail]
  rfl

theorem taskArgInfo_noParam {deps : List (DependenceType T)} {varArgs : Option T}
    (h : ∀ t, (concat none deps varArgs).head? = some t → t.derivesAcquiredData = true) :
    taskArgInfo (concat none deps varArgs) = .ok (splitAt none deps varArgs) := by
  have htail := varArgsInfoHelp_tail [] deps varArgs
  change varArgsInfoHelp [] (concat none deps varArgs) = _ at htail
  cases hargs : concat none deps varArgs with
  | nil =>
      rw [hargs] at htail
      rw [taskArgInfo, htail]
      rfl
  | cons t as =>
      rw [hargs] at h htail
      rw [taskArgInfo, h t rfl, taskArgInfoHelp, htail]
      rfl

/-- A null handle in front is taken for the parameter. -/
theorem taskArgInfo_accepts {args : List (ArgType T)} {info : TaskArgInfo T}
    (h : taskArgInfo args = .ok info) :
    ∃ paramFn deps varArgs, args = concat paramFn deps varArgs ∧ info = splitAt paramFn deps varArgs ∧
      ∀ t ∈ paramFn, t.derivesAcquiredData = false := by
  cases args with
  | nil =>
      cases h
      exact ⟨none, [], none, rfl, rfl, by simp⟩
  | cons t as =>
      cases ht : t.derivesAcquiredData with
      | false =>
          rw [taskArgInfo, ht, taskArgInfoHelp] at h
          cases htail : varArgsInfoHelp [] as with
          | error e =>
              rw [htail] at h
              cases h
          | ok tail =>
              obtain ⟨deps, varArgs, rfl⟩ := varArgsInfoHelp_accepts htail
              rw [varArgsInfoHelp_tail] at h
              cases h
              exact ⟨some t, deps, varArgs, rfl, rfl, by simpa using ht⟩
      | true =>
          rw [taskArgInfo, ht, taskArgInfoHelp] at h
          simp only [Bool.not_true, Bool.false_eq_true, if_false] at h
          cases htail : varArgsInfoHelp [] (t :: as) with
          | error e =>
              rw [htail] at h
              cases h
          | ok tail =>
              obtain ⟨deps, varArgs, hargs⟩ := varArgsInfoHelp_accepts htail
              rw [hargs, varArgsInfoHelp_tail] at h
              cases h
              exact ⟨none, deps, varArgs, hargs, rfl, by simp⟩

section Splitting

variable {paramFn : Option (ArgType T)} {deps : List (DependenceType T)} {varArgs : Option T}

theorem countP_deps (deps : List (DependenceType T)) :
    (deps.map Subtype.val).countP isDependence = deps.length := by
  rw [List.countP_eq_length.mpr, List.length_map]
  intro a ha
  obtain ⟨a, -, rfl⟩ := List.mem_map.mp ha
  exact a.2

theorem position_concat (h : ∀ t ∈ paramFn, t.isDependence = false) {i : Nat} {a : ArgType T}
    (ha : (concat paramFn deps varArgs)[i]? = some a) :
    a.isDependence ↔ paramFn.toList.length ≤ i ∧ i < paramFn.toList.length + deps.length := by
  rw [concat, List.append_assoc, List.getElem?_append] at ha
  split at ha
  · have hplain := h a (Option.mem_toList.mp (List.mem_of_getElem? ha))
    simp only [hplain, Bool.false_eq_true, false_iff]
    omega
  · rw [List.getElem?_append, List.length_map] at ha
    split at ha
    · obtain ⟨dep, -, rfl⟩ := List.mem_map.mp (List.mem_of_getElem? ha)
      simp only [dep.2, true_iff]
      omega
    · obtain ⟨t, -, rfl⟩ := List.mem_map.mp (List.mem_of_getElem? ha)
      simp only [isDependence, Bool.false_eq_true, false_iff]
      omega

theorem countP_concat (h : ∀ t ∈ paramFn, t.isDependence = false) :
    (concat paramFn deps varArgs).countP isDependence = deps.length := by
  have hparam : paramFn.toList.countP isDependence = 0 := by
    rw [List.countP_eq_zero]
    intro t ht
    simp [h t (Option.mem_toList.mp ht)]
  have hlist : (varArgs.toList.map datablockList).countP isDependence = 0 := by
    rw [List.countP_eq_zero]
    intro a ha
    obtain ⟨t, -, rfl⟩ := List.mem_map.mp ha
    simp [isDependence]
  rw [concat, List.countP_append, List.countP_append, hparam, hlist, countP_deps]
  omega

theorem findIdx_concat (h : ∀ t ∈ paramFn, t.isDependence = false) {i : Nat}
    (hi : (concat paramFn deps varArgs).findIdx? isDependence = some i) : paramFn.toList.length = i := by
  obtain ⟨hlt, hdep, hbefore⟩ := List.findIdx?_eq_some_iff_getElem.mp hi
  obtain ⟨hle, hroom⟩ := (position_concat h (List.getElem?_eq_getElem hlt)).mp hdep
  by_contra hne
  have hfirst : paramFn.toList.length < i := by omega
  refine hbefore _ hfirst ?_
  exact (position_concat h (List.getElem?_eq_getElem (by omega))).mpr ⟨le_rfl, by omega⟩

theorem splits_concat (h : ∀ t ∈ paramFn, t.isDependence = false) :
    Splits (concat paramFn deps varArgs) (splitAt paramFn deps varArgs) where
  concat := rfl
  depCount := by
    rw [countP_concat h]
    exact Nat.zero_add _
  depStart := fun i hi => findIdx_concat h hi
  position := by
    intro i a ha
    rw [position_concat h ha]
    simp [splitAt, tailInfo]

end Splitting

section Acceptance

variable {args : List (ArgType T)} {info : TaskArgInfo T}

theorem dependence_or_list {deps : List (DependenceType T)} {varArgs : Option T} {a : ArgType T}
    (h : a ∈ concat none deps varArgs) : a.isDependence ∨ ∃ t, a = datablockList t := by
  rw [concat, Option.toList_none, List.nil_append] at h
  rcases List.mem_append.mp h with h | h
  · obtain ⟨a, -, rfl⟩ := List.mem_map.mp h
    exact .inl a.2
  · obtain ⟨t, -, rfl⟩ := List.mem_map.mp h
    exact .inr ⟨t, rfl⟩

theorem derives_head {deps : List (DependenceType T)} {varArgs : Option T} {t : ArgType T}
    (h : (concat none deps varArgs).head? = some t) (hnull : t ≠ nullHandle) :
    t.derivesAcquiredData = true := by
  rcases dependence_or_list (List.mem_of_mem_head? h) with hdep | ⟨t, rfl⟩
  · cases t with
    | plain t => cases hdep
    | datablock t => rfl
    | arena t => rfl
    | nullHandle => exact absurd rfl hnull
    | datablockList t => rfl
  · rfl

theorem args_eq_concat (signature : Signature T) :
    signature.args = concat (signature.param.map plain) signature.deps signature.varArgs := by
  cases hparam : signature.param with
  | none => rw [Signature.args, hparam]; rfl
  | some t => rw [Signature.args, hparam]; rfl

theorem accepts_signature (signature : Signature T) : ∃ info, taskArgInfo signature.args = .ok info := by
  obtain ⟨param, deps, varArgs⟩ := signature
  rw [args_eq_concat]
  cases param with
  | some t => exact ⟨_, taskArgInfo_param rfl deps varArgs⟩
  | none =>
      cases deps with
      | nil =>
          refine ⟨_, taskArgInfo_noParam ?_⟩
          intro t ht
          apply derives_head ht
          rintro rfl
          simpa [concat] using List.mem_of_mem_head? ht
      | cons a rest =>
          by_cases hnull : a.1 = nullHandle
          · obtain ⟨a, ha⟩ := a
            subst hnull
            exact ⟨_, taskArgInfo_param rfl rest varArgs⟩
          · refine ⟨_, taskArgInfo_noParam ?_⟩
            rintro t ht
            obtain rfl : a.1 = t := Option.some.inj ht
            exact derives_head ht hnull

theorem signature_of_accepted (h : taskArgInfo args = .ok info) :
    ∃ signature : Signature T, signature.args = args := by
  obtain ⟨paramFn, deps, varArgs, rfl, -, hparam⟩ := taskArgInfo_accepts h
  cases paramFn with
  | none => exact ⟨⟨none, deps, varArgs⟩, rfl⟩
  | some t =>
      cases t with
      | plain t => exact ⟨⟨some t, deps, varArgs⟩, rfl⟩
      | nullHandle => exact ⟨⟨none, ⟨nullHandle, rfl⟩ :: deps, varArgs⟩, rfl⟩
      | datablock t => cases hparam _ rfl
      | arena t => cases hparam _ rfl
      | datablockList t => cases hparam _ rfl

theorem splits_of_accepted (h : taskArgInfo args = .ok info) (hnull : args.head? ≠ some nullHandle) :
    Splits args info := by
  obtain ⟨paramFn, deps, varArgs, rfl, rfl, hparam⟩ := taskArgInfo_accepts h
  apply splits_concat
  rintro t ht
  obtain rfl : paramFn = some t := ht
  cases t with
  | plain t => rfl
  | nullHandle => exact absurd rfl hnull
  | datablock t => cases hparam _ rfl
  | arena t => cases hparam _ rfl
  | datablockList t => rfl

theorem depStart_null {as : List (ArgType T)} (h : taskArgInfo (nullHandle :: as) = .ok info) :
    info.depStart = 1 := by
  change taskArgInfoHelp true nullHandle as = _ at h
  rw [taskArgInfoHelp] at h
  cases htail : varArgsInfoHelp [] as with
  | error e =>
      rw [htail] at h
      cases h
  | ok tail =>
      rw [htail] at h
      cases h
      rfl

def fnInfo (sizeofT : ArgType T → Nat) (info : TaskArgInfo T) : FnInfo where
  param := info.type.map sizeofT
  deps := info.depsFn.filterMap depType
  hasVarArgs := info.hasVarArgs

theorem filterMap_depType (deps : List (DependenceType T)) :
    ((deps.map Subtype.val).filterMap depType).length = deps.length := by
  induction deps with
  | nil => rfl
  | cons a rest ih =>
      obtain ⟨a, ha⟩ := a
      cases a with
      | plain t => cases ha
      | datablock t => simpa [depType] using ih
      | arena t => simpa [depType] using ih
      | nullHandle => simpa [depType] using ih
      | datablockList t => cases ha

theorem fnInfo_initializers (h : taskArgInfo args = .ok info) (sizeofT : ArgType T → Nat) :
    (fnInfo sizeofT info).depCount = info.depCount ∧
      (fnInfo sizeofT info).initializers.length = args.length := by
  obtain ⟨paramFn, deps, varArgs, rfl, rfl, -⟩ := taskArgInfo_accepts h
  have hdeps : (fnInfo sizeofT (splitAt paramFn deps varArgs)).deps.length = deps.length :=
    filterMap_depType deps
  constructor
  · rw [FnInfo.depCount, hdeps]
    exact (Nat.zero_add _).symm
  · rw [FnInfo.initializers, List.length_append, List.length_append, List.length_map, List.length_zipIdx,
      hdeps]
    cases paramFn <;> cases varArgs <;> simp [fnInfo, splitAt, tailInfo, concat, Nat.add_comm]

end Acceptance

/-- The first type is tested by its base class and the others by `Unpack`, and the two
differ on the null handle alone. -/
theorem one_grammar_iff (args : List (ArgType T)) : OneGrammar args ↔
    (args.head? = some nullHandle → ¬ ∃ signature : Signature T, signature.args = args) := by
  constructor
  · rintro ⟨haccepts, hsplits⟩ hhead hgrammar
    obtain ⟨info, hok⟩ := haccepts.mpr hgrammar
    obtain ⟨as, rfl⟩ := List.head?_eq_some_iff.mp hhead
    have hposition := ((hsplits info hok).position 0 nullHandle rfl).mp rfl
    rw [depStart_null hok] at hposition
    omega
  · intro h
    refine ⟨⟨?_, ?_⟩, ?_⟩
    · rintro ⟨info, hok⟩
      exact signature_of_accepted hok
    · rintro ⟨signature, rfl⟩
      exact accepts_signature signature
    · intro info hok
      apply splits_of_accepted hok
      intro hhead
      exact h hhead (signature_of_accepted hok)

theorem one_grammar_counterexample :
    ¬ OneGrammar [(nullHandle : ArgType Unit), datablock ()] ∧
      ∃ info, taskArgInfo [(nullHandle : ArgType Unit), datablock ()] = .ok info ∧
        info.depCount = 1 ∧ info.depStart = 1 := by
  refine ⟨?_, _, rfl, rfl, rfl⟩
  rintro ⟨-, hsplits⟩
  have hcount := (hsplits _ rfl).depCount
  cases hcount

end Ocxxr.TaskSignatures

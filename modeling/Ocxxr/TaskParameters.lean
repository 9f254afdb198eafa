import Ocxxr.Library.AccessLog
import Ocxxr.Library.ByteMemory
import Ocxxr.TaskCreationSpec

namespace Ocxxr.TaskParameters

open AccessLog ByteMemory Faults Ocr DatablockLists TaskLaunch TaskCreation TaskCreationSpec

def templateParamc (info : FnInfo) : BitVec 32 := BitVec.ofNat 32 info.paramWordCount

/-- Code that reads memory, with the addresses of the bytes it reads. -/
abbrev CopyM := Logging Fault Memory Int

def readByte (p : Int) : CopyM (BitVec 8) := do
  note [p]
  let mem ← get
  pure (mem p)

def readBytes (p : Int) : Nat → CopyM (List (BitVec 8))
  | 0 => pure []
  | n + 1 => do
      let byte ← readByte p
      let rest ← readBytes (p + 1) n
      pure (byte :: rest)

def readWord (p : Int) : CopyM (BitVec 64) := do
  let bytes ← readBytes p 8
  pure (BitVec.ofNat 64 (ofBytes bytes))

/-- The copy of `paramv` that `ocrEdtCreate` makes. -/
def copyParamv (paramv : Int) : Nat → CopyM (List (BitVec 64))
  | 0 => pure []
  | paramc + 1 => do
      let word ← readWord paramv
      let rest ← copyParamv (paramv + 8) paramc
      pure (word :: rest)

/-- The `n` bytes of `*UnpackParam<T>(&paramv[0])`. -/
def unpackParam (paramv : Int) (n : Nat) : CopyM (List (BitVec 8)) := readBytes paramv n

def Stored (mem : Memory) (paramv : Int) : List (BitVec 64) → Prop
  | [] => True
  | word :: rest => load mem paramv 8 = word.toNat ∧ Stored mem (paramv + 8) rest

def words (mem : Memory) (a : Int) : Nat → List (BitVec 64)
  | 0 => []
  | n + 1 => BitVec.ofNat 64 (load mem a 8) :: words mem (a + 8) n

variable {mem mem' : Memory} {a b : Int} {n : Nat}

theorem readByte_reads (p : Int) : Reads (readByte p) [p] (fun mem => mem p) :=
  (reads_note [p]).bind (fun _ => reads_get.bind_pure (fun mem : Memory => mem p))

theorem readBytes_reads (p : Int) (n : Nat) :
    Reads (readBytes p n) (span p n) (fun mem => (span p n).map mem) := by
  induction n generalizing p with
  | zero => exact reads_pure []
  | succ n ih => exact (readByte_reads p).bind (fun byte => (ih (p + 1)).bind_pure (byte :: ·))

theorem readWord_reads (p : Int) :
    Reads (readWord p) (span p 8) (fun mem => BitVec.ofNat 64 (load mem p 8)) := by
  have hbytes := (readBytes_reads p 8).bind_pure (fun bytes => BitVec.ofNat 64 (ofBytes bytes))
  simp only [ofBytes_span] at hbytes
  exact hbytes

theorem copyParamv_reads (a : Int) (paramc : Nat) :
    Reads (copyParamv a paramc) (span a (8 * paramc)) (fun mem => words mem a paramc) := by
  induction paramc generalizing a with
  | zero => exact reads_pure []
  | succ paramc ih =>
      have hspan : span a (8 * (paramc + 1)) = span a 8 ++ span (a + 8) (8 * paramc) := by
        rw [Nat.mul_succ, Nat.add_comm]
        exact (span_append a 8 _).symm
      rw [hspan]
      exact (readWord_reads a).bind (fun word => (ih (a + 8)).bind_pure (word :: ·))

theorem words_length (mem : Memory) (a : Int) (k : Nat) : (words mem a k).length = k := by
  induction k generalizing a with
  | zero => rfl
  | succ k ih => rw [words, List.length_cons, ih]

theorem word_toNat (mem : Memory) (a : Int) : (BitVec.ofNat 64 (load mem a 8)).toNat = load mem a 8 := by
  rw [BitVec.toNat_ofNat]
  exact Nat.mod_eq_of_lt (load_lt mem a 8)

theorem copied_of_stored {k : Nat} (h : Stored mem' b (words mem a k)) : Copied mem a mem' b (8 * k) := by
  induction k generalizing a b with
  | zero => exact copied_zero
  | succ k ih =>
      obtain ⟨hword, hrest⟩ := h
      rw [word_toNat] at hword
      rw [Nat.mul_succ, Nat.add_comm]
      exact copied_append (copied_of_load hword) (ih hrest)

theorem words_congr {k : Nat} (h : ∀ p, a ≤ p → p < a + (8 * k : Nat) → mem' p = mem p) :
    words mem' a k = words mem a k := by
  induction k generalizing a with
  | zero => rfl
  | succ k ih =>
      have hword : load mem' a 8 = load mem a 8 := by
        apply load_congr
        intro i hi
        exact h _ (by omega) (by omega)
      have hrest : words mem' (a + 8) k = words mem (a + 8) k := by
        apply ih
        intro p hp hlt
        exact h p (by omega) (by omega)
      rw [words, words, hword, hrest]

section Creation

variable {G α β : Type} {params : Option (List (BitVec 64))}

def passing (params : Option (List (BitVec 64))) : EntryPoint G → EntryPoint G
  | .createTask _ deps varArgs => .createTask params deps varArgs
  | .createTaskPartial _ varArgsCount => .createTaskPartial params varArgsCount
  | .createTaskPartialDeps _ deps => .createTaskPartialDeps params deps
  | .createFuturePartial _ varArgsCount => .createFuturePartial params varArgsCount
  | .createFuturePartialDeps _ deps => .createFuturePartialDeps params deps

/-- When the code returns, it has asked for one task, with the parameter given. -/
def Hands (params : Option (List (BitVec 64))) (x : OcrM G α) : Prop :=
  ∀ log a log', x.run log = .ok a log' →
    ∃ request, log' = log ++ [.edtCreate request] ∧ request.paramv = params

theorem Hands.after {x : OcrM G α} {f : α → OcrM G β} (hx : Steady (fun _ => True) x)
    (hf : ∀ a, Hands params (f a)) : Hands params (x >>= f) := by
  intro log b log' h
  obtain ⟨a, log₁, hrun, hrest⟩ := run_bind_ok.mp h
  obtain rfl := hx.keeps log a log₁ hrun
  exact hf a log₁ b log' hrest

theorem Hands.bind_pure {x : OcrM G α} (hx : Hands params x) (g : α → β) :
    Hands params (x >>= fun a => pure (g a)) := by
  intro log b log' h
  obtain ⟨a, log₁, hrun, h⟩ := run_bind_ok.mp h
  cases h
  exact hx log a log' hrun

variable {ocr : OcrEdt G} {info : FnInfo} {builder : TaskBuilder G} {outEvent : Bool}

theorem init_hands (template : G) (depc : BitVec 32) (depv : Option (List G)) (hint : Int) (flags : BitVec 16) :
    Hands params (Task.init ocr info outEvent template params depc depv hint flags) := by
  refine Hands.after (steady_assert _ trivial) (fun _ => ?_)
  intro log answer log' h
  cases h
  exact ⟨_, rfl, rfl⟩

variable [OcrGuid G]

theorem createFullTask_hands (deps : List G) :
    Hands params (TaskBuilder.createFullTask ocr info builder outEvent params deps) :=
  Hands.after (steady_assert _ trivial) (fun _ => init_hands _ _ _ _ _)

theorem createFullTaskVarArgs_hands (deps : List G) (varArgs : DatablockList G) :
    Hands params (TaskBuilder.createFullTaskVarArgs ocr info builder outEvent params deps varArgs) := by
  refine Hands.after (steady_assert _ trivial) (fun _ => Hands.after (steady_assert _ trivial) (fun _ => ?_))
  exact Hands.after (fillDepv_steady trivial _ _ _) (fun _ => init_hands _ _ _ _ _)

theorem createNullTask_hands (varArgsCount : BitVec 32) :
    Hands params (TaskBuilder.createNullTask ocr info builder outEvent params varArgsCount) :=
  Hands.after (steady_assert _ trivial) (fun _ => Hands.after (steady_assert _ trivial)
    (fun _ => init_hands _ _ _ _ _))

theorem createTask_hands (deps : List G) (varArgs : Option (DatablockList G)) :
    Hands params (TaskBuilder.createTask ocr info builder params deps varArgs) := by
  cases varArgs with
  | none => exact (createFullTask_hands deps).bind_pure _
  | some varArgs => exact (createFullTaskVarArgs_hands deps varArgs).bind_pure _

theorem createTaskPartial_hands (varArgsCount : BitVec 32) :
    Hands params (TaskBuilder.createTaskPartial ocr info builder params varArgsCount) :=
  Hands.after (steady_assert _ trivial) (fun _ => (createNullTask_hands varArgsCount).bind_pure _)

theorem createFuturePartial_hands (varArgsCount : BitVec 32) :
    Hands params (TaskBuilder.createFuturePartial ocr info builder params varArgsCount) :=
  Hands.after (steady_assert _ trivial) (fun _ => (createNullTask_hands varArgsCount).bind_pure _)

theorem createFuture_hands (deps : List G) :
    Hands params (TaskBuilder.createFuture ocr info builder params deps) :=
  (createFullTask_hands deps).bind_pure _

theorem create_hands (entry : EntryPoint G) :
    Hands params ((passing params entry).create ocr info builder) := by
  cases entry with
  | createTask _ deps varArgs => exact (createTask_hands deps varArgs).bind_pure _
  | createTaskPartial _ varArgsCount => exact (createTaskPartial_hands varArgsCount).bind_pure _
  | createTaskPartialDeps _ deps => exact (createTask_hands _ none).bind_pure _
  | createFuturePartial _ varArgsCount => exact (createFuturePartial_hands varArgsCount).bind_pure _
  | createFuturePartialDeps _ deps => exact (createFuture_hands _).bind_pure _

end Creation

section Carrying

variable {G : Type} [OcrGuid G]

def Copies (info : FnInfo) (mem : Memory) (a : Int) (paramv : List (BitVec 64)) : Prop :=
  (erase (copyParamv a (templateParamc info).toNat)).run mem = .ok paramv mem

/-- A task created by `entry` is given the `n` bytes of the object at `a`, and nothing
beside them. -/
structure CarriedOver (ocr : OcrEdt G) (info : FnInfo) (builder : TaskBuilder G) (entry : EntryPoint G)
    (n : Nat) (mem : Memory) (a : Int) : Prop where
  handed : ∀ paramv, Copies info mem a paramv → ∀ log log',
    ((passing (some paramv) entry).create ocr info builder).run log = .ok () log' →
      ∃ request, log' = log ++ [.edtCreate request] ∧ request.paramv = some paramv
  accepted : ∀ paramv, Copies info mem a paramv → paramv.length = info.paramWordCount
  same : ∀ paramv, Copies info mem a paramv → ∀ mem' b, Stored mem' b paramv →
    (erase (unpackParam b n)).run mem' = .ok ((span a n).map mem) mem'
  within : Confined (fun p => a ≤ p ∧ p < a + n) (copyParamv a (templateParamc info).toNat) mem
  isolated : ∀ mem', (∀ p, a ≤ p → p < a + n → mem' p = mem p) →
    ∀ paramv, Copies info mem a paramv → Copies info mem' a paramv

variable {info : FnInfo}

theorem copies_iff {paramv : List (BitVec 64)} :
    Copies info mem a paramv ↔ paramv = words mem a (templateParamc info).toNat := by
  rw [Copies, (copyParamv_reads a _).run_eq]
  constructor
  · rintro ⟨⟩
    rfl
  · rintro rfl
    rfl

theorem copy_within_iff :
    Confined (fun p => a ≤ p ∧ p < a + n) (copyParamv a (templateParamc info).toNat) mem ↔
      8 * (templateParamc info).toNat ≤ n := by
  simp only [Confined, (copyParamv_reads a _).log_eq, mem_span]
  constructor
  · intro h
    by_contra hle
    have hlast := h (a + n) (by omega)
    omega
  · intro h p hp
    omega

theorem unpackParam_run (b : Int) (n : Nat) (mem' : Memory) :
    (erase (unpackParam b n)).run mem' = .ok ((span b n).map mem') mem' :=
  (readBytes_reads b n).run_eq mem'

/-- The object is copied in whole words, the last of which ends where the object does
only for a multiple of eight. -/
theorem parameter_carried_iff (ocr : OcrEdt G) (info : FnInfo) (builder : TaskBuilder G) (entry : EntryPoint G)
    (n : Nat) (mem : Memory) (a : Int) (hparam : info.param = some n)
    (hparamc : (templateParamc info).toNat = info.paramWordCount) :
    CarriedOver ocr info builder entry n mem a ↔ 8 ∣ n := by
  have hcount : (templateParamc info).toNat = (n + 8 - 1) / 8 := by
    rw [hparamc, FnInfo.paramWordCount, hparam]
  constructor
  · intro h
    have hle := copy_within_iff.mp h.within
    omega
  · intro hdvd
    have hbytes : 8 * (templateParamc info).toNat = n := by omega
    refine ⟨?_, ?_, ?_, copy_within_iff.mpr hbytes.le, ?_⟩
    · intro paramv _ log log' hrun
      exact create_hands entry log () log' hrun
    · intro paramv hcopy
      rw [copies_iff.mp hcopy, words_length, hparamc]
    · intro paramv hcopy mem' b hstored
      rw [copies_iff.mp hcopy] at hstored
      have hcopied := copied_of_stored hstored
      rw [hbytes] at hcopied
      rw [unpackParam_run, map_span_eq_iff.mpr hcopied]
    · intro mem' hagree paramv hcopy
      rw [copies_iff] at hcopy ⊢
      rw [hcopy]
      refine (words_congr ?_).symm
      rwa [hbytes]

end Carrying

theorem parameter_carried_iff_pair :
    CarriedOver accepting ⟨some 16, [], false⟩ plain (.createTask none [] none) 16 (fun _ => 0) 4096 ↔ 8 ∣ 16 :=
  parameter_carried_iff accepting ⟨some 16, [], false⟩ plain _ 16 _ 4096 rfl rfl

theorem parameter_carried_counterexample :
    (templateParamc ⟨some 4, [], false⟩).toNat = FnInfo.paramWordCount ⟨some 4, [], false⟩ ∧
      ¬ CarriedOver accepting ⟨some 4, [], false⟩ plain (.createTask none [] none) 4 (fun _ => 0) 4096 ∧
      4100 ∈ log (copyParamv 4096 1) (fun _ => 0) := by
  refine ⟨rfl, ?_, by decide⟩
  intro h
  exact absurd (copy_within_iff.mp h.within) (by decide)

end Ocxxr.TaskParameters

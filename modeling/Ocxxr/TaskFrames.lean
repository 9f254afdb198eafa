import Ocxxr.TaskLaunch
import Mathlib.Order.Defs.Unbundled

namespace Ocxxr.TaskFrames

open Ocr SortedSearch Bookkeeping Allocator TaskState AcquiredData DatablockLists TaskLaunch

section Framing

variable {G α β : Type} {R : Headers → Headers → Prop}

/-- What `x` does to the running task and what it answers, it does and answers on any
thread with that task on top. The states below stay, and the headers change within `R`. -/
def Framed (R : Headers → Headers → Prop) (x : ThreadM G α) : Prop :=
  ∀ task parents headers a thread', x.run ⟨task :: parents, headers⟩ = .ok a thread' →
    ∃ task' headers', thread' = ⟨task' :: parents, headers'⟩ ∧ R headers headers' ∧
      ∀ parents' headers₁, ∃ headers₂, R headers₁ headers₂ ∧
        x.run ⟨task :: parents', headers₁⟩ = .ok a ⟨task' :: parents', headers₂⟩

variable {x : ThreadM G α} {f : α → ThreadM G β}

theorem framed_const [Std.Refl R] (h : ∀ s a s', x.run s = .ok a s' → s' = s ∧ ∀ s₁, x.run s₁ = .ok a s₁) :
    Framed R x := by
  intro task parents headers a thread' hrun
  obtain ⟨rfl, hsame⟩ := h _ _ _ hrun
  exact ⟨task, headers, rfl, refl_of R headers, fun _ headers₁ => ⟨headers₁, refl_of R headers₁, hsame _⟩⟩

theorem framed_pure [Std.Refl R] (a : α) : Framed R (pure a : ThreadM G α) := by
  apply framed_const
  intro s b s' h
  cases h
  exact ⟨rfl, fun _ => rfl⟩

theorem framed_assert [Std.Refl R] (c : Bool) (a : Assertion) : Framed R (assert c a : ThreadM G Unit) := by
  apply framed_const
  intro s u s' h
  obtain ⟨rfl, rfl⟩ := run_assert_ok.mp h
  exact ⟨rfl, fun _ => rfl⟩

theorem framed_access [Std.Refl R] (slot : Option α) : Framed R (access slot : ThreadM G α) := by
  apply framed_const
  intro s a s' h
  obtain ⟨rfl, rfl⟩ := run_access_ok.mp h
  exact ⟨rfl, fun _ => rfl⟩

theorem framed_bind [IsTrans Headers R] (hx : Framed R x) (hf : ∀ a, Framed R (f a)) :
    Framed R (x >>= f) := by
  intro task parents headers b thread' h
  obtain ⟨a, _, hrun, hrest⟩ := run_bind_ok.mp h
  obtain ⟨task₁, headers₁, rfl, hto, hsame⟩ := hx _ _ _ _ _ hrun
  obtain ⟨task₂, headers₂, rfl, hto', hsame'⟩ := hf a _ _ _ _ _ hrest
  refine ⟨task₂, headers₂, rfl, trans_of R hto hto', fun parents' below => ?_⟩
  obtain ⟨below₁, hbelow, h₁⟩ := hsame parents' below
  obtain ⟨below₂, hbelow', h₂⟩ := hsame' parents' below₁
  exact ⟨below₂, trans_of R hbelow hbelow', run_bind_ok.mpr ⟨a, _, h₁, h₂⟩⟩

theorem framed_mapM {ι : Type} [IsPreorder Headers R] {f : ι → ThreadM G β} (hf : ∀ i, Framed R (f i))
    (l : List ι) : Framed R (l.mapM f) := by
  induction l with
  | nil => exact framed_pure []
  | cons i l ih =>
      rw [List.mapM_cons]
      exact framed_bind (hf i) (fun _ => framed_bind ih (fun _ => framed_pure _))

theorem framed_inTask [Std.Refl R] (x : BookM G α) : Framed R (inTask x) := by
  intro task parents headers a thread' h
  obtain ⟨task₁, parents₁, dbs, ht, hrun, rfl⟩ := inTask_ok.mp h
  cases ht
  exact ⟨{ task with acquiredDbs := dbs }, headers, rfl, refl_of R headers, fun parents' headers₁ =>
    ⟨headers₁, refl_of R headers₁, inTask_ok.mpr ⟨task, parents', dbs, rfl, hrun, rfl⟩⟩⟩

theorem framed_allocatorSetDb [Std.Refl R] (dbPtr : Int) : Framed R (allocatorSetDb dbPtr : ThreadM G Unit) := by
  intro task parents headers a thread' h
  cases h
  exact ⟨⟨task.acquiredDbs, ⟨dbPtr⟩⟩, headers, rfl, refl_of R headers, fun _ headers₁ =>
    ⟨headers₁, refl_of R headers₁, rfl⟩⟩

theorem framed_allocatorGet [Std.Refl R] : Framed R (allocatorGet : ThreadM G DatablockAllocator) := by
  intro task parents headers a thread' h
  cases h
  exact ⟨task, headers, rfl, refl_of R headers, fun _ headers₁ => ⟨headers₁, refl_of R headers₁, rfl⟩⟩

end Framing

section Launch

variable {G : Type} [OcrGuid G] {std : StdAlgorithms (DbPair G)} {R : Headers → Headers → Prop}
  [IsPreorder Headers R]

theorem framed_ofDep (dep : OcrEdtDep G) : Framed R (Datablock.ofDep std dep) :=
  framed_bind (framed_inTask _) (fun _ => framed_pure _)

theorem framed_arenaOfDep (dep : OcrEdtDep G) : Framed R (AcquiredData.Arena.ofDep std dep) :=
  framed_bind (framed_inTask _) (fun _ => framed_pure _)

theorem framed_addDeps (deps : List (OcrEdtDep G)) (varArgs : DatablockList G) :
    Framed R (addDeps std deps varArgs) := by
  induction deps generalizing varArgs with
  | nil => exact framed_pure varArgs
  | cons dep rest ih =>
      refine framed_bind (framed_ofDep dep) (fun datablock => framed_bind ?_ ih)
      exact framed_bind (framed_assert _ _) (fun _ => framed_bind (framed_access _) (fun _ => framed_pure _))

theorem framed_evaluateArg (info : FnInfo) (paramv : List (BitVec 64)) (depv : List (OcrEdtDep G))
    (i : Initializer) : Framed R (evaluateArg std info paramv depv i) := by
  cases i with
  | param => exact framed_pure _
  | varArgs =>
      exact framed_bind (framed_bind (framed_addDeps _ _) (fun _ => framed_pure _)) (fun _ => framed_pure _)
  | dep type j =>
      cases type with
      | datablock =>
          exact framed_bind (framed_access _) (fun dep => framed_bind (framed_ofDep dep) (fun _ => framed_pure _))
      | arena =>
          exact framed_bind (framed_access _) (fun dep =>
            framed_bind (framed_arenaOfDep dep) (fun _ => framed_pure _))
      | nullHandle =>
          refine framed_bind (framed_access _) (fun dep => framed_bind ?_ (fun _ => framed_pure _))
          exact framed_bind (framed_assert _ _) (fun _ => framed_pure _)

theorem framed_arguments (edt : Edt G) : Framed R (edt.arguments std) := by
  cases edt with
  | internalFn info order paramv depv =>
      refine framed_bind (framed_mapM (fun i => ?_) order) (fun _ => framed_pure _)
      exact framed_bind (framed_evaluateArg info paramv depv i) (fun _ => framed_pure _)
  | mainEdt paramv depv =>
      exact framed_bind (framed_access _) (fun dep => framed_bind (framed_ofDep dep) (fun _ => framed_pure _))

/-- A task enters its user function on a state of its own, on top of those of the thread. -/
theorem prologue_enters {edt : Edt G} {args : List (Arg G)} {thread thread' : Thread G}
    (h : (edt.prologue std).run thread = .ok args thread') :
    ∃ task, thread' = ⟨task :: thread.tasks, thread.headers⟩ := by
  obtain ⟨task, headers, rfl, rfl, -⟩ :=
    framed_arguments (R := Eq) edt _ _ _ _ _ (edt.arguments_of_prologue std h)
  exact ⟨task, rfl⟩

theorem prologue_headers {edt : Edt G} {args : List (Arg G)} {thread thread' : Thread G}
    (h : (edt.prologue std).run thread = .ok args thread') : thread'.headers = thread.headers := by
  obtain ⟨task, rfl⟩ := prologue_enters h
  rfl

end Launch

end Ocxxr.TaskFrames

import Mathlib.Logic.Basic

namespace Ocxxr.AccessLog

/-- A computation that keeps a log of what it accesses, also when it fails. -/
def Logging (ε σ ι α : Type) : Type := σ → List ι × EStateM.Result ε σ α

variable {ε σ ι α β : Type}

def erase (x : Logging ε σ ι α) : EStateM ε σ α := fun s => (x s).2

def log (x : Logging ε σ ι α) (s : σ) : List ι := (x s).1

def note (l : List ι) : Logging ε σ ι Unit := fun s => (l, .ok () s)

instance : Monad (Logging ε σ ι) where
  pure a := fun s => ([], .ok a s)
  bind x f := fun s =>
    match x s with
    | (l, .ok a s') => (l ++ log (f a) s', (erase (f a)).run s')
    | (l, .error e s') => (l, .error e s')

instance : MonadLift (EStateM ε σ) (Logging ε σ ι) where
  monadLift x := fun s => ([], x.run s)

@[simp] theorem erase_pure (a : α) : erase (pure a : Logging ε σ ι α) = pure a := rfl

@[simp] theorem erase_note (l : List ι) : erase (note l : Logging ε σ ι Unit) = pure () := rfl

@[simp] theorem erase_lift (x : EStateM ε σ α) : erase (liftM x : Logging ε σ ι α) = x := rfl

@[simp] theorem erase_get : erase (get : Logging ε σ ι σ) = get := rfl

@[simp] theorem erase_modify (f : σ → σ) : erase (modify f : Logging ε σ ι PUnit) = modify f := rfl

@[simp] theorem erase_bind (x : Logging ε σ ι α) (f : α → Logging ε σ ι β) :
    erase (x >>= f) = erase x >>= fun a => erase (f a) := by
  funext s
  change ((x >>= f) s).2 = (erase x >>= fun a => erase (f a)).run s
  rw [EStateM.run_bind]
  change (match x s with
    | (l, .ok a s') => (l ++ log (f a) s', (erase (f a)).run s')
    | (l, .error e s') => (l, .error e s')).2 = _
  rcases h : x s with ⟨l, r⟩
  cases r <;> simp [erase, EStateM.run, h]

@[simp] theorem erase_ite (c : Prop) [Decidable c] (x y : Logging ε σ ι α) :
    erase (if c then x else y) = if c then erase x else erase y :=
  apply_ite erase c x y

def Confined (P : ι → Prop) (x : Logging ε σ ι α) (s : σ) : Prop := ∀ i ∈ log x s, P i

variable {P : ι → Prop} {s : σ}

@[simp] theorem confined_pure (a : α) : Confined P (pure a : Logging ε σ ι α) s := by
  intro i hi
  cases hi

@[simp] theorem confined_lift (x : EStateM ε σ α) : Confined P (liftM x : Logging ε σ ι α) s := by
  intro i hi
  cases hi

@[simp] theorem confined_get : Confined P (get : Logging ε σ ι σ) s := by
  intro i hi
  cases hi

@[simp] theorem confined_modify (f : σ → σ) : Confined P (modify f : Logging ε σ ι PUnit) s := by
  intro i hi
  cases hi

@[simp] theorem confined_note (l : List ι) :
    Confined P (note l : Logging ε σ ι Unit) s ↔ ∀ i ∈ l, P i := Iff.rfl

theorem confined_bind (x : Logging ε σ ι α) (f : α → Logging ε σ ι β) :
    Confined P (x >>= f) s ↔
      Confined P x s ∧ ∀ a s', (erase x).run s = .ok a s' → Confined P (f a) s' := by
  have hlog : log (x >>= f) s = log x s ++
      match (erase x).run s with
      | .ok a s' => log (f a) s'
      | .error _ _ => [] := by
    change (match x s with
      | (l, .ok a s') => (l ++ log (f a) s', (erase (f a)).run s')
      | (l, .error e s') => (l, .error e s')).1 = _
    rcases h : x s with ⟨l, r⟩
    cases r <;> simp [erase, log, EStateM.run, h]
  simp only [Confined, hlog, List.mem_append, or_imp, forall_and]
  apply and_congr_right
  intro _
  cases (erase x).run s with
  | ok a s' =>
      constructor
      · rintro h _ _ ⟨⟩
        exact h
      · intro h
        exact h a s' rfl
  | error e s' => simp

/-- From every state, `x` accesses `l` and returns a value that the state determines,
and the state is left as it is. -/
def Reads (x : Logging ε σ ι α) (l : List ι) (v : σ → α) : Prop := ∀ s, x s = (l, .ok (v s) s)

variable {x : Logging ε σ ι α} {f : α → Logging ε σ ι β} {l l' : List ι} {v : σ → α}

theorem reads_pure (a : α) : Reads (pure a : Logging ε σ ι α) [] (fun _ => a) := fun _ => rfl

theorem reads_get : Reads (get : Logging ε σ ι σ) [] id := fun _ => rfl

theorem reads_note (l : List ι) : Reads (note l : Logging ε σ ι Unit) l (fun _ => ()) := fun _ => rfl

theorem Reads.bind {w : α → σ → β} (hx : Reads x l v) (hf : ∀ a, Reads (f a) l' (w a)) :
    Reads (x >>= f) (l ++ l') (fun s => w (v s) s) := by
  intro s
  change (match x s with
    | (l, .ok a s') => (l ++ log (f a) s', (erase (f a)).run s')
    | (l, .error e s') => (l, .error e s')) = _
  rw [hx s]
  simp only [log, erase, EStateM.run, hf (v s) s]

theorem Reads.bind_pure (hx : Reads x l v) (g : α → β) :
    Reads (x >>= fun a => pure (g a)) l (fun s => g (v s)) := by
  have hall := hx.bind (fun a => reads_pure (g a))
  rwa [List.append_nil] at hall

theorem Reads.log_eq (hx : Reads x l v) (s : σ) : log x s = l := congrArg Prod.fst (hx s)

theorem Reads.run_eq (hx : Reads x l v) (s : σ) : (erase x).run s = .ok (v s) s := congrArg Prod.snd (hx s)

end Ocxxr.AccessLog

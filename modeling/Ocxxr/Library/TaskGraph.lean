import Mathlib.Logic.Function.Basic
import Mathlib.Data.List.Basic
import Mathlib.Data.Set.Insert

namespace Ocxxr.TaskGraph

structure Signature where
  Name : Type
  Content : Type
  Params : Type
  Code : Type
  Error : Type
  Output : Type

/-- What a new task's slot is given: nothing yet, the null object, or an object. -/
inductive Source (Name : Type)
  | later
  | null
  | object (name : Name)

inductive Call (S : Signature)
  | createBlock
  | load (d : S.Name)
  | store (d : S.Name) (v : S.Content)
  | release (d : S.Name)
  | destroyBlock (d : S.Name)
  | createEvent
  | satisfy (e : S.Name) (payload : Option S.Name)
  | createTemplate (code : S.Code)
  | destroyTemplate (g : S.Name)
  | createTask (template : S.Name) (params : S.Params) (sources : List (Source S.Name)) (output : Bool)
  | attach (task : S.Name) (j : Nat) (source : Source S.Name)
  | draw
  | print (o : S.Output)
  | stop

@[reducible] def Call.Answer {S : Signature} : Call S → Type
  | createBlock | createEvent | createTemplate _ => S.Name
  | load _ => S.Content
  | createTask _ _ _ _ => S.Name × Option S.Name
  | draw => Bool
  | store _ _ | release _ | destroyBlock _ | satisfy _ _ => Unit
  | destroyTemplate _ | attach _ _ _ | print _ | stop => Unit

/-- The code of a task, as a tree of calls. -/
inductive Prog (S : Signature) (α : Type)
  | pure (a : α)
  | fail (e : S.Error)
  | call (c : Call S) (next : c.Answer → Prog S α)

variable {S : Signature} {α β : Type}

namespace Prog

def bind : Prog S α → (α → Prog S β) → Prog S β
  | pure a, f => f a
  | fail e, _ => fail e
  | call c next, f => call c (fun answer => (next answer).bind f)

instance : Monad (Prog S) where
  pure := pure
  bind := bind

@[simp] theorem call_bind (c : Call S) (next : c.Answer → Prog S α) (f : α → Prog S β) :
    call c next >>= f = call c (fun answer => next answer >>= f) := rfl

end Prog

inductive Slot (Name : Type)
  | vacant
  | waiting (e : Name)
  | filled (payload : Option Name)

/-- A block, and the task that has written to it since it was released last. -/
structure Block (S : Signature) where
  content : S.Content
  writer : Option S.Name

inductive Task (S : Signature) (C : Type := Prog S (Option S.Name))
  | pending (code : S.Code) (params : S.Params) (slots : List (Slot S.Name))
  | running (rest : C)

/-- What there is to see of a runtime: its objects, the names that it has given to any, and
what is printed. -/
structure World (S : Signature) (C : Type := Prog S (Option S.Name)) where
  blocks : S.Name → Option (Block S)
  events : S.Name → Bool
  templates : S.Name → Option S.Code
  tasks : S.Name → Option (Task S C)
  used : Set S.Name
  printed : List S.Output
  stopped : Bool

/-- What a task runs that is made from a template, on its parameters and what its slots
were given. -/
abbrev Body (S : Signature) := S.Name → S.Code → S.Params → List (Option S.Name) → Prog S (Option S.Name)

variable {C : Type} [DecidableEq S.Name]

def Block.release (b : Block S) (t : S.Name) : Block S :=
  if b.writer = some t then { b with writer := none } else b

theorem Block.release_own {b : Block S} {t : S.Name} (h : b.writer = some t) :
    b.release t = ⟨b.content, none⟩ := if_pos h

theorem Block.release_other {b : Block S} {t : S.Name} (h : b.writer ≠ some t) : b.release t = b := if_neg h

def Slot.receive (e : S.Name) (payload : Option S.Name) : Slot S.Name → Slot S.Name
  | waiting e' => if e' = e then filled payload else waiting e'
  | slot => slot

def Slot.payload {Name : Type} : Slot Name → Option (Option Name)
  | filled payload => some payload
  | _ => none

def Task.receive (e : S.Name) (payload : Option S.Name) : Task S C → Task S C
  | pending code params slots => pending code params (slots.map (Slot.receive e payload))
  | running rest => running rest

namespace World

variable (w : World S C)

def setBlock (d : S.Name) (b : Option (Block S)) : World S C := { w with blocks := Function.update w.blocks d b }

def setTask (t : S.Name) (task : Option (Task S C)) : World S C :=
  { w with tasks := Function.update w.tasks t task }

def setTemplate (g : S.Name) (code : Option S.Code) : World S C :=
  { w with templates := Function.update w.templates g code }

def use (name : S.Name) : World S C := { w with used := insert name w.used }

def addEvent (e : S.Name) : World S C := { w with events := Function.update w.events e true }

/-- An event goes off once, and is gone with that. -/
def fire (e : S.Name) (payload : Option S.Name) : World S C :=
  { w with
    events := Function.update w.events e false
    tasks := fun t => (w.tasks t).map (Task.receive e payload) }

/-- How a slot starts with a source: none if the source names nothing. -/
def place : Source S.Name → Option (Slot S.Name)
  | .later => some .vacant
  | .null => some (.filled none)
  | .object g =>
      if w.events g then some (.waiting g) else if (w.blocks g).isSome then some (.filled (some g)) else none

def slot (t : S.Name) (j : Nat) : Option (Slot S.Name) :=
  match w.tasks t with
  | some (.pending _ _ slots) => slots[j]?
  | _ => none

def setSlot (t : S.Name) (j : Nat) (s : Slot S.Name) : World S C :=
  match w.tasks t with
  | some (.pending code params slots) => w.setTask t (some (.pending code params (slots.set j s)))
  | _ => w

/-- The end of a task releases what it has written. -/
def settle (t : S.Name) : World S C := { w with blocks := fun d => (w.blocks d).map (fun b => b.release t) }

def begin (main args : S.Name) (code : S.Code) (params : S.Params) (v : S.Content) (used : Set S.Name) :
    World S C where
  blocks := Function.update (fun _ => none) args (some ⟨v, none⟩)
  events := fun _ => false
  templates := fun _ => none
  tasks := Function.update (fun _ => none) main (some (.pending code params [.filled (some args)]))
  used := used
  printed := []
  stopped := false

end World

theorem tasks_setTask_self (w : World S C) (t : S.Name) (task : Option (Task S C)) :
    (w.setTask t task).tasks t = task :=
  Function.update_self _ _ _

theorem tasks_setTask_other (w : World S C) {t u : S.Name} (h : u ≠ t) (task : Option (Task S C)) :
    (w.setTask t task).tasks u = w.tasks u :=
  Function.update_of_ne h _ _

section Begin

variable {main args u : S.Name} {code : S.Code} {params : S.Params} {v : S.Content} {used : Set S.Name}

theorem tasks_begin_main : (World.begin main args code params v used : World S C).tasks main =
    some (.pending code params [.filled (some args)]) := by
  simp [World.begin]

theorem tasks_begin_other (hu : u ≠ main) : (World.begin main args code params v used : World S C).tasks u =
    none := by
  simp [World.begin, hu]

end Begin

/-- What the call names is there. No task here asks for an event that its end satisfies. -/
def Valid (w : World S C) : Call S → Prop
  | .load d | .store d _ | .release d | .destroyBlock d => (w.blocks d).isSome
  | .satisfy e payload => w.events e = true ∧ ∀ d, payload = some d → (w.blocks d).isSome
  | .destroyTemplate g => (w.templates g).isSome
  | .createTask g _ sources output => output = false ∧ (w.templates g).isSome ∧ (sources.mapM w.place).isSome
  | .attach u j source => w.slot u j = some .vacant ∧ (w.place source).isSome
  | .createBlock | .createEvent | .createTemplate _ | .draw | .print _ | .stop => True

end Ocxxr.TaskGraph

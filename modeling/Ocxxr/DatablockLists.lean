import Ocxxr.AcquiredData

namespace Ocxxr.DatablockLists

open Ocr AcquiredData

/-- `data` is the storage owned; a list without storage owns none. -/
structure DatablockList (G : Type) where
  capacity : Nat
  count : Nat
  data : List (Datablock G)

variable {G σ : Type}

def ofSize [OcrGuid G] (size : Nat) : DatablockList G where
  capacity := size
  count := 0
  data := List.replicate size ⟨⟨nullGuid⟩, 0⟩

def move (other : DatablockList G) : DatablockList G × DatablockList G :=
  (other, { other with data := [] })

def index (list : DatablockList G) (i : Nat) : EStateM Fault σ (Datablock G) := do
  assert (i < list.capacity) .listIndex
  access list.data[i]?

def add (list : DatablockList G) (datablock : Datablock G) : EStateM Fault σ (DatablockList G) := do
  assert (list.count < list.capacity) .listOverflow
  let _ ← access list.data[list.count]?
  pure { list with data := list.data.set list.count datablock, count := list.count + 1 }

def elements (list : DatablockList G) : List (Datablock G) := list.data.take list.count

/-- What a caller does through the reference that `operator[]` returns. -/
def update (body : Datablock G → Datablock G) (list : DatablockList G) (i : Nat) :
    EStateM Fault σ (DatablockList G) := do
  let datablock ← index list i
  pure { list with data := list.data.set i (body datablock) }

def visit (body : Datablock G → Datablock G) (list : DatablockList G) (i : Nat) :
    EStateM Fault σ (DatablockList G) := do
  let datablock ← access list.data[i]?
  pure { list with data := list.data.set i (body datablock) }

def forEach (body : Datablock G → Datablock G) (list : DatablockList G) :
    EStateM Fault σ (DatablockList G) :=
  (List.range list.count).foldlM (visit body) list

end Ocxxr.DatablockLists

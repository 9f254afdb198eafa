import Ocxxr.AcquiredData
import Ocxxr.AllocatorSpec

namespace Ocxxr.ArenaCalls

open Ocr Allocator AllocatorSpec TaskState AcquiredData

variable {G : Type}

inductive Entry
  | new
  | newArray (count : BitVec 64)

def Entry.count : Entry → BitVec 64
  | new => 1
  | newArray count => count

def Entry.perform (entry : Entry) (alloc : DatablockAllocator) (sizeofT : BitVec 64)
    (construct : Int → ThreadM G Unit) : ThreadM G Int :=
  match entry with
  | new => newIn alloc sizeofT construct
  | newArray count => newArrayIn alloc sizeofT count construct

/-- What is left of the call once it has its block: the constructors, one object after
the other. -/
def constructAt (p : Int) (sizeofT count : BitVec 64) (construct : Int → ThreadM G Unit) : ThreadM G Int := do
  forM (List.range count.toNat) (fun (i : Nat) => construct (p + i * sizeofT.toNat))
  pure p

variable {alloc : DatablockAllocator} {sizeofT : BitVec 64} {thread : Thread G} {headers : Headers}

theorem perform_eq (entry : Entry) (alloc : DatablockAllocator) (sizeofT : BitVec 64)
    (construct : Int → ThreadM G Unit) : entry.perform alloc sizeofT construct = (do
      let start ← inMemory (alloc.allocate sizeofT entry.count)
      constructAt (alloc.dbPtr + start.toInt) sizeofT entry.count construct) := by
  cases entry with
  | new => exact newIn_eq (fun size count => inMemory (alloc.allocate size count)) alloc.dbPtr sizeofT construct
  | newArray count => rfl

theorem perform_allocated (entry : Entry) {start : BitVec 64}
    (h : (alloc.allocate sizeofT entry.count).run thread.headers = .ok start headers)
    (construct : Int → ThreadM G Unit) : (entry.perform alloc sizeofT construct).run thread =
      (constructAt (alloc.dbPtr + start.toInt) sizeofT entry.count construct).run
        { thread with headers := headers } := by
  rw [perform_eq, EStateM.run_bind, inMemory_ok.mpr ⟨headers, h, rfl⟩]

theorem perform_ok {entry : Entry} {construct : Int → ThreadM G Unit} {p : Int} {thread' : Thread G} :
    (entry.perform alloc sizeofT construct).run thread = .ok p thread' ↔ ∃ start headers,
      (alloc.allocate sizeofT entry.count).run thread.headers = .ok start headers ∧
        (constructAt (alloc.dbPtr + start.toInt) sizeofT entry.count construct).run
          { thread with headers := headers } =
          .ok p thread' := by
  rw [perform_eq, run_bind_ok]
  constructor
  · rintro ⟨start, _, hmem, hconstruct⟩
    obtain ⟨headers, hallocate, rfl⟩ := inMemory_ok.mp hmem
    exact ⟨start, headers, hallocate, hconstruct⟩
  · rintro ⟨start, headers, hallocate, hconstruct⟩
    exact ⟨start, _, inMemory_ok.mpr ⟨headers, hallocate, rfl⟩, hconstruct⟩

theorem perform_refused (entry : Entry) {e : Fault}
    (h : (alloc.allocate sizeofT entry.count).run thread.headers = .error e headers)
    (construct : Int → ThreadM G Unit) : (entry.perform alloc sizeofT construct).run thread =
      .error e { thread with headers := headers } := by
  have herror : (inMemory (alloc.allocate sizeofT entry.count)).run thread =
      .error e { thread with headers := headers } := by
    simp only [inMemory, EStateM.run] at h ⊢
    rw [h]
  rw [perform_eq, EStateM.run_bind, herror]

theorem constructAt_ok {p q : Int} {count : BitVec 64} {construct : Int → ThreadM G Unit} {thread' : Thread G}
    (h : (constructAt p sizeofT count construct).run thread = .ok q thread') : q = p := by
  obtain ⟨_, _, _, hq⟩ := run_bind_ok.mp h
  cases hq
  rfl

theorem constructAt_scalar (p : Int) (sizeofT count : BitVec 64) :
    (constructAt p sizeofT count (fun _ => pure ())).run thread = .ok p thread := by
  have hloop : ∀ l : List Nat, (forM l (fun _ => (pure () : ThreadM G Unit))).run thread = .ok () thread := by
    intro l
    induction l with
    | nil => rfl
    | cons i l ih => simpa only [List.forM_cons, pure_bind] using ih
  rw [constructAt, EStateM.run_bind]
  simp only [hloop, EStateM.run_pure]

end Ocxxr.ArenaCalls

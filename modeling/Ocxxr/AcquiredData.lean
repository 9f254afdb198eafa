import Ocxxr.TaskState

namespace Ocxxr.AcquiredData

open Ocr SortedSearch Bookkeeping Allocator TaskState

structure DbRequest where
  bytes : BitVec 64
  acquire : Bool
  deriving DecidableEq, Repr

structure DbAnswer (G : Type) where
  status : Nat
  guid : G
  ptr : Int

/-- The answers of the runtime to the datablock calls that one operation makes. -/
structure OcrDb (G : Type) where
  ocrDbCreate : DbRequest → DbAnswer G
  ocrDbRelease : G → Nat
  ocrDbDestroy : G → Nat

structure DatablockHandle (G : Type) where
  guid : G

structure Datablock (G : Type) where
  handle : DatablockHandle G
  dataPtr : Int

structure Arena (G : Type) where
  handle : DatablockHandle G
  state : Int

/-- `sizeof(ArenaState<T>)`: the header and nothing else, whatever the root type. -/
def sizeofArenaState : BitVec 64 := 16

/-- `sizeof(internal::SizeOf<T>)`: an empty class, not its `Value`. -/
def sizeofSizeOf : BitVec 64 := 1

variable {G : Type} [OcrGuid G] (std : StdAlgorithms (DbPair G)) (ocr : OcrDb G)

def ok (status : Nat) : ThreadM G Unit := assert (status = 0) .callFailed

namespace DatablockHandle

def init (bytes : BitVec 64) (acquire : Bool) : ThreadM G (G × Int) := do
  let answer := ocr.ocrDbCreate ⟨bytes, acquire⟩
  ok answer.status
  if acquire then
    inTask (addDatablock std answer.guid answer.ptr)
  pure (answer.guid, answer.ptr)

omit [OcrGuid G] in
def destroy (handle : DatablockHandle G) : ThreadM G Unit := ok (ocr.ocrDbDestroy handle.guid)

end DatablockHandle

namespace Datablock

def ofDep (dep : OcrEdtDep G) : ThreadM G (Datablock G) := do
  inTask (addDatablock std dep.guid dep.ptr)
  pure ⟨⟨dep.guid⟩, dep.ptr⟩

def create (sizeofT count : BitVec 64) : ThreadM G (Datablock G) := do
  let (guid, ptr) ← DatablockHandle.init std ocr (sizeofT * count) true
  pure ⟨⟨guid⟩, ptr⟩

def release (db : Datablock G) : ThreadM G Unit := do
  ok (ocr.ocrDbRelease db.handle.guid)
  inTask (removeDatablock std db.handle.guid)

omit [OcrGuid G] in
def destroy (db : Datablock G) : ThreadM G Unit := db.handle.destroy ocr

end Datablock

namespace Arena

def ofDep (dep : OcrEdtDep G) : ThreadM G (Arena G) := do
  inTask (addDatablock std dep.guid dep.ptr)
  pure ⟨⟨dep.guid⟩, dep.ptr⟩

/-- The handle's constructor takes `bytes + sizeof(ArenaState<T>)` as a count of states. -/
def create (bytes : BitVec 64) : ThreadM G (Arena G) := do
  let (guid, state) ← DatablockHandle.init std ocr (sizeofArenaState * (bytes + sizeofArenaState)) true
  assert (sizeofSizeOf ≤ bytes) .arenaRootTooBig
  inMemory (allocatorDbInit state bytes)
  pure ⟨⟨guid⟩, state⟩

omit [OcrGuid G] in
def release (arena : Arena G) : ThreadM G Unit := ok (ocr.ocrDbRelease arena.handle.guid)

end Arena

def newIn (arena : DatablockAllocator) (sizeofT : BitVec 64) (construct : Int → ThreadM G Unit) : ThreadM G Int :=
  Allocator.newIn (fun size count => inMemory (arena.allocate size count)) arena.dbPtr sizeofT construct

def newArrayIn (arena : DatablockAllocator) (sizeofT count : BitVec 64) (init : Int → ThreadM G Unit) :
    ThreadM G Int :=
  Allocator.newArrayIn (fun size count => inMemory (arena.allocate size count)) arena.dbPtr sizeofT count init

def new (sizeofT : BitVec 64) (construct : Int → ThreadM G Unit) : ThreadM G Int := do
  let arena ← allocatorGet
  newIn arena sizeofT construct

def newArray (sizeofT count : BitVec 64) (init : Int → ThreadM G Unit) : ThreadM G Int := do
  let arena ← allocatorGet
  newArrayIn arena sizeofT count init

def Arena.new (arena : Arena G) (sizeofU : BitVec 64) (construct : Int → ThreadM G Unit) : ThreadM G Int :=
  newIn ⟨arena.state⟩ sizeofU construct

def Arena.newArray (arena : Arena G) (sizeofU count : BitVec 64) (init : Int → ThreadM G Unit) :
    ThreadM G Int :=
  newArrayIn ⟨arena.state⟩ sizeofU count init

def setImplicitArena (arena : Arena G) : ThreadM G Unit := allocatorSetDb arena.state

end Ocxxr.AcquiredData

import Ocxxr.Ocr

namespace Ocxxr.Allocator

open Ocr

structure DbArenaHeader where
  size : BitVec 64
  offset : BitVec 64
  deriving DecidableEq, Repr

def sizeofDbArenaHeader : BitVec 64 := 16

structure AllocatorState where
  offset : BitVec 64
  deriving DecidableEq, Repr

/-- `m_dbBuf` and `m_info` are one and the same address; the default allocator is null. -/
structure DatablockAllocator where
  dbPtr : Int
  deriving DecidableEq, Repr

abbrev Headers := Int → Option DbArenaHeader

abbrev ArenaM := EStateM Fault Headers

def info (dbPtr : Int) : ArenaM DbArenaHeader := do
  let headers ← get
  access (if dbPtr = 0 then none else headers dbPtr)

def setInfo (dbPtr : Int) (header : DbArenaHeader) : ArenaM Unit :=
  modify (fun headers => Function.update headers dbPtr (some header))

def allocatorDbInit (dbPtr : Int) (dbSize : BitVec 64) : ArenaM Unit := do
  assert (sizeofDbArenaHeader ≤ dbSize) .datablockTooSmall
  if dbPtr = 0 then
    throw .invalidAccess
  else
    setInfo dbPtr ⟨dbSize, sizeofDbArenaHeader⟩

namespace DatablockAllocator

def null : DatablockAllocator := ⟨0⟩

def saveState (arena : DatablockAllocator) : ArenaM AllocatorState := do
  let header ← info arena.dbPtr
  pure ⟨header.offset⟩

def restoreState (arena : DatablockAllocator) (state : AllocatorState) : ArenaM Unit := do
  let header ← info arena.dbPtr
  setInfo arena.dbPtr { header with offset := state.offset }

/-- Returns the offset of the block in the datablock, from which the pointer returned
is computed. -/
def allocateAligned (arena : DatablockAllocator) (size alignment : BitVec 64) : ArenaM (BitVec 64) := do
  assert (arena.dbPtr ≠ 0) .uninitializedAllocator
  let header ← info arena.dbPtr
  let offset := header.offset
  let start := (offset + alignment - 1) &&& (-alignment)
  setInfo arena.dbPtr { header with offset := start + size }
  assert ((start + size).sle header.size) .allocatorOverflow
  pure start

def allocate (arena : DatablockAllocator) (size count : BitVec 64) : ArenaM (BitVec 64) := do
  assert (0 < size) .sizeNotPositive
  if size = 1 then
    arena.allocateAligned (1 * count) 1
  else if size ≤ 4 then
    arena.allocateAligned (size * count) 4
  else if size ≤ 8 then
    arena.allocateAligned (size * count) 8
  else
    arena.allocateAligned (size * count) 16

end DatablockAllocator

section NewIn

variable {m : Type → Type} [Monad m] (allocate : BitVec 64 → BitVec 64 → m (BitVec 64)) (dbPtr : Int)

def newIn (sizeofT : BitVec 64) (construct : Int → m Unit) : m Int := do
  let mem ← allocate sizeofT 1
  construct (dbPtr + mem.toInt)
  pure (dbPtr + mem.toInt)

/-- `NewArrayIn`: `init` is `TypeInitializer<T>::init`, which does nothing for scalars. -/
def newArrayIn (sizeofT count : BitVec 64) (init : Int → m Unit) : m Int := do
  let data ← allocate sizeofT count
  forM (List.range count.toNat) (fun (i : Nat) => init (dbPtr + data.toInt + i * sizeofT.toNat))
  pure (dbPtr + data.toInt)

theorem newIn_eq [LawfulMonad m] (sizeofT : BitVec 64) (construct : Int → m Unit) :
    newIn allocate dbPtr sizeofT construct = newArrayIn allocate dbPtr sizeofT 1 construct := by
  simp [newIn, newArrayIn]

end NewIn

end Ocxxr.Allocator

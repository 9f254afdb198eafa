import Ocxxr.Ocr
import Ocxxr.Library.ByteMemory

namespace Ocxxr.RelativePointer

open Ocr ByteMemory

/-- The contents of a `RelPtr` cell. The cell's own address is no part of them. -/
structure RelPtr where
  offset : Int
  deriving DecidableEq, Repr

variable {σ : Type}

def uninitialized : RelPtr := ⟨1⟩

def get (this : Int) (cell : RelPtr) : EStateM Fault σ Int := do
  assert (cell.offset ≠ 1) .relPtrUninitialized
  if cell.offset = 0 then
    pure 0
  else
    pure (this + cell.offset)

def set (this other : Int) : RelPtr := if other = 0 then ⟨0⟩ else ⟨other - this⟩

def setCell (this source : Int) (other : RelPtr) : EStateM Fault σ RelPtr := do
  let target ← get source other
  pure (set this target)

/-- `get()[index]`, with the index converted to `int`. -/
def element (target index : Int) (sizeofT : Nat) : Int := target + (BitVec.ofInt 32 index).toInt * sizeofT

def sizeofRelPtr : Nat := 8

def loadCell (mem : Memory) (this : Int) : RelPtr := ⟨(BitVec.ofNat 64 (load mem this sizeofRelPtr)).toInt⟩

def storeCell (mem : Memory) (this : Int) (cell : RelPtr) : Memory :=
  store mem this sizeofRelPtr (BitVec.ofInt 64 cell.offset).toNat

theorem loadCell_storeCell (mem : Memory) (this : Int) {cell : RelPtr} (hlo : -2 ^ 63 ≤ cell.offset)
    (hhi : cell.offset < 2 ^ 63) : loadCell (storeCell mem this cell) this = cell := by
  have hlt : (BitVec.ofInt 64 cell.offset).toNat % 256 ^ sizeofRelPtr = (BitVec.ofInt 64 cell.offset).toNat :=
    Nat.mod_eq_of_lt (BitVec.ofInt 64 cell.offset).isLt
  rw [loadCell, storeCell, load_store, hlt, BitVec.ofNat_toNat, BitVec.setWidth_eq]
  obtain ⟨offset⟩ := cell
  congr 1
  exact BitVec.toInt_ofInt_eq_self (by omega) hlo hhi

theorem get_uninitialized (this : Int) (s : σ) :
    (get this uninitialized).run s = .error (.assertion .relPtrUninitialized) s := rfl

theorem get_null (this : Int) (s : σ) : (get this ⟨0⟩).run s = .ok 0 s := rfl

theorem get_offset {this offset : Int} (h0 : offset ≠ 0) (h1 : offset ≠ 1) (s : σ) :
    (get this ⟨offset⟩).run s = .ok (this + offset) s := by
  simp [get, h0, h1]

/-- What a cell gives back: its own address reads as null, and the one behind it as no
initialised pointer. -/
theorem get_set (this other : Int) (s : σ) : (get this (set this other)).run s =
    if other = 0 ∨ other = this then .ok 0 s
    else if other = this + 1 then .error (.assertion .relPtrUninitialized) s
    else .ok other s := by
  by_cases h0 : other = 0
  · simp [set, h0, get_null]
  have hset : set this other = ⟨other - this⟩ := if_neg h0
  by_cases hself : other = this
  · have hzero : (⟨other - this⟩ : RelPtr) = ⟨0⟩ := congrArg RelPtr.mk (by omega)
    rw [hset, hzero, get_null, if_pos (.inr hself)]
  by_cases hnext : other = this + 1
  · have hone : (⟨other - this⟩ : RelPtr) = uninitialized := congrArg RelPtr.mk (by omega)
    rw [hset, hone, get_uninitialized, if_neg (by omega), if_pos hnext]
  · rw [hset, get_offset (by omega) (by omega), if_neg (by omega), if_neg hnext]
    congr 1
    omega

theorem get_set_iff {this : Int} (hpos : 0 < this) (other : Int) (s : σ) :
    (get this (set this other)).run s = .ok other s ↔ other ≠ this ∧ other ≠ this + 1 := by
  rw [get_set]
  split
  next h0 =>
    constructor
    · intro h
      injection h with hv _
      omega
    · rintro ⟨hself, -⟩
      rw [h0.resolve_right hself]
  split
  next hnext => exact iff_of_false nofun (fun h => h.2 hnext)
  next h0 hnext => exact iff_of_true rfl ⟨fun hself => h0 (.inr hself), hnext⟩

end Ocxxr.RelativePointer

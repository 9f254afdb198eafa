import Ocxxr.AllocatorSpec
import Ocxxr.Library.BumpRegion
import Mathlib.Data.Int.ConditionallyCompleteOrder
import Mathlib.Order.ConditionallyCompleteLattice.Basic

namespace Ocxxr.ArenaRegion

open Ocr Allocator AllocatorSpec AlignedWords BumpRegion

def blockAt (start size count : BitVec 64) : Block Int :=
  ⟨start.toInt, start.toInt + size.toNat * count.toNat⟩

structure Agrees (a : Int) (dbSize : BitVec 64) (headers : Headers) (r : Region Int) : Prop where
  header : ∃ header, headers a = some header ∧ header.size = dbSize ∧ header.offset.toInt = r.top
  sound : r.Sound sizeofDbArenaHeader.toInt dbSize.toInt

variable {a : Int} {dbSize : BitVec 64} {headers headers' : Headers} {r : Region Int}
  {alloc : DatablockAllocator}

theorem agrees_congr (h : Agrees a dbSize headers r) (he : headers' a = headers a) : Agrees a dbSize headers' r :=
  ⟨he ▸ h.header, h.sound⟩

theorem fresh_agrees (hinit : (allocatorDbInit a dbSize).run headers = .ok () headers') :
    Agrees a dbSize headers' (.fresh sizeofDbArenaHeader.toInt) := by
  obtain ⟨_, _, rfl⟩ := allocatorDbInit_ok.mp hinit
  exact ⟨⟨_, Function.update_self _ _ _, rfl, rfl⟩, Region.fresh_sound _ _⟩

theorem allocate_elsewhere {size count start : BitVec 64} (hne : alloc.dbPtr ≠ a)
    (hr : (alloc.allocate size count).run headers = .ok start headers') : headers' a = headers a := by
  obtain ⟨_, header, _, _, _, rfl⟩ := allocateAligned_ok.mp (allocate_ok.mp hr).2
  exact Function.update_of_ne hne.symm _ _

theorem allocate_agrees (h : Agrees a dbSize headers r) {size count start : BitVec 64} (ha : alloc.dbPtr = a)
    (hr : (alloc.allocate size count).run headers = .ok start headers')
    (hin : ∀ header, headers a = some header → InRange header size count) :
    Agrees a dbSize headers' (r.push (blockAt start size count)) := by
  obtain ⟨header, hheader, hsize, htop⟩ := h.header
  obtain ⟨_, header', hheader', hstart, hle, rfl⟩ := allocateAligned_ok.mp (allocate_ok.mp hr).2
  rw [ha, hheader] at hheader'
  cases hheader'
  have hfloor : (0 : Int) ≤ header.offset.toInt := by
    rw [htop]
    exact le_trans (by decide) h.sound.packed.floor_le
  obtain ⟨hlo, hnext⟩ := start_of_inRange (hin header hheader) hfloor
  rw [← hstart] at hlo hnext
  have hceiling : (blockAt start size count).hi ≤ dbSize.toInt := by
    rw [blockAt, ← hnext, ← hsize]
    simpa [BitVec.sle] using hle
  refine ⟨⟨{ header with offset := start + size * count }, ?_, hsize, hnext⟩, ?_⟩
  · rw [ha]
    exact Function.update_self _ _ _
  · refine Region.push_sound h.sound (htop ▸ hlo) ?_ hceiling
    exact Int.le_add_of_nonneg_right (Int.mul_nonneg (Int.natCast_nonneg _) (Int.natCast_nonneg _))

theorem saveState_agrees (h : Agrees a dbSize headers r) {state : AllocatorState} (ha : alloc.dbPtr = a)
    (hr : alloc.saveState.run headers = .ok state headers') :
    state.offset.toInt = r.top ∧ Agrees a dbSize headers' r.mark := by
  obtain ⟨header, hheader, hsize, htop⟩ := h.header
  obtain ⟨_, ⟨header', hheader', rfl⟩, rfl⟩ := saveState_ok.mp hr
  rw [ha, hheader] at hheader'
  cases hheader'
  exact ⟨htop, ⟨header, hheader, hsize, htop⟩, Region.mark_sound h.sound⟩

theorem restoreState_elsewhere {state : AllocatorState} (hne : alloc.dbPtr ≠ a)
    (hr : (alloc.restoreState state).run headers = .ok () headers') : headers' a = headers a := by
  obtain ⟨_, header, _, rfl⟩ := restoreState_ok.mp hr
  exact Function.update_of_ne hne.symm _ _

theorem restoreState_agrees (h : Agrees a dbSize headers r) {state : AllocatorState} (ha : alloc.dbPtr = a)
    (hr : (alloc.restoreState state).run headers = .ok () headers')
    (hlifo : r.marks.head?.map Prod.fst = some state.offset.toInt) : Agrees a dbSize headers' r.rollback := by
  obtain ⟨header, hheader, hsize, -⟩ := h.header
  obtain ⟨_, header', hheader', rfl⟩ := restoreState_ok.mp hr
  rw [ha, hheader] at hheader'
  cases hheader'
  refine ⟨⟨{ header with offset := state.offset }, ?_, hsize, ?_⟩, Region.rollback_sound h.sound⟩
  · rw [ha]
    exact Function.update_self _ _ _
  · obtain ⟨top, live, marks⟩ := r
    cases marks with
    | nil => simp at hlifo
    | cons m marks => simpa [Region.rollback, eq_comm] using hlifo

end Ocxxr.ArenaRegion

import Ocxxr.Allocator
import Ocxxr.Library.AlignedWords

namespace Ocxxr.AllocatorSpec

open Ocr Allocator AlignedWords

variable {headers headers' : Headers} {arena : DatablockAllocator}

theorem info_ok {dbPtr : Int} {header : DbArenaHeader} :
    (info dbPtr).run headers = .ok header headers' ↔
      dbPtr ≠ 0 ∧ headers dbPtr = some header ∧ headers' = headers := by
  by_cases h0 : dbPtr = 0
  · simp only [info, h0, run_bind_ok, if_true, ne_eq, not_true, false_and, iff_false]
    rintro ⟨_, _, _, h⟩
    cases h
  · cases hh : headers dbPtr <;> simp [info, h0, hh, eq_comm]

theorem setInfo_run (dbPtr : Int) (header : DbArenaHeader) :
    (setInfo dbPtr header).run headers = .ok () (Function.update headers dbPtr (some header)) := rfl

theorem allocatorDbInit_ok {dbPtr : Int} {dbSize : BitVec 64} :
    (allocatorDbInit dbPtr dbSize).run headers = .ok () headers' ↔
      sizeofDbArenaHeader ≤ dbSize ∧ dbPtr ≠ 0 ∧
        headers' = Function.update headers dbPtr (some ⟨dbSize, sizeofDbArenaHeader⟩) := by
  by_cases hs : sizeofDbArenaHeader ≤ dbSize <;> by_cases h0 : dbPtr = 0 <;>
    simp [allocatorDbInit, hs, h0, setInfo_run, eq_comm]

theorem saveState_ok {state : AllocatorState} :
    arena.saveState.run headers = .ok state headers' ↔
      arena.dbPtr ≠ 0 ∧ (∃ header, headers arena.dbPtr = some header ∧ state = ⟨header.offset⟩) ∧
        headers' = headers := by
  simp only [DatablockAllocator.saveState, run_bind_ok, info_ok]
  constructor
  · rintro ⟨header, _, ⟨h0, hh, rfl⟩, hp⟩
    cases hp
    exact ⟨h0, ⟨header, hh, rfl⟩, rfl⟩
  · rintro ⟨h0, ⟨header, hh, rfl⟩, rfl⟩
    exact ⟨header, headers', ⟨h0, hh, rfl⟩, rfl⟩

theorem restoreState_ok {state : AllocatorState} :
    (arena.restoreState state).run headers = .ok () headers' ↔
      arena.dbPtr ≠ 0 ∧ ∃ header, headers arena.dbPtr = some header ∧
        headers' = Function.update headers arena.dbPtr (some { header with offset := state.offset }) := by
  simp only [DatablockAllocator.restoreState, run_bind_ok, info_ok]
  constructor
  · rintro ⟨header, _, ⟨h0, hh, rfl⟩, hp⟩
    cases hp
    exact ⟨h0, header, hh, rfl⟩
  · rintro ⟨h0, header, hh, rfl⟩
    exact ⟨header, headers, ⟨h0, hh, rfl⟩, rfl⟩

theorem allocateAligned_ok {bytes alignment start : BitVec 64} :
    (arena.allocateAligned bytes alignment).run headers = .ok start headers' ↔
      arena.dbPtr ≠ 0 ∧ ∃ header, headers arena.dbPtr = some header ∧
        start = alignUp header.offset alignment ∧ (start + bytes).sle header.size = true ∧
        headers' = Function.update headers arena.dbPtr (some { header with offset := start + bytes }) := by
  simp only [DatablockAllocator.allocateAligned, run_bind_ok, run_assert_ok, info_ok, setInfo_run]
  constructor
  · rintro ⟨_, _, ⟨_, rfl⟩, header, _, ⟨h0, hh, rfl⟩, _, _, hset, _, _, ⟨hle, rfl⟩, hp⟩
    cases hset
    cases hp
    exact ⟨h0, header, hh, rfl, hle, rfl⟩
  · rintro ⟨h0, header, hh, rfl, hle, rfl⟩
    exact ⟨(), headers, ⟨by simpa using h0, rfl⟩, header, headers, ⟨h0, hh, rfl⟩, (), _, rfl, (), _,
      ⟨hle, rfl⟩, rfl⟩

theorem allocateAligned_run (h0 : arena.dbPtr ≠ 0) {header : DbArenaHeader}
    (hh : headers arena.dbPtr = some header) (bytes alignment : BitVec 64) :
    (arena.allocateAligned bytes alignment).run headers =
      if (alignUp header.offset alignment + bytes).sle header.size then
        .ok (alignUp header.offset alignment) (Function.update headers arena.dbPtr
          (some { header with offset := alignUp header.offset alignment + bytes }))
      else .error (.assertion .allocatorOverflow) (Function.update headers arena.dbPtr
        (some { header with offset := alignUp header.offset alignment + bytes })) := by
  have hinfo : (info arena.dbPtr).run headers = .ok header headers := info_ok.mpr ⟨h0, hh, rfl⟩
  have hne : decide (arena.dbPtr ≠ 0) = true := decide_eq_true h0
  have hstart : (header.offset + alignment - 1) &&& (-alignment) = alignUp header.offset alignment := rfl
  simp only [DatablockAllocator.allocateAligned, EStateM.run_bind, hne, run_assert_true, hinfo, hstart,
    setInfo_run]
  cases (alignUp header.offset alignment + bytes).sle header.size with
  | true => rfl
  | false => rfl

def alignmentFor (size : BitVec 64) : BitVec 64 :=
  if size = 1 then 1 else if size ≤ 4 then 4 else if size ≤ 8 then 8 else 16

theorem alignmentFor_twoPow (size : BitVec 64) : ∃ k, k ≤ 4 ∧ (alignmentFor size).toNat = 2 ^ k := by
  rw [alignmentFor]
  split
  · exact ⟨0, by omega, rfl⟩
  split
  · exact ⟨2, by omega, rfl⟩
  split
  · exact ⟨3, by omega, rfl⟩
  · exact ⟨4, by omega, rfl⟩

theorem allocate_eq (size count : BitVec 64) : arena.allocate size count =
    (do
      assert (0 < size) .sizeNotPositive
      arena.allocateAligned (size * count) (alignmentFor size)) := by
  rw [DatablockAllocator.allocate, alignmentFor]
  congr 1
  funext _
  split
  next h => rw [h]
  split
  next => rfl
  split
  next => rfl
  next => rfl

theorem allocate_ok {size count start : BitVec 64} :
    (arena.allocate size count).run headers = .ok start headers' ↔
      0 < size ∧ (arena.allocateAligned (size * count) (alignmentFor size)).run headers = .ok start headers' := by
  rw [allocate_eq, run_bind_ok]
  simp only [run_assert_ok, decide_eq_true_eq]
  constructor
  · rintro ⟨_, _, ⟨hs, rfl⟩, h⟩
    exact ⟨hs, h⟩
  · rintro ⟨hs, h⟩
    exact ⟨(), headers, ⟨hs, rfl⟩, h⟩

def nextOffset (header : DbArenaHeader) (size count : BitVec 64) : BitVec 64 :=
  alignUp header.offset (alignmentFor size) + size * count

theorem allocate_run (h0 : arena.dbPtr ≠ 0) {header : DbArenaHeader} (hh : headers arena.dbPtr = some header)
    {size : BitVec 64} (hs : 0 < size) (count : BitVec 64) :
    (arena.allocate size count).run headers =
      if (nextOffset header size count).sle header.size then
        .ok (alignUp header.offset (alignmentFor size))
          (Function.update headers arena.dbPtr (some { header with offset := nextOffset header size count }))
      else .error (.assertion .allocatorOverflow)
        (Function.update headers arena.dbPtr (some { header with offset := nextOffset header size count })) := by
  rw [allocate_eq, EStateM.run_bind, decide_eq_true hs, run_assert_true]
  exact allocateAligned_run h0 hh _ _

/-- No byte count and no offset of the request leaves the range of a signed word. -/
structure InRange (header : DbArenaHeader) (size count : BitVec 64) : Prop where
  bytes : size.toNat * count.toNat < 2 ^ 63
  rounded : header.offset.toInt + (alignmentFor size).toNat ≤ 2 ^ 63
  next : ceilTo (alignmentFor size).toNat header.offset.toNat + size.toNat * count.toNat < 2 ^ 63

theorem toInt_eq_toNat {x : BitVec 64} (h : 0 ≤ x.toInt) : x.toInt = x.toNat ∧ x.toNat < 2 ^ 63 := by
  have h' := BitVec.toInt_eq_toNat_cond x
  split at h' <;> omega

theorem toInt_of_lt {x : BitVec 64} (h : x.toNat < 2 ^ 63) : x.toInt = x.toNat := by
  have h' := BitVec.toInt_eq_toNat_cond x
  split at h' <;> omega

theorem alignmentFor_pos (size : BitVec 64) : 0 < (alignmentFor size).toNat := by
  obtain ⟨k, -, ha⟩ := alignmentFor_twoPow size
  rw [ha]
  exact Nat.two_pow_pos k

theorem alignmentFor_le (size : BitVec 64) : (alignmentFor size).toNat ≤ 16 := by
  obtain ⟨k, hk, ha⟩ := alignmentFor_twoPow size
  rw [ha]
  exact Nat.pow_le_pow_right (by omega) hk

theorem start_toNat {offset : BitVec 64} (h0 : 0 ≤ offset.toInt) (size : BitVec 64) :
    (alignUp offset (alignmentFor size)).toNat = ceilTo (alignmentFor size).toNat offset.toNat := by
  obtain ⟨k, hk, ha⟩ := alignmentFor_twoPow size
  have hoffset := (toInt_eq_toNat h0).2
  have hle := alignmentFor_le size
  exact alignUp_toNat (by omega) ha (by omega)

theorem start_toInt {offset size : BitVec 64} (h0 : 0 ≤ offset.toInt)
    (hlt : ceilTo (alignmentFor size).toNat offset.toNat < 2 ^ 63) :
    (alignUp offset (alignmentFor size)).toInt = ceilTo (alignmentFor size).toNat offset.toNat := by
  have hnat := start_toNat h0 size
  rw [toInt_of_lt (hnat ▸ hlt), hnat]

theorem start_of_inRange {header : DbArenaHeader} {size count : BitVec 64} (hr : InRange header size count)
    (h0 : 0 ≤ header.offset.toInt) :
    header.offset.toInt ≤ (alignUp header.offset (alignmentFor size)).toInt ∧
      (alignUp header.offset (alignmentFor size) + size * count).toInt =
        (alignUp header.offset (alignmentFor size)).toInt + size.toNat * count.toNat := by
  obtain ⟨hoff, -⟩ := toInt_eq_toNat h0
  have hnext := hr.next
  have hle := le_ceilTo (alignmentFor_pos size) header.offset.toNat
  have hstart := start_toInt h0 (Nat.lt_of_add_right_lt hnext)
  have hmul : (size * count).toNat = size.toNat * count.toNat := by
    rw [BitVec.toNat_mul, Nat.mod_eq_of_lt]
    exact hr.bytes.trans (by omega)
  have hsum : (alignUp header.offset (alignmentFor size) + size * count).toNat =
      ceilTo (alignmentFor size).toNat header.offset.toNat + size.toNat * count.toNat := by
    rw [BitVec.toNat_add, start_toNat h0, hmul, Nat.mod_eq_of_lt]
    exact hnext.trans (by omega)
  have hend := toInt_of_lt (hsum ▸ hnext)
  rw [hend, hstart, hsum, hoff]
  exact ⟨by exact_mod_cast hle, by push_cast; rfl⟩

end Ocxxr.AllocatorSpec

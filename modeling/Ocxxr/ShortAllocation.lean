import Ocxxr.ArenaCalls

namespace Ocxxr.ShortAllocation

open Ocr Allocator AllocatorSpec TaskState AcquiredData AlignedWords ArenaCalls

variable {G : Type}

def exactBytes (sizeofT count : BitVec 64) : Nat := sizeofT.toNat * count.toNat

def exactEnd (header : DbArenaHeader) (sizeofT count : BitVec 64) : Nat :=
  ceilTo (alignmentFor sizeofT).toNat header.offset.toNat + exactBytes sizeofT count

/-- The request is refused, or gets a block of its full length inside the datablock,
with the offset recorded right behind it. -/
def NeverShort (entry : Entry) (alloc : DatablockAllocator) (sizeofT : BitVec 64) (header : DbArenaHeader)
    (thread : Thread G) : Prop :=
  (∀ construct, ∃ thread', (entry.perform alloc sizeofT construct).run thread =
    .error (.assertion .allocatorOverflow) thread') ∨
  ∃ (start : Int) (offset : BitVec 64),
    header.offset.toInt ≤ start ∧ start ≤ header.size.toInt ∧
    start + exactBytes sizeofT entry.count ≤ header.size.toInt ∧
    offset.toInt = start + exactBytes sizeofT entry.count ∧
    ∀ construct, (entry.perform alloc sizeofT construct).run thread =
      (constructAt (alloc.dbPtr + start) sizeofT entry.count construct).run
        { thread with
          headers := Function.update thread.headers alloc.dbPtr (some { header with offset := offset }) }

/-- The exact end stays in the range of a signed word, or, taken modulo the range of a
word, comes to lie between the size and the sign bit. -/
def Caught (header : DbArenaHeader) (sizeofT count : BitVec 64) : Prop :=
  exactEnd header sizeofT count < 2 ^ 63 ∨
    ∃ k, header.size.toNat + k * 2 ^ 64 < exactEnd header sizeofT count ∧
      exactEnd header sizeofT count < 2 ^ 63 + k * 2 ^ 64

variable {entry : Entry} {alloc : DatablockAllocator} {sizeofT count : BitVec 64} {header : DbArenaHeader}
  {thread : Thread G}

theorem nextOffset_toNat (h0 : 0 ≤ header.offset.toInt) (sizeofT count : BitVec 64) :
    (nextOffset header sizeofT count).toNat = exactEnd header sizeofT count % 2 ^ 64 := by
  rw [nextOffset, BitVec.toNat_add, start_toNat h0, BitVec.toNat_mul, Nat.add_mod_mod, exactEnd, exactBytes]

theorem nextOffset_toInt (h0 : 0 ≤ header.offset.toInt) (hfit : exactEnd header sizeofT count < 2 ^ 63) :
    (nextOffset header sizeofT count).toInt = exactEnd header sizeofT count := by
  have hnat := nextOffset_toNat h0 sizeofT count
  rw [Nat.mod_eq_of_lt (by omega)] at hnat
  rw [toInt_of_lt (hnat ▸ hfit), hnat]

theorem overflow_iff (h0 : 0 ≤ header.offset.toInt) (hsize : 0 ≤ header.size.toInt) (sizeofT count : BitVec 64) :
    (nextOffset header sizeofT count).sle header.size = false ↔
      ∃ k, header.size.toNat + k * 2 ^ 64 < exactEnd header sizeofT count ∧
        exactEnd header sizeofT count < 2 ^ 63 + k * 2 ^ 64 := by
  have hnext := nextOffset_toNat h0 sizeofT count
  have hsigned := BitVec.toInt_eq_toNat_cond (nextOffset header sizeofT count)
  obtain ⟨hs, hlt⟩ := toInt_eq_toNat hsize
  have hdiv := Nat.div_add_mod (exactEnd header sizeofT count) (2 ^ 64)
  have hmod := Nat.mod_lt (exactEnd header sizeofT count) (Nat.two_pow_pos 64)
  rw [BitVec.sle, decide_eq_false_iff_not, not_le, hs]
  constructor
  · intro h
    refine ⟨exactEnd header sizeofT count / 2 ^ 64, ?_⟩
    split at hsigned <;> omega
  · rintro ⟨k, hlo, hhi⟩
    have hk : exactEnd header sizeofT count / 2 ^ 64 = k := by
      apply Nat.div_eq_of_lt_le <;> omega
    rw [hk] at hdiv
    split at hsigned <;> omega

theorem neverShort_of_caught (h0 : alloc.dbPtr ≠ 0) (hh : thread.headers alloc.dbPtr = some header)
    (hs : 0 < sizeofT) (hoffset : 0 ≤ header.offset.toInt) (hsize : header.offset.toInt ≤ header.size.toInt)
    (h : Caught header sizeofT entry.count) : NeverShort entry alloc sizeofT header thread := by
  have hrun := allocate_run h0 hh hs entry.count
  cases hle : (nextOffset header sizeofT entry.count).sle header.size with
  | false =>
      left
      intro construct
      rw [if_neg (by rw [hle]; decide)] at hrun
      exact ⟨_, perform_refused entry hrun construct⟩
  | true =>
      right
      have hfit : exactEnd header sizeofT entry.count < 2 ^ 63 := by
        rcases h with h | h
        · exact h
        · have hover := (overflow_iff hoffset (hoffset.trans hsize) sizeofT entry.count).mpr h
          rw [hle] at hover
          cases hover
      have hend := nextOffset_toInt hoffset hfit
      have hstart := start_toInt hoffset (Nat.lt_of_add_right_lt hfit)
      have hceil := le_ceilTo (alignmentFor_pos sizeofT) header.offset.toNat
      obtain ⟨hoff, -⟩ := toInt_eq_toNat hoffset
      have hbound : (nextOffset header sizeofT entry.count).toInt ≤ header.size.toInt := by
        simpa [BitVec.sle] using hle
      rw [if_pos hle] at hrun
      rw [hend, exactEnd] at hbound
      push_cast at hbound
      refine ⟨(alignUp header.offset (alignmentFor sizeofT)).toInt, nextOffset header sizeofT entry.count,
        by omega, by omega, by omega, by rw [hend, hstart, exactEnd]; push_cast; rfl, ?_⟩
      intro construct
      exact perform_allocated entry hrun construct

theorem caught_of_neverShort (h0 : alloc.dbPtr ≠ 0) (hh : thread.headers alloc.dbPtr = some header)
    (hs : 0 < sizeofT) (hoffset : 0 ≤ header.offset.toInt) (hsize : header.offset.toInt ≤ header.size.toInt)
    (h : NeverShort entry alloc sizeofT header thread) : Caught header sizeofT entry.count := by
  have hrun := allocate_run h0 hh hs entry.count
  cases hle : (nextOffset header sizeofT entry.count).sle header.size with
  | false => exact .inr ((overflow_iff hoffset (hoffset.trans hsize) sizeofT entry.count).mp hle)
  | true =>
      left
      rw [if_pos hle] at hrun
      have hscalar := perform_allocated entry hrun (fun _ => pure ())
      rw [constructAt_scalar] at hscalar
      rcases h with h | ⟨start, offset, hlo, -, hfit, -, h⟩
      · obtain ⟨thread', herror⟩ := h (fun _ => pure ())
        rw [hscalar] at herror
        cases herror
      · have hreturn := h (fun _ => pure ())
        rw [hscalar, constructAt_scalar] at hreturn
        injection hreturn with hp _
        have hstart : start = (alignUp header.offset (alignmentFor sizeofT)).toInt := by omega
        rw [hstart] at hlo hfit
        have hstartNat := start_toNat hoffset sizeofT
        obtain ⟨hnat, -⟩ := toInt_eq_toNat (hoffset.trans hlo)
        obtain ⟨hsizeNat, hlt⟩ := toInt_eq_toNat (hoffset.trans hsize)
        rw [exactEnd]
        omega

/-- A request succeeds with less than it asks for, or with a block out of bounds, exactly
when its end leaves the signed words and is not caught there. -/
theorem allocation_never_short_iff (entry : Entry) (h0 : alloc.dbPtr ≠ 0)
    (hh : thread.headers alloc.dbPtr = some header) (hs : 0 < sizeofT) (hoffset : 0 ≤ header.offset.toInt)
    (hsize : header.offset.toInt ≤ header.size.toInt) :
    NeverShort entry alloc sizeofT header thread ↔ Caught header sizeofT entry.count :=
  ⟨caught_of_neverShort h0 hh hs hoffset hsize, neverShort_of_caught h0 hh hs hoffset hsize⟩

section SmallArena

def smallHeader : DbArenaHeader := ⟨64, 16⟩

def smallArena : Thread Guid64 := ⟨[.zero], Function.update (fun _ => none) 4096 (some smallHeader)⟩

theorem allocation_never_short_iff_small :
    NeverShort (.newArray 5) ⟨4096⟩ 8 smallHeader smallArena ↔ Caught smallHeader 8 5 :=
  allocation_never_short_iff (.newArray 5) (by decide) rfl (by decide) (by decide) (by decide)

def wrappingCount : BitVec 64 := 0x2000000000000000

theorem allocation_short_counterexample :
    (∀ construct, ((Entry.newArray wrappingCount).perform ⟨4096⟩ 8 construct).run smallArena =
      (constructAt (4096 + 16) 8 wrappingCount construct).run smallArena) ∧
    ¬ NeverShort (.newArray wrappingCount) ⟨4096⟩ 8 smallHeader smallArena := by
  have hnext : nextOffset smallHeader 8 wrappingCount = 16 := by decide
  have hrun : (DatablockAllocator.allocate ⟨4096⟩ 8 wrappingCount).run smallArena.headers = _ :=
    allocate_run (by decide) (rfl : smallArena.headers 4096 = some smallHeader) (by decide) wrappingCount
  rw [hnext, if_pos (by decide)] at hrun
  have hsame : Function.update smallArena.headers 4096 (some { smallHeader with offset := 16 }) =
      smallArena.headers := Function.update_eq_self (4096 : Int) smallArena.headers
  rw [hsame] at hrun
  refine ⟨?_, ?_⟩
  · intro construct
    have hstart : (alignUp smallHeader.offset (alignmentFor 8)).toInt = 16 := by decide
    have hperform := perform_allocated (.newArray wrappingCount) hrun construct
    rw [hstart] at hperform
    exact hperform
  · intro h
    have hexact : exactEnd smallHeader 8 wrappingCount = 16 + 2 ^ 64 := by decide
    have hsize : smallHeader.size.toNat = 64 := rfl
    rcases caught_of_neverShort (by decide) rfl (by decide) (by decide) (by decide) h with hc | ⟨k, hlo, hhi⟩
    · rw [Entry.count, hexact] at hc
      omega
    · rw [Entry.count, hexact] at hlo hhi
      omega

end SmallArena

end Ocxxr.ShortAllocation

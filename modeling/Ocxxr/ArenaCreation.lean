import Ocxxr.ShortAllocation
import Ocxxr.ArenaImage
import Ocxxr.ArenaRuns
import Ocxxr.EntryRemoval

namespace Ocxxr.ArenaCreation

open Ocr SortedSearch Bookkeeping Allocator AllocatorSpec TaskState AcquiredData AlignedWords BumpRegion
  ArenaRegion ArenaCalls ArenaRuns ShortAllocation

variable {G : Type} [OcrGuid G] {std : StdAlgorithms (DbPair G)} {ocr : OcrDb G} {bytes : BitVec 64}
  {arena : AcquiredData.Arena G} {thread thread' : Thread G}

def arenaRequest (bytes : BitVec 64) : DbRequest := ⟨sizeofArenaState * (bytes + sizeofArenaState), true⟩

theorem create_ok (h : (AcquiredData.Arena.create std ocr bytes).run thread = .ok arena thread') :
    (ocr.ocrDbCreate (arenaRequest bytes)).status = 0 ∧ (ocr.ocrDbCreate (arenaRequest bytes)).ptr = arena.state ∧
      sizeofDbArenaHeader ≤ bytes ∧ arena.state ≠ 0 ∧
        thread'.headers arena.state = some ⟨bytes, sizeofDbArenaHeader⟩ ∧
      ∃ thread₁, (inMemory (allocatorDbInit arena.state bytes)).run thread₁ = .ok () thread' := by
  simp only [AcquiredData.Arena.create, DatablockHandle.init, ok, run_bind_ok, run_assert_ok, if_true] at h
  obtain ⟨_, _, ⟨_, _, ⟨hstatus, rfl⟩, _, _, -, hanswer⟩, _, _, ⟨-, rfl⟩, _, thread₂, hmem, harena⟩ := h
  cases hanswer
  cases harena
  obtain ⟨headers, hinit, rfl⟩ := inMemory_ok.mp hmem
  obtain ⟨hsize, h0, rfl⟩ := allocatorDbInit_ok.mp hinit
  exact ⟨of_decide_eq_true hstatus, rfl, hsize, h0, Function.update_self _ _ _, _, hmem⟩

theorem first_ceilTo (size : BitVec 64) : ceilTo (alignmentFor size).toNat sizeofDbArenaHeader.toNat = 16 := by
  obtain ⟨k, hk, ha⟩ := alignmentFor_twoPow size
  exact ceilTo_of_dvd (alignmentFor_pos size) (ha ▸ Nat.pow_dvd_pow 2 hk)

theorem first_start (size : BitVec 64) : (alignUp sizeofDbArenaHeader (alignmentFor size)).toInt = 16 := by
  have hceil := first_ceilTo size
  have hoffset : 0 ≤ sizeofDbArenaHeader.toInt := by decide
  rw [start_toInt hoffset (by omega), hceil]
  rfl

section OneDatablock

open EntryRemoval

def runtimeWith (n : BitVec 64) : OcrDb Guid64 where
  ocrDbCreate request := if request.bytes = n then ⟨0, entry.guid, entry.baseAddr⟩ else ⟨1, errorGuid, 0⟩
  ocrDbRelease _ := 0
  ocrDbDestroy _ := 0

def started : Thread Guid64 := ⟨[.zero], fun _ => none⟩

def entryArena : AcquiredData.Arena Guid64 := ⟨⟨entry.guid⟩, entry.baseAddr⟩

def created (bytes : BitVec 64) : Thread Guid64 :=
  ⟨[⟨oneEntry, .null⟩], Function.update (fun _ => none) entry.baseAddr (some ⟨bytes, sizeofDbArenaHeader⟩)⟩

end OneDatablock

section Sizing

/-- The runtime hands out, for every request it grants, a datablock of that many bytes. -/
def Grants (ocr : OcrDb G) (obtained : Int → Nat) : Prop :=
  ∀ request, (ocr.ocrDbCreate request).status = 0 →
    obtained (ocr.ocrDbCreate request).ptr = request.bytes.toNat

/-- The bytes taken by requests one behind the other, each behind its padding. -/
def alignedTotal (total : Nat) : List (BitVec 64 × BitVec 64) → Nat
  | [] => total
  | (sizeofT, count) :: rest =>
      alignedTotal (ceilTo (alignmentFor sizeofT).toNat total + exactBytes sizeofT count) rest

def Contained (std : StdAlgorithms (DbPair G)) (obtained : Int → Nat) (arena : AcquiredData.Arena G)
    (thread : Thread G) : Prop :=
  ∀ (α : Type) (program : ThreadM G α) o s, Runs std arena.state program (.fresh thread) o s →
    ∀ b ∈ s.region.live, b.hi ≤ obtained arena.state

structure Sized (std : StdAlgorithms (DbPair G)) (obtained : Int → Nat) (bytes : BitVec 64)
    (arena : AcquiredData.Arena G) (thread : Thread G) : Prop where
  requested : obtained arena.state = bytes.toNat + sizeofDbArenaHeader.toNat
  recorded : ∃ header, thread.headers arena.state = some header ∧ header.size.toInt = obtained arena.state
  serves : ∀ requests : List (BitVec 64 × BitVec 64), (∀ request ∈ requests, 0 < request.1) →
    alignedTotal 0 requests ≤ bytes.toNat → ∃ starts headers,
      (requests.mapM (fun request => DatablockAllocator.allocate ⟨arena.state⟩ request.1 request.2)).run
        thread.headers = .ok starts headers
  contained : Contained std obtained arena thread

/-- The limit recorded leaves out the header, and the datablock is sixteen times too
large, up to wrap-around. -/
theorem arena_never_sized {obtained : Int → Nat} (hgrants : Grants ocr obtained)
    (h : (AcquiredData.Arena.create std ocr bytes).run thread = .ok arena thread') :
    obtained arena.state = 16 * (bytes.toNat + 16) % 2 ^ 64 ∧
      thread'.headers arena.state = some ⟨bytes, sizeofDbArenaHeader⟩ ∧
        ¬ Sized std obtained bytes arena thread' := by
  obtain ⟨hstatus, hptr, -, -, hheader, -⟩ := create_ok h
  have hobtained : obtained arena.state = 16 * (bytes.toNat + 16) % 2 ^ 64 := by
    have hsixteen : sizeofArenaState.toNat = 16 := rfl
    have hbytes : (arenaRequest bytes).bytes.toNat = 16 * (bytes.toNat + 16) % 2 ^ 64 := by
      simp only [arenaRequest, BitVec.toNat_mul, BitVec.toNat_add, hsixteen, Nat.mul_mod_mod]
    rw [← hptr, hgrants _ hstatus]
    exact hbytes
  refine ⟨hobtained, hheader, ?_⟩
  intro hsized
  obtain ⟨header, hheader', hrecorded⟩ := hsized.recorded
  obtain rfl : ⟨bytes, sizeofDbArenaHeader⟩ = header := Option.some.inj (hheader.symm.trans hheader')
  have hrequested := hsized.requested
  clear hobtained
  have hsixteen : sizeofDbArenaHeader.toNat = 16 := rfl
  obtain ⟨hnat, -⟩ := toInt_eq_toNat (show 0 ≤ bytes.toInt by simp only at hrecorded; omega)
  simp only at hrecorded
  omega

variable (std) in
theorem fills (h0 : arena.state ≠ 0) (hsize : sizeofDbArenaHeader ≤ bytes) (hlt : bytes.toNat < 2 ^ 63)
    (hheader : thread.headers arena.state = some ⟨bytes, sizeofDbArenaHeader⟩) :
    ∃ program o s b, Runs std arena.state (program : ThreadM G Int) (.fresh thread) o s ∧
      b ∈ s.region.live ∧ b.hi = bytes.toInt := by
  have hle : 16 ≤ bytes.toNat := hsize
  have hcount : (bytes - sizeofDbArenaHeader).toNat = bytes.toNat - 16 := BitVec.toNat_sub_of_le hsize
  have hnext : nextOffset ⟨bytes, sizeofDbArenaHeader⟩ 1 (bytes - sizeofDbArenaHeader) = bytes := by
    have hstart : alignUp sizeofDbArenaHeader (alignmentFor 1) = sizeofDbArenaHeader := by decide
    rw [nextOffset, hstart, show (1 : BitVec 64) = 1#64 from rfl, BitVec.one_mul, BitVec.add_comm,
      BitVec.sub_add_cancel]
  have hrun : (DatablockAllocator.allocate ⟨arena.state⟩ 1 (bytes - sizeofDbArenaHeader)).run thread.headers = _ :=
    allocate_run h0 hheader (by decide) _
  rw [if_pos (by rw [hnext, BitVec.sle_eq_decide]; simp)] at hrun
  have hone : (1 : BitVec 64).toNat = 1 := rfl
  have hin : ∀ header, thread.headers arena.state = some header →
      InRange header 1 (bytes - sizeofDbArenaHeader) := by
    intro header h
    rw [hheader] at h
    cases h
    refine ⟨by rw [hcount, hone]; omega, show sizeofDbArenaHeader.toInt + (alignmentFor 1).toNat ≤
      2 ^ 63 by decide, ?_⟩
    have hceil : ceilTo (alignmentFor 1).toNat sizeofDbArenaHeader.toNat = 16 := by decide
    rw [hceil, hcount, hone]
    omega
  have hruns : Runs std arena.state
      ((Source.object arena).perform (.newArray (bytes - sizeofDbArenaHeader)) 1 (fun _ => pure ()))
        (.fresh thread) _ _ :=
    .allocated rfl hrun hin (.elsewhere (constructAt_scalar _ _ _) rfl)
  refine ⟨_, _, _, _, hruns, List.mem_cons_self, ?_⟩
  have hstart := first_start 1
  have hoffset : arena.state + (alignUp sizeofDbArenaHeader (alignmentFor 1)).toInt - arena.state = 16 := by omega
  have hbytes : (1 : BitVec 64).toNat * (Entry.newArray (bytes - sizeofDbArenaHeader)).count.toNat =
      bytes.toNat - 16 := by
    rw [hone, Nat.one_mul, Entry.count, hcount]
  simp only [hoffset, hbytes]
  rw [toInt_of_lt hlt]
  omega

theorem contained_iff {obtained : Int → Nat}
    (h : (AcquiredData.Arena.create std ocr bytes).run thread = .ok arena thread') :
    Contained std obtained arena thread' ↔ bytes.toInt ≤ obtained arena.state := by
  obtain ⟨-, -, hsize, h0, hheader, thread₁, hinit⟩ := create_ok h
  constructor
  · intro hcontained
    by_contra hpast
    obtain ⟨hnat, hlt⟩ := toInt_eq_toNat (show 0 ≤ bytes.toInt by omega)
    obtain ⟨program, o, s, b, hrun, hb, hhi⟩ := fills std h0 hsize hlt hheader
    have hle := hcontained _ program o s hrun b hb
    omega
  · intro hle α program o s hrun b hb
    have hagrees := (runs_tracks (fresh_tracks hinit) hrun).agrees
    exact (hagrees.sound.packed.bounds b hb).2.2.2.trans hle

theorem runtimeWith_grants (n : BitVec 64) : Grants (runtimeWith n) (fun _ => n.toNat) := by
  intro request h
  by_cases hn : request.bytes = n
  · simp only [hn]
  · simp [runtimeWith, hn] at h

theorem small_created : (AcquiredData.Arena.create reference (runtimeWith 1280) 64).run started =
    .ok entryArena (created 64) := rfl

theorem arena_never_sized_small : (fun _ : Int => 1280) entryArena.state = 16 * (64 + 16) % 2 ^ 64 ∧
    (created 64).headers entryArena.state = some ⟨64, sizeofDbArenaHeader⟩ ∧
    ¬ Sized reference (fun _ => 1280) 64 entryArena (created 64) :=
  arena_never_sized (runtimeWith_grants 1280) small_created

theorem arena_size_counterexample :
    (AcquiredData.Arena.create reference (runtimeWith 1280) 64).run started = .ok entryArena (created 64) ∧
      (created 64).headers entryArena.state = some ⟨64, sizeofDbArenaHeader⟩ ∧
      ¬ Sized reference (fun _ => 1280) 64 entryArena (created 64) := by
  refine ⟨small_created, rfl, ?_⟩
  intro hsized
  exact absurd hsized.requested (by decide)

end Sizing

section Roots

abbrev ObjectSize := { size : BitVec 64 // 0 < size }

def sizeOf (root : Option ObjectSize) : Nat := root.elim 0 (fun size => size.1.toNat)

/-- The root object, as `data_ptr()` gives it, lies below the limit, and is where the
first object of its type comes to lie. -/
structure HoldsRoot (root : Option ObjectSize) (arena : AcquiredData.Arena G) (thread : Thread G) : Prop where
  below : ∃ header, thread.headers arena.state = some header ∧
    ArenaImage.root arena.state + sizeOf root ≤ arena.state + header.size.toInt
  first : ∀ size, root = some size → ∃ thread', ∀ construct,
    (arena.new size.1 construct).run thread =
      (constructAt (ArenaImage.root arena.state) size.1 1 construct).run thread'

/-- An arena that its constructor accepts can hold its root exactly when the size asked
for covers header and root, and is positive as a signed word. -/
theorem accepted_arena_holds_root_iff
    (h : (AcquiredData.Arena.create std ocr bytes).run thread = .ok arena thread') (root : Option ObjectSize) :
    HoldsRoot root arena thread' ↔ sizeofDbArenaHeader.toNat + sizeOf root ≤ bytes.toNat ∧
      bytes.toNat < 2 ^ 63 := by
  obtain ⟨-, -, -, h0, hheader, -⟩ := create_ok h
  have hsixteen : sizeofDbArenaHeader.toNat = 16 := rfl
  have hsigned := BitVec.toInt_eq_toNat_cond bytes
  constructor
  · rintro ⟨⟨header, hheader', hbelow⟩, -⟩
    rw [hheader] at hheader'
    cases hheader'
    simp only [ArenaImage.root] at hbelow
    split at hsigned <;> omega
  · rintro ⟨hfit, hlt⟩
    have hsize := toInt_of_lt hlt
    refine ⟨⟨_, hheader, ?_⟩, ?_⟩
    · rw [ArenaImage.root]
      simp only
      omega
    · rintro size rfl
      have hsizeOf : sizeOf (some size) = size.1.toNat := rfl
      have hoffset : 0 ≤ (DbArenaHeader.mk bytes sizeofDbArenaHeader).offset.toInt :=
        show 0 ≤ sizeofDbArenaHeader.toInt by decide
      have hend : exactEnd ⟨bytes, sizeofDbArenaHeader⟩ size.1 1 = 16 + size.1.toNat := by
        rw [exactEnd, first_ceilTo, exactBytes]
        exact congrArg (16 + ·) (Nat.mul_one _)
      have hfits : (nextOffset ⟨bytes, sizeofDbArenaHeader⟩ size.1 1).sle bytes = true := by
        have hnext := nextOffset_toInt hoffset (show exactEnd _ size.1 1 < 2 ^ 63 by omega)
        rw [BitVec.sle, decide_eq_true_eq, hnext, hend, hsize]
        exact_mod_cast (show 16 + size.1.toNat ≤ bytes.toNat by omega)
      have hrun : (DatablockAllocator.allocate ⟨arena.state⟩ size.1 1).run thread'.headers = _ :=
        allocate_run h0 hheader size.2 1
      rw [if_pos hfits] at hrun
      refine ⟨⟨thread'.tasks, Function.update thread'.headers arena.state
        (some ⟨bytes, nextOffset ⟨bytes, sizeofDbArenaHeader⟩ size.1 1⟩)⟩, ?_⟩
      intro construct
      have hperform := perform_allocated .new hrun construct
      rw [first_start] at hperform
      exact hperform

theorem word_pos : (0 : BitVec 64) < 8 := by decide

def wordSize : ObjectSize := ⟨8, word_pos⟩

theorem accepted_arena_holds_root_iff_word : HoldsRoot (some wordSize) entryArena (created 64) ↔
    sizeofDbArenaHeader.toNat + sizeOf (some wordSize) ≤ (64 : BitVec 64).toNat ∧
      (64 : BitVec 64).toNat < 2 ^ 63 :=
  accepted_arena_holds_root_iff small_created (some wordSize)

def largeSize : ObjectSize := ⟨100, by decide⟩

theorem accepted_arena_counterexample :
    (AcquiredData.Arena.create reference (runtimeWith 512) 16).run started = .ok entryArena (created 16) ∧
      ¬ HoldsRoot (some largeSize) entryArena (created 16) := by
  refine ⟨rfl, ?_⟩
  intro hroot
  obtain ⟨header, hheader, hbelow⟩ := hroot.below
  obtain rfl : ⟨16, sizeofDbArenaHeader⟩ = header := Option.some.inj hheader
  exact absurd hbelow (by decide)

end Roots

end Ocxxr.ArenaCreation

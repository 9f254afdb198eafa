import Ocxxr.ArenaCalls
import Ocxxr.ArenaRuns

namespace Ocxxr.ObjectAlignment

open Ocr SortedSearch Bookkeeping Allocator AllocatorSpec TaskState AcquiredData AlignedWords ArenaRegion
  ArenaRuns ArenaCalls

/-- A type's alignment: a power of two that divides its size. -/
structure Layout where
  sizeofT : BitVec 64
  alignofT : Nat
  size_pos : 0 < sizeofT
  align_twoPow : ∃ k, alignofT = 2 ^ k
  align_dvd : alignofT ∣ sizeofT.toNat

variable {a : Int} {dbSize : BitVec 64}

theorem align_dvd_alignmentFor (layout : Layout) (h16 : layout.alignofT ≤ 16) :
    layout.alignofT ∣ (alignmentFor layout.sizeofT).toNat := by
  obtain ⟨k, hk⟩ := layout.align_twoPow
  have hpos : 0 < layout.sizeofT.toNat := layout.size_pos
  have hle := Nat.le_of_dvd hpos layout.align_dvd
  have hdvd : ∀ n, layout.alignofT ≤ 2 ^ n → layout.alignofT ∣ 2 ^ n := by
    intro n hn
    rw [hk] at hn ⊢
    exact Nat.pow_dvd_pow 2 ((Nat.pow_le_pow_iff_right (by omega)).mp hn)
  rw [alignmentFor]
  split
  next h =>
    rw [h] at hle
    exact hdvd 0 hle
  split
  next h =>
    have h4 : layout.sizeofT.toNat ≤ 4 := h
    exact hdvd 2 (hle.trans h4)
  split
  next h =>
    have h8 : layout.sizeofT.toNat ≤ 8 := h
    exact hdvd 3 (hle.trans h8)
  · exact hdvd 4 h16

structure Aligned (layout : Layout) (count : BitVec 64) (offset p : Int) : Prop where
  object : (layout.alignofT : Int) ∣ p
  element : ∀ i : Nat, i < count.toNat → (layout.alignofT : Int) ∣ p + i * layout.sizeofT.toNat
  behind : offset ≤ p
  padding : p - offset < 16

theorem aligned_block (layout : Layout) (h16 : layout.alignofT ≤ 16) (hbase : (16 : Int) ∣ a) (count : BitVec 64)
    (offset : Nat) : Aligned layout count (a + offset)
      (a + (ceilTo (alignmentFor layout.sizeofT).toNat offset : Nat)) := by
  have hclass := align_dvd_alignmentFor layout h16
  obtain ⟨k, hk, ha⟩ := alignmentFor_twoPow layout.sizeofT
  have hsixteen : (alignmentFor layout.sizeofT).toNat ∣ 16 := ha ▸ Nat.pow_dvd_pow 2 hk
  have hobject : (layout.alignofT : Int) ∣ a + (ceilTo (alignmentFor layout.sizeofT).toNat offset : Nat) := by
    apply Int.dvd_add
    · exact (Int.natCast_dvd_natCast.mpr (hclass.trans hsixteen)).trans hbase
    · exact Int.natCast_dvd_natCast.mpr (hclass.trans (dvd_ceilTo _ _))
  have hle := le_ceilTo (alignmentFor_pos layout.sizeofT) offset
  have hlt := ceilTo_lt (alignmentFor_pos layout.sizeofT) offset
  have hclass16 := alignmentFor_le layout.sizeofT
  refine ⟨hobject, ?_, by omega, by omega⟩
  intro i _
  apply Int.dvd_add hobject
  exact dvd_mul_of_dvd_right (Int.natCast_dvd_natCast.mpr layout.align_dvd) _

variable {G : Type} [OcrGuid G] {std : StdAlgorithms (DbPair G)}

/-- After any run on an arena, `New` and `NewArray` hand out aligned objects, less than
16 bytes behind the offset. -/
theorem objects_aligned {start thread thread' : Thread G} {α : Type} {program : ThreadM G α} {o : Option α}
    {s : Moment G} (hbase : (16 : Int) ∣ a)
    (hinit : (inMemory (allocatorDbInit a dbSize)).run start = .ok () thread)
    (hrun : Runs std a program (.fresh thread) o s) (layout : Layout) (h16 : layout.alignofT ≤ 16) (entry : Entry)
    (hin : ∀ header, s.thread.headers a = some header → InRange header layout.sizeofT entry.count)
    {construct : Int → ThreadM G Unit} {p : Int}
    (hcall : (entry.perform ⟨a⟩ layout.sizeofT construct).run s.thread = .ok p thread') :
    ∃ header, s.thread.headers a = some header ∧
      Aligned layout entry.count (a + header.offset.toInt) p := by
  have h := (runs_tracks (fresh_tracks hinit) hrun).agrees
  obtain ⟨header, hheader, -, htop⟩ := h.header
  have hfloor : (16 : Int) ≤ header.offset.toInt := htop ▸ h.sound.packed.floor_le
  obtain ⟨hoffset, -⟩ := toInt_eq_toNat (show 0 ≤ header.offset.toInt by omega)
  obtain ⟨_, _, hallocate, hconstruct⟩ := perform_ok.mp hcall
  obtain ⟨_, header', hheader', hstart, -, -⟩ := allocateAligned_ok.mp (allocate_ok.mp hallocate).2
  rw [hheader] at hheader'
  cases hheader'
  have hnext := (hin header hheader).next
  refine ⟨header, hheader, ?_⟩
  rw [constructAt_ok hconstruct, hstart, start_toInt (by omega) (Nat.lt_of_add_right_lt hnext), hoffset]
  exact aligned_block layout h16 hbase entry.count header.offset.toNat

section WordBehindArray

def wordLayout : Layout := ⟨8, 8, by decide, ⟨3, rfl⟩, by decide⟩

theorem objects_aligned_word : ∃ header, (onArena running 38).headers 4096 = some header ∧
    Aligned wordLayout 1 (4096 + header.offset.toInt) (4096 + 40) := by
  have hin : ∀ header, (onArena running 38).headers 4096 = some header → InRange header 8 1 := by
    intro header h
    cases h
    exact ⟨by decide, by decide, by decide⟩
  have hcall : (Entry.new.perform ⟨4096⟩ 8 (fun _ => pure ())).run (onArena running 38) = .ok (4096 + 40) _ := rfl
  exact objects_aligned (by decide) (fresh_inMemory running) array_runs wordLayout (by decide) .new hin hcall

end WordBehindArray

end Ocxxr.ObjectAlignment

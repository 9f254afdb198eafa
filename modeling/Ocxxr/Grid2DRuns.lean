import Ocxxr.Grid2D
import Ocxxr.Library.Outcomes

namespace Ocxxr.Grid2D

open Ocr Allocator AllocatorSpec AlignedWords BumpRegion ByteMemory ArenaImage RelativePointer Outcomes

structure Room (a : Int) (size offset : Nat) (mem : Memory) : Prop where
  header : headerAt mem a = ⟨BitVec.ofNat 64 size, BitVec.ofNat 64 offset⟩
  size_lt : size < 2 ^ 63

def headerless (a : Int) : Set Int := {q | q < a ∨ a + 16 ≤ q}

def outside (a lo hi : Int) : Set Int := {q | (q < a ∨ a + 16 ≤ q) ∧ (q < lo ∨ hi ≤ q)}

def overflows (e : Fault) : Prop := e = .assertion .allocatorOverflow

section Allocation

variable {a : Int} {size offset : Nat} {mem mem' : Memory} {sizeofT count : BitVec 64}

theorem onBytes_error {α : Type} {x : ArenaM α} {e : Fault} {headers : Headers}
    (h : x.run (headersOf mem) = .error e headers) :
    (onBytes a x).run mem = .error e ((headers a).elim mem (storeHeader mem a)) := by
  simp only [onBytes, EStateM.run] at h ⊢
  rw [h]

theorem storeHeader_eqOn (mem : Memory) (a : Int) (header : DbArenaHeader) :
    Set.EqOn (storeHeader mem a header) mem (headerless a) := by
  intro q hq
  have hq : q < a ∨ a + 16 ≤ q := hq
  rw [storeHeader, store_sameOutside _ _ _ _ q (by omega), store_sameOutside _ _ _ _ q (by omega)]

theorem Room.kept (h : Room a size offset mem) {keep : Set Int} (heq : Set.EqOn mem' mem keep)
    (hin : ∀ k : Nat, k < 16 → a + k ∈ keep) : Room a size offset mem' := by
  have hcopied : Copied mem a mem' a 16 := fun k hk => heq (hin k hk)
  exact ⟨(headerAt_copied hcopied le_rfl).trans h.header, h.size_lt⟩

def startOf (sizeofT : BitVec 64) (offset : Nat) : Nat := ceilTo (alignmentFor sizeofT).toNat offset

def stopOf (sizeofT count : BitVec 64) (offset : Nat) : Nat := startOf sizeofT offset + sizeofT.toNat * count.toNat

theorem le_startOf (sizeofT : BitVec 64) (offset : Nat) : offset ≤ startOf sizeofT offset :=
  le_ceilTo (alignmentFor_pos sizeofT) offset

theorem word_toNat {n : Nat} (h : n < 2 ^ 63) : (BitVec.ofNat 64 n).toNat = n := by
  rw [BitVec.toNat_ofNat, Nat.mod_eq_of_lt (h.trans (by decide))]

theorem word_toInt {n : Nat} (h : n < 2 ^ 63) : (BitVec.ofNat 64 n).toInt = n := by
  rw [toInt_of_lt (by rwa [word_toNat h]), word_toNat h]

theorem allocate_yields (ha : a ≠ 0) (hroom : Room a size offset mem) (hs : 0 < sizeofT)
    (hrange : stopOf sizeofT count offset + 16 ≤ 2 ^ 63) :
    Yields (onBytes a (DatablockAllocator.allocate ⟨a⟩ sizeofT count)) mem
      (fun data mem' => data.toInt = startOf sizeofT offset ∧ stopOf sizeofT count offset ≤ size ∧
        Room a size (stopOf sizeofT count offset) mem' ∧ Set.EqOn mem' mem (headerless a))
      (fun e => overflows e ∧ size < stopOf sizeofT count offset) := by
  have hsize := hroom.size_lt
  have hle := le_startOf sizeofT offset
  have halign := alignmentFor_le sizeofT
  have hstop : stopOf sizeofT count offset = startOf sizeofT offset + sizeofT.toNat * count.toNat := rfl
  have hoffset : (BitVec.ofNat 64 offset).toNat = offset := word_toNat (by omega)
  have hint : (BitVec.ofNat 64 offset).toInt = offset := word_toInt (by omega)
  have hpos : 0 ≤ (BitVec.ofNat 64 offset).toInt := by omega
  have hin : InRange ⟨BitVec.ofNat 64 size, BitVec.ofNat 64 offset⟩ sizeofT count := by
    refine ⟨by omega, by rw [hint]; omega, ?_⟩
    rw [hoffset, ← startOf]
    omega
  have hstart : (alignUp (BitVec.ofNat 64 offset) (alignmentFor sizeofT)).toInt = startOf sizeofT offset := by
    rw [start_toInt hpos, hoffset, startOf]
    rw [hoffset, ← startOf]
    omega
  have hnext : nextOffset ⟨BitVec.ofNat 64 size, BitVec.ofNat 64 offset⟩ sizeofT count =
      BitVec.ofNat 64 (stopOf sizeofT count offset) := by
    apply BitVec.eq_of_toInt_eq
    rw [word_toInt (by omega), nextOffset, (start_of_inRange hin hpos).2, hstart, hstop]
    push_cast
    rfl
  have hheader : headersOf mem a = some ⟨BitVec.ofNat 64 size, BitVec.ofNat 64 offset⟩ :=
    congrArg some hroom.header
  have hrun := allocate_run (show (⟨a⟩ : DatablockAllocator).dbPtr ≠ 0 from ha) hheader hs count
  have hfits : (BitVec.ofNat 64 (stopOf sizeofT count offset)).sle (BitVec.ofNat 64 size) = true ↔
      stopOf sizeofT count offset ≤ size := by
    rw [BitVec.sle, word_toInt (by omega), word_toInt hsize, decide_eq_true_eq]
    omega
  simp only [hnext] at hrun
  by_cases hfit : stopOf sizeofT count offset ≤ size
  · rw [if_pos (hfits.mpr hfit)] at hrun
    refine yields_of_ok (onBytes_run hrun) ⟨hstart, hfit, ?_, ?_⟩
    · rw [Function.update_self]
      exact ⟨headerAt_storeHeader _ _ _, hsize⟩
    · rw [Function.update_self]
      exact storeHeader_eqOn _ _ _
  · rw [if_neg (fun h => hfit (hfits.mp h))] at hrun
    exact yields_of_error (onBytes_error hrun) ⟨rfl, by omega⟩

/-- The block is allocated, or refused because it does not fit; what its elements have
in common is up to the loop. -/
theorem newArrayIn_yields {init : Int → ByteM Unit} {fails : Fault → Prop} (ha : a ≠ 0)
    (hroom : Room a size offset mem) (hs : 0 < sizeofT) (hrange : stopOf sizeofT count offset + 16 ≤ 2 ^ 63)
    (hfails : ∀ e, overflows e ∧ size < stopOf sizeofT count offset → fails e) (inv : Nat → Memory → Prop)
    (h : ∀ mem', stopOf sizeofT count offset ≤ size → Room a size (stopOf sizeofT count offset) mem' →
      Set.EqOn mem' mem (headerless a) → inv 0 mem')
    (hstep : ∀ i < count.toNat, ∀ mem', inv i mem' →
      Yields (init (a + startOf sizeofT offset + i * sizeofT.toNat)) mem' (fun _ => inv (i + 1)) fails) :
    Yields (newArrayIn a sizeofT count init) mem
      (fun p mem' => p = a + startOf sizeofT offset ∧ inv count.toNat mem') fails := by
  have halloc := (allocate_yields ha hroom hs hrange).imp (fun _ _ h => h) hfails
  refine halloc.bind (fun data mem' hdata => ?_)
  obtain ⟨hstart, hfit, hroom', hkept⟩ := hdata
  simp only [hstart]
  refine (yields_forM_range inv (h mem' hfit hroom' hkept) hstep).bind (fun _ mem'' hinv => ?_)
  exact yields_pure ⟨rfl, hinv⟩

end Allocation

section Words

variable {a : Int} {size offset : Nat} {mem : Memory}

theorem startOf_word (h : 8 ∣ offset) : startOf (BitVec.ofNat 64 sizeofRelPtr) offset = offset :=
  ceilTo_of_dvd (by decide) h

theorem stopOf_word (h : 8 ∣ offset) (count : BitVec 64) :
    stopOf (BitVec.ofNat 64 sizeofRelPtr) count offset = offset + 8 * count.toNat := by
  rw [stopOf, startOf_word h]
  rfl

end Words

section Construction

variable {value : BitVec 32 → BitVec 64} {a : Int} {size offset : Nat} {mem : Memory} {rowDim colDim : BitVec 64}

theorem storeCell_eqOn {p : Int} {cell : RelPtr} {keep : Set Int} (hkeep : ∀ q ∈ keep, q < p ∨ p + 8 ≤ q) :
    Set.EqOn (storeCell mem p cell) mem keep := store_eqOn hkeep

theorem loadCell_assigned {p target : Int} (hlo : -2 ^ 63 ≤ target - p) (hhi : target - p < 2 ^ 63) :
    loadCell (storeCell mem p (RelativePointer.set p target)) p = RelativePointer.set p target := by
  rw [RelativePointer.set]
  split
  · exact loadCell_storeCell mem p (by decide) (by decide)
  · exact loadCell_storeCell mem p hlo hhi

theorem loadCell_apart {p q : Int} {cell : RelPtr} (h : q + 8 ≤ p ∨ p + 8 ≤ q) :
    loadCell (storeCell mem p cell) q = loadCell mem q := by
  have hload : load (storeCell mem p cell) q sizeofRelPtr = load mem q sizeofRelPtr :=
    load_outside (store_sameOutside _ _ _ _) h
  rw [loadCell, loadCell, hload]

theorem Pointed.kept {mem' : Memory} {cells : Int} {rows cols count : Nat} (h : Pointed mem cells rows cols count)
    (hbytes : Set.EqOn mem' mem (Set.Ico cells (cells + 8 * count))) : Pointed mem' cells rows cols count := by
  intro r hr
  have hload : load mem' (cells + 8 * r) sizeofRelPtr = load mem (cells + 8 * r) sizeofRelPtr := by
    apply load_eqOn hbytes
    intro k hk
    rw [sizeofRelPtr] at hk
    exact ⟨by omega, by omega⟩
  rw [← h r hr, loadCell, loadCell, hload]

theorem Pointed.step {cells : Int} {rows cols r : Nat} (h : Pointed mem cells rows cols r) (hr : r < rows)
    (hrange : storage rows cols < 2 ^ 63) :
    Pointed (storeCell mem (cells + 8 * r) (RelativePointer.set (cells + 8 * r) (itemAt cells rows (r * cols))))
      cells rows cols (r + 1) := by
  have hle : r * cols ≤ rows * cols := Nat.mul_le_mul_right cols hr.le
  rw [storage] at hrange
  intro k hk
  by_cases heq : k = r
  · subst heq
    refine loadCell_assigned ?_ ?_
    · rw [itemAt]
      omega
    · rw [itemAt]
      omega
  · rw [loadCell_apart (by omega)]
    exact h k (by omega)

structure RowsDone (a : Int) (size offset rows cols : Nat) (mem : Memory) (r : Nat) (mem' : Memory) : Prop where
  room : Room a size (offset + 8 * rows + 8 * (r * cols)) mem'
  fit : offset + 8 * rows + 8 * (r * cols) ≤ size
  pointed : Pointed mem' (a + offset) rows cols r
  kept : Set.EqOn mem' mem (outside a (a + offset) (a + offset + 8 * rows))

theorem rowsDone_of_store {rows cols r i : Nat} {mem' : Memory} {cell : RelPtr}
    (hkept : Set.EqOn mem' mem (outside a (a + offset) (a + offset + 8 * rows))) (hfloor : 16 ≤ offset)
    (hi : i < rows) (hroom : Room a size (offset + 8 * rows + 8 * (r * cols)) mem')
    (hfit : offset + 8 * rows + 8 * (r * cols) ≤ size)
    (hpointed : Pointed (storeCell mem' (a + offset + 8 * i) cell) (a + offset) rows cols r) :
    RowsDone a size offset rows cols mem r (storeCell mem' (a + offset + 8 * i) cell) := by
  have hcell : Set.EqOn (storeCell mem' (a + offset + 8 * i) cell) mem'
      (outside a (a + offset) (a + offset + 8 * rows)) := by
    apply storeCell_eqOn
    rintro q ⟨-, hq⟩
    omega
  have hheader : Set.EqOn (storeCell mem' (a + offset + 8 * i) cell) mem' (Set.Ico a (a + 16)) := by
    apply storeCell_eqOn
    rintro q ⟨-, hq⟩
    omega
  exact ⟨hroom.kept hheader (fun k hk => ⟨by omega, by omega⟩), hfit, hpointed, hcell.trans hkept⟩

theorem initGrid2D_yields (ha : 0 < a) (hroom : Room a size offset mem) (hfloor : 16 ≤ offset) (h8 : 8 ∣ offset)
    (hrange : offset + storage rowDim.toNat colDim.toNat + 16 ≤ 2 ^ 63) :
    Yields (initGrid2D a rowDim colDim) mem
      (fun cells mem' => cells = a + offset ∧
        RowsDone a size offset rowDim.toNat colDim.toNat mem rowDim.toNat mem')
      (fun e => overflows e ∧ size < offset + storage rowDim.toNat colDim.toNat) := by
  rw [storage] at hrange
  have hcells : Yields (newArrayIn a (BitVec.ofNat 64 sizeofRelPtr) rowDim construct) mem
      (fun cells mem' => cells = a + startOf (BitVec.ofNat 64 sizeofRelPtr) offset ∧
        RowsDone a size offset rowDim.toNat colDim.toNat mem 0 mem')
      (fun e => overflows e ∧ size < offset + storage rowDim.toNat colDim.toNat) := by
    have hstop := stopOf_word h8 rowDim
    have hfails : ∀ e, overflows e ∧ size < stopOf (BitVec.ofNat 64 sizeofRelPtr) rowDim offset →
        overflows e ∧ size < offset + storage rowDim.toNat colDim.toNat := by
      rintro e ⟨he, hlt⟩
      rw [storage]
      exact ⟨he, by omega⟩
    refine newArrayIn_yields ha.ne' hroom (by decide) (by omega) hfails
      (fun _ => RowsDone a size offset rowDim.toNat colDim.toNat mem 0) (fun mem' hfit hroom' hkept => ?_)
      (fun i hi mem' hrows => yields_modify ?_)
    · rw [hstop] at hfit hroom'
      refine ⟨by simpa using hroom', by simpa using hfit, fun r hr => absurd hr (Nat.not_lt_zero r), ?_⟩
      exact hkept.mono (fun q hq => hq.1)
    · have hcell : a + startOf (BitVec.ofNat 64 sizeofRelPtr) offset + i * (BitVec.ofNat 64 sizeofRelPtr).toNat =
          a + offset + 8 * i := by
        have height : (BitVec.ofNat 64 sizeofRelPtr).toNat = 8 := rfl
        rw [startOf_word h8, height]
        omega
      rw [hcell]
      exact rowsDone_of_store hrows.kept hfloor hi hrows.room hrows.fit (fun r hr => absurd hr (Nat.not_lt_zero r))
  rw [initGrid2D]
  refine hcells.bind (fun cells mem₁ hmem₁ => ?_)
  obtain ⟨rfl, hrows⟩ := hmem₁
  rw [startOf_word h8]
  refine (yields_forM_range (RowsDone a size offset rowDim.toNat colDim.toNat mem) hrows
    (fun r hr mem₂ hrows => ?_)).bind
    (fun _ mem₃ hrows => yields_pure ⟨rfl, hrows⟩)
  have hnext : (r + 1) * colDim.toNat ≤ rowDim.toNat * colDim.toNat := Nat.mul_le_mul_right _ hr
  rw [Nat.succ_mul] at hnext
  have h8' : 8 ∣ offset + 8 * rowDim.toNat + 8 * (r * colDim.toNat) := by omega
  have hstop := stopOf_word h8' colDim
  have hrow : Yields (newArrayIn a (BitVec.ofNat 64 sizeofDouble) colDim (fun _ => pure ())) mem₂
      (fun row mem' => row = a + startOf (BitVec.ofNat 64 sizeofRelPtr)
        (offset + 8 * rowDim.toNat + 8 * (r * colDim.toNat)) ∧
        Room a size (offset + 8 * rowDim.toNat + 8 * ((r + 1) * colDim.toNat)) mem' ∧
        offset + 8 * rowDim.toNat + 8 * ((r + 1) * colDim.toNat) ≤ size ∧ Set.EqOn mem' mem₂ (headerless a))
      (fun e => overflows e ∧ size < offset + storage rowDim.toNat colDim.toNat) := by
    have hfails : ∀ e, overflows e ∧ size < stopOf (BitVec.ofNat 64 sizeofRelPtr) colDim
        (offset + 8 * rowDim.toNat + 8 * (r * colDim.toNat)) →
        overflows e ∧ size < offset + storage rowDim.toNat colDim.toNat := by
      rintro e ⟨he, hlt⟩
      rw [storage]
      exact ⟨he, by omega⟩
    have hshift : 8 * ((r + 1) * colDim.toNat) = 8 * (r * colDim.toNat) + 8 * colDim.toNat := by
      rw [Nat.add_one_mul r colDim.toNat]
      omega
    refine newArrayIn_yields ha.ne' hrows.room (by decide) (by omega) hfails
      (fun _ mem' => Room a size (offset + 8 * rowDim.toNat + 8 * ((r + 1) * colDim.toNat)) mem' ∧
        offset + 8 * rowDim.toNat + 8 * ((r + 1) * colDim.toNat) ≤ size ∧ Set.EqOn mem' mem₂ (headerless a))
      (fun mem' hfit hroom' hkept => ?_) (fun _ _ _ h => yields_pure h)
    rw [hstop, Nat.add_assoc, ← hshift] at hfit hroom'
    exact ⟨hroom', hfit, hkept⟩
  refine hrow.bind (fun row mem₃ hmem₃ => ?_)
  obtain ⟨rfl, hroom₃, hfit₃, hkept₃⟩ := hmem₃
  have hpointed : Pointed mem₃ (a + offset) rowDim.toNat colDim.toNat r :=
    hrows.pointed.kept (hkept₃.mono (fun q hq => .inr (by have hlo := hq.1; omega)))
  have hcell : a + (offset : Int) + r * (sizeofRelPtr : Nat) = a + offset + 8 * r := by
    rw [sizeofRelPtr]
    omega
  have htarget : a + ((offset + 8 * rowDim.toNat + 8 * (r * colDim.toNat) : Nat) : Int) =
      itemAt (a + offset) rowDim.toNat (r * colDim.toNat) := by
    rw [itemAt]
    omega
  rw [startOf_word h8', hcell, htarget]
  have hkept : Set.EqOn mem₃ mem (outside a (a + offset) (a + offset + 8 * rowDim.toNat)) :=
    (hkept₃.mono (fun q hq => hq.1)).trans hrows.kept
  have hrange' : storage rowDim.toNat colDim.toNat < 2 ^ 63 := by
    rw [storage]
    omega
  exact yields_modify (rowsDone_of_store hkept hfloor hr hroom₃ hfit₃ (hpointed.step hr hrange'))

def itemless (cells : Int) (rows cols : Nat) : Set Int :=
  {q | q < cells + 8 * rows ∨ cells + storage rows cols ≤ q}

structure FilledTo (value : BitVec 32 → BitVec 64) (mem : Memory) (cells : Int) (rows cols k : Nat)
    (mem' : Memory) : Prop where
  filled : Filled value mem' cells rows k
  kept : Set.EqOn mem' mem (itemless cells rows cols)

theorem FilledTo.step {cells : Int} {rows cols k : Nat} {mem' : Memory}
    (h : FilledTo value mem cells rows cols k mem') (hk : k < rows * cols) :
    FilledTo value mem cells rows cols (k + 1)
      (store mem' (itemAt cells rows k) sizeofDouble (value (BitVec.ofNat 32 k)).toNat) := by
  refine ⟨fun j hj => ?_, Set.EqOn.trans (store_eqOn fun q hq => ?_) h.kept⟩
  · by_cases heq : j = k
    · subst heq
      rw [load_store]
      exact Nat.mod_eq_of_lt (value (BitVec.ofNat 32 j)).isLt
    · rw [load_outside (store_sameOutside _ _ _ _) (.inl ?_)]
      · exact h.filled j (by omega)
      · rw [itemAt, itemAt, sizeofDouble]
        omega
  · have hq : q < cells + 8 * rows ∨ cells + storage rows cols ≤ q := hq
    rw [storage] at hq
    rw [itemAt, sizeofDouble]
    omega

variable {this cells : Int}

theorem links_itemless (hplaced : Placed this cells rowDim.toNat colDim.toNat) :
    links this cells rowDim.toNat ⊆ itemless cells rowDim.toNat colDim.toNat := by
  have hbeside := hplaced.beside
  rw [storage] at hbeside
  rintro q (hthis | hcells)
  · rcases hbeside with hlo | hhi
    · exact .inl (by omega)
    · right
      rw [storage]
      omega
  · exact .inl hcells.2

/-- The constructor's loops visit the items in the order in which they lie, and count
them on the way. -/
theorem fill_yields (hshape : Shape mem this cells rowDim colDim)
    (hplaced : Placed this cells rowDim.toNat colDim.toNat) :
    Yields ((List.range rowDim.toNat).foldlM (fillRow value this colDim.toNat) 0) mem
      (fun _ mem' => FilledTo value mem cells rowDim.toNat colDim.toNat (rowDim.toNat * colDim.toNat) mem')
      (fun _ => False) := by
  have hitem : ∀ r < rowDim.toNat, ∀ c < colDim.toNat, ∀ n mem',
      n = BitVec.ofNat 32 (r * colDim.toNat + c) ∧
        FilledTo value mem cells rowDim.toNat colDim.toNat (r * colDim.toNat + c) mem' →
      Yields (fillItem value this r n c) mem' (fun n mem' => n = BitVec.ofNat 32 (r * colDim.toNat + (c + 1)) ∧
        FilledTo value mem cells rowDim.toNat colDim.toNat (r * colDim.toNat + (c + 1)) mem')
          (fun _ => False) := by
    rintro r hr c hc _ mem' ⟨rfl, hfilled⟩
    have hshape' := hshape.kept hplaced.pos (hfilled.kept.mono (links_itemless hplaced))
    have hrun := hshape'.item_run hplaced hr hc
    rw [fillItem]
    refine .after hrun (yields_modify_bind (yields_pure ⟨?_, hfilled.step (index_lt hr hc)⟩))
    exact (BitVec.ofNat_add (r * colDim.toNat + c) 1).symm
  have hrow : ∀ r < rowDim.toNat, ∀ n mem', n = BitVec.ofNat 32 (r * colDim.toNat) ∧
        FilledTo value mem cells rowDim.toNat colDim.toNat (r * colDim.toNat) mem' →
      Yields (fillRow value this colDim.toNat n r) mem'
        (fun n mem' => n = BitVec.ofNat 32 ((r + 1) * colDim.toNat) ∧
        FilledTo value mem cells rowDim.toNat colDim.toNat ((r + 1) * colDim.toNat) mem') (fun _ => False) := by
    intro r hr n mem' h
    rw [Nat.add_one_mul]
    exact yields_foldlM_range (fun c n mem' => n = BitVec.ofNat 32 (r * colDim.toNat + c) ∧
      FilledTo value mem cells rowDim.toNat colDim.toNat (r * colDim.toNat + c) mem') h (hitem r hr)
  have hnone : FilledTo value mem cells rowDim.toNat colDim.toNat (0 * colDim.toNat) mem := by
    rw [Nat.zero_mul]
    exact ⟨fun k hk => absurd hk (Nat.not_lt_zero k), fun q _ => rfl⟩
  refine (yields_foldlM_range (fun r n mem' => n = BitVec.ofNat 32 (r * colDim.toNat) ∧
    FilledTo value mem cells rowDim.toNat colDim.toNat (r * colDim.toNat) mem') ⟨?_, hnone⟩ hrow).imp
    (fun _ _ h => h.2) (fun _ h => h)
  rw [Nat.zero_mul]
  rfl

def elsewhere (a this lo hi : Int) : Set Int :=
  {q | (q < a ∨ a + 16 ≤ q) ∧ (q < this ∨ this + 24 ≤ q) ∧ (q < lo ∨ hi ≤ q)}

/-- A grid constructed at an address, with its storage at the end of the arena's blocks. -/
structure Built (value : BitVec 32 → BitVec 64) (a : Int) (size offset : Nat) (rowDim colDim : BitVec 64)
    (this : Int) (mem mem' : Memory) : Prop where
  fit : offset + storage rowDim.toNat colDim.toNat ≤ size
  room : Room a size (offset + storage rowDim.toNat colDim.toNat) mem'
  grid : Grid value mem' this (a + offset) rowDim colDim
  kept : Set.EqOn mem' mem (elsewhere a this (a + offset) (a + offset + storage rowDim.toNat colDim.toNat))

def withDims (mem : Memory) (this : Int) (rowDim colDim : BitVec 64) : Memory :=
  store (store mem this 8 rowDim.toNat) (this + 8) 8 colDim.toNat

theorem withDims_eqOn (mem : Memory) (this : Int) (rowDim colDim : BitVec 64) :
    Set.EqOn (withDims mem this rowDim colDim) mem {q | q < this ∨ this + 16 ≤ q} := by
  intro q hq
  have hq : q < this ∨ this + 16 ≤ q := hq
  rw [withDims, store_sameOutside _ _ _ _ q (by omega), store_sameOutside _ _ _ _ q (by omega)]

theorem rows_withDims (mem : Memory) (this : Int) (rowDim colDim : BitVec 64) :
    rows (withDims mem this rowDim colDim) this = rowDim := by
  rw [rows, withDims, load_outside (store_sameOutside _ _ _ _) (.inl (by omega)), load_store,
    Nat.mod_eq_of_lt (show rowDim.toNat < 256 ^ 8 from rowDim.isLt), BitVec.ofNat_toNat, BitVec.setWidth_eq]

theorem cols_withDims (mem : Memory) (this : Int) (rowDim colDim : BitVec 64) :
    cols (withDims mem this rowDim colDim) this = colDim := by
  rw [cols, withDims, load_store, Nat.mod_eq_of_lt (show colDim.toNat < 256 ^ 8 from colDim.isLt),
    BitVec.ofNat_toNat, BitVec.setWidth_eq]

theorem dims_kept {mem' : Memory} (h : Set.EqOn mem' mem (Set.Ico this (this + 16))) :
    rows mem' this = rows mem this ∧ cols mem' this = cols mem this := by
  have hrows : load mem' this 8 = load mem this 8 := load_eqOn h (fun k hk => ⟨by omega, by omega⟩)
  have hcols : load mem' (this + 8) 8 = load mem (this + 8) 8 := load_eqOn h (fun k hk => ⟨by omega, by omega⟩)
  rw [rows, rows, cols, cols, hrows, hcols]
  exact ⟨rfl, rfl⟩

theorem shape_assigned (hrows : rows mem this = rowDim) (hcols : cols mem this = colDim)
    (hpointed : Pointed mem cells rowDim.toNat colDim.toNat rowDim.toNat)
    (hbeside : this + 24 ≤ cells ∨ cells + storage rowDim.toNat colDim.toNat ≤ this)
    (hlo : -2 ^ 63 ≤ cells - grid this) (hhi : cells - grid this < 2 ^ 63) :
    Shape (storeCell mem (grid this) (RelativePointer.set (grid this) cells)) this cells rowDim colDim := by
  rw [storage] at hbeside
  have hcell : Set.EqOn (storeCell mem (grid this) (RelativePointer.set (grid this) cells)) mem
      (Set.Ico this (this + 16)) := by
    apply storeCell_eqOn
    rintro q ⟨-, hq⟩
    rw [grid]
    omega
  have hwords := dims_kept hcell
  refine ⟨hwords.1.trans hrows, hwords.2.trans hcols, loadCell_assigned hlo hhi, hpointed.kept (storeCell_eqOn ?_)⟩
  rintro q ⟨hq, hq'⟩
  rw [grid]
  omega

theorem ofDims_yields (ha : 0 < a) (hroom : Room a size offset mem) (h8 : 8 ∣ offset) (hlo : a + 16 ≤ this)
    (hhi : this + 24 ≤ a + offset) (hcount : rowDim.toNat * colDim.toNat < 2 ^ 31)
    (hrange : offset + storage rowDim.toNat colDim.toNat + 16 ≤ 2 ^ 63) :
    Yields (ofDims value a rowDim colDim this) mem (fun _ => Built value a size offset rowDim colDim this mem)
      (fun e => overflows e ∧ size < offset + storage rowDim.toNat colDim.toNat) := by
  have hfloor : 16 ≤ offset := by omega
  have hplaced : Placed this (a + offset) rowDim.toNat colDim.toNat := ⟨by omega, .inl hhi, hcount⟩
  have hstorage : storage rowDim.toNat colDim.toNat = 8 * rowDim.toNat + 8 * (rowDim.toNat * colDim.toNat) := rfl
  have hkept₂ := withDims_eqOn mem this rowDim colDim
  have hroom₂ : Room a size offset (withDims mem this rowDim colDim) :=
    hroom.kept hkept₂ (fun k hk => .inl (by omega))
  rw [ofDims]
  refine yields_modify_bind (yields_modify_bind ?_)
  refine (initGrid2D_yields ha hroom₂ hfloor h8 hrange).bind ?_
  rintro _ mem₃ ⟨rfl, hrows₃⟩
  have hbefore : Set.EqOn mem₃ (withDims mem this rowDim colDim) (Set.Ico this (this + 16)) := by
    rintro q ⟨hq, hq'⟩
    exact hrows₃.kept ⟨by omega, by omega⟩
  have hdims := dims_kept hbefore
  rw [rows_withDims, cols_withDims] at hdims
  have hshape := shape_assigned hdims.1 hdims.2 hrows₃.pointed hplaced.beside (by rw [grid]; omega)
    (by rw [grid]; omega)
  refine yields_modify_bind (yields_get_bind ?_)
  rw [hshape.rows_eq, hshape.cols_eq]
  refine ((fill_yields hshape hplaced).imp (fun _ _ h => h) (fun _ h => h.elim)).bind
    (fun _ mem₅ hfilled => yields_pure ?_)
  have hkept₄ : Set.EqOn (storeCell mem₃ (grid this) (RelativePointer.set (grid this) (a + offset))) mem₃
      {q | q < this + 16 ∨ this + 24 ≤ q} := by
    apply storeCell_eqOn
    intro q hq
    have hq : q < this + 16 ∨ this + 24 ≤ q := hq
    rw [grid]
    omega
  refine ⟨?_, ?_, ⟨?_, hfilled.filled⟩, ?_⟩
  · have hfit := hrows₃.fit
    omega
  · have hroom₃ := hrows₃.room
    rw [Nat.add_assoc, ← hstorage] at hroom₃
    exact (hroom₃.kept hkept₄ (fun k hk => .inl (by omega))).kept hfilled.kept (fun k hk => .inl (by omega))
  · exact hshape.kept hplaced.pos (hfilled.kept.mono (links_itemless hplaced))
  · rintro q ⟨hheader, hthis, hcells⟩
    have hitem : q ∈ itemless (a + offset) rowDim.toNat colDim.toNat := by
      rcases hcells with hq | hq
      · exact .inl (by omega)
      · exact .inr hq
    have hcell : q < this + 16 ∨ this + 24 ≤ q := by omega
    have hdim : q < this ∨ this + 16 ≤ q := by omega
    rw [hfilled.kept hitem, hkept₄ hcell, hrows₃.kept ⟨hheader, by omega⟩, hkept₂ hdim]

end Construction

section Grids

variable {value : BitVec 32 → BitVec 64} {a : Int} {size offset : Nat} {mem : Memory}
  {rowDim colDim count : BitVec 64}

/-- Where the storage of a grid of an array starts: behind the objects and the storage of
the grids before it. -/
def storageAt (offset : Nat) (count rowDim colDim : BitVec 64) (i : Nat) : Nat :=
  stopOf sizeofGrid2D count offset + i * storage rowDim.toNat colDim.toNat

def gridsEnd (offset : Nat) (count rowDim colDim : BitVec 64) :
    Nat := storageAt offset count rowDim colDim count.toNat

structure GridsDone (value : BitVec 32 → BitVec 64) (a : Int) (size offset : Nat) (count rowDim colDim : BitVec 64)
    (mem : Memory) (n : Nat) (mem' : Memory) : Prop where
  fit : storageAt offset count rowDim colDim n ≤ size
  room : Room a size (storageAt offset count rowDim colDim n) mem'
  grids : ∀ i < n, Grid value mem' (a + startOf sizeofGrid2D offset + i * sizeofGrid2D.toNat)
    (a + storageAt offset count rowDim colDim i) rowDim colDim
  kept : Set.EqOn mem' mem
    (outside a (a + startOf sizeofGrid2D offset) (a + storageAt offset count rowDim colDim n))

theorem storageAt_succ (offset : Nat) (count rowDim colDim : BitVec 64) (i : Nat) :
    storageAt offset count rowDim colDim (i + 1) =
      storageAt offset count rowDim colDim i + storage rowDim.toNat colDim.toNat := by
  rw [storageAt, storageAt, Nat.add_one_mul, Nat.add_assoc]

theorem storageAt_mono (offset : Nat) (count rowDim colDim : BitVec 64) :
    Monotone (storageAt offset count rowDim colDim) :=
  monotone_nat_of_le_succ (fun i => storageAt_succ offset count rowDim colDim i ▸ Nat.le_add_right _ _)

theorem storageAt_dvd (offset : Nat) (count rowDim colDim : BitVec 64) (i : Nat) :
    8 ∣ storageAt offset count rowDim colDim i := by
  have hstart : 8 ∣ startOf sizeofGrid2D offset := Nat.dvd_trans (by decide) (dvd_ceilTo 16 offset)
  have hbytes : 8 ∣ sizeofGrid2D.toNat * count.toNat := Nat.dvd_mul_right_of_dvd (by decide) _
  have hstorage : 8 ∣ storage rowDim.toNat colDim.toNat :=
    Nat.dvd_add (Nat.dvd_mul_right 8 _) (Nat.dvd_mul_right 8 _)
  exact Nat.dvd_add (Nat.dvd_add hstart hbytes) (Nat.dvd_mul_left_of_dvd hstorage i)

theorem GridsDone.step {n : Nat} {mem' mem'' : Memory} (ha : 0 < a) (hfloor : 16 ≤ offset) (hn : n < count.toNat)
    (h : GridsDone value a size offset count rowDim colDim mem n mem')
    (hbuilt : Built value a size (storageAt offset count rowDim colDim n) rowDim colDim
      (a + startOf sizeofGrid2D offset + n * sizeofGrid2D.toNat) mem' mem'') :
    GridsDone value a size offset count rowDim colDim mem (n + 1) mem'' := by
  have hsucc := storageAt_succ offset count rowDim colDim n
  have hstart := le_startOf sizeofGrid2D offset
  have hsizeof : sizeofGrid2D.toNat = 24 := rfl
  have hobjects : startOf sizeofGrid2D offset + 24 * count.toNat ≤ storageAt offset count rowDim colDim 0 := by
    rw [storageAt, stopOf, hsizeof, Nat.zero_mul, Nat.add_zero]
  have hbase : ∀ i, storageAt offset count rowDim colDim 0 ≤ storageAt offset count rowDim colDim i :=
    fun i => storageAt_mono offset count rowDim colDim (Nat.zero_le i)
  have hbase_n := hbase n
  refine ⟨hsucc ▸ hbuilt.fit, hsucc ▸ hbuilt.room, fun i hi => ?_, ?_⟩
  · by_cases heq : i = n
    · subst heq
      exact hbuilt.grid
    · have hlt : i + 1 ≤ n := by omega
      have hle := storageAt_mono offset count rowDim colDim hlt
      have hbase_i := hbase i
      rw [storageAt_succ] at hle
      refine (h.grids i hlt).kept (by omega) (hbuilt.kept.mono (fun q hq => ?_))
      rw [hsizeof] at hq ⊢
      rcases hq with hthis | hcells
      · exact ⟨by omega, by omega, by omega⟩
      · exact ⟨by omega, by omega, by omega⟩
  · rintro q ⟨hheader, hq⟩
    rw [hsucc] at hq
    rw [hbuilt.kept ⟨hheader, by rw [hsizeof]; omega, by omega⟩, h.kept ⟨hheader, by omega⟩]

theorem newArray_yields (value : BitVec 32 → BitVec 64) (ha : 0 < a) (hroom : Room a size offset mem)
    (hfloor : 16 ≤ offset) (hcount : rowDim.toNat * colDim.toNat < 2 ^ 31)
    (hrange : gridsEnd offset count rowDim colDim + 16 ≤ 2 ^ 63) :
    Yields (newArrayIn a sizeofGrid2D count (ofDims value a rowDim colDim)) mem
      (fun p mem' => p = a + startOf sizeofGrid2D offset ∧
        GridsDone value a size offset count rowDim colDim mem count.toNat mem')
      (fun e => overflows e ∧ size < gridsEnd offset count rowDim colDim) := by
  have hzero : storageAt offset count rowDim colDim 0 = stopOf sizeofGrid2D count offset := by
    rw [storageAt, Nat.zero_mul, Nat.add_zero]
  have hle : ∀ i ≤ count.toNat, storageAt offset count rowDim colDim i ≤ gridsEnd offset count rowDim colDim :=
    fun i hi => storageAt_mono offset count rowDim colDim hi
  have hle_zero := hle 0 (Nat.zero_le _)
  have hstart := le_startOf sizeofGrid2D offset
  have hsizeof : sizeofGrid2D.toNat = 24 := rfl
  refine newArrayIn_yields ha.ne' hroom (by decide) (by omega) (fun e he => ⟨he.1, by omega⟩)
    (GridsDone value a size offset count rowDim colDim mem) (fun mem' hfit hroom' hkept => ?_)
    (fun i hi mem' hdone => ?_)
  · rw [← hzero] at hfit hroom'
    exact ⟨hfit, hroom', fun i hi => absurd hi (Nat.not_lt_zero i), hkept.mono (fun q hq => hq.1)⟩
  · have hobject : startOf sizeofGrid2D offset + (i + 1) * 24 ≤ storageAt offset count rowDim colDim i := by
      have hmono := storageAt_mono offset count rowDim colDim (Nat.zero_le i)
      rw [hzero, stopOf, hsizeof] at hmono
      omega
    have hend := hle (i + 1) hi
    rw [storageAt_succ] at hend
    refine (ofDims_yields ha hdone.room (storageAt_dvd _ _ _ _ i) (by rw [hsizeof]; omega)
      (by rw [hsizeof]; omega) hcount (by omega)).imp (fun _ _ hbuilt => hdone.step ha hfloor hi hbuilt)
        (fun e he => ⟨he.1, by omega⟩)

end Grids

section Arenas

variable {value : BitVec 32 → BitVec 64} {a b p : Int} {dbSize : BitVec 64} {mem mem₁ mem₂ mem' : Memory}
  {r : Region Int} {rowDim colDim count : BitVec 64}

theorem holds_room (h : Holds a dbSize mem r) (hsize : dbSize.toNat < 2 ^ 63) :
    Room a dbSize.toNat r.top.toNat mem := by
  obtain ⟨header, hheader, hdbSize, htop⟩ := h.agrees.header
  have hheader : headerAt mem a = header := Option.some.inj hheader
  have hoffset : header.offset.toNat = r.top.toNat := by
    have hfloor : (16 : Int) ≤ r.top := h.agrees.sound.packed.floor_le
    obtain ⟨hint, -⟩ := toInt_eq_toNat (show 0 ≤ header.offset.toInt by omega)
    omega
  refine ⟨?_, hsize⟩
  rw [hheader, ← hoffset, ← hdbSize, BitVec.ofNat_toNat, BitVec.ofNat_toNat, BitVec.setWidth_eq,
    BitVec.setWidth_eq]

theorem holds_floor (h : Holds a dbSize mem r) : 16 ≤ r.top.toNat := by
  have hfloor : (16 : Int) ≤ r.top := h.agrees.sound.packed.floor_le
  omega

def gridsBlock (r : Region Int) (count rowDim colDim : BitVec 64) : Block Int :=
  ⟨startOf sizeofGrid2D r.top.toNat, gridsEnd r.top.toNat count rowDim colDim⟩

theorem start_le_end (offset : Nat) (count rowDim colDim : BitVec 64) :
    startOf sizeofGrid2D offset + count.toNat * 24 ≤ gridsEnd offset count rowDim colDim := by
  have hsizeof : sizeofGrid2D.toNat = 24 := rfl
  rw [gridsEnd, storageAt, stopOf, hsizeof]
  omega

theorem GridsDone.holds (hdone : GridsDone value a dbSize.toNat r.top.toNat count rowDim colDim mem
    count.toNat mem') (h : Holds a dbSize mem r) (hsize : dbSize.toNat < 2 ^ 63) :
    Holds a dbSize mem' (r.push (gridsBlock r count rowDim colDim)) := by
  have hend := start_le_end r.top.toNat count rowDim colDim
  have hstart := le_startOf sizeofGrid2D r.top.toNat
  have hfit : gridsEnd r.top.toNat count rowDim colDim ≤ dbSize.toNat := hdone.fit
  have hfloor := holds_floor h
  have hlo : r.top ≤ (startOf sizeofGrid2D r.top.toNat : Int) := by omega
  have hle : (startOf sizeofGrid2D r.top.toNat : Int) ≤ gridsEnd r.top.toNat count rowDim colDim := by omega
  have hceiling : (gridsEnd r.top.toNat count rowDim colDim : Int) ≤ dbSize.toInt := by
    rw [toInt_of_lt hsize]
    omega
  have hsize_eq : BitVec.ofNat 64 dbSize.toNat = dbSize := by rw [BitVec.ofNat_toNat, BitVec.setWidth_eq]
  have hoffset := word_toInt (show gridsEnd r.top.toNat count rowDim colDim < 2 ^ 63 by omega)
  exact ⟨⟨⟨_, congrArg some hdone.room.header, hsize_eq, hoffset⟩,
    Region.push_sound h.agrees.sound hlo hle hceiling⟩, h.header_le⟩

/-- The grids of an array read right wherever the bytes of the array are. -/
theorem GridsDone.reads (hdone : GridsDone value a dbSize.toNat r.top.toNat count rowDim colDim mem
    count.toNat mem') (ha : 0 < a) (hcount : rowDim.toNat * colDim.toNat < 2 ^ 31) {d lo hi : Int}
    (hd : 0 < a + d) (hlo : lo ≤ a + d)
    (hhi : a + d + gridsEnd r.top.toNat count rowDim colDim ≤ hi)
    (hbytes : ∀ q, a + startOf sizeofGrid2D r.top.toNat ≤ q → q < a + gridsEnd r.top.toNat count rowDim colDim →
      mem₂ (q + d) = mem' q) {i : Nat} (hindex : i < count.toNat) :
    Reads value mem₂ (a + startOf sizeofGrid2D r.top.toNat + i * sizeofGrid2D.toNat + d) rowDim colDim lo hi := by
  have hsizeof : sizeofGrid2D.toNat = 24 := rfl
  have hobjects := storageAt_mono r.top.toNat count rowDim colDim (Nat.zero_le i)
  have hend := storageAt_mono r.top.toNat count rowDim colDim hindex
  have hend : storageAt r.top.toNat count rowDim colDim i + storage rowDim.toNat colDim.toNat ≤
      gridsEnd r.top.toNat count rowDim colDim := by rwa [storageAt_succ] at hend
  rw [storageAt, stopOf, hsizeof] at hobjects
  have hmoved : Grid value mem₂ (a + startOf sizeofGrid2D r.top.toNat + i * sizeofGrid2D.toNat + d)
      (a + storageAt r.top.toNat count rowDim colDim i + d) rowDim colDim := by
    apply (hdone.grids i hindex).moves (by omega) (by omega)
    rintro q (hthis | hcells)
    · rw [hsizeof] at hthis
      exact hbytes q (by omega) (by omega)
    · exact hbytes q (by omega) (by omega)
  exact hmoved.reads ⟨by omega, .inl (by rw [hsizeof]; omega), hcount⟩ (by omega) (by omega)

theorem newArray_runs (value : BitVec 32 → BitVec 64) (ha : 0 < a) (h : Holds a dbSize mem r)
    (hsize : dbSize.toNat < 2 ^ 63) (hcount : rowDim.toNat * colDim.toNat < 2 ^ 31)
    (hfit : gridsEnd r.top.toNat count rowDim colDim ≤ dbSize.toNat)
    (hrange : gridsEnd r.top.toNat count rowDim colDim + 16 ≤ 2 ^ 63) :
    ∃ p mem', (newArrayIn a sizeofGrid2D count (ofDims value a rowDim colDim)).run mem = .ok p mem' ∧
      p = a + startOf sizeofGrid2D r.top.toNat ∧
      GridsDone value a dbSize.toNat r.top.toNat count rowDim colDim mem count.toNat mem' := by
  have hyields := newArray_yields value ha (holds_room h hsize) (holds_floor h) hcount hrange
  exact hyields.returns (fun e he => by have hlt := he.2; omega)

theorem newArray_refused (value : BitVec 32 → BitVec 64) (ha : 0 < a) (h : Holds a dbSize mem r)
    (hsize : dbSize.toNat < 2 ^ 63) (hcount : rowDim.toNat * colDim.toNat < 2 ^ 31)
    (hfit : ¬ gridsEnd r.top.toNat count rowDim colDim ≤ dbSize.toNat)
    (hrange : gridsEnd r.top.toNat count rowDim colDim + 16 ≤ 2 ^ 63) :
    ∃ mem', (newArrayIn a sizeofGrid2D count (ofDims value a rowDim colDim)).run mem =
      .error (.assertion .allocatorOverflow) mem' := by
  have hyields := newArray_yields value ha (holds_room h hsize) (holds_floor h) hcount hrange
  obtain ⟨e, mem', hrun, rfl, -⟩ := hyields.refuses (fun p mem' hdone => hfit hdone.2.fit)
  exact ⟨mem', hrun⟩

theorem GridsDone.reads_here
    (hdone : GridsDone value a dbSize.toNat r.top.toNat count rowDim colDim mem count.toNat mem')
    (ha : 0 < a) (hcount : rowDim.toNat * colDim.toNat < 2 ^ 31) {i : Nat} (hi : i < count.toNat) :
    Reads value mem' (a + startOf sizeofGrid2D r.top.toNat + i * sizeofGrid2D.toNat) rowDim colDim
      a (a + dbSize.toNat) := by
  have hfit : gridsEnd r.top.toNat count rowDim colDim ≤ dbSize.toNat := hdone.fit
  have hreads : Reads value mem' (a + startOf sizeofGrid2D r.top.toNat + i * sizeofGrid2D.toNat + 0) rowDim colDim
      a (a + dbSize.toNat) :=
    hdone.reads ha hcount (by omega) (by omega) (by omega) (fun q _ _ => by rw [Int.add_zero]) hi
  rwa [Int.add_zero] at hreads

/-- An array of grids is built in one block behind all that the arena has handed out, or
refused because that block does not fit: every grid reads right, and nothing else changes. -/
theorem grids_built (ha : 0 < a) (h : Holds a dbSize mem r) (hsize : dbSize.toNat < 2 ^ 63)
    (hcount : rowDim.toNat * colDim.toNat < 2 ^ 31)
    (hrange : gridsEnd r.top.toNat count rowDim colDim + 16 ≤ 2 ^ 63) :
    if gridsEnd r.top.toNat count rowDim colDim ≤ dbSize.toNat then
      ∃ p mem', (newArrayIn a sizeofGrid2D count (ofDims value a rowDim colDim)).run mem = .ok p mem' ∧
        p = a + (gridsBlock r count rowDim colDim).lo ∧
        Holds a dbSize mem' (r.push (gridsBlock r count rowDim colDim)) ∧
        Set.EqOn mem' mem (outside a p (a + (gridsBlock r count rowDim colDim).hi)) ∧
        ∀ i < count.toNat, Reads value mem' (p + i * sizeofGrid2D.toNat) rowDim colDim a (a + dbSize.toNat)
    else ∃ mem', (newArrayIn a sizeofGrid2D count (ofDims value a rowDim colDim)).run mem =
      .error (.assertion .allocatorOverflow) mem' := by
  split
  next hfit =>
    obtain ⟨p, mem', hrun, rfl, hdone⟩ := newArray_runs value ha h hsize hcount hfit hrange
    exact ⟨_, mem', hrun, rfl, hdone.holds h hsize, hdone.kept, fun i hi => hdone.reads_here ha hcount hi⟩
  next hfit => exact newArray_refused value ha h hsize hcount hfit hrange

/-- Grids survive the move of their arena as raw bytes. What is built in the copy later,
or refused there, leaves them as they are. -/
theorem grids_moved (ha : 0 < a) (hb : 0 < b) (h : Holds a dbSize mem r) (hsize : dbSize.toNat < 2 ^ 63)
    (hcount : rowDim.toNat * colDim.toNat < 2 ^ 31)
    (hrange : gridsEnd r.top.toNat count rowDim colDim + 16 ≤ 2 ^ 63)
    (hrun : (newArrayIn a sizeofGrid2D count (ofDims value a rowDim colDim)).run mem = .ok p mem₁)
    (hcopy : Copied mem₁ a mem₂ b dbSize.toNat) :
    (∀ i < count.toNat, Reads value mem₂ (p + i * sizeofGrid2D.toNat + (b - a)) rowDim colDim b
      (b + dbSize.toNat)) ∧
    ∀ count' rowDim' colDim' : BitVec 64, rowDim'.toNat * colDim'.toNat < 2 ^ 31 →
      gridsEnd (gridsEnd r.top.toNat count rowDim colDim) count' rowDim' colDim' + 16 ≤ 2 ^ 63 →
      if gridsEnd (gridsEnd r.top.toNat count rowDim colDim) count' rowDim' colDim' ≤ dbSize.toNat then
        ∃ p' mem₃, (newArrayIn b sizeofGrid2D count' (ofDims value b rowDim' colDim')).run mem₂ = .ok p' mem₃ ∧
          (∀ i < count.toNat,
            Reads value mem₃ (p + i * sizeofGrid2D.toNat + (b - a)) rowDim colDim b (b + dbSize.toNat)) ∧
          ∀ i < count'.toNat, Reads value mem₃ (p' + i * sizeofGrid2D.toNat) rowDim' colDim' b (b + dbSize.toNat)
      else ∃ mem₃, (newArrayIn b sizeofGrid2D count' (ofDims value b rowDim' colDim')).run mem₂ =
        .error (.assertion .allocatorOverflow) mem₃ := by
  have hyields := newArray_yields value ha (holds_room h hsize) (holds_floor h) hcount hrange
  obtain ⟨rfl, hdone⟩ := hyields.1 p mem₁ hrun
  have hholds := hdone.holds h hsize
  have hcopied := copy_holds hholds (by rwa [hholds.size_eq])
  have hfit : gridsEnd r.top.toNat count rowDim colDim ≤ dbSize.toNat := hdone.fit
  have hfloor := holds_floor h
  have hstart := le_startOf sizeofGrid2D r.top.toNat
  have hmoved : ∀ q, a + startOf sizeofGrid2D r.top.toNat ≤ q → q < a + gridsEnd r.top.toNat count rowDim colDim →
      mem₂ (q + (b - a)) = mem₁ q := by
    intro q hlo hhi
    have hbyte := hcopy (q - a).toNat (by omega)
    rwa [show b + ((q - a).toNat : Int) = q + (b - a) by omega,
      show a + ((q - a).toNat : Int) = q by omega] at hbyte
  refine ⟨fun i hi => hdone.reads ha hcount (by omega) (by omega) (by omega) hmoved hi, ?_⟩
  intro count' rowDim' colDim' hcount' hrange'
  have htop : (r.push (gridsBlock r count rowDim colDim)).top.toNat =
      gridsEnd r.top.toNat count rowDim colDim := rfl
  split
  next hfit' =>
    obtain ⟨p', mem₃, hrun', rfl, hdone'⟩ := newArray_runs value hb hcopied hsize hcount' hfit' hrange'
    refine ⟨_, mem₃, hrun', fun i hi => ?_, fun i hi => hdone'.reads_here hb hcount' hi⟩
    have hkept := hdone'.kept
    rw [htop] at hkept
    have hstart' := le_startOf sizeofGrid2D (gridsEnd r.top.toNat count rowDim colDim)
    refine hdone.reads ha hcount (by omega) (by omega) (by omega) (fun q hlo hhi => ?_) hi
    rw [hkept ⟨.inr (by omega), .inl (by omega)⟩, hmoved q hlo hhi]
  next hfit' => exact newArray_refused value hb hcopied hsize hcount' hfit' hrange'

section TwoArenas

/-- The double next to `n / 10.0`, for the `n` that an `int` can count. -/
def tenths (n : BitVec 32) : BitVec 64 :=
  if n.toNat = 0 then 0 else
    let log := n.toNat.log2
    let shift := if n.toNat * 2 ^ (56 - log) < 10 * 2 ^ 53 then 56 - log else 55 - log
    let quotient := n.toNat * 2 ^ shift / 10
    let rest := n.toNat * 2 ^ shift % 10
    let mantissa := if 5 < rest ∨ rest = 5 ∧ quotient % 2 = 1 then quotient + 1 else quotient
    BitVec.ofNat 64 ((1075 - shift) * 2 ^ 52 + mantissa - 2 ^ 52)

example : tenths 56 = 0x4016666666666666 := by decide

/-- An arena in memory that nobody has cleared. -/
def arenaBytes : Memory := storeHeader (fun _ => 0xFF) 65536 ⟨65536, 16⟩

theorem arenaBytes_holds : Holds 65536 65536 arenaBytes (.fresh sizeofDbArenaHeader.toInt) := by
  have hinit : (onBytes 65536 (allocatorDbInit 65536 65536)).run (fun _ => 0xFF) = .ok () arenaBytes := rfl
  exact init_holds hinit

theorem grids_built_several : ∃ p mem',
    (newArrayIn 65536 sizeofGrid2D 3 (ofDims tenths 65536 4 6)).run arenaBytes = .ok p mem' ∧ p = 65552 ∧
      ∀ i : Nat, i < 3 → Reads tenths mem' (p + i * 24) 4 6 65536 131072 := by
  have hbuilt := @grids_built tenths 65536 65536 arenaBytes (.fresh sizeofDbArenaHeader.toInt) 4 6 3 (by decide)
    arenaBytes_holds (by decide) (by decide) (by decide)
  rw [if_pos (by decide)] at hbuilt
  obtain ⟨p, mem', hrun, hp, -, -, hreads⟩ := hbuilt
  exact ⟨p, mem', hrun, hp, fun i hi => hreads i hi⟩

/-- The run of the test program: a grid, and behind its copy in a second arena five grids
of the default dimensions. -/
theorem grids_moved_main : ∃ p mem₁ p' mem₃,
    (newIn 65536 sizeofGrid2D (ofDims tenths 65536 10 10)).run arenaBytes = .ok p mem₁ ∧
    (newArrayIn 131072 sizeofGrid2D 5 (byDefault tenths 131072)).run (fun q => mem₁ (q - 65536)) = .ok p' mem₃ ∧
    Reads tenths mem₃ (p + 65536) 10 10 131072 196608 ∧
      ∀ i : Nat, i < 5 → Reads tenths mem₃ (p' + i * 24) 5 10 131072 196608 := by
  have hcopy : ∀ mem₁ : Memory, Copied mem₁ 65536 (fun q => mem₁ (q - 65536)) 131072 65536 :=
    fun mem₁ k _ => congrArg mem₁ (by omega)
  obtain ⟨p, mem₁, hrun, -, -⟩ := @newArray_runs 65536 65536 arenaBytes _ 10 10 1 tenths
    (by decide) arenaBytes_holds (by decide) (by decide) (by decide) (by decide)
  have hmoved := (grids_moved (by decide) (by decide) arenaBytes_holds (by decide) (by decide) (by decide) hrun
    (hcopy mem₁)).2 5 5 10 (by decide) (by decide)
  rw [if_pos (by decide)] at hmoved
  obtain ⟨p', mem₃, hrun', hold, hnew⟩ := hmoved
  refine ⟨p, mem₁, p', mem₃, ?_, hrun', ?_, fun i hi => hnew i hi⟩
  · rw [newIn, newIn_eq]
    exact hrun
  · simpa using hold 0 (by decide)

end TwoArenas

end Arenas

end Ocxxr.Grid2D

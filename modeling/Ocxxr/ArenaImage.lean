import Ocxxr.ArenaRegion
import Ocxxr.RelativePointer
import Mathlib.Logic.Relation

namespace Ocxxr.ArenaImage

open Ocr Allocator AllocatorSpec BumpRegion ArenaRegion ByteMemory RelativePointer

def headerAt (mem : Memory) (a : Int) : DbArenaHeader :=
  ⟨BitVec.ofNat 64 (load mem a 8), BitVec.ofNat 64 (load mem (a + 8) 8)⟩

def headersOf (mem : Memory) : Headers := fun a => some (headerAt mem a)

def storeHeader (mem : Memory) (a : Int) (header : DbArenaHeader) : Memory :=
  store (store mem a 8 header.size.toNat) (a + 8) 8 header.offset.toNat

/-- Code of the allocator of one arena, run on the bytes of the memory. -/
def onBytes {α : Type} (a : Int) (x : ArenaM α) : EStateM Fault Memory α := fun mem =>
  match x.run (headersOf mem) with
  | .ok value headers => .ok value ((headers a).elim mem (storeHeader mem a))
  | .error e headers => .error e ((headers a).elim mem (storeHeader mem a))

def size (mem : Memory) (a : Int) : BitVec 64 := (headerAt mem a).size

def root (a : Int) : Int := a + 16

/-- One step in the life of an arena: a block is handed out, code writes into a block
that it was given, or memory changes elsewhere. -/
inductive Step (a : Int) : Memory × Region Int → Memory × Region Int → Prop
  | allocate {mem mem' r} (elemSize count start)
      (hr : (onBytes a (DatablockAllocator.allocate ⟨a⟩ elemSize count)).run mem = .ok start mem')
      (hin : InRange (headerAt mem a) elemSize count) :
      Step a (mem, r) (mem', r.push (blockAt start elemSize count))
  | write {mem mem' r} (block : Block Int) (o : Int) (n : Nat) (hblock : block ∈ r.live) (hlo : block.lo ≤ o)
      (hhi : o + n ≤ block.hi) (hw : SameOutside mem mem' (a + o) n) : Step a (mem, r) (mem', r)
  | elsewhere {mem mem' r} (hw : Copied mem a mem' a (size mem a).toNat) : Step a (mem, r) (mem', r)

def Runs (a : Int) : Memory × Region Int → Memory × Region Int → Prop := Relation.ReflTransGen (Step a)

structure Holds (a : Int) (dbSize : BitVec 64) (mem : Memory) (r : Region Int) : Prop where
  agrees : Agrees a dbSize (headersOf mem) r
  header_le : sizeofDbArenaHeader ≤ dbSize

variable {a b : Int} {dbSize : BitVec 64} {mem mem' : Memory} {r r' : Region Int}

theorem Holds.size_eq (h : Holds a dbSize mem r) : size mem a = dbSize := by
  obtain ⟨header, hheader, hsize, -⟩ := h.agrees.header
  have he : headerAt mem a = header := Option.some.inj hheader
  rw [size, he, hsize]

theorem headerAt_storeHeader (mem : Memory) (a : Int) (header : DbArenaHeader) :
    headerAt (storeHeader mem a header) a = header := by
  have hsize : load (storeHeader mem a header) a 8 = header.size.toNat := by
    rw [storeHeader, load_outside (store_sameOutside _ _ _ _) (.inl (by omega)), load_store]
    exact Nat.mod_eq_of_lt header.size.isLt
  have hoffset : load (storeHeader mem a header) (a + 8) 8 = header.offset.toNat := by
    rw [storeHeader, load_store]
    exact Nat.mod_eq_of_lt header.offset.isLt
  rw [headerAt, hsize, hoffset, BitVec.ofNat_toNat, BitVec.ofNat_toNat, BitVec.setWidth_eq, BitVec.setWidth_eq]

theorem headerAt_copied {n : Nat} (h : Copied mem a mem' b n) (hn : 16 ≤ n) :
    headerAt mem' b = headerAt mem a := by
  have hsize := load_copied (o := 0) (n := 8) h le_rfl (by omega)
  have hoffset := load_copied (o := 8) (n := 8) h (by decide) (by omega)
  rw [Int.add_zero, Int.add_zero] at hsize
  rw [headerAt, headerAt, hsize, hoffset]

theorem headerAt_write {o : Int} {n : Nat} (h : SameOutside mem mem' (a + o) n) (ho : 16 ≤ o) :
    headerAt mem' a = headerAt mem a := by
  rw [headerAt, headerAt, load_outside h (.inl (by omega)), load_outside h (.inl (by omega))]

theorem onBytes_ok {α : Type} {x : ArenaM α} {value : α} (h : (onBytes a x).run mem = .ok value mem') :
    ∃ headers, x.run (headersOf mem) = .ok value headers ∧
      mem' = (headers a).elim mem (storeHeader mem a) := by
  simp only [onBytes, EStateM.run] at h ⊢
  split at h
  next value' headers hx =>
    cases h
    exact ⟨headers, hx, rfl⟩
  next => cases h

theorem onBytes_run {α : Type} {x : ArenaM α} {value : α} {headers : Headers}
    (h : x.run (headersOf mem) = .ok value headers) :
    (onBytes a x).run mem = .ok value ((headers a).elim mem (storeHeader mem a)) := by
  simp only [onBytes, EStateM.run] at h ⊢
  rw [h]

theorem agrees_of_headerAt (h : Agrees a dbSize (headersOf mem) r) (he : headerAt mem' b = headerAt mem a) :
    Agrees b dbSize (headersOf mem') r := by
  obtain ⟨header, hheader, hrest⟩ := h.header
  refine ⟨⟨header, ?_, hrest⟩, h.sound⟩
  rw [← hheader]
  exact congrArg some he

theorem agrees_onBytes {headers : Headers} (h : Agrees a dbSize headers r)
    (hmem : mem' = (headers a).elim mem (storeHeader mem a)) : Agrees a dbSize (headersOf mem') r := by
  obtain ⟨header, hheader, -⟩ := h.header
  rw [hheader] at hmem
  apply agrees_congr h
  rw [hheader, hmem]
  exact congrArg some (headerAt_storeHeader mem a header)

theorem init_holds (h : (onBytes a (allocatorDbInit a dbSize)).run mem = .ok () mem') :
    Holds a dbSize mem' (.fresh sizeofDbArenaHeader.toInt) := by
  obtain ⟨headers, hrun, hmem⟩ := onBytes_ok h
  exact ⟨agrees_onBytes (fresh_agrees hrun) hmem, (allocatorDbInit_ok.mp hrun).1⟩

theorem step_holds (h : Holds a dbSize mem r) (hstep : Step a (mem, r) (mem', r')) : Holds a dbSize mem' r' := by
  refine ⟨?_, h.header_le⟩
  cases hstep with
  | allocate elemSize count start hr hin =>
      obtain ⟨headers, hrun, hmem⟩ := onBytes_ok hr
      refine agrees_onBytes (allocate_agrees h.agrees rfl hrun (fun header hheader => ?_)) hmem
      obtain rfl : headerAt mem a = header := Option.some.inj hheader
      exact hin
  | write block o n hblock hlo hhi hw =>
      have hfloor : (16 : Int) ≤ block.lo := (h.agrees.sound.packed.bounds block hblock).1
      exact agrees_of_headerAt h.agrees (headerAt_write hw (hfloor.trans hlo))
  | elsewhere hw =>
      rw [h.size_eq] at hw
      exact agrees_of_headerAt h.agrees (headerAt_copied hw h.header_le)

theorem runs_holds {s s' : Memory × Region Int} (h : Holds a dbSize s.1 s.2) (hrun : Runs a s s') :
    Holds a dbSize s'.1 s'.2 := by
  induction hrun with
  | refl => exact h
  | tail _ hstep ih => exact step_holds ih hstep

theorem runs_live {s s' : Memory × Region Int} (hrun : Runs a s s') : ∃ added, s'.2.live = added ++ s.2.live := by
  induction hrun with
  | refl => exact ⟨[], rfl⟩
  | tail _ hstep ih =>
      obtain ⟨added, hadded⟩ := ih
      cases hstep with
      | allocate elemSize count start hr hin =>
          exact ⟨blockAt start elemSize count :: added, congrArg (blockAt start elemSize count :: ·) hadded⟩
      | write block o n hblock hlo hhi hw => exact ⟨added, hadded⟩
      | elsewhere hw => exact ⟨added, hadded⟩

theorem copy_holds (h : Holds a dbSize mem r) (hcopy : Copied mem a mem' b (size mem a).toNat) :
    Holds b dbSize mem' r := by
  rw [h.size_eq] at hcopy
  exact ⟨agrees_of_headerAt h.agrees (headerAt_copied hcopy h.header_le), h.header_le⟩

section Paths

/-- A step on the way through the objects of an arena: to a member or an element in
place, or through the pointer cell at the current address. -/
inductive PathStep
  | field (δ : Int)
  | deref
  | index (i : Int) (sizeofT : Nat)

inductive Reached
  | address (p : Int)
  | null
  | uninitialized
  deriving DecidableEq

def Reached.shift (d : Int) : Reached → Reached
  | address p => address (p + d)
  | null => null
  | uninitialized => uninitialized

def through (mem : Memory) (p : Int) : Reached :=
  match (get p (loadCell mem p)).run mem with
  | .error _ _ => .uninitialized
  | .ok q _ => if q = 0 then .null else .address q

def PathStep.readsCell : PathStep → Bool
  | field _ => false
  | deref => true
  | index _ _ => true

def PathStep.leads (mem : Memory) (p : Int) : PathStep → Reached
  | field δ => .address (p + δ)
  | deref => through mem p
  | index i sizeofT =>
      match through mem p with
      | .address q => .address (element q i sizeofT)
      | other => other

def follow (mem : Memory) (p : Int) : List PathStep → Reached × Nat
  | [] => (.address p, 0)
  | step :: rest =>
      match step.leads mem p with
      | .address q => follow mem q rest
      | other => (other, rest.length)

def reads (mem : Memory) (p : Int) : List PathStep → List Int
  | [] => []
  | step :: rest =>
      (if step.readsCell then [p] else []) ++
        match step.leads mem p with
        | .address q => reads mem q rest
        | _ => []

/-- Pointer cells in the blocks of the arena: each holds what the constructor leaves
there, or what is set for null or for a target inside the arena. -/
structure Cells (a : Int) (mem : Memory) (live : List (Block Int)) (cells : Set Int) : Prop where
  inside : ∀ o ∈ cells, ∃ block ∈ live, block.lo ≤ o ∧ o + sizeofRelPtr ≤ block.hi
  holds : ∀ o ∈ cells, loadCell mem (a + o) = uninitialized ∨
    ∃ target, (target = 0 ∨ a ≤ target ∧ target ≤ a + (size mem a).toNat) ∧
      loadCell mem (a + o) = set (a + o) target

theorem through_uninitialized {p : Int} (h : loadCell mem p = uninitialized) : through mem p = .uninitialized := by
  rw [through, h, get_uninitialized]

theorem through_set {p target : Int} (h : loadCell mem p = set p target) :
    through mem p =
      if target = 0 ∨ target = p then .null else if target = p + 1 then .uninitialized else .address target := by
  rw [through, h, get_set]
  by_cases hnull : target = 0 ∨ target = p
  · simp [hnull]
  by_cases hnext : target = p + 1
  · simp only [if_neg hnull, if_pos hnext]
  · simp only [if_neg hnull, if_neg hnext]
    exact if_neg (fun h0 => hnull (.inl h0))

theorem set_shift {this target d : Int} (h : target ≠ 0) (hd : target + d ≠ 0) :
    set (this + d) (target + d) = set this target := by
  rw [RelativePointer.set, RelativePointer.set, if_neg h, if_neg hd]
  congr 1
  omega

section Copies

variable {cells : Set Int} (h : Holds a dbSize mem r) (hcells : Cells a mem r.live cells)
  (hcopy : Copied mem a mem' b (size mem a).toNat)

include h hcells

theorem cell_inside {o : Int} (ho : o ∈ cells) : 16 ≤ o ∧ o + sizeofRelPtr ≤ (size mem a).toNat := by
  obtain ⟨block, hblock, hlo, hhi⟩ := hcells.inside o ho
  obtain ⟨hfloor, -, -, hceiling⟩ := h.agrees.sound.packed.bounds block hblock
  have hfloor : (16 : Int) ≤ block.lo := hfloor
  have hsize : dbSize.toInt ≤ dbSize.toNat := by
    have hcond := BitVec.toInt_eq_toNat_cond dbSize
    split at hcond <;> omega
  rw [h.size_eq]
  exact ⟨hfloor.trans hlo, hhi.trans (hceiling.trans hsize)⟩

include hcopy

theorem through_copied (ha : 0 < a) (hb : 0 < b) {o : Int} (ho : o ∈ cells) :
    through mem' (b + o) = (through mem (a + o)).shift (b - a) := by
  obtain ⟨hlo, hhi⟩ := cell_inside h hcells ho
  have hload : loadCell mem' (b + o) = loadCell mem (a + o) := by
    rw [loadCell, loadCell, load_copied hcopy (by omega) hhi]
  rcases hcells.holds o ho with hcell | ⟨target, htarget, hcell⟩
  · rw [through_uninitialized hcell, through_uninitialized (hload.trans hcell)]
    rfl
  rw [through_set hcell]
  rcases htarget with rfl | ⟨hlow, -⟩
  · have hcell' : loadCell mem' (b + o) = set (b + o) 0 := hload.trans hcell
    rw [through_set hcell', if_pos (.inl rfl), if_pos (.inl rfl)]
    rfl
  · have hbase : b + o = a + o + (b - a) := by omega
    have hcell' : loadCell mem' (b + o) = set (b + o) (target + (b - a)) := by
      rw [hload, hcell, hbase, set_shift (by omega) (by omega)]
    rw [through_set hcell']
    by_cases hnull : target = a + o
    · rw [if_pos (.inr (by omega)), if_pos (.inr hnull)]
      rfl
    by_cases hnext : target = a + o + 1
    · rw [if_neg (by omega), if_pos (by omega), if_neg (by omega), if_pos hnext]
      rfl
    · rw [if_neg (by omega), if_neg (by omega), if_neg (by omega), if_neg hnext]
      rfl

theorem leads_copied (ha : 0 < a) (hb : 0 < b) (step : PathStep) {p : Int}
    (hp : step.readsCell = true → p - a ∈ cells) :
    step.leads mem' (p + (b - a)) = (step.leads mem p).shift (b - a) := by
  have hthrough : p - a ∈ cells → through mem' (p + (b - a)) = (through mem p).shift (b - a) := by
    intro hp
    have hcopied := through_copied h hcells hcopy ha hb hp
    rwa [show b + (p - a) = p + (b - a) by omega, show a + (p - a) = p by omega] at hcopied
  cases step with
  | field δ => exact congrArg Reached.address (by omega)
  | deref => exact hthrough (hp rfl)
  | index i sizeofT =>
      rw [PathStep.leads, PathStep.leads, hthrough (hp rfl)]
      cases through mem p with
      | address q => exact congrArg Reached.address (by rw [element, element]; omega)
      | null => rfl
      | uninitialized => rfl

theorem follow_copied (ha : 0 < a) (hb : 0 < b) (path : List PathStep) {p : Int}
    (hpath : ∀ q ∈ reads mem p path, q - a ∈ cells) :
    follow mem' (p + (b - a)) path = ((follow mem p path).1.shift (b - a), (follow mem p path).2) ∧
      reads mem' (p + (b - a)) path = (reads mem p path).map (· + (b - a)) := by
  induction path generalizing p with
  | nil => exact ⟨rfl, rfl⟩
  | cons step rest ih =>
      have hhead : step.readsCell = true → p - a ∈ cells := by
        intro hreads
        apply hpath
        simp [reads, hreads]
      have hleads := leads_copied h hcells hcopy ha hb step hhead
      rw [follow, follow, reads, reads, hleads]
      rw [reads] at hpath
      cases hstep : step.leads mem p with
      | address q =>
          rw [hstep] at hpath
          obtain ⟨hfollow, hreads⟩ := ih (fun q' hq' => hpath q' (List.mem_append_right _ hq'))
          simp only [Reached.shift]
          exact ⟨hfollow, by rw [hreads, List.map_append]; cases step.readsCell <;> rfl⟩
      | null => exact ⟨rfl, by cases step.readsCell <;> rfl⟩
      | uninitialized => exact ⟨rfl, by cases step.readsCell <;> rfl⟩

end Copies

/-- An arena image can be moved as raw bytes: every path from the root leads in the copy
where it leads in the original, reading nothing but the copy, and what is allocated from
the copied header lies apart from what was copied. -/
theorem arena_image_moves {start mem₀ : Memory} {cells : Set Int} (ha : 0 < a) (hb : 0 < b)
    (hinit : (onBytes a (allocatorDbInit a dbSize)).run start = .ok () mem₀)
    (hrun : Runs a (mem₀, .fresh sizeofDbArenaHeader.toInt) (mem, r)) (hcells : Cells a mem r.live cells)
    (hcopy : Copied mem a mem' b (size mem a).toNat) :
    (∀ path, (∀ p ∈ reads mem (root a) path, p - a ∈ cells) →
      follow mem' (root b) path =
        ((follow mem (root a) path).1.shift (b - a), (follow mem (root a) path).2) ∧
      ∀ p ∈ reads mem' (root b) path, b ≤ p ∧ p + sizeofRelPtr ≤ b + (size mem a).toNat) ∧
    ∀ mem'' r'', Runs b (mem', r) (mem'', r'') →
      r''.live.Pairwise Block.Apart ∧ ∃ added, r''.live = added ++ r.live ∧
        ∀ block ∈ added, ∀ copied ∈ r.live, block.Apart copied := by
  have h : Holds a dbSize mem r := runs_holds (init_holds hinit) hrun
  refine ⟨fun path hpath => ?_, fun mem'' r'' hrun' => ?_⟩
  · obtain ⟨hfollow, hreads⟩ := follow_copied h hcells hcopy ha hb path hpath
    have hroot : root a + (b - a) = root b := by rw [root, root]; omega
    rw [hroot] at hfollow hreads
    refine ⟨hfollow, fun p hp => ?_⟩
    rw [hreads] at hp
    obtain ⟨q, hq, rfl⟩ := List.mem_map.mp hp
    obtain ⟨hlo, hhi⟩ := cell_inside h hcells (hpath q hq)
    omega
  · have hcopied := runs_holds (copy_holds h hcopy) hrun'
    have hapart := hcopied.agrees.sound.packed.apart
    obtain ⟨added, hadded⟩ := runs_live hrun'
    refine ⟨hapart, added, hadded, ?_⟩
    rw [hadded] at hapart
    exact (List.pairwise_append.mp hapart).2.2

end Paths

section LinkedPair

def blank : Memory := fun _ => 0

def initial : Memory := storeHeader blank 4096 ⟨64, 16⟩

def allocated : Memory := storeHeader initial 4096 ⟨64, 32⟩

def linked : Memory := storeCell allocated (4096 + 16) (RelativePointer.set (4096 + 16) (4096 + 24))

def moved : Memory := fun q => linked (q - 4096)

def onePair : Region Int := Region.push (.fresh 16) ⟨16, 32⟩

theorem linked_runs : Runs 4096 (initial, .fresh sizeofDbArenaHeader.toInt) (linked, onePair) := by
  have hheader : headerAt initial 4096 = ⟨64, 16⟩ := headerAt_storeHeader blank 4096 ⟨64, 16⟩
  have hheaders : headersOf initial 4096 = some ⟨64, 16⟩ := congrArg some hheader
  have hrun : (DatablockAllocator.allocate ⟨4096⟩ 8 2).run (headersOf initial) =
      .ok 16 (Function.update (headersOf initial) 4096 (some ⟨64, 32⟩)) :=
    allocate_ok.mpr ⟨by decide, allocateAligned_ok.mpr ⟨by decide, _, hheaders, rfl, rfl, rfl⟩⟩
  have hin : InRange (headerAt initial 4096) 8 2 := by
    rw [hheader]
    exact ⟨by decide, by decide, by decide⟩
  have halloc : Step 4096 (initial, .fresh sizeofDbArenaHeader.toInt) (allocated, onePair) :=
    .allocate 8 2 16 (onBytes_run hrun) hin
  exact .tail (.single halloc) (.write ⟨16, 32⟩ 16 8 List.mem_cons_self (by decide) (by decide)
    (store_sameOutside _ _ _ _))

theorem arena_image_moves_linked :
    follow moved (root 8192) [.deref] = (.address 8216, 0) ∧
    ∀ mem r, Runs 8192 (moved, onePair) (mem, r) →
      r.live.Pairwise Block.Apart ∧ ∃ added, r.live = added ++ onePair.live ∧
        ∀ block ∈ added, ∀ copied ∈ onePair.live, block.Apart copied := by
  have hinit : (onBytes 4096 (allocatorDbInit 4096 64)).run blank = .ok () initial := rfl
  have hsize : size linked 4096 = 64 := (runs_holds (init_holds hinit) linked_runs).size_eq
  have hcell : loadCell linked (4096 + 16) = RelativePointer.set (4096 + 16) (4096 + 24) :=
    loadCell_storeCell allocated (4096 + 16) (by decide) (by decide)
  have hcells : Cells 4096 linked onePair.live {16} := by
    refine ⟨fun o ho => ⟨⟨16, 32⟩, List.mem_cons_self, ?_⟩, fun o ho => .inr ⟨4096 + 24, .inr ⟨by decide, ?_⟩, ?_⟩⟩
    · rw [Set.mem_singleton_iff.mp ho]
      decide
    · rw [hsize]
      decide
    · rw [Set.mem_singleton_iff.mp ho]
      exact hcell
  have hcopy : Copied linked 4096 moved 8192 (size linked 4096).toNat := by
    intro k _
    exact congrArg linked (by omega)
  have hleads : through linked (root 4096) = .address (4096 + 24) := by
    rw [root, through_set hcell]
    decide
  have hpath : ∀ p ∈ reads linked (root 4096) [.deref], p - 4096 ∈ ({16} : Set Int) := by
    intro p hp
    simp only [reads, PathStep.leads, hleads, PathStep.readsCell, if_true, List.append_nil,
      List.mem_singleton] at hp
    exact Set.mem_singleton_iff.mpr (by rw [hp]; rfl)
  obtain ⟨hpaths, hfurther⟩ := arena_image_moves (by decide) (by decide) hinit linked_runs hcells hcopy
  refine ⟨?_, hfurther⟩
  rw [(hpaths [.deref] hpath).1, follow, PathStep.leads, hleads]
  rfl

end LinkedPair

end Ocxxr.ArenaImage

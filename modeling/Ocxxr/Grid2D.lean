import Ocxxr.ArenaImage
import Mathlib.Data.Set.Function

namespace Ocxxr.Grid2D

open Ocr Allocator ByteMemory ArenaImage RelativePointer

abbrev ByteM := EStateM Fault Memory

def allocate (a : Int) (size count : BitVec 64) : ByteM (BitVec 64) :=
  onBytes a (DatablockAllocator.allocate ⟨a⟩ size count)

def newIn (a : Int) (sizeofT : BitVec 64) (construct : Int → ByteM Unit) : ByteM Int :=
  Allocator.newIn (allocate a) a sizeofT construct

def newArrayIn (a : Int) (sizeofT count : BitVec 64) (init : Int → ByteM Unit) : ByteM Int :=
  Allocator.newArrayIn (allocate a) a sizeofT count init

def sizeofDouble : Nat := 8

def sizeofGrid2D : BitVec 64 := 24

/-- `operator[]` of the cell at `this`. There is no element behind a null pointer. -/
def subscript (this : Int) (i : Nat) (sizeofT : Nat) : ByteM Int := do
  let mem ← MonadState.get
  let target ← RelativePointer.get this (loadCell mem this)
  if target = 0 then
    throw .invalidAccess
  else
    pure (element target i sizeofT)

def assign (this target : Int) : ByteM Unit :=
  modify (fun mem => storeCell mem this (RelativePointer.set this target))

def construct (this : Int) : ByteM Unit := modify (fun mem => storeCell mem this uninitialized)

/-- A member, by the address of its object. -/
def rows (mem : Memory) (this : Int) : BitVec 64 := BitVec.ofNat 64 (load mem this 8)

def cols (mem : Memory) (this : Int) : BitVec 64 := BitVec.ofNat 64 (load mem (this + 8) 8)

def grid (this : Int) : Int := this + 16

def initGrid2D (a : Int) (rows cols : BitVec 64) : ByteM Int := do
  let grid ← newArrayIn a (BitVec.ofNat 64 sizeofRelPtr) rows construct
  forM (List.range rows.toNat) (fun (r : Nat) => do
    let row ← newArrayIn a (BitVec.ofNat 64 sizeofDouble) cols (fun _ => pure ())
    assign (grid + r * sizeofRelPtr) row)
  pure grid

def item (this : Int) (row col : Nat) : ByteM Int := do
  let cell ← subscript (grid this) row sizeofRelPtr
  subscript cell col sizeofDouble

section Constructors

-- The bits of `n / 10.0`.
variable (value : BitVec 32 → BitVec 64)

def fillItem (this : Int) (r : Nat) (n : BitVec 32) (c : Nat) : ByteM (BitVec 32) := do
  let p ← item this r c
  modify (fun mem => store mem p sizeofDouble (value n).toNat)
  pure (n + 1)

def fillRow (this : Int) (cols : Nat) (n : BitVec 32) (r : Nat) : ByteM (BitVec 32) :=
  (List.range cols).foldlM (fillItem value this r) n

/-- `Grid2D(size_t, size_t)`. The dimensions are constant once they are set. -/
def ofDims (a : Int) (rowDim colDim : BitVec 64) (this : Int) : ByteM Unit := do
  modify (fun mem => store mem this 8 rowDim.toNat)
  modify (fun mem => store mem (this + 8) 8 colDim.toNat)
  let cells ← initGrid2D a rowDim colDim
  assign (grid this) cells
  let mem ← MonadState.get
  let _ ← (List.range (rows mem this).toNat).foldlM (fillRow value this (cols mem this).toNat) 0
  pure ()

def byDefault (a this : Int) : ByteM Unit := ofDims value a 5 10 this

end Constructors

/-- `indexOutOfBounds` stands for the assertion of `at`. -/
inductive Failure
  | library (e : Fault)
  | indexOutOfBounds
  deriving DecidableEq, Repr

def fromLibrary {α : Type} (x : ByteM α) : EStateM Failure Memory α := fun mem =>
  match x.run mem with
  | .ok value mem' => .ok value mem'
  | .error e mem' => .error (.library e) mem'

def atIndex (this : Int) (row col : BitVec 64) : EStateM Failure Memory Int := do
  let mem ← MonadState.get
  if row < rows mem this ∧ col < cols mem this then
    fromLibrary (item this row.toNat col.toNat)
  else
    throw .indexOutOfBounds

section Layout

/-- Where the items lie: row by row behind the cells of the rows, which start at `cells`. -/
def itemAt (cells : Int) (rows : Nat) (k : Nat) : Int := cells + 8 * rows + 8 * k

def Pointed (mem : Memory) (cells : Int) (rows cols count : Nat) : Prop :=
  ∀ r < count, loadCell mem (cells + 8 * r) = RelativePointer.set (cells + 8 * r) (itemAt cells rows (r * cols))

structure Shape (mem : Memory) (this cells : Int) (rowDim colDim : BitVec 64) : Prop where
  rows_eq : rows mem this = rowDim
  cols_eq : cols mem this = colDim
  grid_eq : loadCell mem (grid this) = RelativePointer.set (grid this) cells
  row_eq : Pointed mem cells rowDim.toNat colDim.toNat rowDim.toNat

def Filled (value : BitVec 32 → BitVec 64) (mem : Memory) (cells : Int) (rows count : Nat) : Prop :=
  ∀ k < count, load mem (itemAt cells rows k) sizeofDouble = (value (BitVec.ofNat 32 k)).toNat

structure Grid (value : BitVec 32 → BitVec 64) (mem : Memory) (this cells : Int)
    (rowDim colDim : BitVec 64) : Prop where
  shape : Shape mem this cells rowDim colDim
  filled : Filled value mem cells rowDim.toNat (rowDim.toNat * colDim.toNat)

def storage (rows cols : Nat) : Nat := 8 * rows + 8 * (rows * cols)

/-- An object beside its storage, with as many items as the `int` of the constructor can
count. -/
structure Placed (this cells : Int) (rows cols : Nat) : Prop where
  pos : 0 < cells
  beside : this + 24 ≤ cells ∨ cells + storage rows cols ≤ this
  count : rows * cols < 2 ^ 31

def links (this cells : Int) (rows : Nat) : Set Int :=
  {q | this ≤ q ∧ q < this + 24 ∨ cells ≤ q ∧ q < cells + 8 * rows}

def footprint (this cells : Int) (rows cols : Nat) : Set Int :=
  {q | this ≤ q ∧ q < this + 24 ∨ cells ≤ q ∧ q < cells + storage rows cols}

variable {value : BitVec 32 → BitVec 64} {mem mem' : Memory} {this cells : Int} {rowDim colDim : BitVec 64}

theorem index_lt {rows cols r c : Nat} (hr : r < rows) (hc : c < cols) : r * cols + c < rows * cols := by
  have hrow : (r + 1) * cols ≤ rows * cols := Nat.mul_le_mul_right cols hr
  rw [Nat.succ_mul] at hrow
  omega

theorem subscript_run {target : Int} (h : loadCell mem this = RelativePointer.set this target) (hpos : 0 < target)
    (hself : target ≠ this) (hnext : target ≠ this + 1) {i : Nat} (hi : i < 2 ^ 31) (sizeofT : Nat) :
    (subscript this i sizeofT).run mem = .ok (target + i * sizeofT) mem := by
  have hget : (RelativePointer.get this (loadCell mem this)).run mem = .ok target mem := by
    rw [h, get_set, if_neg (by omega), if_neg (by omega)]
  have hint : (BitVec.ofInt 32 i).toInt = i := BitVec.toInt_ofInt_eq_self (by decide) (by omega) (by omega)
  rw [subscript, EStateM.run_bind]
  simp only [EStateM.run_get, EStateM.run_bind, hget, if_neg hpos.ne']
  rw [element, hint, EStateM.run_pure]

theorem Placed.off {rows cols : Nat} (h : Placed this cells rows cols) :
    cells ≠ grid this ∧ cells ≠ grid this + 1 := by
  have hbeside := h.beside
  rw [grid]
  omega

/-- Both dimensions go through an `int`: with items to read, they fit if the number of
items does. -/
theorem Shape.item_run (h : Shape mem this cells rowDim colDim)
    (hplaced : Placed this cells rowDim.toNat colDim.toNat) {r c : Nat} (hr : r < rowDim.toNat)
    (hc : c < colDim.toNat) :
    (item this r c).run mem = .ok (itemAt cells rowDim.toNat (r * colDim.toNat + c)) mem := by
  have hoff := hplaced.off
  obtain ⟨hpos, hbeside, hcount⟩ := hplaced
  have hrow : r < 2 ^ 31 := by
    have hle := Nat.le_mul_of_pos_right rowDim.toNat (Nat.zero_lt_of_lt hc)
    omega
  have hcol : c < 2 ^ 31 := by
    have hle := Nat.le_mul_of_pos_left colDim.toNat (Nat.zero_lt_of_lt hr)
    omega
  have houter := subscript_run h.grid_eq hpos hoff.1 hoff.2 hrow sizeofRelPtr
  have hcell : cells + r * (sizeofRelPtr : Nat) = cells + 8 * r := by
    rw [sizeofRelPtr]
    omega
  have hinner := subscript_run (h.row_eq r hr) (by rw [itemAt]; omega) (by rw [itemAt]; omega)
    (by rw [itemAt]; omega) hcol sizeofDouble
  have hitem : itemAt cells rowDim.toNat (r * colDim.toNat) + c * (sizeofDouble : Nat) =
      itemAt cells rowDim.toNat (r * colDim.toNat + c) := by
    rw [itemAt, itemAt, sizeofDouble]
    push_cast
    ring
  rw [hcell] at houter
  rw [hitem] at hinner
  rw [item, EStateM.run_bind, houter]
  exact hinner

theorem Shape.atIndex_run (h : Shape mem this cells rowDim colDim)
    (hplaced : Placed this cells rowDim.toNat colDim.toNat) (row col : BitVec 64) :
    (atIndex this row col).run mem =
      if row < rowDim ∧ col < colDim then
        .ok (itemAt cells rowDim.toNat (row.toNat * colDim.toNat + col.toNat)) mem
      else .error .indexOutOfBounds mem := by
  rw [atIndex, EStateM.run_bind]
  simp only [EStateM.run_get, h.rows_eq, h.cols_eq]
  split
  next hin =>
    have hitem := h.item_run hplaced (BitVec.lt_def.mp hin.1) (BitVec.lt_def.mp hin.2)
    simp only [EStateM.run, fromLibrary] at hitem ⊢
    rw [hitem]
  next => rfl

/-- Every item reads as its value, from the given range of addresses, and any other index
is refused. -/
def Reads (value : BitVec 32 → BitVec 64) (mem : Memory) (this : Int) (rowDim colDim : BitVec 64)
    (lo hi : Int) : Prop :=
  ∀ row col, if row < rowDim ∧ col < colDim then
      ∃ p, (atIndex this row col).run mem = .ok p mem ∧ lo ≤ p ∧ p + sizeofDouble ≤ hi ∧
        load mem p sizeofDouble = (value (BitVec.ofNat 32 (row.toNat * colDim.toNat + col.toNat))).toNat
    else (atIndex this row col).run mem = .error .indexOutOfBounds mem

theorem Grid.reads (h : Grid value mem this cells rowDim colDim)
    (hplaced : Placed this cells rowDim.toNat colDim.toNat)
    {lo hi : Int} (hlo : lo ≤ cells) (hhi : cells + storage rowDim.toNat colDim.toNat ≤ hi) :
    Reads value mem this rowDim colDim lo hi := by
  intro row col
  have hrun := h.shape.atIndex_run hplaced row col
  split
  next hin =>
    have hindex := index_lt (BitVec.lt_def.mp hin.1) (BitVec.lt_def.mp hin.2)
    rw [if_pos hin] at hrun
    rw [storage] at hhi
    refine ⟨_, hrun, ?_, ?_, h.filled _ hindex⟩
    · rw [itemAt]
      omega
    · rw [itemAt, sizeofDouble]
      omega
  next hout => rwa [if_neg hout] at hrun

section Moves

variable {d : Int} {bytes : Set Int}

theorem load_moved (h : ∀ q ∈ bytes, mem' (q + d) = mem q) {p : Int} {n : Nat}
    (hin : ∀ k : Nat, k < n → p + k ∈ bytes) : load mem' (p + d) n = load mem p n := by
  apply load_congr
  intro k hk
  have hbyte := h (p + k) (hin k hk)
  rwa [show p + (k : Int) + d = p + d + k by omega] at hbyte

theorem loadCell_moved (h : ∀ q ∈ bytes, mem' (q + d) = mem q) {p target : Int}
    (hin : ∀ k : Nat, k < sizeofRelPtr → p + k ∈ bytes) (htarget : 0 < target) (hmoved : 0 < target + d)
    (hcell : loadCell mem p = RelativePointer.set p target) :
    loadCell mem' (p + d) = RelativePointer.set (p + d) (target + d) := by
  rw [set_shift (by omega) (by omega), ← hcell, loadCell, loadCell, load_moved h hin]

theorem itemAt_inside {rows cols k : Nat} (hk : k < rows * cols) (j : Nat) (hj : j < sizeofDouble) :
    itemAt cells rows k + j ∈ footprint this cells rows cols := by
  rw [sizeofDouble] at hj
  right
  rw [itemAt, storage]
  omega

theorem Shape.moves (h : Shape mem this cells rowDim colDim) (hpos : 0 < cells) (hmoved : 0 < cells + d)
    (hbytes : ∀ q ∈ links this cells rowDim.toNat, mem' (q + d) = mem q) :
    Shape mem' (this + d) (cells + d) rowDim colDim := by
  refine ⟨?_, ?_, ?_, fun r hr => ?_⟩
  · have hload : load mem' (this + d) 8 = load mem this 8 := by
      apply load_moved hbytes
      intro k hk
      left
      omega
    rw [← h.rows_eq, rows, rows, hload]
  · have hload : load mem' (this + 8 + d) 8 = load mem (this + 8) 8 := by
      apply load_moved hbytes
      intro k hk
      left
      omega
    rw [← h.cols_eq, cols, cols, ← hload, show this + 8 + d = this + d + 8 by omega]
  · have hcell := loadCell_moved hbytes (p := grid this) (fun k hk => ?_) (by omega) (by omega) h.grid_eq
    · rwa [show grid this + d = grid (this + d) by rw [grid, grid]; omega] at hcell
    · rw [sizeofRelPtr] at hk
      left
      rw [grid]
      omega
  · have hcell := loadCell_moved hbytes (p := cells + 8 * r) (fun k hk => ?_) (by rw [itemAt]; omega)
      (by rw [itemAt]; omega) (h.row_eq r hr)
    · rwa [show cells + 8 * r + d = cells + d + 8 * r by omega,
      show itemAt cells rowDim.toNat (r * colDim.toNat) + d =
        itemAt (cells + d) rowDim.toNat (r * colDim.toNat) by rw [itemAt, itemAt]; omega] at hcell
    · rw [sizeofRelPtr] at hk
      right
      omega

theorem links_subset : links this cells rowDim.toNat ⊆ footprint this cells rowDim.toNat colDim.toNat := by
  rintro q (hthis | hcells)
  · exact .inl hthis
  · right
    rw [storage]
    omega

theorem Grid.moves (h : Grid value mem this cells rowDim colDim) (hpos : 0 < cells) (hmoved : 0 < cells + d)
    (hbytes : ∀ q ∈ footprint this cells rowDim.toNat colDim.toNat, mem' (q + d) = mem q) :
    Grid value mem' (this + d) (cells + d) rowDim colDim := by
  refine ⟨h.shape.moves hpos hmoved (fun q hq => hbytes q (links_subset hq)), fun k hk => ?_⟩
  have hload := load_moved hbytes (p := itemAt cells rowDim.toNat k) (itemAt_inside hk)
  rw [← h.filled k hk, ← hload, show itemAt (cells + d) rowDim.toNat k = itemAt cells rowDim.toNat k + d by
    rw [itemAt, itemAt]; omega]

theorem Shape.kept (h : Shape mem this cells rowDim colDim) (hpos : 0 < cells)
    (hbytes : Set.EqOn mem' mem (links this cells rowDim.toNat)) : Shape mem' this cells rowDim colDim := by
  have hmoved : Shape mem' (this + 0) (cells + 0) rowDim colDim := by
    apply h.moves hpos (by omega)
    intro q hq
    rw [Int.add_zero]
    exact hbytes hq
  rwa [Int.add_zero, Int.add_zero] at hmoved

theorem Grid.kept (h : Grid value mem this cells rowDim colDim) (hpos : 0 < cells)
    (hbytes : Set.EqOn mem' mem (footprint this cells rowDim.toNat colDim.toNat)) :
    Grid value mem' this cells rowDim colDim := by
  have hmoved : Grid value mem' (this + 0) (cells + 0) rowDim colDim := by
    apply h.moves hpos (by omega)
    intro q hq
    rw [Int.add_zero]
    exact hbytes hq
  rwa [Int.add_zero, Int.add_zero] at hmoved

end Moves

theorem store_eqOn {p : Int} {n v : Nat} {keep : Set Int} (hkeep : ∀ q ∈ keep, q < p ∨ p + n ≤ q) :
    Set.EqOn (store mem p n v) mem keep := fun q hq => store_sameOutside mem p n v q (hkeep q hq)

theorem load_eqOn {keep : Set Int} (h : Set.EqOn mem' mem keep) {p : Int} {n : Nat}
    (hin : ∀ k : Nat, k < n → p + k ∈ keep) : load mem' p n = load mem p n :=
  load_congr (fun k hk => h (hin k hk))

end Layout

end Ocxxr.Grid2D

import Ocxxr.Library.GhostRuns
import Ocxxr.RelativePointer

namespace Ocxxr.RelativeCells

open Ocr ByteMemory GhostRuns RelativePointer

structure Pointer where
  value : Int
  nonneg : 0 ≤ value
  lt : value < 2 ^ 63

inductive Command
  | assign (cell : Int) (target : Pointer)
  | copy (cell source : Int)

def Command.cell : Command → Int
  | assign cell _ => cell
  | copy cell _ => cell

def exec : Command → EStateM Fault Memory Unit
  | .assign cell target => modify (fun mem => storeCell mem cell (RelativePointer.set cell target.value))
  | .copy cell source => do
      let mem ← MonadState.get
      let new ← setCell cell source (loadCell mem source)
      modify (fun mem => storeCell mem cell new)

abbrev Values := Int → Option Pointer

def Command.stores (values : Values) : Command → Option Pointer
  | assign _ target => some target
  | copy _ source => values source

def machine : Machine Command Memory Values Fault where
  exec := exec
  effect values c := Function.update values c.cell (c.stores values)

/-- Objects of the size of a pointer, none on top of another. -/
structure Laid (cells : Set Int) : Prop where
  pos : ∀ cell ∈ cells, 0 < cell
  end_le : ∀ cell ∈ cells, cell + sizeofRelPtr ≤ 2 ^ 63
  apart : ∀ cell ∈ cells, ∀ other ∈ cells, cell ≠ other →
    cell + sizeofRelPtr ≤ other ∨ other + sizeofRelPtr ≤ cell

/-- A raw pointer does not point strictly inside the cell assigned, and a cell copied
from has been assigned before. -/
def Legal (cells : Set Int) (values : Values) : Command → Prop
  | .assign cell target => cell ∈ cells ∧ ¬ (cell < target.value ∧ target.value < cell + sizeofRelPtr)
  | .copy cell source => cell ∈ cells ∧ source ∈ cells ∧ (values source).isSome

def Reads (cells : Set Int) (mem : Memory) (values : Values) : Prop :=
  ∀ cell ∈ cells, ∀ p, values cell = some p → (get cell (loadCell mem cell)).run mem = .ok p.value mem

/-- The pointer stored is neither the address of its cell nor the one behind it. -/
def Storable (values : Values) (c : Command) : Prop :=
  ∀ p, c.stores values = some p → p.value ≠ c.cell ∧ p.value ≠ c.cell + 1

variable {cells : Set Int} {mem mem' : Memory} {values : Values} {c : Command}

theorem get_anywhere {σ τ : Type} {s : σ} {this p : Int} {cell : RelPtr} (h : (get this cell).run s = .ok p s)
    (t : τ) : (get this cell).run t = .ok p t := by
  obtain ⟨offset⟩ := cell
  by_cases h1 : offset = 1
  · rw [h1] at h
    cases h
  by_cases h0 : offset = 0
  · rw [h0, get_null] at h ⊢
    cases h
    rfl
  · rw [get_offset h0 h1] at h ⊢
    cases h
    rfl

theorem Legal.mem_cells (hlegal : Legal cells values c) : c.cell ∈ cells := by
  cases c with
  | assign cell target => exact hlegal.1
  | copy cell source => exact hlegal.1

theorem exec_run (h : Reads cells mem values) (hlegal : Legal cells values c) : ∃ p, c.stores values = some p ∧
    (exec c).run mem = .ok () (storeCell mem c.cell (RelativePointer.set c.cell p.value)) := by
  cases c with
  | assign cell target => exact ⟨target, rfl, rfl⟩
  | copy cell source =>
      obtain ⟨-, hsource, hsome⟩ := hlegal
      obtain ⟨p, hp⟩ := Option.isSome_iff_exists.mp hsome
      refine ⟨p, hp, ?_⟩
      have hget := h source hsource p hp
      simp only [exec, setCell, EStateM.run_bind, EStateM.run_get, hget, EStateM.run_pure, EStateM.run_modify]
      rfl

theorem loadCell_stored (hcells : Laid cells) {cell : Int} (hcell : cell ∈ cells) (p : Pointer) :
    loadCell (storeCell mem cell (RelativePointer.set cell p.value)) cell = RelativePointer.set cell p.value := by
  have hpos := hcells.pos cell hcell
  have hend := hcells.end_le cell hcell
  have hlo := p.nonneg
  have hhi := p.lt
  rw [RelativePointer.set]
  split
  next => exact loadCell_storeCell mem cell (by decide) (by decide)
  next => exact loadCell_storeCell mem cell (by simp only; omega) (by simp only; omega)

theorem loadCell_elsewhere (hcells : Laid cells) {cell other : Int} (hcell : cell ∈ cells) (hother : other ∈ cells)
    (hne : cell ≠ other) (new : RelPtr) : loadCell (storeCell mem cell new) other = loadCell mem other := by
  rw [loadCell, loadCell, storeCell, load_outside (store_sameOutside _ _ _ _)]
  rcases hcells.apart cell hcell other hother hne with h | h
  · exact .inr h
  · exact .inl h

theorem step_iff (hcells : Laid cells) (h : Reads cells mem values) (hlegal : Legal cells values c) :
    (∃ mem', (machine.exec c).run mem = .ok () mem' ∧ Reads cells mem' (machine.effect values c)) ↔
      Storable values c := by
  have hcell := hlegal.mem_cells
  have hpos := hcells.pos c.cell hcell
  obtain ⟨p, hp, hrun⟩ := exec_run h hlegal
  constructor
  · rintro ⟨mem', hmem', hreads⟩ q hq
    obtain rfl : p = q := Option.some.inj (hp.symm.trans hq)
    obtain rfl : _ = mem' := by
      have he := hrun.symm.trans hmem'
      injection he
    have hself := hreads c.cell hcell p (by simp [machine, hp])
    rw [loadCell_stored hcells hcell] at hself
    exact (get_set_iff hpos _ _).mp hself
  · intro hstorable
    refine ⟨_, hrun, ?_⟩
    intro cell hin q hq
    by_cases he : c.cell = cell
    · subst he
      obtain rfl : p = q := by simpa [machine, hp] using hq
      rw [loadCell_stored hcells hcell]
      exact (get_set_iff hpos _ _).mpr (hstorable p hp)
    · rw [loadCell_elsewhere hcells hcell hin he]
      have hold : values cell = some q := by simpa [machine, Function.update_of_ne (Ne.symm he)] using hq
      exact get_anywhere (h cell hin q hold) _

/-- Throughout a run of assignments and copies every cell reads as the pointer assigned
to it last, just when no cell is given its own address or the one behind it. -/
theorem relPtr_holds_iff (hcells : Laid cells) (mem : Memory) {commands : List Command}
    (hlegal : machine.Along (Legal cells) (fun _ => none) commands) :
    machine.Throughout (Reads cells) mem (fun _ => none) commands ↔
      machine.Along Storable (fun _ => none) commands :=
  Machine.throughout_iff (fun _ _ _ => step_iff hcells) (fun _ _ _ h => nomatch h) hlegal

section TwoCells

def pairOfCells : Set Int := {4096, 4104}

theorem pairOfCells_laid : Laid pairOfCells where
  pos := by rintro cell (rfl | rfl) <;> decide
  end_le := by rintro cell (rfl | rfl) <;> decide
  apart := by
    rintro cell (rfl | rfl) other (rfl | rfl) hne
    · exact absurd rfl hne
    · exact .inl (by decide)
    · exact .inr (by decide)
    · exact absurd rfl hne

def zeros : Memory := fun _ => 0

def behind : Pointer := ⟨4112, by decide, by decide⟩

def assignAndCopy : List Command := [.assign 4096 behind, .copy 4104 4096]

theorem relPtr_holds_iff_copied :
    machine.Throughout (Reads pairOfCells) zeros (fun _ => none) assignAndCopy ↔
      machine.Along Storable (fun _ => none) assignAndCopy := by
  apply relPtr_holds_iff pairOfCells_laid zeros
  refine Machine.along_cons.mpr ⟨⟨.inl rfl, by decide⟩, Machine.along_cons.mpr ⟨⟨.inr rfl, .inl rfl, ?_⟩, ?_⟩⟩
  · simp [machine, Command.cell, Command.stores]
  · exact Machine.along_nil

def first : Pointer := ⟨4096, by decide, by decide⟩

def linkToSelf : List Command := [.assign 4096 first]

def linkedToSelf : Memory := storeCell zeros 4096 (RelativePointer.set 4096 first.value)

theorem linkedToSelf_null : (get 4096 (loadCell linkedToSelf 4096)).run linkedToSelf = .ok 0 linkedToSelf := by
  have hload : loadCell linkedToSelf 4096 = RelativePointer.set 4096 first.value :=
    loadCell_stored pairOfCells_laid (.inl rfl) first
  have hzero : RelativePointer.set 4096 first.value = ⟨0⟩ := by decide
  rw [hload, hzero, get_null]

theorem relPtr_counterexample : Laid pairOfCells ∧
    machine.Along (Legal pairOfCells) (fun _ => none) linkToSelf ∧
    (machine.run linkToSelf).run zeros = .ok () linkedToSelf ∧
    (get 4096 (loadCell linkedToSelf 4096)).run linkedToSelf = .ok 0 linkedToSelf ∧
    ¬ machine.Throughout (Reads pairOfCells) zeros (fun _ => none) linkToSelf := by
  have hlegal : Legal pairOfCells (fun _ => none) (.assign 4096 first) := ⟨.inl rfl, by decide⟩
  refine ⟨pairOfCells_laid, Machine.along_cons.mpr ⟨hlegal, Machine.along_nil⟩, rfl, linkedToSelf_null, ?_⟩
  intro hall
  obtain ⟨mem', hrun, hreads⟩ := hall linkToSelf List.prefix_rfl
  cases hrun
  have hself := hreads 4096 (.inl rfl) first rfl
  have hzero := linkedToSelf_null.symm.trans hself
  cases hzero

end TwoCells

end Ocxxr.RelativeCells

import Mathlib.Order.Basic
import Mathlib.Data.List.Pairwise

namespace Ocxxr.BumpRegion

variable {α : Type} [Preorder α]

structure Block (α : Type) where
  lo : α
  hi : α
  deriving DecidableEq, Repr

def Block.Apart (b c : Block α) : Prop := b.hi ≤ c.lo ∨ c.hi ≤ b.lo

/-- The live blocks lie apart from each other between `floor` and `top`, and none of
them passes `ceiling`. -/
structure Packed (floor ceiling top : α) (live : List (Block α)) : Prop where
  floor_le : floor ≤ top
  apart : live.Pairwise Block.Apart
  bounds : ∀ b ∈ live, floor ≤ b.lo ∧ b.lo ≤ b.hi ∧ b.hi ≤ top ∧ b.hi ≤ ceiling

/-- A region that hands out blocks upwards, together with the states it can go back to. -/
structure Region (α : Type) where
  top : α
  live : List (Block α)
  marks : List (α × List (Block α))

namespace Region

def fresh (floor : α) : Region α := ⟨floor, [], []⟩

def push (r : Region α) (b : Block α) : Region α := { r with top := b.hi, live := b :: r.live }

def mark (r : Region α) : Region α := { r with marks := (r.top, r.live) :: r.marks }

def rollback (r : Region α) : Region α :=
  match r.marks with
  | [] => r
  | (top, live) :: marks => ⟨top, live, marks⟩

structure Sound (floor ceiling : α) (r : Region α) : Prop where
  packed : Packed floor ceiling r.top r.live
  marked : ∀ m ∈ r.marks, Packed floor ceiling m.1 m.2

variable {floor ceiling : α} {r : Region α}

theorem fresh_sound (floor ceiling : α) : Sound floor ceiling (fresh floor) where
  packed := ⟨le_rfl, .nil, by simp [fresh]⟩
  marked := by simp [fresh]

theorem push_sound (h : Sound floor ceiling r) {b : Block α} (hlo : r.top ≤ b.lo) (hhi : b.lo ≤ b.hi)
    (hceiling : b.hi ≤ ceiling) : Sound floor ceiling (r.push b) where
  packed := by
    have hfloor := h.packed.floor_le.trans hlo
    refine ⟨hfloor.trans hhi, List.pairwise_cons.mpr ⟨?_, h.packed.apart⟩, ?_⟩
    · intro c hc
      exact .inr ((h.packed.bounds c hc).2.2.1.trans hlo)
    · intro c hc
      rcases List.mem_cons.mp hc with rfl | hc
      · exact ⟨hfloor, hhi, le_rfl, hceiling⟩
      · obtain ⟨h₁, h₂, h₃, h₄⟩ := h.packed.bounds c hc
        exact ⟨h₁, h₂, h₃.trans (hlo.trans hhi), h₄⟩
  marked := h.marked

theorem mark_sound (h : Sound floor ceiling r) : Sound floor ceiling r.mark where
  packed := h.packed
  marked := by
    intro m hm
    rcases List.mem_cons.mp hm with rfl | hm
    · exact h.packed
    · exact h.marked m hm

theorem rollback_sound (h : Sound floor ceiling r) : Sound floor ceiling r.rollback := by
  obtain ⟨top, live, marks⟩ := r
  cases marks with
  | nil => exact h
  | cons m marks =>
      exact ⟨h.marked m List.mem_cons_self, fun m' hm => h.marked m' (List.mem_cons_of_mem _ hm)⟩

end Region

end Ocxxr.BumpRegion

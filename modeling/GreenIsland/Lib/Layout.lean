import Mathlib.Order.CompletePartialOrder
import Mathlib.Order.Interval.Set.Disjoint
import Mathlib.Data.List.Pairwise

/-! Intervals stacked one after the other.

An allocator that only ever advances its offset places each block at or after
the end of the previous one: `Stacked lo l hi` for the list `l` of half-open
intervals between `lo` and `hi`.  Stacked intervals lie between the bounds
(`Stacked.bounds`) and are pairwise disjoint (`Stacked.pairwise_disjoint`); a
block put at the upper bound keeps them stacked (`Stacked.snoc`). -/

namespace Layout

variable {α : Type*} [Preorder α]

/-- `lo ≤ a₁ ≤ b₁ ≤ a₂ ≤ b₂ ≤ … ≤ hi` for the intervals `[aᵢ, bᵢ)` of `l`. -/
def Stacked : α → List (α × α) → α → Prop
  | lo, [], hi => lo ≤ hi
  | lo, e :: l, hi => lo ≤ e.1 ∧ e.1 ≤ e.2 ∧ Stacked e.2 l hi

variable {lo hi : α} {l : List (α × α)}

theorem Stacked.le (h : Stacked lo l hi) : lo ≤ hi := by
  induction l generalizing lo with
  | nil => exact h
  | cons e l ih =>
    obtain ⟨h1, h2, h3⟩ := h
    exact h1.trans (h2.trans (ih h3))

theorem Stacked.bounds (h : Stacked lo l hi) : ∀ e ∈ l, lo ≤ e.1 ∧ e.1 ≤ e.2 ∧ e.2 ≤ hi := by
  induction l generalizing lo with
  | nil => intro e he; cases he
  | cons f l ih =>
    obtain ⟨h1, h2, h3⟩ := h
    intro e he
    rcases List.mem_cons.1 he with rfl | he
    · exact ⟨h1, h2, h3.le⟩
    · obtain ⟨h4, h5, h6⟩ := ih h3 e he
      exact ⟨h1.trans (h2.trans h4), h5, h6⟩

theorem Stacked.pairwise_disjoint (h : Stacked lo l hi) :
    l.Pairwise fun e f => Disjoint (Set.Ico e.1 e.2) (Set.Ico f.1 f.2) := by
  induction l generalizing lo with
  | nil => exact List.Pairwise.nil
  | cons e l ih =>
    obtain ⟨-, -, h3⟩ := h
    refine List.Pairwise.cons (fun f hf => ?_) (ih h3)
    rw [Set.disjoint_left]
    intro x hx hx'
    exact absurd ((h3.bounds f hf).1.trans hx'.1) (not_le_of_gt hx.2)

/-- The next block goes to the upper bound. -/
theorem Stacked.snoc (h : Stacked lo l hi) {hi' : α} (hh : hi ≤ hi') :
    Stacked lo (l ++ [(hi, hi')]) hi' := by
  induction l generalizing lo with
  | nil => exact ⟨h, hh, le_rfl⟩
  | cons e l ih =>
    obtain ⟨h1, h2, h3⟩ := h
    exact ⟨h1, h2, ih h3⟩

end Layout

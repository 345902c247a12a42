import Mathlib.Data.List.Nodup
import Mathlib.Order.Lattice

/-! The symmetric difference of two sequences by merging.

`merge xs ys` goes through both at once, drops what is equal at the fronts and keeps the lesser
front otherwise, as `std::set_symmetric_difference` does, which is meant for sequences in
increasing order.  For any two sequences the result holds each element as often as both
together, or less by an even number (`count_merge`).  So an element that is in one of them only is
never missed, whatever the order (`mem_merge_of_one`, `odd_count_merge`); and nothing is left only
of equal sequences (`merge_eq_nil`). -/

namespace SymmetricDifference

variable {α : Type*} [LinearOrder α]

/-- One element of the first sequence against the second; `rest` goes on when it is done. -/
def mergeFront (x : α) (xs : List α) (rest : List α → List α) : List α → List α
  | [] => x :: xs
  | y :: ys =>
    if x < y then x :: rest (y :: ys)
    else if y < x then y :: mergeFront x xs rest ys
    else rest ys

def merge : List α → List α → List α
  | [] => id
  | x :: xs => mergeFront x xs (merge xs)

variable {xs ys : List α} {x y a : α}

@[simp] theorem nil_merge : merge [] ys = ys := rfl

@[simp] theorem merge_nil : merge xs [] = xs := by
  cases xs <;> rfl

theorem merge_lt (h : x < y) : merge (x :: xs) (y :: ys) = x :: merge xs (y :: ys) := if_pos h

theorem merge_gt (h : y < x) : merge (x :: xs) (y :: ys) = y :: merge (x :: xs) ys :=
  (if_neg (lt_asymm h)).trans (if_pos h)

theorem merge_eq : merge (x :: xs) (x :: ys) = merge xs ys :=
  (if_neg (lt_irrefl x)).trans (if_neg (lt_irrefl x))

/-- What is dropped is dropped in pairs. -/
theorem count_merge (xs ys : List α) (a : α) :
    ∃ dropped, dropped ≤ xs.count a ∧ dropped ≤ ys.count a ∧
      xs.count a + ys.count a = (merge xs ys).count a + 2 * dropped := by
  induction xs generalizing ys with
  | nil => exact ⟨0, by simp⟩
  | cons x xs ihx =>
    induction ys with
    | nil => exact ⟨0, by simp⟩
    | cons y ys ihy =>
      rcases lt_trichotomy x y with hlt | rfl | hgt
      · obtain ⟨dropped, h⟩ := ihx (y :: ys)
        refine ⟨dropped, ?_⟩
        rw [merge_lt hlt]
        simp only [List.count_cons] at h ⊢
        omega
      · obtain ⟨dropped, h⟩ := ihx ys
        refine ⟨dropped + if (x == a) = true then 1 else 0, ?_⟩
        rw [merge_eq]
        simp only [List.count_cons]
        omega
      · obtain ⟨dropped, h⟩ := ihy
        refine ⟨dropped, ?_⟩
        rw [merge_gt hgt]
        simp only [List.count_cons] at h ⊢
        omega

theorem mem_merge_of_one (h : ¬ (a ∈ xs ↔ a ∈ ys)) : a ∈ merge xs ys := by
  obtain ⟨dropped, hxs, hys, hcount⟩ := count_merge xs ys a
  rw [← List.count_pos_iff, ← List.count_pos_iff] at h
  refine List.count_pos_iff.1 ?_
  omega

/-- Nothing is left of equal sequences only. -/
theorem merge_eq_nil : merge xs ys = [] ↔ xs = ys := by
  induction xs generalizing ys with
  | nil => exact eq_comm
  | cons x xs ih =>
    cases ys with
    | nil => exact Iff.rfl
    | cons y ys =>
      rcases lt_trichotomy x y with hlt | rfl | hgt
      · rw [merge_lt hlt]
        simp [ne_of_lt hlt]
      · rw [merge_eq, ih]
        simp
      · rw [merge_gt hgt]
        simp [ne_of_gt hgt]

/-- Of sequences without repetition, what is in one of them only is in the result an odd
number of times, and everything else an even number of times. -/
theorem odd_count_merge (hxs : xs.Nodup) (hys : ys.Nodup) :
    (merge xs ys).count a % 2 = 1 ↔ ¬ (a ∈ xs ↔ a ∈ ys) := by
  obtain ⟨dropped, -, -, h⟩ := count_merge xs ys a
  rw [hxs.count, hys.count] at h
  by_cases hax : a ∈ xs <;> by_cases hay : a ∈ ys <;>
    simp only [hax, hay, if_true, if_false] at h ⊢ <;> simp <;> omega

end SymmetricDifference

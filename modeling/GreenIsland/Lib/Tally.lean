import Mathlib.Data.Nat.Count
import Mathlib.Logic.Function.Basic

/-! How many entries of a table have a property.

`tally p f n`: of the first `n` entries of the table `f`, those with `p`.  It
changes by one entry at most when one entry changes (`tally_update`). -/

namespace Tally

variable {α : Type*} (p : α → Prop) [DecidablePred p]

def tally (f : Nat → α) (n : Nat) : Nat := Nat.count (fun i => p (f i)) n

variable {p} {f : Nat → α} {n : Nat}

theorem tally_congr {β : Type*} {q : β → Prop} [DecidablePred q] {g : Nat → β}
    (h : ∀ i, i < n → (p (f i) ↔ q (g i))) : tally p f n = tally q g n := by
  induction n with
  | zero => rfl
  | succ n ih =>
    unfold tally at *
    rw [Nat.count_succ, Nat.count_succ, ih fun i hi => h i (Nat.lt_succ_of_lt hi)]
    simp only [h n n.lt_succ_self]

theorem tally_eq_zero (h : ∀ i, i < n → ¬ p (f i)) : tally p f n = 0 := by
  induction n with
  | zero => rfl
  | succ n ih =>
    have hn := h n n.lt_succ_self
    unfold tally at *
    rw [Nat.count_succ, ih fun i hi => h i (Nat.lt_succ_of_lt hi), if_neg hn]

/-- What one entry contributes. -/
theorem tally_update {i : Nat} (hi : i < n) (x : α) :
    tally p (Function.update f i x) n + (if p (f i) then 1 else 0) =
      tally p f n + (if p x then 1 else 0) := by
  induction n with
  | zero => cases hi
  | succ n ih =>
    unfold tally at *
    rw [Nat.count_succ, Nat.count_succ]
    rcases Nat.lt_succ_iff_lt_or_eq.1 hi with hlt | rfl
    · have hn : n ≠ i := by omega
      rw [Function.update_of_ne hn]
      have := ih hlt
      omega
    · have hbelow : tally p (Function.update f i x) i = tally p f i := by
        refine tally_congr fun j hj => ?_
        rw [Function.update_of_ne (Nat.ne_of_lt hj)]
      unfold tally at hbelow
      rw [hbelow, Function.update_self]
      omega

/-- An entry that has the property neither before nor after. -/
theorem tally_update_of_not {i : Nat} {x : α} (hold : ¬ p (f i)) (hnew : ¬ p x) :
    tally p (Function.update f i x) n = tally p f n := by
  refine tally_congr fun j _ => ?_
  by_cases hj : j = i
  · rw [hj, Function.update_self]
    exact iff_of_false hnew hold
  · rw [Function.update_of_ne hj]

theorem tally_succ_of_not (hn : ¬ p (f n)) : tally p f (n + 1) = tally p f n := by
  unfold tally
  rw [Nat.count_succ, if_neg hn]
  rfl

theorem tally_pos {i : Nat} (hi : i < n) (h : p (f i)) : 0 < tally p f n := by
  induction n with
  | zero => cases hi
  | succ n ih =>
    unfold tally at *
    rw [Nat.count_succ]
    rcases Nat.lt_succ_iff_lt_or_eq.1 hi with hlt | rfl
    · have := ih hlt
      omega
    · rw [if_pos h]
      omega

theorem exists_of_tally_pos (h : 0 < tally p f n) : ∃ i, i < n ∧ p (f i) := by
  by_contra hnone
  have hzero : tally p f n = 0 := tally_eq_zero fun i hi hp => hnone ⟨i, hi, hp⟩
  omega

theorem tally_le_one (h : ∀ i j, p (f i) → p (f j) → i = j) : tally p f n ≤ 1 := by
  induction n with
  | zero => exact Nat.zero_le 1
  | succ n ih =>
    by_cases hn : p (f n)
    · have hbelow : tally p f n = 0 := tally_eq_zero fun i hi hp => Nat.ne_of_lt hi (h i n hp hn)
      unfold tally at *
      rw [Nat.count_succ, hbelow, if_pos hn]
    · rw [tally_succ_of_not hn]
      exact ih

end Tally

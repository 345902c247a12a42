import Mathlib.Data.Int.Order.Basic
import Mathlib.Data.List.Basic

/-! An index kept beside flags.

A list whose entries carry a flag, and beside it the index of the one entry that
carries it, -1 if none does.  `Marked has l i` says that the two agree; the
lemmas say which updates of the list and the index keep it that way. -/

/-- -1, or an index of `l`. -/
def IndexOrNone {α : Type*} (l : List α) (i : Int) : Prop := i = -1 ∨ 0 ≤ i ∧ i < l.length

/-- `i` is the index of the only entry of `l` that has the flag, or -1. -/
structure Marked {α : Type*} (has : α → Bool) (l : List α) (i : Int) : Prop where
  valid : IndexOrNone l i
  has_iff : ∀ (k : Nat) (a : α), l[k]? = some a → (has a = true ↔ (k : Int) = i)

section
variable {α : Type*} {l : List α} {i : Int}

theorem IndexOrNone.exists_getElem (h : IndexOrNone l i) (hi : i ≠ -1) :
    ∃ a, l[i.toNat]? = some a ∧ (i.toNat : Int) = i := by
  obtain ⟨h0, hlt⟩ := h.resolve_left hi
  have hlt' : i.toNat < l.length := by omega
  exact ⟨l[i.toNat], List.getElem?_eq_getElem hlt', by omega⟩

theorem IndexOrNone.set (h : IndexOrNone l i) (k : Nat) (a : α) : IndexOrNone (l.set k a) i := by
  unfold IndexOrNone
  rwa [List.length_set]

theorem IndexOrNone.append (h : IndexOrNone l i) (a : α) : IndexOrNone (l ++ [a]) i := by
  unfold IndexOrNone at h ⊢
  rw [List.length_append, List.length_singleton]
  omega

end

namespace Marked

variable {α : Type*} {has : α → Bool} {l : List α} {i j : Int} {k : Nat} {a : α}

theorem nil : Marked has [] (-1) := ⟨Or.inl rfl, fun k a h => by simp at h⟩

/-- The general update: entry `k` is replaced, the index moves to `j`. -/
theorem set (h : Marked has l i) (hj : IndexOrNone l j) (ha : has a = true ↔ (k : Int) = j)
    (hother : ∀ n : Nat, n ≠ k → ((n : Int) = i ↔ (n : Int) = j)) : Marked has (l.set k a) j where
  valid := hj.set k a
  has_iff n b hn := by
    rw [List.getElem?_set] at hn
    split at hn
    · next hk =>
      subst hk
      split at hn
      · obtain rfl := Option.some.inj hn
        exact ha
      · cases hn
    · next hk => rw [h.has_iff n b hn, hother n (Ne.symm hk)]

/-- An entry is replaced by one with the same flag. -/
theorem replace (h : Marked has l i) (ha : has a = true ↔ (k : Int) = i) :
    Marked has (l.set k a) i :=
  h.set h.valid ha fun _ _ => Iff.rfl

/-- The entry that has the flag loses it. -/
theorem unmark (h : Marked has l i) (hk : (k : Int) = i) (ha : has a = false) :
    Marked has (l.set k a) (-1) :=
  h.set (Or.inl rfl) (by rw [ha]; simp) fun n hn => by omega

/-- No entry has the flag, and one gets it. -/
theorem mark (h : Marked has l (-1)) (hk : k < l.length) (ha : has a = true) :
    Marked has (l.set k a) (k : Int) :=
  h.set (Or.inr (by omega)) (by simp [ha]) fun n hn => by omega

theorem getElem?_append_singleton {n : Nat} {b : α} (h : (l ++ [a])[n]? = some b) :
    l[n]? = some b ∧ n < l.length ∨ n = l.length ∧ b = a := by
  rw [List.getElem?_append] at h
  split at h
  · next hn => exact Or.inl ⟨h, hn⟩
  · next hn =>
    rw [List.getElem?_singleton] at h
    split at h
    · exact Or.inr ⟨by omega, (Option.some.inj h).symm⟩
    · cases h

theorem append (h : Marked has l i) (ha : has a = false) : Marked has (l ++ [a]) i where
  valid := h.valid.append a
  has_iff n b hn := by
    rcases getElem?_append_singleton hn with ⟨hn, -⟩ | ⟨rfl, rfl⟩
    · exact h.has_iff n b hn
    · have hi := h.valid
      unfold IndexOrNone at hi
      rw [ha]
      simp
      omega

/-- No entry has the flag, and one that does is appended. -/
theorem append_marked (h : Marked has l (-1)) (ha : has a = true) :
    Marked has (l ++ [a]) (l.length : Int) where
  valid := Or.inr (by rw [List.length_append, List.length_singleton]; omega)
  has_iff n b hn := by
    rcases getElem?_append_singleton hn with ⟨hn, hlt⟩ | ⟨rfl, rfl⟩
    · rw [h.has_iff n b hn]
      omega
    · simp [ha]

end Marked

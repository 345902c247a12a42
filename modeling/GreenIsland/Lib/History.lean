import Mathlib.Data.List.Basic

/-! What the entries of a log owe to the entries before them.

`Each P l` says that `P before x` holds of every entry `x` of the log, where `before`
are the entries in front of it.  A log grows at its end, so the rule for the
component that writes it is `each_concat`. -/

namespace History

variable {α : Type*} {P : List α → α → Prop} {l : List α} {x : α}

/-- Every entry satisfies `P` with what is in front of it. -/
def Each (P : List α → α → Prop) (l : List α) : Prop :=
  ∀ before x after, l = before ++ x :: after → P before x

theorem each_nil : Each P [] := by
  intro before x after h
  exact absurd h.symm (List.append_ne_nil_of_right_ne_nil _ (List.cons_ne_nil _ _))

/-- **One more entry.** -/
theorem each_concat : Each P (l ++ [x]) ↔ Each P l ∧ P l x := by
  constructor
  · intro h
    refine ⟨fun before y after hl => h before y (after ++ [x]) ?_, h l x [] rfl⟩
    rw [hl, List.append_assoc, List.cons_append]
  · rintro ⟨hl, hx⟩ before y after h
    rcases List.eq_nil_or_concat after with rfl | ⟨after', z, rfl⟩
    · obtain ⟨rfl, hyx⟩ := List.append_inj' h rfl
      obtain rfl : x = y := List.head_eq_of_cons_eq hyx
      exact hx
    · rw [List.concat_eq_append, ← List.cons_append, ← List.append_assoc] at h
      obtain ⟨h', -⟩ := List.append_inj' h rfl
      exact hl before y after' h'

end History

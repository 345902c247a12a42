import Mathlib.Logic.Function.Basic

/-! Staged values that are compared with the live ones.

Wanted values of some attributes are staged in a copy of all of them.  What is
wanted is not recorded: it is read off, later, as the attributes in which the
copy differs from the values of that moment (`diff`).  So the answer is right
while the wanted attributes differ from the live ones and the others do not:

* wanting `v` is seen exactly if `v` is not the live value (`diff_update_iff`);
* when the live values move, the answer stays exactly if the attributes that are
  not wanted keep their values and the wanted ones do not reach the staged ones
  (`diff_moved_iff`). -/

namespace Staged

variable {α : Type*} {V : α → Type*} [∀ a, DecidableEq (V a)]

/-- The staged values of the attributes in `p` that differ from the live ones. -/
def diff (p : α → Bool) (staged live : ∀ a, V a) (a : α) : Option (V a) :=
  if p a = true ∧ staged a ≠ live a then some (staged a) else none

variable {p : α → Bool} {staged live live' : ∀ a, V a} {wanted : ∀ a, Option (V a)}

theorem diff_self : diff p live live = fun _ => none := by
  funext a
  exact if_neg fun h => h.2 rfl

theorem diff_eq_none {a : α} : diff p staged live a = none ↔ (p a = true → staged a = live a) := by
  unfold diff
  split
  · next h => simp [h.1, h.2]
  · next h => simpa using h

theorem diff_eq_some {a : α} {v : V a} :
    diff p staged live a = some v ↔ p a = true ∧ staged a = v ∧ v ≠ live a := by
  unfold diff
  split
  · next h =>
    constructor
    · intro hv
      obtain rfl := Option.some.inj hv
      exact ⟨h.1, rfl, h.2⟩
    · rintro ⟨-, rfl, -⟩
      rfl
  · next h =>
    constructor
    · intro hv
      cases hv
    · rintro ⟨hp, rfl, hne⟩
      exact absurd ⟨hp, hne⟩ h

/-- Staging a value is seen exactly if it is compared and is not the live one. -/
theorem diff_update_iff [DecidableEq α] (h : diff p staged live = wanted) (a : α) (v : V a) :
    diff p (Function.update staged a v) live = Function.update wanted a (some v) ↔
      p a = true ∧ v ≠ live a := by
  constructor
  · intro heq
    have ha := congrFun heq a
    rw [Function.update_self] at ha
    obtain ⟨hp, -, hne⟩ := diff_eq_some.1 ha
    exact ⟨hp, hne⟩
  · rintro ⟨hp, hne⟩
    funext b
    by_cases hb : b = a
    · subst hb
      rw [Function.update_self]
      exact diff_eq_some.2 ⟨hp, Function.update_self .., hne⟩
    · rw [Function.update_of_ne hb, ← h]
      unfold diff
      rw [Function.update_of_ne hb]

/-- The live values may move if the attributes that are not wanted stay, and no
wanted one reaches its staged value. -/
theorem diff_moved_iff (h : diff p staged live = wanted) :
    diff p staged live' = wanted ↔
      ∀ a, p a = true →
        (wanted a = none → live' a = live a) ∧ ∀ v, wanted a = some v → v ≠ live' a := by
  constructor
  · intro h' a hp
    refine ⟨fun hnone => ?_, fun v hv => ?_⟩
    · have hstaged := diff_eq_none.1 ((congrFun h a).trans hnone) hp
      exact (diff_eq_none.1 ((congrFun h' a).trans hnone) hp).symm.trans hstaged
    · exact (diff_eq_some.1 ((congrFun h' a).trans hv)).2.2
  · intro hall
    funext a
    rcases hw : wanted a with _ | v
    · refine diff_eq_none.2 fun hp => ?_
      rw [(hall a hp).1 hw]
      exact diff_eq_none.1 ((congrFun h a).trans hw) hp
    · obtain ⟨hp, hstaged, -⟩ := diff_eq_some.1 ((congrFun h a).trans hw)
      exact diff_eq_some.2 ⟨hp, hstaged, (hall a hp).2 v hw⟩

end Staged

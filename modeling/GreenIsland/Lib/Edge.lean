import Mathlib.Data.Bool.Basic

/-! Announcements of a condition that comes and goes.

A component that announces when a condition starts to hold (`true`) and stops to
hold (`false`) has to announce its edges: nothing while the condition keeps its
value, and the new value when it changes.  Announced edges of a condition that
is false at first alternate, starting with `true` (`Follows.append_edge`). -/

namespace Edge

/-- What is announced when the condition goes from `p` to `q`. -/
def edge (p q : Bool) : List Bool := if p = q then [] else [q]

/-- `b, !b, b, …` -/
def Alternates : Bool → List Bool → Prop
  | _, [] => True
  | b, x :: xs => x = b ∧ Alternates (!b) xs

/-- The announcement that is due after `b, !b, …` of the length of `l`. -/
def due : Bool → List Bool → Bool
  | b, [] => b
  | b, _ :: xs => due (!b) xs

theorem alternates_append (b : Bool) (l l' : List Bool) :
    Alternates b (l ++ l') ↔ Alternates b l ∧ Alternates (due b l) l' := by
  induction l generalizing b with
  | nil => simp [Alternates, due]
  | cons x l ih => simp [Alternates, due, ih, and_assoc]

theorem due_append (b : Bool) (l l' : List Bool) : due b (l ++ l') = due (due b l) l' := by
  induction l generalizing b with
  | nil => rfl
  | cons x l ih => exact ih _

/-- `l` alternates, starting with `true`, and leaves the condition at `p`. -/
def Follows (p : Bool) (l : List Bool) : Prop := Alternates true l ∧ due true l = !p

/-- The last announcement is the state that was announced last. -/
theorem Alternates.due_eq {b : Bool} {l : List Bool} (h : Alternates b l) :
    due b l = !(l.getLast?.getD (!b)) := by
  induction l generalizing b with
  | nil => simp [due]
  | cons x l ih =>
    obtain ⟨rfl, hl⟩ := h
    show due (!x) l = _
    rw [ih hl, Bool.not_not, List.getLast?_cons]
    rfl

theorem Follows.getLast {p : Bool} {l : List Bool} (h : Follows p l) : l.getLast?.getD false = p := by
  obtain ⟨halt, hdue⟩ := h
  rw [halt.due_eq] at hdue
  exact Bool.not_inj hdue

theorem follows_nil : Follows false [] := ⟨trivial, rfl⟩

/-- Announcing the edge keeps the announcements alternating. -/
theorem Follows.append_edge {p : Bool} {l : List Bool} (h : Follows p l) (q : Bool) :
    Follows q (l ++ edge p q) := by
  obtain ⟨halt, hdue⟩ := h
  unfold Follows
  rw [alternates_append, due_append, hdue]
  cases p <;> cases q <;> simp [edge, Alternates, due, halt]

/-- Announcing an end is right only when the condition held. -/
theorem Follows.append_false_iff {p : Bool} {l : List Bool} (h : Follows p l) :
    Follows false (l ++ [false]) ↔ p = true := by
  obtain ⟨halt, hdue⟩ := h
  unfold Follows
  rw [alternates_append, due_append, hdue]
  cases p <;> simp [Alternates, due, halt]

end Edge

import Mathlib.Data.List.Chain

/-! The announcements of a value that changes.

A component that announces the new value whenever a value changes, and only then,
leaves a log in which no value follows itself, the first one is not the value at
the start, and the last one is the present value (`Recorded`).  The log of a value
that is set is kept by `Recorded.append`. -/

namespace Changes

variable {α : Type*} {a b v w : α} {log : List α}

/-- `log` are the changes of a value that was `a` and is `v`. -/
def Recorded (a : α) (log : List α) (v : α) : Prop :=
  (a :: log).IsChain (· ≠ ·) ∧ (a :: log).getLast? = some v

theorem recorded_nil (a : α) : Recorded a [] a := ⟨List.isChain_singleton a, rfl⟩

/-- A change is announced. -/
theorem Recorded.append (h : Recorded a log v) (hne : v ≠ w) : Recorded a (log ++ [w]) w := by
  obtain ⟨hchain, hlast⟩ := h
  unfold Recorded
  rw [← List.cons_append]
  refine ⟨List.isChain_append.2 ⟨hchain, List.isChain_singleton w, ?_⟩, List.getLast?_concat ..⟩
  intro x hx y hy
  rw [hlast, Option.mem_some_iff] at hx
  rw [List.head?_cons, Option.mem_some_iff] at hy
  rw [← hx, ← hy]
  exact hne

/-- The value at the start is not announced before another one was. -/
theorem Recorded.head_ne (h : Recorded a (b :: log) v) : b ≠ a :=
  Ne.symm (List.isChain_cons_cons.1 h.1).1

end Changes

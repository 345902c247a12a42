import Mathlib.Data.List.Perm.Basic
import Mathlib.Data.List.Count

/-! Ledgers of things that are taken and given back, and may be taken again.

`Ledger.Balanced taken back held`: what was taken is, as often, what was given
back and what is held; so nothing was given back that was not taken, nothing
twice, and nothing is lost (`Balanced.count_eq`).  From a balanced ledger each
kind of entry has its exact condition: taking a thing needs it to be held
(`balanced_take_iff`), giving one back needs it to have been held and to be so no
more (`balanced_giveBack_iff`), and what is held changes by nothing else
(`balanced_held_iff`). -/

namespace Ledger

variable {β : Type*} {taken back held held' : List β} {x : β}

def Balanced (taken back held : List β) : Prop := taken.Perm (back ++ held)

theorem balanced_nil : Balanced ([] : List β) [] [] := List.Perm.nil

theorem Balanced.count_eq [DecidableEq β] (h : Balanced taken back held) (x : β) :
    taken.count x = back.count x + held.count x := by
  rw [← List.count_append]
  exact List.Perm.count_eq h x

theorem Balanced.length_eq (h : Balanced taken back held) :
    taken.length = back.length + held.length := by
  rw [← List.length_append]
  exact List.Perm.length_eq h

theorem Balanced.take (h : Balanced taken back held) (xs : List β) :
    Balanced (taken ++ xs) back (held ++ xs) := by
  unfold Balanced
  rw [← List.append_assoc]
  exact h.append_right xs

theorem balanced_held_iff (h : Balanced taken back held) :
    Balanced taken back held' ↔ held'.Perm held := by
  constructor
  · intro h'
    exact (List.perm_append_left_iff back).1 (h'.symm.trans h)
  · intro hperm
    exact h.trans ((List.perm_append_left_iff back).2 hperm.symm)

theorem balanced_take_iff (h : Balanced taken back held) :
    Balanced (taken ++ [x]) back held' ↔ held'.Perm (held ++ [x]) :=
  balanced_held_iff (h.take [x])

theorem balanced_giveBack_iff (h : Balanced taken back held) :
    Balanced taken (back ++ [x]) held' ↔ held.Perm (x :: held') := by
  unfold Balanced
  rw [List.append_assoc, List.singleton_append]
  constructor
  · intro h'
    exact (List.perm_append_left_iff back).1 (h.symm.trans h')
  · intro hperm
    exact h.trans ((List.perm_append_left_iff back).2 hperm)

/-- Several things at once: those that are taken are given back or held. -/
theorem balanced_append_iff (h : Balanced taken back held) {xs ys zs : List β} :
    Balanced (taken ++ xs) (back ++ ys) (held ++ zs) ↔ xs.Perm (ys ++ zs) := by
  have hmiddle : (back ++ ys ++ (held ++ zs)).Perm (back ++ held ++ (ys ++ zs)) := by
    rw [List.append_assoc, List.append_assoc back]
    refine List.Perm.append_left back ?_
    rw [← List.append_assoc, ← List.append_assoc]
    exact List.perm_append_comm.append_right zs
  have htaken : (taken ++ (ys ++ zs)).Perm (back ++ held ++ (ys ++ zs)) := h.append_right _
  unfold Balanced
  constructor
  · intro h'
    exact (List.perm_append_left_iff taken).1 ((h'.trans hmiddle).trans htaken.symm)
  · intro hperm
    exact ((List.perm_append_left_iff taken).2 hperm).trans (htaken.trans hmiddle.symm)

/-- Taken and given back at once. -/
theorem Balanced.takeGiveBack (h : Balanced taken back held) (x : β) :
    Balanced (taken ++ [x]) (back ++ [x]) held :=
  (balanced_giveBack_iff (h.take [x])).2 (List.perm_append_singleton x held)

/-- A thing that was taken and is not held is lost. -/
theorem not_balanced_lost (h : Balanced taken back held) : ¬ Balanced (taken ++ [x]) back held := by
  rw [balanced_take_iff h]
  intro hperm
  have hlength := hperm.length_eq
  rw [List.length_append] at hlength
  exact absurd hlength (by simp)

end Ledger

import Mathlib.Data.List.Count
import Mathlib.Data.List.Nodup
import Mathlib.Data.List.Perm.Basic
import Mathlib.Data.List.Range
import Mathlib.Logic.Function.Basic
import Mathlib.Algebra.Group.Int.Defs

/-! Reference counted cells.

A heap is a map from addresses to cells, and a cell carries a count `rc`.
`RefCounted.Counted rc heap refs` says that `refs`, the references that exist,
each as often as it is held, are what the cells count; a freed cell counts
nothing.  So a reference never points to a freed cell (`Counted.cell_of_mem`), a
cell that counts nothing can be freed (`Counted.free`), and taking or dropping a
reference keeps the heap counted if the cell's count follows (`Counted.take`,
`Counted.drop`).

The references are held in places, an index for each: `perm_flatMap_update` says
what is held after one place has changed. -/

namespace RefCounted

variable {A C : Type*} [DecidableEq A]

def Counted (rc : C → Int) (heap : A → Option C) (refs : List A) : Prop :=
  ∀ a, (refs.count a : Int) = (heap a).elim 0 rc

section
variable {rc : C → Int} {heap : A → Option C} {refs refs' : List A} {a : A} {c c' : C}

theorem counted_empty : Counted rc (fun _ : A => none) [] := fun _ => rfl

theorem Counted.perm (h : Counted rc heap refs) (hperm : refs.Perm refs') :
    Counted rc heap refs' := by
  intro b
  rw [← hperm.count_eq]
  exact h b

theorem Counted.count_eq (h : Counted rc heap refs) (hc : heap a = some c) :
    rc c = refs.count a := by
  have hcount := h a
  rw [hc] at hcount
  exact hcount.symm

/-- **No dangling reference.** -/
theorem Counted.cell_of_mem (h : Counted rc heap refs) (ha : a ∈ refs) :
    ∃ c, heap a = some c ∧ 0 < rc c := by
  have hpos := List.count_pos_iff.2 ha
  cases hc : heap a with
  | none =>
    have hcount := h a
    rw [hc, Option.elim_none] at hcount
    omega
  | some c =>
    refine ⟨c, rfl, ?_⟩
    rw [h.count_eq hc]
    omega

theorem Counted.pos_iff (h : Counted rc heap refs) (hc : heap a = some c) :
    0 < rc c ↔ a ∈ refs := by
  rw [h.count_eq hc, ← List.count_pos_iff]
  exact Int.natCast_pos

/-- One cell changes, and with it the references to this cell. -/
theorem Counted.update {o : Option C} (h : Counted rc heap refs)
    (hrest : ∀ b, b ≠ a → refs'.count b = refs.count b) (ha : (refs'.count a : Int) = o.elim 0 rc) :
    Counted rc (Function.update heap a o) refs' := by
  intro b
  by_cases hb : b = a
  · rw [hb, Function.update_self]
    exact ha
  · rw [Function.update_of_ne hb, hrest b hb]
    exact h b

theorem Counted.take (h : Counted rc heap refs) (hc : heap a = some c) (hrc : rc c' = rc c + 1) :
    Counted rc (Function.update heap a (some c')) (a :: refs) := by
  refine h.update (fun b hb => List.count_cons_of_ne (Ne.symm hb)) ?_
  rw [List.count_cons_self, Option.elim_some, hrc, h.count_eq hc]
  exact Int.natCast_succ _

theorem Counted.drop (h : Counted rc heap (a :: refs)) (hc : heap a = some c)
    (hrc : rc c' = rc c - 1) : Counted rc (Function.update heap a (some c')) refs := by
  refine h.update (fun b hb => (List.count_cons_of_ne (Ne.symm hb)).symm) ?_
  have hcount := h.count_eq hc
  rw [List.count_cons_self] at hcount
  rw [Option.elim_some, hrc, hcount]
  omega

/-- A change of a cell that its count does not see. -/
theorem Counted.modify (h : Counted rc heap refs) (hc : heap a = some c) (hrc : rc c' = rc c) :
    Counted rc (Function.update heap a (some c')) refs :=
  h.update (fun _ _ => rfl) ((h.count_eq hc).symm.trans hrc.symm)

theorem Counted.free (h : Counted rc heap refs) (ha : a ∉ refs) :
    Counted rc (Function.update heap a none) refs :=
  h.update (fun _ _ => rfl) (congrArg Nat.cast (List.count_eq_zero.2 ha))

theorem Counted.alloc (h : Counted rc heap refs) (hnew : heap a = none) (hrc : rc c = 0) :
    Counted rc (Function.update heap a (some c)) refs := by
  refine h.update (fun _ _ => rfl) ?_
  have hcount := h a
  rw [hnew] at hcount
  rw [hcount, Option.elim_some, hrc, Option.elim_none]

end

/-! ## What is held where -/

section
variable {I B : Type*} [DecidableEq I]

theorem perm_flatMap_update {l : List I} (hnodup : l.Nodup) {i : I} (hi : i ∈ l) (f : I → List B)
    (x : List B) : (l.flatMap (Function.update f i x)).Perm (x ++ (l.erase i).flatMap f) := by
  have hrest : (l.erase i).flatMap (Function.update f i x) = (l.erase i).flatMap f := by
    refine List.flatMap_congr fun j hj => ?_
    exact Function.update_of_ne ((hnodup.mem_erase_iff.1 hj).1) x f
  refine ((List.perm_cons_erase hi).flatMap_right _).trans ?_
  rw [List.flatMap_cons, Function.update_self, hrest]

/-- A holder that is new, and holds nothing. -/
theorem flatMap_range_new (n : Nat) (f : Nat → List B) :
    (List.range (n + 1)).flatMap (Function.update f n []) = (List.range n).flatMap f := by
  rw [List.range_succ, List.flatMap_append, List.flatMap_singleton, Function.update_self,
    List.append_nil]
  refine List.flatMap_congr fun i hi => ?_
  exact Function.update_of_ne (Nat.ne_of_lt (List.mem_range.1 hi)) [] f

end

end RefCounted

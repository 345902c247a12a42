import Mathlib.Data.List.Induction
import Mathlib.Data.Option.Basic

/-! A value that some events replace and the others leave as it is.

What it is in the end depends on the last event alone exactly if that one replaces
it; otherwise two histories have to agree without the last event (`last_eq_iff`).  It
is what the last one of the events that replace it puts in its place (`last_of_find`). -/

namespace Overwritten

variable {α β : Type*}

/-- The value after the events of `l`, at first `b`; `f a` is what `a` puts in its place. -/
def last (f : α → Option β) (b : β) (l : List α) : β := l.foldl (fun b a => (f a).getD b) b

theorem last_snoc (f : α → Option β) (b : β) (l : List α) (a : α) :
    last f b (l ++ [a]) = (f a).getD (last f b l) := by
  unfold last
  rw [List.foldl_append]
  rfl

/-- **Two histories** that end in the same event. -/
theorem last_eq_iff (f : α → Option β) (b : β) (l l' : List α) (a : α) :
    last f b (l ++ [a]) = last f b (l' ++ [a]) ↔ (f a = none → last f b l = last f b l') := by
  rw [last_snoc, last_snoc]
  cases f a with
  | none => simp
  | some x => simp

/-- **The last event** that replaces the value. -/
theorem last_of_find {f : α → Option β} {l : List α} {a : α} {x : β} (b : β)
    (hfind : l.reverse.find? (fun a => (f a).isSome) = some a) (ha : f a = some x) :
    last f b l = x := by
  induction l using List.reverseRecOn with
  | nil => cases hfind
  | append_singleton l a' ih =>
    rw [List.reverse_append, List.reverse_singleton, List.singleton_append, List.find?_cons] at hfind
    rw [last_snoc]
    split at hfind
    · obtain rfl := Option.some.inj hfind
      rw [ha, Option.getD_some]
    · next hnone =>
      rw [Option.isSome_eq_false_iff, Option.isNone_iff_eq_none] at hnone
      rw [hnone, Option.getD_none, ih hfind]

end Overwritten

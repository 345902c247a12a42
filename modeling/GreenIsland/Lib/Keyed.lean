import Mathlib.Data.List.Nodup

/-! Lists whose first entry with a key is edited in place.

`modify key k f l` is what a loop does that looks for the key `k` and changes the
entry through a pointer.  Where no key is repeated it is a `map` (`modify_eq_map`),
and where `f` leaves the key alone no key changes (`map_modify`).  `erase key k l` is
what such a loop does that takes the entry out; where no key is repeated it is a
`filter` (`erase_eq_filter`). -/

namespace Keyed

variable {α κ : Type*} [DecidableEq κ] {key : α → κ} {k : κ} {f : α → α} {l : List α}

/-- The first entry with the key `k`. -/
def find (key : α → κ) (k : κ) (l : List α) : Option α := l.find? fun x => key x = k

/-- The first entry with the key `k` is changed by `f`. -/
def modify (key : α → κ) (k : κ) (f : α → α) : List α → List α
  | [] => []
  | x :: xs => if key x = k then f x :: xs else x :: modify key k f xs

/-- The first entry with the key `k` is taken out. -/
def erase (key : α → κ) (k : κ) (l : List α) : List α := l.eraseP fun x => key x = k

theorem find_eq_none : find key k l = none ↔ k ∉ l.map key := by
  unfold find
  rw [List.find?_eq_none, List.mem_map]
  constructor
  · rintro h ⟨x, hx, hkey⟩
    exact h x hx (decide_eq_true hkey)
  · intro h x hx hkey
    exact h ⟨x, hx, of_decide_eq_true hkey⟩

theorem key_of_find {x : α} (h : find key k l = some x) : key x = k := by
  have hx := List.find?_some h
  exact of_decide_eq_true hx

/-- Where no key is repeated, an entry is found by its key. -/
theorem find_of_mem (h : (l.map key).Nodup) {x : α} (hx : x ∈ l) : find key (key x) l = some x := by
  cases hfind : find key (key x) l with
  | none => exact absurd (List.mem_map_of_mem hx) (find_eq_none.1 hfind)
  | some y =>
    exact congrArg some (List.inj_on_of_nodup_map h (List.mem_of_find?_eq_some hfind) hx
      (key_of_find hfind))

theorem modify_cons (x : α) (xs : List α) :
    modify key k f (x :: xs) = if key x = k then f x :: xs else x :: modify key k f xs := rfl

theorem modify_eq_self (h : k ∉ l.map key) : modify key k f l = l := by
  induction l with
  | nil => rfl
  | cons x xs ih =>
    rw [List.map_cons, List.mem_cons, not_or] at h
    rw [modify_cons, if_neg (Ne.symm h.1), ih h.2]

/-- **No key is repeated.** -/
theorem modify_eq_map (h : (l.map key).Nodup) :
    modify key k f l = l.map fun x => if key x = k then f x else x := by
  induction l with
  | nil => rfl
  | cons x xs ih =>
    obtain ⟨hx, hxs⟩ := List.nodup_cons.1 h
    rw [List.map_cons, ← ih hxs, modify_cons]
    split
    · next hkey => rw [← hkey, modify_eq_self hx]
    · rfl

/-- **No key is repeated.** -/
theorem erase_eq_filter (h : (l.map key).Nodup) :
    erase key k l = l.filter fun x => key x ≠ k := by
  unfold erase
  induction l with
  | nil => rfl
  | cons x xs ih =>
    obtain ⟨hx, hxs⟩ := List.nodup_cons.1 h
    by_cases hkey : key x = k
    · have hkeep : ∀ y ∈ xs, decide (key y ≠ k) = true := by
        intro y hy
        refine decide_eq_true fun hyk => hx ?_
        rw [hkey, ← hyk]
        exact List.mem_map_of_mem hy
      rw [List.filter_cons_of_neg (by simp [hkey]), List.filter_eq_self.2 hkeep]
      exact List.eraseP_cons_of_pos (decide_eq_true hkey)
    · rw [List.filter_cons_of_pos (by simp [hkey]), ← ih hxs]
      exact List.eraseP_cons_of_neg (by simp [hkey])

/-- A part of the entries that `f` leaves alone. -/
theorem map_modify {β : Type*} {g : α → β} (hg : ∀ x, g (f x) = g x) :
    (modify key k f l).map g = l.map g := by
  induction l with
  | nil => rfl
  | cons x xs ih =>
    rw [modify_cons]
    split
    · rw [List.map_cons, List.map_cons, hg]
    · rw [List.map_cons, List.map_cons, ih]

end Keyed

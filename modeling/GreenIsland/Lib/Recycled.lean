import Mathlib.Data.List.Nodup

/-! Names that are given to things, withdrawn, and given again.

A history is a list of events: a name `k` is given to `a`, or it is withdrawn.
`live` are the pairs that were given and not withdrawn afterwards, and `last k` is
what the name `k` was last given to.  An event is `Proper` after a history if it
gives a free name or withdraws one in use.

What holds of every proper history is `Sound`: no name is in use twice, and a name
in use stands for what it was last given to. -/

namespace Recycled

inductive Event (κ α : Type*)
  | give (k : κ) (a : α)
  | withdraw (k : κ)

variable {κ α : Type*} [DecidableEq κ] {k : κ} {a : α} {h : List (Event κ α)}

/-- The name is withdrawn in the history. -/
def Withdrawn (k : κ) (h : List (Event κ α)) : Bool :=
  h.any fun
    | .give _ _ => false
    | .withdraw k' => k' = k

/-- What was given and not withdrawn afterwards, in the order in which it was given. -/
def live : List (Event κ α) → List (κ × α)
  | [] => []
  | .give k a :: h => if Withdrawn k h then live h else (k, a) :: live h
  | .withdraw _ :: h => live h

/-- What a name was last given to. -/
def last (k : κ) : List (Event κ α) → Option α
  | [] => none
  | .give k' a :: h => (last k h).or (if k' = k then some a else none)
  | .withdraw _ :: h => last k h

/-- The names in use. -/
def names (h : List (Event κ α)) : List κ := (live h).map Prod.fst

def Proper (h : List (Event κ α)) : Event κ α → Prop
  | .give k _ => k ∉ names h
  | .withdraw k => k ∈ names h

instance (h : List (Event κ α)) : ∀ e, Decidable (Proper h e)
  | .give k _ => inferInstanceAs (Decidable (k ∉ names h))
  | .withdraw k => inferInstanceAs (Decidable (k ∈ names h))

theorem withdrawn_concat_give {k' : κ} : Withdrawn k' (h ++ [.give k a]) = Withdrawn k' h := by
  simp [Withdrawn]

theorem withdrawn_concat_withdraw {k' : κ} :
    Withdrawn k' (h ++ [.withdraw k]) = (Withdrawn k' h || decide (k = k')) := by
  simp [Withdrawn]

theorem live_concat_give : live (h ++ [.give k a]) = live h ++ [(k, a)] := by
  induction h with
  | nil => rfl
  | cons e h ih =>
    cases e with
    | give k' b =>
      rw [List.cons_append, live, live, withdrawn_concat_give, ih]
      split
      · rfl
      · rfl
    | withdraw k' => exact ih

theorem live_concat_withdraw :
    live (h ++ [.withdraw k]) = (live h).filter fun x => x.1 ≠ k := by
  induction h with
  | nil => rfl
  | cons e h ih =>
    cases e with
    | give k' b =>
      rw [List.cons_append, live, live, withdrawn_concat_withdraw, ih]
      cases hw : Withdrawn k' h with
      | true => rfl
      | false =>
        by_cases hk : k = k'
        · subst hk
          simp
        · simp [hk, Ne.symm hk]
    | withdraw k' => exact ih

theorem last_concat_give {k' : κ} :
    last k' (h ++ [.give k a]) = if k = k' then some a else last k' h := by
  induction h with
  | nil => simp [last]
  | cons e h ih =>
    cases e with
    | give k₀ b =>
      rw [List.cons_append, last, last, ih]
      split
      · rfl
      · rfl
    | withdraw k₀ => exact ih

theorem last_concat_withdraw {k' : κ} : last k' (h ++ [.withdraw k]) = last k' h := by
  induction h with
  | nil => rfl
  | cons e h ih =>
    cases e with
    | give k₀ b => rw [List.cons_append, last, last, ih]
    | withdraw k₀ => exact ih

/-- No name is in use twice, and a name in use stands for what it was last given to. -/
structure Sound (h : List (Event κ α)) : Prop where
  nodup : (names h).Nodup
  last_of_mem : ∀ x ∈ live h, last x.1 h = some x.2

theorem sound_nil : Sound ([] : List (Event κ α)) where
  nodup := List.nodup_nil
  last_of_mem := fun _ hx => absurd hx List.not_mem_nil

/-- **One more event.** -/
theorem Sound.concat (hs : Sound h) {e : Event κ α} (he : Proper h e) : Sound (h ++ [e]) := by
  cases e with
  | give k a =>
    refine ⟨?_, fun x hx => ?_⟩
    · rw [names, live_concat_give, List.map_append]
      exact List.Nodup.append hs.nodup (List.nodup_singleton k) (List.disjoint_singleton.2 he)
    · rw [live_concat_give, List.mem_append, List.mem_singleton] at hx
      rw [last_concat_give]
      rcases hx with hx | rfl
      · have hne : k ≠ x.1 := fun hk => he (hk ▸ List.mem_map_of_mem hx)
        rw [if_neg hne]
        exact hs.last_of_mem x hx
      · exact if_pos rfl
  | withdraw k =>
    refine ⟨?_, fun x hx => ?_⟩
    · rw [names, live_concat_withdraw]
      exact hs.nodup.sublist (List.filter_sublist.map _)
    · rw [last_concat_withdraw]
      rw [live_concat_withdraw] at hx
      exact hs.last_of_mem x (List.mem_of_mem_filter hx)

end Recycled

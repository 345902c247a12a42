import Mathlib.Data.List.Basic

/-! Keeping the largest so far.

A loop over a list measures its elements, some of which have no measure, and
remembers the last one that was not below all measures before it.  `foldl_keep` says
what it ends with. -/

namespace Largest

variable {α : Type*}

/-- The element that is remembered and its measure, after one more element. -/
def keep (measure : α → Option Int) (best : Option α × Int) (a : α) : Option α × Int :=
  match measure a with
  | some m => if best.2 ≤ m then (some a, m) else best
  | none => best

theorem keep_of_lt {measure : α → Option Int} {best : Option α × Int} {a : α}
    (h : ∀ m ∈ measure a, m < best.2) : keep measure best a = best := by
  unfold keep
  split
  · next m hm => exact if_neg (Int.not_le.2 (h m hm))
  · rfl

theorem keep_of_le {measure : α → Option Int} {best : Option α × Int} {a : α} {m : Int}
    (hm : m ∈ measure a) (h : best.2 ≤ m) : keep measure best a = (some a, m) := by
  unfold keep
  rw [show measure a = some m from hm]
  exact if_pos h

theorem below_or_reaches (measured : Option Int) (bound : Int) :
    (∀ m ∈ measured, m < bound) ∨ ∃ m ∈ measured, bound ≤ m := by
  by_cases hlt : ∀ m ∈ measured, m < bound
  · exact Or.inl hlt
  · refine Or.inr ?_
    by_contra hnone
    exact hlt fun m hm => Int.not_le.1 fun hle => hnone ⟨m, hm, hle⟩

/-- What was remembered at first matters only if nothing reaches the bound. -/
theorem foldl_keep_start (measure : α → Option Int) : ∀ (l : List α) (a b : Option α) (n : Int),
    (l.foldl (keep measure) (a, n) = (a, n) ∧ l.foldl (keep measure) (b, n) = (b, n)) ∨
      l.foldl (keep measure) (a, n) = l.foldl (keep measure) (b, n) := by
  intro l
  induction l with
  | nil => exact fun a b n => Or.inl ⟨rfl, rfl⟩
  | cons c l ih =>
    intro a b n
    rw [List.foldl_cons, List.foldl_cons]
    rcases below_or_reaches (measure c) n with hlt | ⟨m, hm, hle⟩
    · rw [keep_of_lt hlt, keep_of_lt hlt]
      exact ih a b n
    · rw [keep_of_le hm hle, keep_of_le hm hle]
      exact Or.inr rfl

/-- **Either nothing reached the bound, or the last of the elements with the largest
measure is remembered.** -/
theorem foldl_keep_last (measure : α → Option Int) : ∀ (l : List α) (best : Option α × Int),
    (l.foldl (keep measure) best = best ∧ ∀ a ∈ l, ∀ m ∈ measure a, m < best.2) ∨
      ∃ before a later m, l = before ++ a :: later ∧ m ∈ measure a ∧
        l.foldl (keep measure) best = (some a, m) ∧ best.2 ≤ m ∧
          (∀ b ∈ before, ∀ n ∈ measure b, n ≤ m) ∧ ∀ b ∈ later, ∀ n ∈ measure b, n < m := by
  intro l
  induction l with
  | nil => exact fun best => Or.inl ⟨rfl, nofun⟩
  | cons a l ih =>
    intro best
    rw [List.foldl_cons]
    rcases below_or_reaches (measure a) best.2 with hlt | ⟨n, hn, hle⟩
    · rw [keep_of_lt hlt]
      rcases ih best with ⟨hfold, hrest⟩ | ⟨before, b, later, m, rfl, hm, hfold, hle, hbefore, hlater⟩
      · exact Or.inl ⟨hfold, List.forall_mem_cons.2 ⟨hlt, hrest⟩⟩
      · refine Or.inr ⟨a :: before, b, later, m, rfl, hm, hfold, hle, ?_, hlater⟩
        exact List.forall_mem_cons.2
          ⟨fun n hn => Int.le_trans (Int.le_of_lt (hlt n hn)) hle, hbefore⟩
    · -- the element reaches the bound, and its measure is the next bound
      have honly : ∀ k ∈ measure a, k = n := fun k hk => Option.some.inj (hk.symm.trans hn)
      rw [keep_of_le hn hle]
      rcases ih (some a, n) with
        ⟨hfold, hrest⟩ | ⟨before, b, later, m, rfl, hm, hfold, hle', hbefore, hlater⟩
      · exact Or.inr ⟨[], a, l, n, rfl, hn, hfold, hle, nofun, hrest⟩
      · refine Or.inr ⟨a :: before, b, later, m, rfl, hm, hfold, Int.le_trans hle hle', ?_, hlater⟩
        exact List.forall_mem_cons.2 ⟨fun k hk => honly k hk ▸ hle', hbefore⟩

/-- So an element with the largest measure is remembered. -/
theorem foldl_keep (measure : α → Option Int) (l : List α) (best : Option α × Int) :
    (l.foldl (keep measure) best = best ∧ ∀ a ∈ l, ∀ m ∈ measure a, m < best.2) ∨
      ∃ a ∈ l, ∃ m ∈ measure a, l.foldl (keep measure) best = (some a, m) ∧ best.2 ≤ m ∧
        ∀ b ∈ l, ∀ n ∈ measure b, n ≤ m := by
  rcases foldl_keep_last measure l best with
    hnone | ⟨before, a, later, m, rfl, hm, hfold, hle, hbefore, hlater⟩
  · exact Or.inl hnone
  · have hmem : a ∈ before ++ a :: later := List.mem_append_right before List.mem_cons_self
    refine Or.inr ⟨a, hmem, m, hm, hfold, hle, fun b hb n hn => ?_⟩
    rcases List.mem_append.1 hb with hb | hb
    · exact hbefore b hb n hn
    · rcases List.mem_cons.1 hb with rfl | hb
      · exact Int.le_of_eq (Option.some.inj (hn.symm.trans hm))
      · exact Int.le_of_lt (hlater b hb n hn)

/-- Something is remembered just if it was before or an element reaches the bound. -/
theorem isSome_foldl_keep_iff (measure : α → Option Int) (l : List α) (best : Option α × Int) :
    (l.foldl (keep measure) best).1 ≠ none ↔
      best.1 ≠ none ∨ ∃ a ∈ l, ∃ m ∈ measure a, best.2 ≤ m := by
  rcases foldl_keep measure l best with ⟨hfold, hlt⟩ | ⟨a, ha, m, hm, hfold, hle, -⟩
  · rw [hfold]
    refine ⟨Or.inl, fun h => h.resolve_right ?_⟩
    rintro ⟨a, ha, m, hm, hle⟩
    exact absurd hle (Int.not_le.2 (hlt a ha m hm))
  · rw [hfold]
    exact iff_of_true (Option.some_ne_none a) (Or.inr ⟨a, ha, m, hm, hle⟩)

/-- What is remembered was remembered before or is an element. -/
theorem mem_of_foldl_keep {measure : α → Option Int} {l : List α} {best : Option α × Int} {a : α}
    (h : (l.foldl (keep measure) best).1 = some a) : best.1 = some a ∨ a ∈ l := by
  rcases foldl_keep measure l best with ⟨hfold, -⟩ | ⟨b, hb, m, -, hfold, -⟩
  · rw [hfold] at h
    exact Or.inl h
  · rw [hfold] at h
    exact Or.inr (Option.some.inj h ▸ hb)

end Largest

import Mathlib.Data.List.DropRight
import Mathlib.Data.List.Infix
import Mathlib.Data.List.TakeWhile

/-! Trimming a list at both ends, and reading it up to a mark.

`trim p l` leaves out what satisfies `p` at the ends of `l`.  A place of `l` (an entry
`b` with what is before and behind it) is left if and only if some entry up to `b`
and some entry from `b` on do not satisfy `p`.  `mem_takeWhile_trim_iff` says which
entries are left when the list is then read up to the first one without `q`. -/

namespace Trim

variable {α : Type*} {p q : α → Bool} {l u v : List α} {b : α}

def trim (p : α → Bool) (l : List α) : List α := (l.dropWhile p).rdropWhile p

/-- An entry is not dropped at the front if there is something else up to it. -/
theorem dropWhile_place (h : ∃ c ∈ u ++ [b], p c = false) :
    ∃ w, w <:+ u ∧ (u ++ b :: v).dropWhile p = w ++ b :: v := by
  induction u with
  | nil =>
    obtain ⟨c, hc, hp⟩ := h
    obtain rfl := List.mem_singleton.1 hc
    refine ⟨[], List.suffix_refl _, ?_⟩
    simp [hp]
  | cons a u ih =>
    by_cases ha : p a = true
    · obtain ⟨c, hc, hp⟩ := h
      have hc' : c ∈ u ++ [b] := by
        rcases List.mem_cons.1 hc with rfl | hc
        · cases hp.symm.trans ha
        · exact hc
      obtain ⟨w, hw, hdrop⟩ := ih ⟨c, hc', hp⟩
      refine ⟨w, hw.trans (List.suffix_cons a u), ?_⟩
      rw [List.cons_append, List.dropWhile_cons_of_pos ha, hdrop]
    · refine ⟨a :: u, List.suffix_refl _, ?_⟩
      rw [List.cons_append, List.dropWhile_cons_of_neg ha]

/-- An entry is not dropped at the back if there is something else from it on. -/
theorem rdropWhile_place (h : ∃ c ∈ b :: v, p c = false) :
    ∃ w, (u ++ b :: v).rdropWhile p = u ++ b :: w := by
  have hreverse : (u ++ b :: v).reverse = v.reverse ++ b :: u.reverse := by simp
  have h' : ∃ c ∈ v.reverse ++ [b], p c = false := by
    obtain ⟨c, hc, hp⟩ := h
    refine ⟨c, ?_, hp⟩
    simpa [or_comm] using hc
  obtain ⟨w, -, hdrop⟩ := dropWhile_place (v := u.reverse) h'
  refine ⟨w.reverse, ?_⟩
  unfold List.rdropWhile
  rw [hreverse, hdrop]
  simp

/-- A trimmed list with what was left out. -/
theorem trim_split (p : α → Bool) (l : List α) :
    ∃ front back, l = front ++ trim p l ++ back ∧ (∀ c ∈ front, p c = true) ∧
      ∀ c ∈ back, p c = true := by
  refine ⟨l.takeWhile p, (l.dropWhile p).rtakeWhile p, ?_, ?_, ?_⟩
  · unfold trim
    rw [List.append_assoc, List.rdropWhile_append_rtakeWhile, List.takeWhile_append_dropWhile]
  · exact fun c hc => List.mem_takeWhile_imp hc
  · exact fun c hc => List.mem_rtakeWhile_imp hc

/-- Neither end of a trimmed list satisfies `p`. -/
theorem trim_place (h : trim p l = u ++ b :: v) :
    (∃ c ∈ u ++ [b], p c = false) ∧ ∃ c ∈ b :: v, p c = false := by
  constructor
  · obtain ⟨back, hback⟩ : trim p l <+: l.dropWhile p := List.rdropWhile_prefix p _
    have hhead := List.head?_dropWhile_not p l
    rw [← hback, h] at hhead
    cases u with
    | nil => exact ⟨b, List.mem_singleton_self b, hhead⟩
    | cons a u => exact ⟨a, List.mem_cons_self, hhead⟩
  · have hne : (l.dropWhile p).rdropWhile p ≠ [] := fun hnil => by
      have hlength := congrArg List.length (h.symm.trans hnil)
      simp at hlength
    have hlast := List.rdropWhile_last_not p _ hne
    have hmem : ((l.dropWhile p).rdropWhile p).getLast hne ∈ b :: v := by
      have hsplit : (l.dropWhile p).rdropWhile p = u ++ b :: v := h
      simp only [hsplit]
      rw [List.getLast_append_of_ne_nil _ (List.cons_ne_nil b v)]
      exact List.getLast_mem _
    exact ⟨_, hmem, Bool.eq_false_iff.2 hlast⟩

theorem mem_takeWhile_place (h : ∀ c ∈ u ++ [b], q c = true) : b ∈ (u ++ b :: v).takeWhile q := by
  have hsplit : u ++ b :: v = (u ++ [b]) ++ v := by simp
  rw [hsplit, List.takeWhile_append_of_pos h]
  simp

theorem place_of_mem_takeWhile (h : b ∈ l.takeWhile q) :
    ∃ u v, l = u ++ b :: v ∧ ∀ c ∈ u ++ [b], q c = true := by
  obtain ⟨u, w, hw⟩ := List.append_of_mem h
  refine ⟨u, w ++ l.dropWhile q, ?_, fun c hc => List.mem_takeWhile_imp (l := l) ?_⟩
  · rw [← List.cons_append, ← List.append_assoc, ← hw, List.takeWhile_append_dropWhile]
  · rw [hw]
    rcases List.mem_append.1 hc with hc | hc
    · exact List.mem_append_left _ hc
    · obtain rfl := List.mem_singleton.1 hc
      simp

/-- **What is left** of a list that is trimmed and read up to the first entry without `q`. -/
theorem mem_takeWhile_trim_iff (hpq : ∀ c, p c = true → q c = true) :
    b ∈ (trim p l).takeWhile q ↔ ∃ u v, l = u ++ b :: v ∧ (∀ c ∈ u ++ [b], q c = true) ∧
      (∃ c ∈ u ++ [b], p c = false) ∧ ∃ c ∈ b :: v, p c = false := by
  constructor
  · intro h
    obtain ⟨u, v, htrim, hq⟩ := place_of_mem_takeWhile h
    obtain ⟨front, back, hl, hfront, -⟩ := trim_split p l
    obtain ⟨⟨c, hc, hpc⟩, d, hd, hpd⟩ := trim_place htrim
    refine ⟨front ++ u, v ++ back, ?_, ?_, ⟨c, ?_, hpc⟩, d, ?_, hpd⟩
    · rw [hl, htrim]
      simp
    · intro c hc
      rw [List.append_assoc] at hc
      rcases List.mem_append.1 hc with hc | hc
      · exact hpq c (hfront c hc)
      · exact hq c hc
    · rw [List.append_assoc]
      exact List.mem_append_right _ hc
    · rw [← List.cons_append]
      exact List.mem_append_left _ hd
  · rintro ⟨u, v, rfl, hq, hfront, hback⟩
    obtain ⟨w, hw, hdrop⟩ := dropWhile_place (v := v) hfront
    obtain ⟨x, hx⟩ := rdropWhile_place (u := w) hback
    unfold trim
    rw [hdrop, hx]
    refine mem_takeWhile_place fun c hc => hq c ?_
    rcases List.mem_append.1 hc with hc | hc
    · exact List.mem_append_left _ (hw.subset hc)
    · exact List.mem_append_right _ hc

end Trim

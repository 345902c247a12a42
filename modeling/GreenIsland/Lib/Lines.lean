import Mathlib.Data.List.Basic

/-! The lines of a text.

A text is cut at every element with a property `p`.  `ahead` are the elements in front of
the first cut, `behind` those after the last one.  Two texts that are put together have
lines of at most `n` elements exactly when each has, and the last line of the first with
the first line of the second (`bounded_append`). -/

namespace Lines

variable {α : Type*} {p : α → Bool} {n : Nat}

/-- No line is longer than `n`. -/
def Bounded (p : α → Bool) (n : Nat) (text : List α) : Prop :=
  ∀ line ∈ text.splitOnP p, line.length ≤ n

instance (p : α → Bool) (n : Nat) (text : List α) : Decidable (Bounded p n text) :=
  inferInstanceAs (Decidable (∀ line ∈ text.splitOnP p, line.length ≤ n))

/-- The length of the first line. -/
def ahead (p : α → Bool) (text : List α) : Nat := text.findIdx p

/-- The length of the last line. -/
def behind (p : α → Bool) (text : List α) : Nat := text.reverse.findIdx p

/-! ## The first and the last line -/

@[simp] theorem ahead_nil : ahead p [] = 0 := rfl

theorem ahead_cons_of_cut {c : α} {text : List α} (h : p c = true) : ahead p (c :: text) = 0 := by
  unfold ahead
  rw [List.findIdx_cons, h, cond_true]

theorem ahead_cons {c : α} {text : List α} (h : p c = false) :
    ahead p (c :: text) = ahead p text + 1 := by
  unfold ahead
  rw [List.findIdx_cons, h, cond_false]

theorem ahead_le_length {text : List α} : ahead p text ≤ text.length := List.findIdx_le_length

theorem ahead_append_of_cut {front rest : List α} (h : ∃ c ∈ front, p c = true) :
    ahead p (front ++ rest) = ahead p front := by
  unfold ahead
  rw [List.findIdx_append, if_pos (List.findIdx_lt_length.2 h)]

theorem ahead_append {front rest : List α} (h : ∀ c ∈ front, p c = false) :
    ahead p (front ++ rest) = ahead p rest + front.length := by
  unfold ahead
  rw [List.findIdx_append, if_neg]
  rw [List.findIdx_eq_length_of_false h]
  exact Nat.lt_irrefl _

theorem behind_le_length {text : List α} : behind p text ≤ text.length := by
  unfold behind
  rw [← List.length_reverse]
  exact List.findIdx_le_length

theorem behind_of_no_cut {text : List α} (h : ∀ c ∈ text, p c = false) :
    behind p text = text.length := by
  unfold behind
  rw [← List.length_reverse]
  exact List.findIdx_eq_length_of_false fun c hc => h c (List.mem_reverse.1 hc)

/-- An element in front of a cut is not behind it. -/
theorem behind_cons_of_cut {c : α} {text : List α} (h : ∃ d ∈ text, p d = true) :
    behind p (c :: text) = behind p text := by
  unfold behind
  rw [List.reverse_cons]
  refine ahead_append_of_cut ?_
  simpa using h

theorem behind_cut_cons {c : α} {text : List α} (hc : p c = true) :
    behind p (c :: text) = behind p text := by
  by_cases hcut : ∃ d ∈ text, p d = true
  · exact behind_cons_of_cut hcut
  · simp only [not_exists, not_and, Bool.not_eq_true] at hcut
    rw [behind_of_no_cut hcut]
    unfold behind
    rw [List.reverse_cons]
    refine (ahead_append fun d hd => hcut d (List.mem_reverse.1 hd)).trans ?_
    rw [ahead_cons_of_cut hc, List.length_reverse, Nat.zero_add]

/-! ## Bounded lines -/

@[simp] theorem bounded_nil : Bounded p n [] := by
  simp [Bounded]

theorem bounded_cut_cons {c : α} {text : List α} (hc : p c = true) :
    Bounded p n (c :: text) ↔ Bounded p n text := by
  unfold Bounded
  rw [List.splitOnP_cons_eq_if_modifyHead, if_pos hc]
  simp

/-- The first line is the part in front of the first cut. -/
theorem exists_splitOnP_eq (text : List α) :
    ∃ line lines, text.splitOnP p = line :: lines ∧ line.length = ahead p text := by
  induction text with
  | nil => exact ⟨[], [], rfl, rfl⟩
  | cons c text ih =>
    rw [List.splitOnP_cons_eq_if_modifyHead]
    obtain ⟨line, lines, htext, hline⟩ := ih
    cases hc : p c with
    | true => exact ⟨[], _, if_pos rfl, (ahead_cons_of_cut hc).symm⟩
    | false =>
      refine ⟨c :: line, lines, ?_, ?_⟩
      · rw [if_neg Bool.false_ne_true, htext, List.modifyHead_cons]
      · rw [List.length_cons, hline, ahead_cons hc]

theorem Bounded.ahead_le {text : List α} (h : Bounded p n text) : ahead p text ≤ n := by
  obtain ⟨line, lines, htext, hline⟩ := exists_splitOnP_eq (p := p) text
  rw [← hline]
  exact h line (htext ▸ List.mem_cons_self)

theorem bounded_cons {c : α} {text : List α} (hc : p c = false) :
    Bounded p n (c :: text) ↔ ahead p text + 1 ≤ n ∧ Bounded p n text := by
  obtain ⟨line, lines, htext, hline⟩ := exists_splitOnP_eq (p := p) text
  unfold Bounded
  rw [List.splitOnP_cons_eq_if_modifyHead, hc, if_neg Bool.false_ne_true, htext,
    List.modifyHead_cons, List.forall_mem_cons, List.forall_mem_cons, List.length_cons, hline]
  constructor
  · rintro ⟨hfirst, hlines⟩
    exact ⟨hfirst, Nat.le_of_succ_le hfirst, hlines⟩
  · rintro ⟨hfirst, -, hlines⟩
    exact ⟨hfirst, hlines⟩

/-- **Texts put together.** -/
theorem bounded_append (front rest : List α) :
    Bounded p n (front ++ rest) ↔
      Bounded p n front ∧ Bounded p n rest ∧ behind p front + ahead p rest ≤ n := by
  induction front with
  | nil =>
    have hbehind : behind p ([] : List α) = 0 := rfl
    rw [List.nil_append, hbehind, Nat.zero_add]
    exact ⟨fun h => ⟨bounded_nil, h, h.ahead_le⟩, fun h => h.2.1⟩
  | cons c front ih =>
    rw [List.cons_append]
    cases hc : p c with
    | true => rw [bounded_cut_cons hc, bounded_cut_cons hc, behind_cut_cons hc, ih]
    | false =>
      rw [bounded_cons hc, bounded_cons hc, ih]
      by_cases hcut : ∃ d ∈ front, p d = true
      · rw [ahead_append_of_cut hcut, behind_cons_of_cut hcut, and_assoc]
      · -- nothing is cut in front of `rest`: both lines are one
        simp only [not_exists, not_and, Bool.not_eq_true] at hcut
        have hfront : ahead p front = front.length := List.findIdx_eq_length_of_false hcut
        have hbehind : behind p (c :: front) = front.length + 1 :=
          behind_of_no_cut (List.forall_mem_cons.2 ⟨hc, hcut⟩)
        rw [ahead_append hcut, behind_of_no_cut hcut, hbehind, hfront]
        constructor
        · rintro ⟨hline, hboth, hrest, -⟩
          exact ⟨⟨by omega, hboth⟩, hrest, by omega⟩
        · rintro ⟨⟨-, hboth⟩, hrest, hline⟩
          exact ⟨by omega, hboth, hrest, by omega⟩

theorem Bounded.behind_le {text : List α} (h : Bounded p n text) : behind p text ≤ n := by
  have hempty := (bounded_append text []).1 (by rwa [List.append_nil])
  exact hempty.2.2

theorem Bounded.take {text : List α} (h : Bounded p n text) (k : Nat) :
    Bounded p n (text.take k) := by
  rw [← List.take_append_drop k text, bounded_append] at h
  exact h.1

theorem Bounded.drop {text : List α} (h : Bounded p n text) (k : Nat) :
    Bounded p n (text.drop k) := by
  rw [← List.take_append_drop k text, bounded_append] at h
  exact h.2.1

theorem bounded_of_length_le {text : List α} (h : text.length ≤ n) : Bounded p n text := by
  induction text with
  | nil => exact bounded_nil
  | cons c text ih =>
    rw [List.length_cons] at h
    have htext := ih (Nat.le_of_succ_le h)
    cases hc : p c with
    | true => exact (bounded_cut_cons hc).2 htext
    | false =>
      have hahead : ahead p text ≤ text.length := ahead_le_length
      exact (bounded_cons hc).2 ⟨by omega, htext⟩

/-- A text of more than `n` elements has a cut if its lines are bounded. -/
theorem Bounded.exists_cut {text : List α} (h : Bounded p n text) (hlength : n < text.length) :
    ∃ c ∈ text, p c = true := by
  refine List.findIdx_lt_length.1 ?_
  exact Nat.lt_of_le_of_lt h.ahead_le hlength

/-- One cut is enough for a text of `n + 1` elements. -/
theorem bounded_of_cut {text : List α} (hlength : text.length ≤ n + 1)
    (h : ∃ c ∈ text, p c = true) : Bounded p n text := by
  obtain ⟨c, hc, hcut⟩ := h
  obtain ⟨front, rest, rfl⟩ := List.append_of_mem hc
  rw [List.length_append, List.length_cons] at hlength
  have hbehind : behind p front ≤ front.length := behind_le_length
  refine (bounded_append front (c :: rest)).2 ⟨bounded_of_length_le (by omega), ?_, ?_⟩
  · exact (bounded_cut_cons hcut).2 (bounded_of_length_le (by omega))
  · rw [ahead_cons_of_cut hcut]
    omega

end Lines

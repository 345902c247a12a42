import Mathlib.Algebra.Order.Ring.Int
import Mathlib.Data.Int.ConditionallyCompleteOrder
import Mathlib.Data.Int.Interval
import Mathlib.Order.ConditionallyCompleteLattice.Indexed
import Mathlib.Order.Interval.Finset.Basic
import GreenIsland.Qt.Geometry

/-! The pixels of a rectangle.

`QRect` computes with edges, in 32 bits.  Here is what its operations mean: a rectangle
stands for a set of pixels, `intersected` is valid just if two such sets meet, its
width times its height is the number of pixels they share, `contains` is inclusion, and
`united` is the least rectangle with the pixels of both. -/

namespace GreenIsland

/-- Both coordinates are 32-bit integers. -/
def QPoint.Fits (p : QPoint) : Prop := FitsInt32 p.x ∧ FitsInt32 p.y

instance (p : QPoint) : Decidable p.Fits := inferInstanceAs (Decidable (_ ∧ _))

theorem QPointF.toPoint_fits (p : QPointF) : p.toPoint.Fits := ⟨fits_qint32 _, fits_qint32 _⟩

namespace QRect

/-- The pixels between the edges. -/
noncomputable def pixels (r : QRect) : Finset (ℤ × ℤ) :=
  if r.isNull then ∅ else Finset.Icc (r.columns.1, r.rows.1) (r.columns.2, r.rows.2)

/-! ## Edges -/

theorem fits_columns {r : QRect} (h : r.topLeft.Fits) :
    FitsInt32 r.columns.1 ∧ FitsInt32 r.columns.2 := by
  unfold columns
  split
  · exact ⟨fits_qint32 _, h.1⟩
  · exact ⟨h.1, fits_qint32 _⟩

theorem fits_rows {r : QRect} (h : r.topLeft.Fits) : FitsInt32 r.rows.1 ∧ FitsInt32 r.rows.2 := by
  unfold rows
  split
  · exact ⟨fits_qint32 _, h.2⟩
  · exact ⟨h.2, fits_qint32 _⟩

/-- An edge survives that the width is computed from it and it from the width. -/
theorem qint32_edge {l r : Int} (h : FitsInt32 r) : qint32 (l + qint32 (r - l + 1) - 1) = r := by
  have hsum : l + qint32 (r - l + 1) - 1 = (l - 1) + qint32 (r - l + 1) := by omega
  have hexact : (l - 1) + (r - l + 1) = r := by omega
  rw [hsum]
  unfold qint32
  rw [Int.add_bmod_bmod, hexact]
  exact qint32_of_fits h

theorem right_ofEdges {l t r b : Int} (h : FitsInt32 r) : (ofEdges l t r b).right = r := qint32_edge h

theorem bottom_ofEdges {l t r b : Int} (h : FitsInt32 b) : (ofEdges l t r b).bottom = b := qint32_edge h

theorem isValid_null : null.isValid = false := by decide

/-! ## Operations -/

theorem mem_pixels {r : QRect} {p : ℤ × ℤ} : p ∈ r.pixels ↔ r.isNull = false ∧
    (r.columns.1 ≤ p.1 ∧ p.1 ≤ r.columns.2) ∧ r.rows.1 ≤ p.2 ∧ p.2 ≤ r.rows.2 := by
  unfold pixels
  cases r.isNull with
  | true => simp
  | false =>
    simp only [Bool.false_eq_true, if_false, true_and, Finset.mem_Icc, Prod.le_def]
    tauto

/-- The edges that `intersected` computes, when both rectangles have pixels. -/
def common (r s : QRect) : QRect :=
  ofEdges (max r.columns.1 s.columns.1) (max r.rows.1 s.rows.1)
    (min r.columns.2 s.columns.2) (min r.rows.2 s.rows.2)

theorem intersected_eq_null_or (r s : QRect) : r.intersected s = null ∨
    r.intersected s = common r s ∧ r.isNull = false ∧ s.isNull = false := by
  unfold intersected
  split
  · exact Or.inl rfl
  · next hnull =>
    split
    · exact Or.inl rfl
    · split
      · exact Or.inl rfl
      · simp only [Bool.or_eq_true, not_or, Bool.not_eq_true] at hnull
        exact Or.inr ⟨rfl, hnull⟩

/-- A pixel of both rules out that `intersected` returns early. -/
theorem intersected_of_mem {r s : QRect} {p : ℤ × ℤ} (hr : p ∈ r.pixels) (hs : p ∈ s.pixels) :
    r.intersected s = common r s := by
  obtain ⟨hrnull, ⟨hr1, hr2⟩, hr3, hr4⟩ := mem_pixels.1 hr
  obtain ⟨hsnull, ⟨hs1, hs2⟩, hs3, hs4⟩ := mem_pixels.1 hs
  have hnull : ¬ (r.isNull || s.isNull) = true := by
    rw [hrnull, hsnull]
    decide
  have hcolumns : ¬ (s.columns.2 < r.columns.1 || r.columns.2 < s.columns.1) = true := by
    simp only [Bool.or_eq_true, decide_eq_true_eq]
    omega
  have hrows : ¬ (s.rows.2 < r.rows.1 || r.rows.2 < s.rows.1) = true := by
    simp only [Bool.or_eq_true, decide_eq_true_eq]
    omega
  unfold intersected
  rw [if_neg hnull, if_neg hcolumns, if_neg hrows]
  rfl

theorem inter_pixels {r s : QRect} (hr : r.isNull = false) (hs : s.isNull = false) :
    r.pixels ∩ s.pixels = Finset.Icc (max r.columns.1 s.columns.1, max r.rows.1 s.rows.1)
      (min r.columns.2 s.columns.2, min r.rows.2 s.rows.2) := by
  ext p
  rw [Finset.mem_inter, mem_pixels, mem_pixels, Finset.mem_Icc, Prod.le_def, Prod.le_def]
  constructor
  · rintro ⟨⟨-, ⟨hr1, hr2⟩, hr3, hr4⟩, -, ⟨hs1, hs2⟩, hs3, hs4⟩
    exact ⟨⟨max_le hr1 hs1, max_le hr3 hs3⟩, le_min hr2 hs2, le_min hr4 hs4⟩
  · rintro ⟨⟨h1, h2⟩, h3, h4⟩
    exact ⟨⟨hr, ⟨(le_max_left _ _).trans h1, h3.trans (min_le_left _ _)⟩,
        (le_max_left _ _).trans h2, h4.trans (min_le_left _ _)⟩,
      hs, ⟨(le_max_right _ _).trans h1, h3.trans (min_le_right _ _)⟩,
        (le_max_right _ _).trans h2, h4.trans (min_le_right _ _)⟩

theorem isValid_common_iff {r s : QRect} (hr : r.topLeft.Fits) (hs : s.topLeft.Fits) :
    (common r s).isValid = true ↔
      max r.columns.1 s.columns.1 ≤ min r.columns.2 s.columns.2 ∧
        max r.rows.1 s.rows.1 ≤ min r.rows.2 s.rows.2 := by
  have hright : FitsInt32 (min r.columns.2 s.columns.2) := by
    rcases min_choice r.columns.2 s.columns.2 with heq | heq <;> rw [heq]
    · exact (fits_columns hr).2
    · exact (fits_columns hs).2
  have hbottom : FitsInt32 (min r.rows.2 s.rows.2) := by
    rcases min_choice r.rows.2 s.rows.2 with heq | heq <;> rw [heq]
    · exact (fits_rows hr).2
    · exact (fits_rows hs).2
  unfold isValid common
  rw [right_ofEdges hright, bottom_ofEdges hbottom, Bool.and_eq_true, decide_eq_true_iff,
    decide_eq_true_iff]
  rfl

/-- **`intersected` is valid just if the rectangles share a pixel.** -/
theorem isValid_intersected_iff {r s : QRect} (hr : r.topLeft.Fits) (hs : s.topLeft.Fits) :
    (r.intersected s).isValid = true ↔ (r.pixels ∩ s.pixels).Nonempty := by
  constructor
  · intro hvalid
    rcases intersected_eq_null_or r s with heq | ⟨heq, hrnull, hsnull⟩
    · rw [heq, isValid_null] at hvalid
      exact absurd hvalid Bool.false_ne_true
    · rw [heq, isValid_common_iff hr hs] at hvalid
      rw [inter_pixels hrnull hsnull, Finset.nonempty_Icc]
      exact hvalid
  · rintro ⟨p, hp⟩
    obtain ⟨hpr, hps⟩ := Finset.mem_inter.1 hp
    have hrnull := (mem_pixels.1 hpr).1
    have hsnull := (mem_pixels.1 hps).1
    rw [intersected_of_mem hpr hps, isValid_common_iff hr hs]
    rw [inter_pixels hrnull hsnull] at hp
    exact Finset.nonempty_Icc.1 ⟨p, hp⟩

/-- Its area is the number of the pixels they share, if that is a 32-bit integer. -/
theorem area_intersected {r s : QRect} (hshared : (r.pixels ∩ s.pixels).Nonempty)
    (hfits : FitsInt32 (r.pixels ∩ s.pixels).card) :
    qint32 ((r.intersected s).size.width * (r.intersected s).size.height) =
      (r.pixels ∩ s.pixels).card := by
  obtain ⟨p, hp⟩ := hshared
  obtain ⟨hpr, hps⟩ := Finset.mem_inter.1 hp
  have heq := inter_pixels (mem_pixels.1 hpr).1 (mem_pixels.1 hps).1
  obtain ⟨hcolumns, hrows⟩ : max r.columns.1 s.columns.1 ≤ min r.columns.2 s.columns.2 ∧
      max r.rows.1 s.rows.1 ≤ min r.rows.2 s.rows.2 := Finset.nonempty_Icc.1 ⟨p, heq ▸ hp⟩
  rw [intersected_of_mem hpr hps]
  rw [heq, Finset.card_Icc_prod] at hfits ⊢
  unfold common ofEdges
  generalize max r.columns.1 s.columns.1 = left, min r.columns.2 s.columns.2 = right at *
  generalize max r.rows.1 s.rows.1 = top, min r.rows.2 s.rows.2 = bottom at *
  have hwidth : ((Finset.Icc left right).card : ℤ) = right - left + 1 := by
    rw [Int.card_Icc_of_le left right (by omega)]
    omega
  have hheight : ((Finset.Icc top bottom).card : ℤ) = bottom - top + 1 := by
    rw [Int.card_Icc_of_le top bottom (by omega)]
    omega
  rw [Nat.cast_mul, hwidth, hheight] at hfits ⊢
  -- neither side is longer than the area
  have hle : right - left + 1 ≤ (right - left + 1) * (bottom - top + 1) :=
    le_mul_of_one_le_right (by omega) (by omega)
  have hle' : bottom - top + 1 ≤ (right - left + 1) * (bottom - top + 1) :=
    le_mul_of_one_le_left (by omega) (by omega)
  have hfitsw : FitsInt32 (right - left + 1) := ⟨by omega, lt_of_le_of_lt hle hfits.2⟩
  have hfitsh : FitsInt32 (bottom - top + 1) := ⟨by omega, lt_of_le_of_lt hle' hfits.2⟩
  rw [qint32_of_fits hfitsw, qint32_of_fits hfitsh, qint32_of_fits hfits]

/-- **`contains` is inclusion**, for a rectangle that has pixels. -/
theorem contains_iff_subset {r s : QRect} (hs : s.pixels.Nonempty) :
    r.contains s = true ↔ s.pixels ⊆ r.pixels := by
  obtain ⟨p, hp⟩ := hs
  obtain ⟨hsnull, hcolumns, hrows⟩ := mem_pixels.1 hp
  have hspixels : s.pixels = Finset.Icc (s.columns.1, s.rows.1) (s.columns.2, s.rows.2) :=
    if_neg (Bool.eq_false_iff.1 hsnull)
  have hcorners : ((s.columns.1, s.rows.1) : ℤ × ℤ) ≤ (s.columns.2, s.rows.2) :=
    ⟨hcolumns.1.trans hcolumns.2, hrows.1.trans hrows.2⟩
  cases hrnull : r.isNull with
  | true =>
    have hrpixels : r.pixels = ∅ := if_pos hrnull
    have hcontains : r.contains s = false := by
      unfold contains
      rw [hrnull]
      rfl
    rw [hcontains, hrpixels]
    exact iff_of_false Bool.false_ne_true fun hsub => Finset.notMem_empty p (hsub hp)
  | false =>
    have hrpixels : r.pixels = Finset.Icc (r.columns.1, r.rows.1) (r.columns.2, r.rows.2) :=
      if_neg (Bool.eq_false_iff.1 hrnull)
    rw [hrpixels, hspixels, Finset.Icc_subset_Icc_iff hcorners, Prod.le_def, Prod.le_def]
    unfold contains
    rw [hrnull, hsnull]
    simp only [Bool.or_self, Bool.not_false, Bool.true_and, Bool.and_eq_true,
      Bool.not_eq_true', Bool.or_eq_false_iff, decide_eq_false_iff_not, not_lt]
    exact and_and_and_comm

/-! ## Unions -/

/-- The rectangle has pixels, all between `-m` and `m`. -/
structure Within (m : Int) (r : QRect) : Prop where
  isNull : r.isNull = false
  left : -m ≤ r.columns.1
  columns : r.columns.1 ≤ r.columns.2
  right : r.columns.2 ≤ m
  top : -m ≤ r.rows.1
  rows : r.rows.1 ≤ r.rows.2
  bottom : r.rows.2 ≤ m

section
variable {m : Int} {r s t : QRect}

/-- Edges with few enough pixels between them are those of the rectangle that has them. -/
theorem ofEdges_within {l t r b : Int} (hm : m < 2 ^ 30) (hl : -m ≤ l) (hlr : l ≤ r) (hr : r ≤ m)
    (ht : -m ≤ t) (htb : t ≤ b) (hb : b ≤ m) : (ofEdges l t r b).Within m ∧
      (ofEdges l t r b).columns = (l, r) ∧ (ofEdges l t r b).rows = (t, b) := by
  have hwidth : qint32 (r - l + 1) = r - l + 1 := qint32_of_fits ⟨by omega, by omega⟩
  have hheight : qint32 (b - t + 1) = b - t + 1 := qint32_of_fits ⟨by omega, by omega⟩
  have hcolumns : (ofEdges l t r b).columns = (l, r) := by
    have hnot : ¬ qint32 (r - l + 1) < 0 := by omega
    unfold columns
    rw [right_ofEdges ⟨by omega, by omega⟩]
    exact if_neg hnot
  have hrows : (ofEdges l t r b).rows = (t, b) := by
    have hnot : ¬ qint32 (b - t + 1) < 0 := by omega
    unfold rows
    rw [bottom_ofEdges ⟨by omega, by omega⟩]
    exact if_neg hnot
  have hnull : (ofEdges l t r b).isNull = false := by
    have hne : ¬ qint32 (r - l + 1) = 0 := by omega
    exact Bool.and_eq_false_imp.2 fun hzero => absurd (beq_iff_eq.1 hzero) hne
  refine ⟨⟨hnull, ?_, ?_, ?_, ?_, ?_, ?_⟩, hcolumns, hrows⟩
  all_goals first | rw [hcolumns] | rw [hrows]
  all_goals assumption

/-- **The edges of a union.** -/
theorem Within.united (hm : m < 2 ^ 30) (hr : r.Within m) (hs : s.Within m) :
    (r.united s).Within m ∧
      (r.united s).columns = (min r.columns.1 s.columns.1, max r.columns.2 s.columns.2) ∧
      (r.united s).rows = (min r.rows.1 s.rows.1, max r.rows.2 s.rows.2) := by
  obtain ⟨hrnull, hr1, hr2, hr3, hr4, hr5, hr6⟩ := hr
  obtain ⟨hsnull, hs1, hs2, hs3, hs4, hs5, hs6⟩ := hs
  have hunited : r.united s = ofEdges (min r.columns.1 s.columns.1) (min r.rows.1 s.rows.1)
      (max r.columns.2 s.columns.2) (max r.rows.2 s.rows.2) := by
    unfold QRect.united
    rw [hrnull, hsnull]
    rfl
  rw [hunited]
  apply ofEdges_within hm <;> omega

theorem Within.corners (h : r.Within m) :
    (r.columns.1, r.rows.1) ∈ r.pixels ∧ (r.columns.2, r.rows.2) ∈ r.pixels :=
  ⟨mem_pixels.2 ⟨h.isNull, ⟨le_refl _, h.columns⟩, le_refl _, h.rows⟩,
    mem_pixels.2 ⟨h.isNull, ⟨h.columns, le_refl _⟩, h.rows, le_refl _⟩⟩

/-- A union has the pixels of both, ... -/
theorem subset_united (hm : m < 2 ^ 30) (hr : r.Within m) (hs : s.Within m) :
    r.pixels ⊆ (r.united s).pixels ∧ s.pixels ⊆ (r.united s).pixels := by
  obtain ⟨hwithin, hcolumns, hrows⟩ := hr.united hm hs
  constructor
  · intro p hp
    obtain ⟨-, hp1, hp2⟩ := mem_pixels.1 hp
    rw [mem_pixels, hcolumns, hrows]
    exact ⟨hwithin.isNull, by omega, by omega⟩
  · intro p hp
    obtain ⟨-, hp1, hp2⟩ := mem_pixels.1 hp
    rw [mem_pixels, hcolumns, hrows]
    exact ⟨hwithin.isNull, by omega, by omega⟩

/-- ... and those of any rectangle that has them. -/
theorem united_subset (hm : m < 2 ^ 30) (hr : r.Within m) (hs : s.Within m)
    (hrt : r.pixels ⊆ t.pixels) (hst : s.pixels ⊆ t.pixels) : (r.united s).pixels ⊆ t.pixels := by
  obtain ⟨-, hcolumns, hrows⟩ := hr.united hm hs
  obtain ⟨hnull, hr1⟩ := mem_pixels.1 (hrt hr.corners.1)
  have hr2 := (mem_pixels.1 (hrt hr.corners.2)).2
  have hs1 := (mem_pixels.1 (hst hs.corners.1)).2
  have hs2 := (mem_pixels.1 (hst hs.corners.2)).2
  intro p hp
  rw [mem_pixels, hcolumns, hrows] at hp
  refine mem_pixels.2 ⟨hnull, ?_, ?_⟩
  · omega
  · omega

end

/-- The union of rectangles, one after the other. -/
def boundingRect (l : List QRect) : QRect := l.foldl united null

theorem boundingRect_concat (l : List QRect) (r : QRect) :
    boundingRect (l ++ [r]) = (boundingRect l).united r := by
  unfold boundingRect
  rw [List.foldl_append]
  rfl

theorem null_united (r : QRect) : null.united r = r := rfl

/-- **The union of rectangles is the least rectangle that has their pixels.** -/
theorem boundingRect_least {m : Int} (hm : m < 2 ^ 30) {l : List QRect} (hne : l ≠ [])
    (hl : ∀ r ∈ l, r.Within m) : (boundingRect l).Within m ∧
      (∀ r ∈ l, r.pixels ⊆ (boundingRect l).pixels) ∧
      ∀ t : QRect, (∀ r ∈ l, r.pixels ⊆ t.pixels) → (boundingRect l).pixels ⊆ t.pixels := by
  induction l using List.reverseRecOn with
  | nil => exact absurd rfl hne
  | append_singleton l r ih =>
    obtain ⟨hl, hr⟩ := List.forall_mem_append.1 hl
    have hr := List.forall_mem_singleton.1 hr
    rw [boundingRect_concat]
    by_cases hnil : l = []
    · subst hnil
      show (null.united r).Within m ∧ _
      rw [boundingRect, List.foldl_nil, null_united]
      exact ⟨hr, List.forall_mem_singleton.2 (Finset.Subset.refl _),
        fun t ht => ht r (List.mem_singleton_self r)⟩
    · obtain ⟨hwithin, hsub, hleast⟩ := ih hnil hl
      obtain ⟨hleft, hright⟩ := subset_united hm hwithin hr
      refine ⟨(hwithin.united hm hr).1, List.forall_mem_append.2 ⟨?_, ?_⟩, ?_⟩
      · exact fun s hs => (hsub s hs).trans hleft
      · exact List.forall_mem_singleton.2 hright
      · intro t ht
        obtain ⟨hlt, hrt⟩ := List.forall_mem_append.1 ht
        exact united_subset hm hwithin hr (hleast t hlt) (hrt r (List.mem_singleton_self r))

end QRect

end GreenIsland

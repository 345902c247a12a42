import Mathlib.Algebra.Group.Int.Defs
import Mathlib.Algebra.Group.Nat.Defs
import Mathlib.Order.Defs.LinearOrder

/-! What the modelled code uses of Qt's value types and of C++'s integers. -/

namespace GreenIsland

/-- The value is a 32-bit signed integer. -/
def FitsInt32 (x : Int) : Prop := -2 ^ 31 ≤ x ∧ x < 2 ^ 31

instance (x : Int) : Decidable (FitsInt32 x) := inferInstanceAs (Decidable (_ ∧ _))

/-- Conversion to `qint32`, and the result of `qint32` arithmetic: modulo 2³². -/
def qint32 (x : Int) : Int := x.bmod (2 ^ 32)

theorem qint32_of_fits {x : Int} (h : FitsInt32 x) : qint32 x = x := by
  unfold qint32
  unfold FitsInt32 at h
  exact Int.bmod_eq_of_le (by omega) (by omega)

theorem fits_qint32 (x : Int) : FitsInt32 (qint32 x) := by
  unfold FitsInt32 qint32
  have hle := Int.le_bmod (x := x) (m := 2 ^ 32) (by decide)
  have hlt := Int.bmod_lt (x := x) (m := 2 ^ 32) (by decide)
  omega

/-- The arithmetic is exact just for 32-bit results. -/
theorem qint32_eq_iff {x : Int} : qint32 x = x ↔ FitsInt32 x :=
  ⟨fun h => h ▸ fits_qint32 x, qint32_of_fits⟩

theorem qint32_le {x : Int} (h : 0 ≤ x) : qint32 x ≤ x := by
  unfold qint32
  rw [Int.bmod_def]
  split <;> omega

structure QSize where
  width : Int
  height : Int
deriving DecidableEq, Repr

/-- `QVector::at`; an index that is out of range has no defined result. -/
def qAt {α : Type*} (l : List α) (i : Int) : Option α := if 0 ≤ i then l[i.toNat]? else none

theorem qAt_of_nonneg {α : Type*} {l : List α} {i : Int} (h : 0 ≤ i) : qAt l i = l[i.toNat]? :=
  if_pos h

theorem qAt_of_lt {α : Type*} {l : List α} {i : Int} (h : 0 ≤ i) (hlt : i.toNat < l.length) :
    qAt l i = some l[i.toNat] :=
  (qAt_of_nonneg h).trans (List.getElem?_eq_getElem hlt)

/-- An index is in range. -/
theorem qAt_ne_none_iff {α : Type*} {l : List α} {i : Int} :
    qAt l i ≠ none ↔ 0 ≤ i ∧ i < l.length := by
  constructor
  · intro hsome
    unfold qAt at hsome
    split at hsome
    · next hnonneg =>
      refine ⟨hnonneg, Int.not_le.1 fun hle => hsome (List.getElem?_eq_none ?_)⟩
      omega
    · exact absurd rfl hsome
  · rintro ⟨hnonneg, hlt⟩
    rw [qAt_of_lt hnonneg (by omega)]
    exact Option.some_ne_none _

/-- Replacing an entry by itself. -/
theorem set_eq_self {α : Type*} {l : List α} {k : Nat} {a : α} (h : l[k]? = some a) :
    l.set k a = l := by
  obtain ⟨hlt, rfl⟩ := List.getElem?_eq_some_iff.1 h
  exact List.set_getElem_self hlt

/-- `operator*` of a size and a whole number -/
def QSize.times (s : QSize) (k : Int) : QSize := ⟨s.width * k, s.height * k⟩

/-- `QSize::isEmpty`: one of the dimensions is not positive. -/
def QSize.isEmpty (s : QSize) : Bool := s.width < 1 || s.height < 1

end GreenIsland

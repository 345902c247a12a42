import Mathlib.Data.Rat.Defs
import GreenIsland.Qt.Basic

/-! Qt's points and rectangles. -/

namespace GreenIsland

structure QPoint where
  x : Int
  y : Int
deriving DecidableEq, Repr

structure QPointF where
  x : ℚ
  y : ℚ
deriving DecidableEq, Repr

structure QRect where
  topLeft : QPoint
  size : QSize
deriving DecidableEq, Repr

/-- `qRound`: to the next integer, halves upwards. -/
def qRound (x : ℚ) : Int := qint32 (x + 1 / 2).floor

def QPointF.toPoint (p : QPointF) : QPoint := ⟨qRound p.x, qRound p.y⟩

namespace QRect

/-- `QRect()` -/
def null : QRect := ⟨⟨0, 0⟩, ⟨0, 0⟩⟩

def left (r : QRect) : Int := r.topLeft.x

def top (r : QRect) : Int := r.topLeft.y

def right (r : QRect) : Int := qint32 (r.topLeft.x + r.size.width - 1)

def bottom (r : QRect) : Int := qint32 (r.topLeft.y + r.size.height - 1)

/-- The rectangle with these edges. -/
def ofEdges (left top right bottom : Int) : QRect :=
  ⟨⟨left, top⟩, ⟨qint32 (right - left + 1), qint32 (bottom - top + 1)⟩⟩

/-- The other corner stays where it is. -/
def setTopLeft (r : QRect) (p : QPoint) : QRect :=
  ⟨p, ⟨r.size.width + (r.topLeft.x - p.x), r.size.height + (r.topLeft.y - p.y)⟩⟩

/-- A rectangle keeps its size only if its corner does not move. -/
theorem size_setTopLeft_iff (r : QRect) (p : QPoint) :
    (r.setTopLeft p).size = r.size ↔ r.topLeft = p := by
  obtain ⟨⟨x, y⟩, ⟨width, height⟩⟩ := r
  obtain ⟨px, py⟩ := p
  simp only [setTopLeft, QSize.mk.injEq, QPoint.mk.injEq]
  omega

def isNull (r : QRect) : Bool := r.size.width == 0 && r.size.height == 0

def isValid (r : QRect) : Bool := r.left ≤ r.right && r.top ≤ r.bottom

/-- The left and the right edge, the other way round for a negative width. -/
def columns (r : QRect) : Int × Int :=
  if r.size.width < 0 then (r.right, r.left) else (r.left, r.right)

/-- The top and the bottom edge, likewise. -/
def rows (r : QRect) : Int × Int :=
  if r.size.height < 0 then (r.bottom, r.top) else (r.top, r.bottom)

/-- `QRect::contains` of another rectangle -/
def contains (r s : QRect) : Bool :=
  !(r.isNull || s.isNull) && !(s.columns.1 < r.columns.1 || r.columns.2 < s.columns.2) &&
    !(s.rows.1 < r.rows.1 || r.rows.2 < s.rows.2)

/-- `QRect::contains` of a point -/
def containsPoint (r : QRect) (p : QPoint) : Bool :=
  (r.columns.1 ≤ p.x && p.x ≤ r.columns.2) && (r.rows.1 ≤ p.y && p.y ≤ r.rows.2)

def intersected (r s : QRect) : QRect :=
  if r.isNull || s.isNull then null
  else if s.columns.2 < r.columns.1 || r.columns.2 < s.columns.1 then null
  else if s.rows.2 < r.rows.1 || r.rows.2 < s.rows.1 then null
  else ofEdges (max r.columns.1 s.columns.1) (max r.rows.1 s.rows.1)
    (min r.columns.2 s.columns.2) (min r.rows.2 s.rows.2)

def united (r s : QRect) : QRect :=
  if r.isNull then s
  else if s.isNull then r
  else ofEdges (min r.columns.1 s.columns.1) (min r.rows.1 s.rows.1)
    (max r.columns.2 s.columns.2) (max r.rows.2 s.rows.2)

end QRect

end GreenIsland

import GreenIsland.Qt.Basic

/-! Qt's `qreal`, which is a `double`: what becomes of it when it is made an
integer, and the comparison with a tolerance of `QSizeF`. -/

namespace GreenIsland

/-- A `qreal` that becomes an `int` loses its fraction. -/
def toInt (x : Float) : Int := x.toModel.toInt32.toInt

/-- `qFloor` -/
def qFloor (x : Float) : Int := if x < Float.ofInt (toInt x) then toInt x - 1 else toInt x

/-- `qFuzzyCompare`: equal up to a part in 10¹². -/
def qFuzzyCompare (x y : Float) : Bool :=
  decide ((x - y).abs * 1000000000000 ≤ if x.abs ≤ y.abs then x.abs else y.abs)

-- 59.94 has no exact representation, and its product with 1000 is rounded to 59940
example : toInt (59.94 * 1000) = 59940 := by decide +kernel

structure QSizeF where
  width : Float
  height : Float
deriving DecidableEq

/-- `QSizeF(const QSize &)` -/
def QSize.toSizeF (s : QSize) : QSizeF := ⟨Float.ofInt s.width, Float.ofInt s.height⟩

/-- `operator==` of two sizes -/
def QSizeF.equals (s t : QSizeF) : Bool :=
  qFuzzyCompare s.width t.width && qFuzzyCompare s.height t.height

end GreenIsland

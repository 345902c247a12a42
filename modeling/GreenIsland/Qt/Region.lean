import GreenIsland.Qt.Geometry

/-! Qt's regions, as the points that they contain. -/

namespace GreenIsland

def QRegion : Type := QPoint → Bool

namespace QRegion

def contains (r : QRegion) (p : QPoint) : Bool := r p

/-- `QRegion()` -/
def empty : QRegion := fun _ => false

/-- `QRegion(const QRect &)`; a rectangle that is not valid has no points. -/
def ofRect (r : QRect) : QRegion := fun p => r.isValid && r.containsPoint p

def united (r s : QRegion) : QRegion := fun p => r p || s p

def intersected (r s : QRegion) : QRegion := fun p => r p && s p

@[simp] theorem contains_empty (p : QPoint) : empty.contains p = false := rfl

@[simp] theorem contains_united (r s : QRegion) (p : QPoint) :
    (r.united s).contains p = (r.contains p || s.contains p) := rfl

@[simp] theorem contains_intersected (r s : QRegion) (p : QPoint) :
    (r.intersected s).contains p = (r.contains p && s.contains p) := rfl

end QRegion

end GreenIsland

import Mathlib.Algebra.Order.Round
import Mathlib.Data.Rat.Floor
import Mathlib.Tactic.Linarith
import GreenIsland.Lib.Run
import GreenIsland.Qt.Geometry

/-! Where the pointer and the touch points are (`LibInputPointer`, `LibInputTouch`).

The pointer has one position, which is to stay on the virtual desktop.  Motions add to
it, an absolute device coordinate and `setPosition` replace it, and `processMotion`
bounds the result; `setPosition` bounds by itself, and sets x where y is meant.  An
absolute coordinate and a touch are scaled to the desktop: the pointer's is not moved to
where the desktop starts, and the touch's y is scaled by the width.

`positioned_iff` says for which calls all of them do what they should: relative motions
always; `setPosition` when y has its value already and the bounds of y do to x what
those of x would; an absolute coordinate on a desktop that starts at the origin, and
otherwise only at an edge; a touch on a square desktop or at its top. -/

namespace GreenIsland.Platform

/-! ## Model -/

/-- `qBound`: the upper bound first, then the lower. -/
def qBound (lo x hi : Int) : Int := max lo (min hi x)

/-- The virtual desktop, which is not empty. -/
structure VirtualDesktop where
  /-- `virtualGeometry` of the primary screen -/
  virtualGeometry : QRect
  /-- the same in native pixels (`QHighDpi::toNativePixels`) -/
  geometry : QRect
  columns : 0 < geometry.size.width ∧ FitsInt32 geometry.size.width ∧
    FitsInt32 (geometry.topLeft.x + geometry.size.width - 1)
  rows : 0 < geometry.size.height ∧ FitsInt32 geometry.size.height ∧
    FitsInt32 (geometry.topLeft.y + geometry.size.height - 1)

/-- A position on a device, with what libinput makes of it: the transformed coordinates
are the device's, scaled to an extent. -/
structure DevicePosition where
  /-- the device coordinates -/
  u : ℚ
  v : ℚ
  u_unit : 0 ≤ u ∧ u ≤ 1
  v_unit : 0 ≤ v ∧ v ≤ 1
  xTransformed : Int → ℚ
  yTransformed : Int → ℚ
  x_scaled : ∀ width, xTransformed width = u * width
  y_scaled : ∀ height, yTransformed height = v * height

inductive WheelOrientation
  | horizontal
  | vertical
deriving DecidableEq

/-- `buttons` and `modifiers` are sets of flags. -/
structure LibInputMouseEvent where
  pos : QPoint
  buttons : Nat
  modifiers : Nat
  wheelDelta : Int
  wheelOrientation : WheelOrientation
deriving DecidableEq

structure LibInputPointer where
  pt : QPoint
  buttons : Nat
  /-- the events of `mouseMoved` so far, oldest first -/
  mouseMoved : List LibInputMouseEvent

namespace LibInputPointer

def setX (s : LibInputPointer) (x : Int) : LibInputPointer := { s with pt := ⟨x, s.pt.y⟩ }

def setY (s : LibInputPointer) (y : Int) : LibInputPointer := { s with pt := ⟨s.pt.x, y⟩ }

def setPosition (s : LibInputPointer) (d : VirtualDesktop) (pos : QPoint) : LibInputPointer :=
  let s := s.setX (qBound d.geometry.left pos.x d.geometry.right)
  -- the source calls `setX` again, with `pos.x()`
  s.setX (qBound d.geometry.top pos.x d.geometry.bottom)

/-- `modifiers` are those of the keyboard. -/
def processMotion (s : LibInputPointer) (d : VirtualDesktop) (modifiers : Nat) (pos : QPoint) :
    LibInputPointer :=
  let s := s.setX (qBound d.geometry.left pos.x d.geometry.right)
  let s := s.setY (qBound d.geometry.top pos.y d.geometry.bottom)
  { s with mouseMoved := s.mouseMoved ++ [⟨s.pt, s.buttons, modifiers, 0, .horizontal⟩] }

def handleMotion (s : LibInputPointer) (d : VirtualDesktop) (modifiers : Nat) (delta : QPointF) :
    LibInputPointer :=
  s.processMotion d modifiers
    ⟨qint32 (s.pt.x + delta.toPoint.x), qint32 (s.pt.y + delta.toPoint.y)⟩

def handleAbsoluteMotion (s : LibInputPointer) (d : VirtualDesktop) (modifiers : Nat)
    (e : DevicePosition) : LibInputPointer :=
  let abs : QPointF := ⟨e.xTransformed d.geometry.size.width, e.yTransformed d.geometry.size.height⟩
  s.processMotion d modifiers abs.toPoint

end LibInputPointer

/-- `LibInputTouchPrivate::positionFromEvent` -/
def positionFromEvent (d : VirtualDesktop) (e : DevicePosition) : QPointF :=
  ⟨e.xTransformed d.virtualGeometry.size.width, e.yTransformed d.virtualGeometry.size.width⟩

inductive PositionEvent
  | motion (delta : QPointF)
  | absoluteMotion (e : DevicePosition)
  | setPosition (pos : QPoint)
  | touch (e : DevicePosition)

/-- A call, with the desktop and the keyboard's modifiers as they are then. -/
structure PositionCall where
  desktop : VirtualDesktop
  modifiers : Nat
  event : PositionEvent

namespace LibInputPointer

/-- `LibInputPointer` does not see touches. -/
def step (s : LibInputPointer) (call : PositionCall) : LibInputPointer :=
  match call.event with
  | .motion delta => s.handleMotion call.desktop call.modifiers delta
  | .absoluteMotion e => s.handleAbsoluteMotion call.desktop call.modifiers e
  | .setPosition pos => s.setPosition call.desktop pos
  | .touch _ => s

end LibInputPointer

/-! ## What is to hold -/

namespace VirtualDesktop

/-- The point is on the desktop. -/
def Has (d : VirtualDesktop) (p : QPoint) : Prop :=
  (d.geometry.topLeft.x ≤ p.x ∧ p.x < d.geometry.topLeft.x + d.geometry.size.width) ∧
    d.geometry.topLeft.y ≤ p.y ∧ p.y < d.geometry.topLeft.y + d.geometry.size.height

/-- The point of the desktop next to this one. -/
def clamp (d : VirtualDesktop) (p : QPoint) : QPoint :=
  ⟨qBound d.geometry.topLeft.x p.x (d.geometry.topLeft.x + d.geometry.size.width - 1),
    qBound d.geometry.topLeft.y p.y (d.geometry.topLeft.y + d.geometry.size.height - 1)⟩

/-- The unit square onto the desktop. -/
def affine (d : VirtualDesktop) (u v : ℚ) : QPointF :=
  ⟨d.geometry.topLeft.x + u * d.geometry.size.width, d.geometry.topLeft.y + v * d.geometry.size.height⟩

/-- The pixel of the desktop next to where the device coordinates are mapped. -/
def pixel (d : VirtualDesktop) (u v : ℚ) : QPoint :=
  d.clamp ⟨round (d.affine u v).x, round (d.affine u v).y⟩

end VirtualDesktop

/-- What a call should do. -/
def Positioned (call : PositionCall) (s' : LibInputPointer) : Prop :=
  match call.event with
  | .motion _ => call.desktop.Has s'.pt
  | .absoluteMotion e => call.desktop.Has s'.pt ∧ s'.pt = call.desktop.pixel e.u e.v
  | .setPosition pos => call.desktop.Has s'.pt ∧ s'.pt = call.desktop.clamp pos
  | .touch e => positionFromEvent call.desktop e =
      ⟨e.u * call.desktop.virtualGeometry.size.width, e.v * call.desktop.virtualGeometry.size.height⟩

/-! ## The condition -/

/-- When scaling to the extent without the start is right: `image` is the coordinate
scaled to the extent. -/
def AbsoluteOk (start extent : Int) (image : ℚ) : Prop :=
  start = 0 ∨
    0 < start ∧ (image < 1 / 2 ∨ extent = 1 ∨ start = 1 ∧ extent - 1 / 2 ≤ image) ∨
    start < 0 ∧ (extent : ℚ) - 3 / 2 ≤ image

/-- `x` is bounded alike by both pairs of bounds. -/
def BoundedAlike (lo hi lo' hi' x : Int) : Prop :=
  (lo ≤ x ∧ x ≤ hi) ∧ (lo' ≤ x ∧ x ≤ hi') ∨ (x < lo ∧ x < lo') ∧ lo = lo' ∨
    (hi < x ∧ hi' < x) ∧ hi = hi'

/-- `y` is `x` within its bounds. -/
def BoundedAs (lo x hi y : Int) : Prop :=
  (lo ≤ x ∧ x ≤ hi) ∧ y = x ∨ x < lo ∧ y = lo ∨ hi < x ∧ y = hi

/-- The calls that do what they should. -/
def PositionOk (s : LibInputPointer) (call : PositionCall) : Prop :=
  let left := call.desktop.geometry.topLeft.x
  let top := call.desktop.geometry.topLeft.y
  let width := call.desktop.geometry.size.width
  let height := call.desktop.geometry.size.height
  match call.event with
  | .motion _ => True
  | .absoluteMotion e => AbsoluteOk left width (e.u * width) ∧ AbsoluteOk top height (e.v * height)
  | .setPosition pos =>
    BoundedAlike top (top + height - 1) left (left + width - 1) pos.x ∧
      BoundedAs top pos.y (top + height - 1) s.pt.y
  | .touch e => e.v = 0 ∨
      call.desktop.virtualGeometry.size.width = call.desktop.virtualGeometry.size.height

/-! ## One coordinate -/

theorem le_qBound (lo x hi : Int) : lo ≤ qBound lo x hi := le_max_left ..

theorem qBound_le {lo hi : Int} (h : lo ≤ hi) (x : Int) : qBound lo x hi ≤ hi :=
  max_le h (min_le_left ..)

theorem qBound_eq_iff {lo hi : Int} (h : lo ≤ hi) (x y : Int) :
    y = qBound lo x hi ↔ BoundedAs lo x hi y := by
  unfold qBound BoundedAs
  omega

theorem qBound_alike_iff {lo hi lo' hi' : Int} (h : lo ≤ hi) (h' : lo' ≤ hi') (x : Int) :
    qBound lo x hi = qBound lo' x hi' ↔ BoundedAlike lo hi lo' hi' x := by
  unfold qBound BoundedAlike
  omega

theorem round_le_iff (x : ℚ) (n : Int) : round x ≤ n ↔ x < n + 1 / 2 := by
  rw [round_eq, ← Int.lt_add_one_iff, Int.floor_lt]
  push_cast
  constructor <;> intro h <;> linarith

theorem le_round_iff (x : ℚ) (n : Int) : n ≤ round x ↔ n - 1 / 2 ≤ x := by
  rw [round_eq, Int.le_floor]
  constructor <;> intro h <;> linarith

/-- The pixel that is found without the start of the desktop. -/
theorem qBound_start_iff {start extent pixel : Int} (hextent : 0 < extent) (hpixel : 0 ≤ pixel)
    (hle : pixel ≤ extent) :
    qBound start pixel (start + extent - 1) = qBound start (start + pixel) (start + extent - 1) ↔
      start = 0 ∨ 0 < start ∧ (pixel ≤ 0 ∨ extent = 1 ∨ start = 1 ∧ extent ≤ pixel) ∨
        start < 0 ∧ extent - 1 ≤ pixel := by
  unfold qBound
  omega

/-- **An absolute coordinate** is mapped to its pixel just if it meets its condition. -/
theorem qBound_qRound_iff {start extent : Int} (hextent : 0 < extent) (hfits : FitsInt32 extent)
    {u : ℚ} (hu : 0 ≤ u ∧ u ≤ 1) :
    qBound start (qRound (u * extent)) (start + extent - 1) =
        qBound start (round (start + u * extent)) (start + extent - 1) ↔
      AbsoluteOk start extent (u * extent) := by
  have hpos : (0 : ℚ) < extent := by exact_mod_cast hextent
  have hnonneg : 0 ≤ u * extent := mul_nonneg hu.1 hpos.le
  have hle : u * extent ≤ extent := mul_le_of_le_one_left hpos.le hu.2
  have hround : 0 ≤ round (u * extent) := (le_round_iff ..).2 (by push_cast; linarith)
  have hround' : round (u * extent) ≤ extent := (round_le_iff ..).2 (by linarith)
  have hexact : qRound (u * extent) = round (u * extent) := by
    show qint32 ⌊u * extent + 1 / 2⌋ = round (u * extent)
    rw [← round_eq]
    exact qint32_of_fits ⟨by omega, lt_of_le_of_lt hround' hfits.2⟩
  rw [hexact, round_intCast_add, qBound_start_iff hextent hround hround', round_le_iff, le_round_iff,
    le_round_iff]
  have hzero : u * extent < ((0 : Int) : ℚ) + 1 / 2 ↔ u * extent < 1 / 2 := by
    rw [Int.cast_zero, zero_add]
  have hlast : ((extent - 1 : Int) : ℚ) - 1 / 2 ≤ u * extent ↔ (extent : ℚ) - 3 / 2 ≤ u * extent := by
    push_cast
    constructor <;> intro h <;> linarith
  rw [hzero, hlast]
  rfl

/-! ## The desktop -/

section
variable (d : VirtualDesktop)

theorem right_geometry : d.geometry.right = d.geometry.topLeft.x + d.geometry.size.width - 1 :=
  qint32_of_fits d.columns.2.2

theorem bottom_geometry : d.geometry.bottom = d.geometry.topLeft.y + d.geometry.size.height - 1 :=
  qint32_of_fits d.rows.2.2

theorem has_clamp (p : QPoint) : d.Has (d.clamp p) := by
  have hcolumns := d.columns.1
  have hrows := d.rows.1
  refine ⟨⟨le_qBound .., ?_⟩, le_qBound .., ?_⟩
  · exact Int.lt_of_le_sub_one (qBound_le (by omega) p.x)
  · exact Int.lt_of_le_sub_one (qBound_le (by omega) p.y)

end

namespace LibInputPointer

variable {s : LibInputPointer} {d : VirtualDesktop}

/-- **A motion** leaves the pointer at the point of the desktop next to where it goes. -/
theorem pt_processMotion (s : LibInputPointer) (d : VirtualDesktop) (modifiers : Nat) (pos : QPoint) :
    (s.processMotion d modifiers pos).pt = d.clamp pos := by
  show (⟨qBound d.geometry.left pos.x d.geometry.right,
    qBound d.geometry.top pos.y d.geometry.bottom⟩ : QPoint) = d.clamp pos
  rw [right_geometry, bottom_geometry]
  rfl

/-- It emits one event, which has the new position. -/
theorem mouseMoved_processMotion (s : LibInputPointer) (d : VirtualDesktop) (modifiers : Nat)
    (pos : QPoint) : (s.processMotion d modifiers pos).mouseMoved =
      s.mouseMoved ++ [⟨d.clamp pos, s.buttons, modifiers, 0, .horizontal⟩] := by
  rw [← pt_processMotion s d modifiers pos]
  rfl

theorem pt_setPosition (s : LibInputPointer) (d : VirtualDesktop) (pos : QPoint) :
    (s.setPosition d pos).pt = ⟨qBound d.geometry.topLeft.y pos.x
      (d.geometry.topLeft.y + d.geometry.size.height - 1), s.pt.y⟩ := by
  rw [← bottom_geometry]
  rfl

theorem setPosition_iff (s : LibInputPointer) (d : VirtualDesktop) (pos : QPoint) :
    (s.setPosition d pos).pt = d.clamp pos ↔
      BoundedAlike d.geometry.topLeft.y (d.geometry.topLeft.y + d.geometry.size.height - 1)
          d.geometry.topLeft.x (d.geometry.topLeft.x + d.geometry.size.width - 1) pos.x ∧
        BoundedAs d.geometry.topLeft.y pos.y (d.geometry.topLeft.y + d.geometry.size.height - 1)
          s.pt.y := by
  have hcolumns := d.columns.1
  have hrows := d.rows.1
  rw [pt_setPosition]
  unfold VirtualDesktop.clamp
  rw [QPoint.mk.injEq]
  exact and_congr (qBound_alike_iff (by omega) (by omega) _) (qBound_eq_iff (by omega) _ _)

theorem handleAbsoluteMotion_iff (s : LibInputPointer) (d : VirtualDesktop) (modifiers : Nat)
    (e : DevicePosition) : (s.handleAbsoluteMotion d modifiers e).pt = d.pixel e.u e.v ↔
      AbsoluteOk d.geometry.topLeft.x d.geometry.size.width (e.u * d.geometry.size.width) ∧
        AbsoluteOk d.geometry.topLeft.y d.geometry.size.height (e.v * d.geometry.size.height) := by
  have habs : (s.handleAbsoluteMotion d modifiers e).pt =
      d.clamp ⟨qRound (e.u * d.geometry.size.width), qRound (e.v * d.geometry.size.height)⟩ := by
    rw [← e.x_scaled, ← e.y_scaled]
    exact pt_processMotion ..
  rw [habs]
  unfold VirtualDesktop.pixel VirtualDesktop.clamp
  rw [QPoint.mk.injEq]
  exact and_congr (qBound_qRound_iff d.columns.1 d.columns.2.1 e.u_unit)
    (qBound_qRound_iff d.rows.1 d.rows.2.1 e.v_unit)

end LibInputPointer

/-- A touch is scaled by the width in both directions. -/
theorem positionFromEvent_iff (d : VirtualDesktop) (e : DevicePosition) : positionFromEvent d e =
      ⟨e.u * d.virtualGeometry.size.width, e.v * d.virtualGeometry.size.height⟩ ↔
    e.v = 0 ∨ d.virtualGeometry.size.width = d.virtualGeometry.size.height := by
  unfold positionFromEvent
  rw [e.x_scaled, e.y_scaled, QPointF.mk.injEq, and_iff_right rfl, mul_eq_mul_left_iff, Int.cast_inj]
  exact or_comm

/-! ## Runs -/

namespace LibInputPointer

/-- **One call.** -/
theorem positioned_step_iff (s : LibInputPointer) (call : PositionCall) :
    Positioned call (s.step call) ↔ PositionOk s call := by
  obtain ⟨d, modifiers, event⟩ := call
  cases event with
  | motion delta =>
    refine iff_of_true ?_ trivial
    show d.Has (s.handleMotion d modifiers delta).pt
    unfold handleMotion
    rw [pt_processMotion]
    exact has_clamp d _
  | absoluteMotion e =>
    refine Iff.trans (and_iff_right_of_imp fun hpixel => ?_) (handleAbsoluteMotion_iff s d modifiers e)
    rw [hpixel]
    exact has_clamp d _
  | setPosition pos =>
    refine Iff.trans (and_iff_right_of_imp fun hclamp => ?_) (setPosition_iff s d pos)
    rw [hclamp]
    exact has_clamp d _
  | touch e => exact positionFromEvent_iff d e

/-- **Positions.**  From any position, in exactly the runs whose calls meet `PositionOk`
the pointer stays on the desktop, `setPosition` leaves it at the point next to the one it
was given, absolute coordinates are mapped onto the desktop, and touches are scaled to its
width and height. -/
theorem positioned_iff (s : LibInputPointer) (calls : List PositionCall) :
    Run.Along (fun s call => some (step s call)) (fun _ call s' => Positioned call s') s calls ↔
      Run.Meets (fun s call => some (step s call)) PositionOk s calls :=
  Run.along_iff_of_decides (I := fun _ => True)
    (fun s call _ => Run.decides_total (positioned_step_iff s call) fun _ => trivial) calls s trivial

/-- On a desktop of 640 by 480, the pointer is set to (600, 100): it gets to (479, 0). -/
theorem set_elsewhere :
    ¬ Run.Along (fun s call => some (step s call)) (fun _ call s' => Positioned call s')
      ⟨⟨0, 0⟩, 0, []⟩ [⟨⟨⟨⟨0, 0⟩, ⟨640, 480⟩⟩, ⟨⟨0, 0⟩, ⟨640, 480⟩⟩, by decide, by decide⟩, 0,
        .setPosition ⟨600, 100⟩⟩] := by
  rintro ⟨_, ⟨⟩, ⟨-, hclamp⟩, -⟩
  exact absurd hclamp (by decide)

end LibInputPointer

end GreenIsland.Platform

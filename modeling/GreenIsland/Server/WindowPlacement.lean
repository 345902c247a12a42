import Mathlib.Data.Rat.Cast.Order
import Mathlib.Tactic.NormNum
import GreenIsland.Server.WindowOutputs

/-! Where a new window is placed (`ClientWindow::randomPosition`).

Two counters that all windows share advance by a step for each window and are reset
when they pass the half of the available geometry.  The place is the counter's, moved
back as far as the window sticks out.  `cascade` is one axis of this, and the two axes
differ in their increment.

The output is the one with the pointer, but only the size of its available geometry is
used: `placed_iff` says for which calls the window is within the available geometry all
the same.  `placed_at_origin` is the case of available geometries that start at the
origin of the compositor.

No sum exceeds 32 bits: a counter is at most half of an output, and a surface is not
wider than 2²⁹, as the bytes of one row of its buffer are counted in 32 bits. -/

namespace GreenIsland.Server

/-! ## Model -/

/-- The outputs with their available geometries. -/
structure CompositorDesktop where
  compositor : CompositorOutputs
  /-- the member `availableGeometry`, which is invalid until it is set -/
  available : OutputId → QRect

namespace CompositorDesktop

/-- `QWaylandOutput::availableGeometry`, in the coordinates of the output -/
def availableGeometry (d : CompositorDesktop) (o : OutputId) : QRect :=
  if !(d.available o).isValid then ⟨⟨0, 0⟩, (d.compositor.geometry o).size⟩ else d.available o

/-- The first output with the pointer, or the default output. -/
def outputAt (d : CompositorDesktop) (pos : QPoint) : Option OutputId :=
  (d.compositor.outputs.find? fun curOutput => (d.compositor.geometry curOutput).containsPoint pos).or
    d.compositor.defaultOutput

/-- The corner of the available geometry in the coordinates of the compositor. -/
def availableCorner (d : CompositorDesktop) (o : OutputId) : QPoint :=
  ⟨(d.compositor.geometry o).topLeft.x + (d.availableGeometry o).topLeft.x,
    (d.compositor.geometry o).topLeft.y + (d.availableGeometry o).topLeft.y⟩

end CompositorDesktop

/-- What a call of `randomPosition` finds. -/
structure Placement where
  desktop : CompositorDesktop
  /-- `QCursor::pos()` -/
  pos : QPoint
  /-- the size of the surface -/
  size : QSize

/-- The static variables of `randomPosition`. -/
structure Cascade where
  px : Int
  py : Int
deriving DecidableEq

namespace Cascade

/-- `step` of `randomPosition` -/
def stepSize : Int := 24

def init : Cascade := ⟨stepSize, 2 * stepSize⟩

/-- One axis: the place and the new counter. -/
def advance (increment p extent size : Int) : Int × Int :=
  let p := p + increment
  let p := if extent.tdiv 2 < p then stepSize else p
  if extent < p + size then
    let d := extent - size
    (if d < 0 then 0 else d, 0)
  else (p, p)

/-- Without an output a null pointer is dereferenced. -/
def randomPosition (s : Cascade) (call : Placement) : Option (Cascade × QPointF) :=
  match call.desktop.outputAt call.pos with
  | none => none
  | some output =>
    let available := (call.desktop.availableGeometry output).size
    let x := advance stepSize s.px available.width call.size.width
    let y := advance (2 * stepSize) s.py available.height call.size.height
    some (⟨x.2, y.2⟩, ⟨x.1, y.1⟩)

def step (s : Cascade) (call : Placement) : Option Cascade := (s.randomPosition call).map Prod.fst

/-! ## What is to hold -/

/-- The stretch of a window lies in the stretch that is available. -/
def Inside (place : ℚ) (size start extent : Int) : Prop :=
  (start : ℚ) ≤ place ∧ place + size ≤ start + extent

instance (place : ℚ) (size start extent : Int) : Decidable (Inside place size start extent) :=
  inferInstanceAs (Decidable (_ ∧ _))

/-- The window is not larger than the output. -/
def Fits (call : Placement) (o : OutputId) : Prop :=
  call.size.width ≤ (call.desktop.compositor.geometry o).size.width ∧
    call.size.height ≤ (call.desktop.compositor.geometry o).size.height

instance (call : Placement) (o : OutputId) : Decidable (Fits call o) :=
  inferInstanceAs (Decidable (_ ∧ _))

/-- The position that is returned puts such a window into the available geometry of the
output at the pointer. -/
def Placed (s : Cascade) (call : Placement) : Prop :=
  ∀ position, (s.randomPosition call).map Prod.snd = some position →
    ∀ o, call.desktop.outputAt call.pos = some o → Fits call o →
      Inside position.x call.size.width (call.desktop.availableCorner o).x
          (call.desktop.availableGeometry o).size.width ∧
        Inside position.y call.size.height (call.desktop.availableCorner o).y
          (call.desktop.availableGeometry o).size.height

/-- When one axis is right: the available stretch starts at or before the last place that
leaves room for the window, the counter reaches that start, and if the stretch starts
before zero, the window still ends in it. -/
def AxisOk (increment p start extent size : Int) : Prop :=
  start ≤ extent - size ∧
    (start ≤ stepSize ∨ p + increment ≤ extent.tdiv 2 ∧ start ≤ p + increment) ∧
    (0 ≤ start ∨ stepSize ≤ start + (extent - size) ∧
      (p + increment ≤ extent.tdiv 2 → p + increment ≤ start + (extent - size)))

instance (increment p start extent size : Int) : Decidable (AxisOk increment p start extent size) :=
  inferInstanceAs (Decidable (_ ∧ _))

def CallOk (s : Cascade) (call : Placement) : Prop :=
  ∃ o, call.desktop.outputAt call.pos = some o ∧ (Fits call o →
    AxisOk stepSize s.px (call.desktop.availableCorner o).x
        (call.desktop.availableGeometry o).size.width call.size.width ∧
      AxisOk (2 * stepSize) s.py (call.desktop.availableCorner o).y
        (call.desktop.availableGeometry o).size.height call.size.height)

/-! ## One axis -/

theorem inside_iff (place size start extent : Int) :
    Inside place size start extent ↔ start ≤ place ∧ place + size ≤ start + extent := by
  unfold Inside
  norm_cast

/-- The next counter before it is compared with the window. -/
theorem advance_of_next {increment p extent size next : Int}
    (h : (if extent.tdiv 2 < p + increment then stepSize else p + increment) = next) :
    advance increment p extent size = if extent < next + size then
      (if extent - size < 0 then 0 else extent - size, 0) else (next, next) := by
  subst h
  rfl

/-- **One axis** is right just if it meets its condition. -/
theorem advance_inside_iff {increment p : Int} (hincrement : stepSize ≤ increment) (hp : 0 ≤ p)
    (start extent size : Int) : Inside (advance increment p extent size).1 size start extent ↔
      AxisOk increment p start extent size := by
  generalize hnext : (if extent.tdiv 2 < p + increment then stepSize else p + increment) = next
  rw [inside_iff, advance_of_next hnext]
  unfold stepSize at hincrement
  unfold AxisOk stepSize at *
  -- what remains of the half is whether the counter was reset
  generalize extent.tdiv 2 = half at *
  by_cases hout : extent < next + size
  · rw [if_pos hout]
    by_cases hroom : extent - size < 0
    · rw [if_pos hroom]
      split at hnext <;> constructor <;> intro h <;> omega
    · rw [if_neg hroom]
      split at hnext <;> constructor <;> intro h <;> omega
  · rw [if_neg hout]
    split at hnext <;> constructor <;> intro h <;> omega

theorem advance_nonneg {increment p : Int} (hincrement : stepSize ≤ increment) (hp : 0 ≤ p)
    (extent size : Int) : 0 ≤ (advance increment p extent size).2 := by
  generalize hnext : (if extent.tdiv 2 < p + increment then stepSize else p + increment) = next
  rw [advance_of_next hnext]
  unfold stepSize at *
  have hnonneg : 0 ≤ next := by split at hnext <;> omega
  split
  · exact Int.le_refl 0
  · exact hnonneg

/-! ## Calls and runs -/

structure Inv (s : Cascade) : Prop where
  px : 0 ≤ s.px
  py : 0 ≤ s.py

theorem inv_init : Inv init := ⟨by decide, by decide⟩

theorem randomPosition_none {s : Cascade} {call : Placement}
    (h : call.desktop.outputAt call.pos = none) : s.randomPosition call = none := by
  unfold randomPosition
  rw [h]

theorem randomPosition_some {s : Cascade} {call : Placement} {o : OutputId}
    (h : call.desktop.outputAt call.pos = some o) :
    let x := advance stepSize s.px (call.desktop.availableGeometry o).size.width call.size.width
    let y := advance (2 * stepSize) s.py (call.desktop.availableGeometry o).size.height call.size.height
    s.randomPosition call = some (⟨x.2, y.2⟩, ⟨x.1, y.1⟩) := by
  unfold randomPosition
  rw [h]

/-- Both counters advance by a step at least. -/
theorem stepSize_le : stepSize ≤ 2 * stepSize := by decide

/-- **One call** places its window well just if both axes meet their condition. -/
theorem placed_call_iff {s : Cascade} (h : Inv s) {call : Placement} {o : OutputId}
    (ho : call.desktop.outputAt call.pos = some o) : Placed s call ↔ CallOk s call := by
  unfold Placed CallOk
  rw [randomPosition_some ho]
  constructor
  · refine fun hplaced => ⟨o, ho, fun hfits => ?_⟩
    obtain ⟨hx, hy⟩ := hplaced _ rfl o ho hfits
    exact ⟨(advance_inside_iff (Int.le_refl _) h.px ..).1 hx,
      (advance_inside_iff stepSize_le h.py ..).1 hy⟩
  · rintro ⟨o₁, ho₁, hok⟩ position hposition o₂ ho₂ hfits
    obtain rfl : o = o₁ := Option.some.inj (ho.symm.trans ho₁)
    obtain rfl : o = o₂ := Option.some.inj (ho.symm.trans ho₂)
    obtain rfl := Option.some.inj hposition
    obtain ⟨hx, hy⟩ := hok hfits
    exact ⟨(advance_inside_iff (Int.le_refl _) h.px ..).2 hx,
      (advance_inside_iff stepSize_le h.py ..).2 hy⟩

theorem decides_step {s : Cascade} (h : Inv s) (call : Placement) :
    Run.Decides step (fun s call _ => Placed s call) CallOk Inv s call := by
  cases ho : call.desktop.outputAt call.pos with
  | none =>
    refine Or.inl ⟨congrArg (Option.map Prod.fst) (randomPosition_none ho), ?_⟩
    rintro ⟨o, ho', -⟩
    exact Option.some_ne_none o (ho'.symm.trans ho)
  | some o =>
    refine Or.inr ⟨_, congrArg (Option.map Prod.fst) (randomPosition_some ho), placed_call_iff h ho, ?_⟩
    exact fun _ => ⟨advance_nonneg (Int.le_refl _) h.px .., advance_nonneg stepSize_le h.py ..⟩

/-- **Placing windows.**  In exactly the runs whose calls meet `CallOk`, every call
returns, and puts a window that is not larger than the output into the available geometry
of the output at the pointer. -/
theorem placed_iff (calls : List Placement) :
    Run.Along step (fun s call _ => Placed s call) init calls ↔ Run.Meets step CallOk init calls :=
  Run.along_iff_of_decides (fun _ call h => decides_step h call) calls init inv_init

/-- Where the available geometry starts at the origin, room for the window suffices. -/
theorem axisOk_origin (increment p : Int) {extent size : Int} (h : size ≤ extent) :
    AxisOk increment p 0 extent size :=
  ⟨by omega, Or.inl (by decide), Or.inl (Int.le_refl 0)⟩

/-- A call that finds an output whose available geometry starts at the origin, and a
window that is not larger. -/
def AtOrigin (call : Placement) : Prop :=
  ∃ o, call.desktop.outputAt call.pos = some o ∧ call.desktop.availableCorner o = ⟨0, 0⟩ ∧
    call.size.width ≤ (call.desktop.availableGeometry o).size.width ∧
    call.size.height ≤ (call.desktop.availableGeometry o).size.height

/-- **Windows are placed well on an output at the origin**, whatever came before. -/
theorem placed_at_origin {calls : List Placement} (h : ∀ call ∈ calls, AtOrigin call) :
    Run.Along step (fun s call _ => Placed s call) init calls := by
  have hstep : ∀ s call, Inv s → AtOrigin call →
      ∃ s', step s call = some s' ∧ Placed s call ∧ Inv s' := by
    rintro s call hinv ⟨o, ho, hcorner, hwidth, hheight⟩
    have hok : CallOk s call := by
      refine ⟨o, ho, fun _ => ?_⟩
      rw [hcorner]
      exact ⟨axisOk_origin _ _ hwidth, axisOk_origin _ _ hheight⟩
    rcases decides_step hinv call with ⟨-, hnot⟩ | ⟨s', hs, hiff, hkeep⟩
    · exact absurd hok hnot
    · exact ⟨s', hs, hiff.2 hok, hkeep hok⟩
  refine Run.along_of_meets hstep calls init inv_init ?_
  refine (Run.meets_iff_forall (fun s call hinv hgood => ?_) calls init inv_init).2 h
  obtain ⟨s', hs, -, hinv'⟩ := hstep s call hinv hgood
  exact ⟨s', hs, hinv'⟩

/-- The pointer is on the right one of two outputs: the window is placed on the left one. -/
theorem placed_on_other_output :
    ¬ Run.Along step (fun s call _ => Placed s call) init
      [⟨⟨⟨[0, 1], fun o => ⟨⟨1920 * o, 0⟩, ⟨1920, 1080⟩⟩, by decide⟩, fun _ => QRect.null⟩,
        ⟨2000, 500⟩, ⟨640, 480⟩⟩] := by
  rintro ⟨-, -, hplaced, -⟩
  have hinside := (hplaced _ rfl 1 (by decide) (by decide)).1.1
  exact absurd hinside (by decide +kernel)

end Cascade

end GreenIsland.Server

import Mathlib.Logic.Function.Basic
import GreenIsland.Lib.Run
import GreenIsland.Qt.Pixels
import GreenIsland.Server.WindowOutputs

/-! The root item of the windows (`ApplicationManager`).

The root item is to cover the virtual desktop: its position and size are those of the
bounding rectangle of the outputs.  They are computed when an output is added to the
compositor or removed from it, after `initialize` has connected the slots, and at no
other time: not by `initialize`, although the outputs are usually there before, and not
when an output moves or its current mode changes, although it announces both.

`root_item_ok_iff` says in which runs the root item covers the virtual desktop anyway:
the bounding rectangle is empty at the origin when `initialize` is called, and no output
changes it after that.  What the bounding rectangle is, `QRect.boundingRect_least` says. -/

namespace GreenIsland.Server

/-! ## Model -/

/-- What an output's geometry depends on, and its scale. -/
structure PlacedOutput where
  position : QPoint
  /-- the size of the current mode; of a default mode if there is none -/
  modeSize : QSize
  scaleFactor : Int
deriving DecidableEq, Repr

namespace PlacedOutput

def geometry (o : PlacedOutput) : QRect := ⟨o.position, o.modeSize⟩

def setPosition (o : PlacedOutput) (pt : QPoint) : PlacedOutput :=
  if o.position = pt then o else { o with position := pt }

/-- Another current mode, or another size of it: `setCurrentMode`, `addMode` of a current
mode, the slots of the window's size. -/
def setModeSize (o : PlacedOutput) (size : QSize) : PlacedOutput := { o with modeSize := size }

def setScaleFactor (o : PlacedOutput) (scale : Int) : PlacedOutput :=
  if o.scaleFactor = scale then o else { o with scaleFactor := scale }

end PlacedOutput

/-- The outputs of the compositor, and the root item of the application manager. -/
structure RootItem where
  outputs : List OutputId
  /-- all outputs, also those that are not in the list -/
  output : OutputId → PlacedOutput
  /-- the slots are connected -/
  initialized : Bool
  position : QPoint
  size : QSize

namespace RootItem

/-- A new `QQuickItem` is empty and at the origin. -/
def init (output : OutputId → PlacedOutput) : RootItem := ⟨[], output, false, ⟨0, 0⟩, ⟨0, 0⟩⟩

/-- The geometries of the outputs. -/
def geometries (s : RootItem) : List QRect := s.outputs.map fun o => (s.output o).geometry

def recalculateVirtualGeometry (s : RootItem) : RootItem :=
  let geometry := s.geometries.foldl QRect.united QRect.null
  { s with position := geometry.topLeft, size := geometry.size }

/-- `outputAdded`, `outputRemoved` -/
def notify (s : RootItem) : RootItem :=
  if s.initialized then s.recalculateVirtualGeometry else s

/-- `QWaylandCompositorPrivate::addOutput` -/
def addOutput (s : RootItem) (o : OutputId) : RootItem :=
  if o ∈ s.outputs then s else { s with outputs := s.outputs ++ [o] }.notify

/-- `QWaylandCompositorPrivate::removeOutput` -/
def removeOutput (s : RootItem) (o : OutputId) : RootItem :=
  if o ∈ s.outputs then { s with outputs := s.outputs.erase o }.notify else s

/-- `ApplicationManager::initialize` -/
def initializeManager (s : RootItem) : RootItem := { s with initialized := true }

/-- An output changes. -/
def setOutput (s : RootItem) (o : OutputId) (f : PlacedOutput → PlacedOutput) : RootItem :=
  { s with output := Function.update s.output o (f (s.output o)) }

end RootItem

inductive RootItemCall
  | initializeManager
  | addOutput (o : OutputId)
  | removeOutput (o : OutputId)
  | setPosition (o : OutputId) (pt : QPoint)
  | setModeSize (o : OutputId) (size : QSize)
  | setScaleFactor (o : OutputId) (scale : Int)
deriving DecidableEq, Repr

namespace RootItem

def step (s : RootItem) : RootItemCall → RootItem
  | .initializeManager => s.initializeManager
  | .addOutput o => s.addOutput o
  | .removeOutput o => s.removeOutput o
  | .setPosition o pt => s.setOutput o (·.setPosition pt)
  | .setModeSize o size => s.setOutput o (·.setModeSize size)
  | .setScaleFactor o scale => s.setOutput o (·.setScaleFactor scale)

/-! ## What is to hold -/

/-- The bounding rectangle of the outputs. -/
def desktop (s : RootItem) : QRect := QRect.boundingRect s.geometries

/-- The root item is where the virtual desktop is. -/
structure Covers (s : RootItem) : Prop where
  position : s.position = s.desktop.topLeft
  size : s.size = s.desktop.size

/-- **What is to hold** after `initialize`. -/
def RootItemOk (s : RootItem) : Prop := s.initialized = true → s.Covers

/-- **The condition.**  There is no virtual desktop yet when the slots are connected, and
no output changes it later. -/
def CallOk (s : RootItem) : RootItemCall → Prop
  | .initializeManager => s.initialized = false → s.desktop = QRect.null
  | .setPosition o pt =>
    s.initialized = true → (s.setOutput o (·.setPosition pt)).desktop = s.desktop
  | .setModeSize o size =>
    s.initialized = true → (s.setOutput o (·.setModeSize size)).desktop = s.desktop
  | _ => True

/-! ## The calls -/

/-- Before `initialize` the root item is as it was made. -/
structure Inv (s : RootItem) : Prop where
  untouched : s.initialized = false → s.position = ⟨0, 0⟩ ∧ s.size = ⟨0, 0⟩
  covers : s.RootItemOk

theorem covers_recalculate (s : RootItem) : s.recalculateVirtualGeometry.Covers := ⟨rfl, rfl⟩

/-- **The slots do their work.** -/
theorem Inv.notify {s : RootItem}
    (h : s.initialized = false → s.position = ⟨0, 0⟩ ∧ s.size = ⟨0, 0⟩) : Inv s.notify := by
  unfold RootItem.notify
  split
  · next hinit =>
    refine ⟨fun hnot => ?_, fun _ => covers_recalculate s⟩
    exact absurd (hinit.symm.trans hnot) (by decide)
  · next hinit => exact ⟨h, fun hnot => absurd hnot hinit⟩

theorem Inv.addOutput {s : RootItem} (h : Inv s) (o : OutputId) : Inv (s.addOutput o) := by
  unfold RootItem.addOutput
  split
  · exact h
  · exact Inv.notify h.untouched

theorem Inv.removeOutput {s : RootItem} (h : Inv s) (o : OutputId) : Inv (s.removeOutput o) := by
  unfold RootItem.removeOutput
  split
  · exact Inv.notify h.untouched
  · exact h

/-- A scale does not matter to the geometry. -/
theorem desktop_setScaleFactor (s : RootItem) (o : OutputId) (scale : Int) :
    (s.setOutput o (·.setScaleFactor scale)).desktop = s.desktop := by
  have hgeometry : ∀ o' : OutputId, ((s.setOutput o (·.setScaleFactor scale)).output o').geometry =
      (s.output o').geometry := by
    intro o'
    show (Function.update s.output o _ o').geometry = _
    by_cases ho : o' = o
    · subst ho
      rw [Function.update_self]
      show ((s.output o').setScaleFactor scale).geometry = _
      unfold PlacedOutput.setScaleFactor
      split
      · rfl
      · rfl
    · rw [Function.update_of_ne ho]
  unfold desktop geometries
  exact congrArg QRect.boundingRect (List.map_congr_left fun o' _ => hgeometry o')

theorem covers_iff (s : RootItem) : s.Covers ↔ (⟨s.position, s.size⟩ : QRect) = s.desktop := by
  constructor
  · rintro ⟨hposition, hsize⟩
    rw [hposition, hsize]
  · intro h
    exact ⟨congrArg QRect.topLeft h, congrArg QRect.size h⟩

/-- **A change of an output** leaves the root item where it is. -/
theorem setOutput_ok_iff {s : RootItem} (h : Inv s) (o : OutputId) (f : PlacedOutput → PlacedOutput) :
    (s.setOutput o f).RootItemOk ↔ (s.initialized = true → (s.setOutput o f).desktop = s.desktop) := by
  refine imp_congr_right fun hinit => ?_
  have hcovers := (covers_iff s).1 (h.covers hinit)
  rw [covers_iff]
  show (⟨s.position, s.size⟩ : QRect) = _ ↔ _
  rw [hcovers, eq_comm]

theorem initializeManager_ok_iff {s : RootItem} (h : Inv s) :
    s.initializeManager.RootItemOk ↔ (s.initialized = false → s.desktop = QRect.null) := by
  have hok : s.initializeManager.RootItemOk ↔ s.Covers := by
    constructor
    · intro hok
      exact (covers_iff s).2 ((covers_iff s.initializeManager).1 (hok rfl))
    · intro hcovers _
      exact (covers_iff s.initializeManager).2 ((covers_iff s).1 hcovers)
  rw [hok]
  cases hinit : s.initialized with
  | false =>
    obtain ⟨hposition, hsize⟩ := h.untouched hinit
    rw [covers_iff, hposition, hsize, eq_comm, imp_iff_right rfl]
    rfl
  | true => exact iff_of_true (h.covers hinit) fun hnot => by cases hnot

/-- **One call.** -/
theorem step_ok_iff {s : RootItem} (h : Inv s) (call : RootItemCall) :
    (s.step call).RootItemOk ↔ s.CallOk call := by
  cases call with
  | initializeManager => exact initializeManager_ok_iff h
  | addOutput o => exact iff_of_true (h.addOutput o).covers trivial
  | removeOutput o => exact iff_of_true (h.removeOutput o).covers trivial
  | setPosition o pt => exact setOutput_ok_iff h o _
  | setModeSize o size => exact setOutput_ok_iff h o _
  | setScaleFactor o scale =>
    exact iff_of_true ((setOutput_ok_iff h o _).2 fun _ => desktop_setScaleFactor s o scale) trivial

theorem Inv.step {s : RootItem} (h : Inv s) (call : RootItemCall) (hok : s.CallOk call) :
    Inv (s.step call) := by
  refine ⟨?_, (step_ok_iff h call).2 hok⟩
  cases call with
  | initializeManager => exact fun hnot => by cases hnot
  | addOutput o => exact (h.addOutput o).untouched
  | removeOutput o => exact (h.removeOutput o).untouched
  | setPosition o pt => exact h.untouched
  | setModeSize o size => exact h.untouched
  | setScaleFactor o scale => exact h.untouched

/-- **When the root item covers the virtual desktop.** -/
theorem root_item_ok_iff (output : OutputId → PlacedOutput) (calls : List RootItemCall) :
    Run.Always (fun s call => some (step s call)) RootItemOk (init output) calls ↔
      Run.Meets (fun s call => some (step s call)) CallOk (init output) calls := by
  have hinit : Inv (init output) := ⟨fun _ => ⟨rfl, rfl⟩, fun hnot => by cases hnot⟩
  refine Run.always_iff_of_decides (I := Inv) ?_ calls (init output) hinit.covers hinit
  exact fun s call h => Run.decides_total (step_ok_iff h call) (h.step call)

/-- An output is added and moved to the right. -/
theorem root_item_ok_fails :
    ¬ Run.Always (fun s call => some (step s call)) RootItemOk (init fun _ => ⟨⟨0, 0⟩, ⟨1920, 1080⟩, 1⟩)
      [.initializeManager, .addOutput 0, .setPosition 0 ⟨100, 0⟩] := by
  rintro ⟨-, s₁, hs₁, -, s₂, hs₂, -, s₃, hs₃, hok, -⟩
  obtain rfl := Option.some.inj hs₁
  obtain rfl := Option.some.inj hs₂
  obtain rfl := Option.some.inj hs₃
  exact absurd (hok rfl).position (by decide)

end RootItem

end GreenIsland.Server

import Mathlib.Data.List.Nodup
import Mathlib.Logic.Function.Basic
import Mathlib.Logic.ExistsUnique
import GreenIsland.Lib.Largest
import GreenIsland.Lib.Run
import GreenIsland.Qt.Geometry
import GreenIsland.Server.ApplicationManager

/-! The outputs of a window (`ClientWindow`, `ApplicationManager`).

A window's outputs are those whose geometry contains it, its designed output is the one
that shows most of it, and `windowsForOutput` goes by the designed output.  `findOutputs`
determines both when the window has moved, and nothing else does: outputs that come,
go or change, and a surface that changes its size, leave them as they are.

`assigned_iff` says in which runs they stay right anyway (`Assigned`): no window is
left with an output that is removed, no window's output shrinks or moves away from it,
and no window without a designed output gets to an output other than by a move; and a
window that is moved to an output has a place there whose area is not negative in 32
bits.  A new window is moved to its random position, unless that is the origin.

The slots of the application manager for outputs compute the geometry of its root item,
which no assignment depends on. -/

namespace GreenIsland.Server

/-! ## Model -/

abbrev OutputId := Nat

/-- The outputs of the compositor, and the geometry of each. -/
structure CompositorOutputs where
  outputs : List OutputId
  geometry : OutputId → QRect
  nodup : outputs.Nodup

namespace CompositorOutputs

def addOutput (c : CompositorOutputs) (o : OutputId) (geometry : QRect) : CompositorOutputs :=
  if h : o ∈ c.outputs then c
  else
    { outputs := c.outputs ++ [o]
      geometry := Function.update c.geometry o geometry
      nodup := List.nodup_append.2 ⟨c.nodup, List.nodup_singleton o, fun _ ha _ hb heq =>
        h (List.mem_singleton.1 hb ▸ heq ▸ ha)⟩ }

def removeOutput (c : CompositorOutputs) (o : OutputId) : CompositorOutputs :=
  { c with
    outputs := c.outputs.erase o
    nodup := c.nodup.erase o }

/-- The output moves or changes its mode. -/
def setGeometry (c : CompositorOutputs) (o : OutputId) (geometry : QRect) : CompositorOutputs :=
  { c with geometry := Function.update c.geometry o geometry }

def defaultOutput (c : CompositorOutputs) : Option OutputId := c.outputs.head?

/-- The area of the window that the output shows, in 32 bits. -/
def shownArea (c : CompositorOutputs) (geometry : QRect) (o : OutputId) : Option Int :=
  let intersected := (c.geometry o).intersected geometry
  if intersected.isValid then some (qint32 (intersected.size.width * intersected.size.height))
  else none

end CompositorOutputs

/-- A window as far as outputs are concerned. -/
structure PlacedWindow where
  /-- the position of `moveItem` -/
  position : QPointF
  /-- the size of the surface -/
  size : QSize
  designedOutput : Option OutputId
  outputsList : List OutputId
deriving DecidableEq

namespace PlacedWindow

/-- The window's rectangle. -/
def geometry (w : PlacedWindow) : QRect := ⟨w.position.toPoint, w.size⟩

/-- `findOutputs`; a window has its surface before it is moved for the first time.  Of
two outputs with the same area the later one is the designed one. -/
def findOutputs (w : PlacedWindow) (c : CompositorOutputs) : PlacedWindow :=
  { w with
    outputsList := c.outputs.filter fun o => (c.geometry o).contains w.geometry
    designedOutput :=
      (c.outputs.foldl (Largest.keep (c.shownArea w.geometry)) (w.designedOutput, 0)).1 }

/-- `moveItem->setPosition`, with the slots of `xChanged` and `yChanged`. -/
def setPosition (w : PlacedWindow) (c : CompositorOutputs) (position : QPointF) : PlacedWindow :=
  let moved := { w with position := position }
  let moved := if position.x = w.position.x then moved else moved.findOutputs c
  if position.y = w.position.y then moved else moved.findOutputs c

/-- A window before `initialize` gives it its random position. -/
def new (size : QSize) : PlacedWindow := ⟨⟨0, 0⟩, size, none, []⟩

end PlacedWindow

/-- The compositor's outputs and the registered windows. -/
structure WindowOutputs where
  compositor : CompositorOutputs
  windowsList : List WindowId
  window : WindowId → PlacedWindow

inductive WindowOutputsOp
  | createWindow (w : WindowId) (size : QSize) (randomPosition : QPointF)
  | move (w : WindowId) (position : QPointF)
  | resizeSurface (w : WindowId) (size : QSize)
  | outputAdded (o : OutputId) (geometry : QRect)
  | outputRemoved (o : OutputId)
  | outputChanged (o : OutputId) (geometry : QRect)

namespace WindowOutputs

def init : WindowOutputs :=
  ⟨⟨[], fun _ => QRect.null, List.nodup_nil⟩, [], fun _ => PlacedWindow.new ⟨0, 0⟩⟩

def setWindow (s : WindowOutputs) (w : WindowId) (placed : PlacedWindow) : WindowOutputs :=
  { s with window := Function.update s.window w placed }

/-- The window is new, so it is not registered yet. -/
def createWindow (s : WindowOutputs) (w : WindowId) (size : QSize) (position : QPointF) :
    WindowOutputs :=
  if w ∈ s.windowsList then s
  else { s.setWindow w ((PlacedWindow.new size).setPosition s.compositor position) with
    windowsList := s.windowsList ++ [w] }

def step (s : WindowOutputs) : WindowOutputsOp → WindowOutputs
  | .createWindow w size position => s.createWindow w size position
  | .move w position => s.setWindow w ((s.window w).setPosition s.compositor position)
  | .resizeSurface w size => s.setWindow w { s.window w with size := size }
  | .outputAdded o geometry => { s with compositor := s.compositor.addOutput o geometry }
  | .outputRemoved o => { s with compositor := s.compositor.removeOutput o }
  | .outputChanged o geometry => { s with compositor := s.compositor.setGeometry o geometry }

/-- The manager is initialized, so that it has its compositor. -/
def windowsForOutput (s : WindowOutputs) (desiredOutput : Option OutputId) : List WindowId :=
  let output := desiredOutput.or s.compositor.defaultOutput
  s.windowsList.filter fun w => (s.window w).designedOutput == output

end WindowOutputs

/-! ## What is to hold -/

namespace CompositorOutputs

/-- An output shows some of the rectangle. -/
def Shows (c : CompositorOutputs) (geometry : QRect) : Prop :=
  ∃ o ∈ c.outputs, ((c.geometry o).intersected geometry).isValid = true

/-- And the area that it shows did not become negative. -/
def Measures (c : CompositorOutputs) (geometry : QRect) : Prop :=
  ∃ o ∈ c.outputs, ∃ area ∈ c.shownArea geometry o, 0 ≤ area

end CompositorOutputs

/-- What a window's outputs should be. -/
structure PlacedWindow.Assigned (w : PlacedWindow) (c : CompositorOutputs) : Prop where
  designed : ∀ o ∈ w.designedOutput, o ∈ c.outputs
  listed : ∀ o ∈ w.outputsList, o ∈ c.outputs ∧ (c.geometry o).contains w.geometry = true
  shown : c.Shows w.geometry → w.designedOutput ≠ none

namespace WindowOutputs

structure Assigned (s : WindowOutputs) : Prop where
  /-- the designed output is null or in the compositor -/
  designed : ∀ w ∈ s.windowsList, ∀ o ∈ (s.window w).designedOutput, o ∈ s.compositor.outputs
  /-- a window's outputs are in the compositor and contain the window -/
  listed : ∀ w ∈ s.windowsList, ∀ o ∈ (s.window w).outputsList, o ∈ s.compositor.outputs ∧
    (s.compositor.geometry o).contains (s.window w).geometry = true
  /-- a window that some output shows is among the windows of exactly one output -/
  returned : ∀ w ∈ s.windowsList, s.compositor.Shows (s.window w).geometry →
    ∃! o, o ∈ s.compositor.outputs ∧ w ∈ s.windowsForOutput (some o)

/-- When an operation leaves it so. -/
def OpOk (s : WindowOutputs) : WindowOutputsOp → Prop
  | .createWindow w size position =>
    w ∉ s.windowsList → s.compositor.Shows ⟨position.toPoint, size⟩ →
      position ≠ ⟨0, 0⟩ ∧ s.compositor.Measures ⟨position.toPoint, size⟩
  | .move w position =>
    w ∈ s.windowsList → position ≠ (s.window w).position →
      s.compositor.Shows ⟨position.toPoint, (s.window w).size⟩ →
        (s.window w).designedOutput ≠ none ∨
          s.compositor.Measures ⟨position.toPoint, (s.window w).size⟩
  | .resizeSurface w size =>
    w ∈ s.windowsList →
      (∀ o ∈ (s.window w).outputsList,
        (s.compositor.geometry o).contains ⟨(s.window w).position.toPoint, size⟩ = true) ∧
      (s.compositor.Shows ⟨(s.window w).position.toPoint, size⟩ → (s.window w).designedOutput ≠ none)
  | .outputAdded o geometry =>
    o ∉ s.compositor.outputs → ∀ w ∈ s.windowsList,
      (geometry.intersected (s.window w).geometry).isValid = true →
        (s.window w).designedOutput ≠ none
  | .outputRemoved o =>
    ∀ w ∈ s.windowsList, (s.window w).designedOutput ≠ some o ∧ o ∉ (s.window w).outputsList
  | .outputChanged o geometry =>
    o ∈ s.compositor.outputs → ∀ w ∈ s.windowsList,
      (o ∈ (s.window w).outputsList → geometry.contains (s.window w).geometry = true) ∧
        ((geometry.intersected (s.window w).geometry).isValid = true →
          (s.window w).designedOutput ≠ none)

end WindowOutputs

/-! ## Moves -/

namespace CompositorOutputs

variable {c : CompositorOutputs} {geometry : QRect}

theorem Measures.shows (h : c.Measures geometry) : c.Shows geometry := by
  obtain ⟨o, ho, area, harea, -⟩ := h
  refine ⟨o, ho, ?_⟩
  unfold shownArea at harea
  by_contra hnot
  rw [if_neg hnot] at harea
  cases harea

end CompositorOutputs

namespace PlacedWindow

variable {w : PlacedWindow} {c : CompositorOutputs}

theorem designed_findOutputs (h : ∀ o ∈ w.designedOutput, o ∈ c.outputs) :
    ∀ o ∈ (w.findOutputs c).designedOutput, o ∈ c.outputs := fun o ho =>
  (Largest.mem_of_foldl_keep ho).elim (h o) id

theorem designed_findOutputs_iff : (w.findOutputs c).designedOutput ≠ none ↔
    w.designedOutput ≠ none ∨ c.Measures w.geometry :=
  Largest.isSome_foldl_keep_iff ..

/-- The designed output is one that shows the most, or the one before when none shows any. -/
theorem designed_findOutputs_largest {o : OutputId} (h : (w.findOutputs c).designedOutput = some o) :
    (w.designedOutput = some o ∧ ¬ c.Measures w.geometry) ∨
      o ∈ c.outputs ∧ ∃ area ∈ c.shownArea w.geometry o,
        ∀ o' ∈ c.outputs, ∀ area' ∈ c.shownArea w.geometry o', area' ≤ area := by
  change (c.outputs.foldl (Largest.keep (c.shownArea w.geometry)) (w.designedOutput, 0)).1 = some o at h
  rcases Largest.foldl_keep (c.shownArea w.geometry) c.outputs (w.designedOutput, 0) with
    ⟨hfold, hlt⟩ | ⟨o', ho', area, harea, hfold, -, hmax⟩
  · rw [hfold] at h
    refine Or.inl ⟨h, ?_⟩
    rintro ⟨o', ho', area, harea, hle⟩
    exact absurd hle (Int.not_le.2 (hlt o' ho' area harea))
  · rw [hfold] at h
    obtain rfl : o' = o := Option.some.inj h
    exact Or.inr ⟨ho', area, harea, hmax⟩

/-- `findOutputs` is right unless it finds no output that has some of the window. -/
theorem assigned_findOutputs_iff (h : ∀ o ∈ w.designedOutput, o ∈ c.outputs) :
    (w.findOutputs c).Assigned c ↔
      (c.Shows w.geometry → w.designedOutput ≠ none ∨ c.Measures w.geometry) := by
  constructor
  · exact fun hassigned hshows => designed_findOutputs_iff.1 (hassigned.shown hshows)
  · refine fun hfound => ⟨designed_findOutputs h, fun o ho => ?_, fun hshows => ?_⟩
    · exact List.mem_filter.1 ho
    · exact designed_findOutputs_iff.2 (hfound hshows)

/-- Doing it again changes nothing about that. -/
theorem assigned_findOutputs_twice_iff (h : ∀ o ∈ w.designedOutput, o ∈ c.outputs) :
    ((w.findOutputs c).findOutputs c).Assigned c ↔
      (c.Shows w.geometry → w.designedOutput ≠ none ∨ c.Measures w.geometry) := by
  rw [assigned_findOutputs_iff (designed_findOutputs h), designed_findOutputs_iff]
  exact imp_congr_right fun _ => or_assoc.trans (or_congr_right or_self_iff)

/-- **A move** determines the outputs, once or twice. -/
theorem assigned_setPosition_iff (h : ∀ o ∈ w.designedOutput, o ∈ c.outputs) {position : QPointF}
    (hne : position ≠ w.position) : (w.setPosition c position).Assigned c ↔
      (c.Shows ⟨position.toPoint, w.size⟩ →
        w.designedOutput ≠ none ∨ c.Measures ⟨position.toPoint, w.size⟩) := by
  have honce := assigned_findOutputs_iff (w := { w with position := position }) h
  by_cases hx : position.x = w.position.x
  · by_cases hy : position.y = w.position.y
    · refine absurd ?_ hne
      cases position
      exact congr (congrArg QPointF.mk hx) hy
    · have heq : w.setPosition c position = ({ w with position := position }).findOutputs c := by
        simp [setPosition, hx, hy]
      rw [heq]
      exact honce
  · by_cases hy : position.y = w.position.y
    · have heq : w.setPosition c position = ({ w with position := position }).findOutputs c := by
        simp [setPosition, hx, hy]
      rw [heq]
      exact honce
    · have heq : w.setPosition c position =
          (({ w with position := position }).findOutputs c).findOutputs c := by
        simp [setPosition, hx, hy]
      rw [heq]
      exact assigned_findOutputs_twice_iff (w := { w with position := position }) h

theorem setPosition_self (w : PlacedWindow) (c : CompositorOutputs) :
    w.setPosition c w.position = w := by
  simp [setPosition]

/-! ## Outputs -/

theorem assigned_addOutput_iff (h : w.Assigned c) {o : OutputId} (ho : o ∉ c.outputs)
    (geometry : QRect) : w.Assigned (c.addOutput o geometry) ↔
      ((geometry.intersected w.geometry).isValid = true → w.designedOutput ≠ none) := by
  have houtputs : (c.addOutput o geometry).outputs = c.outputs ++ [o] := by
    unfold CompositorOutputs.addOutput
    rw [dif_neg ho]
  have hgeometry : (c.addOutput o geometry).geometry = Function.update c.geometry o geometry := by
    unfold CompositorOutputs.addOutput
    rw [dif_neg ho]
  have hold : ∀ o' ∈ c.outputs, (c.addOutput o geometry).geometry o' = c.geometry o' := by
    intro o' ho'
    have hne : o' ≠ o := by
      rintro rfl
      exact ho ho'
    rw [hgeometry]
    exact Function.update_of_ne hne ..
  have hnew : (c.addOutput o geometry).geometry o = geometry := by
    rw [hgeometry]
    exact Function.update_self ..
  have hmem : ∀ o' ∈ c.outputs, o' ∈ (c.addOutput o geometry).outputs := fun o' ho' =>
    houtputs ▸ List.mem_append_left _ ho'
  constructor
  · intro hassigned hvalid
    refine hassigned.shown ⟨o, houtputs ▸ List.mem_append_right _ (List.mem_singleton_self o), ?_⟩
    rw [hnew]
    exact hvalid
  · refine fun hvalid => ⟨fun o' ho' => hmem o' (h.designed o' ho'), fun o' ho' => ?_, ?_⟩
    · obtain ⟨hin, hcontains⟩ := h.listed o' ho'
      rw [hold o' hin]
      exact ⟨hmem o' hin, hcontains⟩
    · rintro ⟨o', ho', hshown⟩
      rw [houtputs] at ho'
      rcases List.mem_append.1 ho' with hin | hin
      · rw [hold o' hin] at hshown
        exact h.shown ⟨o', hin, hshown⟩
      · obtain rfl := List.mem_singleton.1 hin
        rw [hnew] at hshown
        exact hvalid hshown

theorem assigned_removeOutput_iff (h : w.Assigned c) (o : OutputId) :
    w.Assigned (c.removeOutput o) ↔ w.designedOutput ≠ some o ∧ o ∉ w.outputsList := by
  have hmem : ∀ o', o' ∈ (c.removeOutput o).outputs ↔ o' ≠ o ∧ o' ∈ c.outputs := fun o' =>
    c.nodup.mem_erase_iff
  constructor
  · intro hassigned
    constructor
    · intro hdesigned
      exact ((hmem o).1 (hassigned.designed o hdesigned)).1 rfl
    · intro hlisted
      exact ((hmem o).1 (hassigned.listed o hlisted).1).1 rfl
  · rintro ⟨hdesigned, hlisted⟩
    refine ⟨fun o' ho' => (hmem o').2 ⟨?_, h.designed o' ho'⟩, fun o' ho' => ?_, ?_⟩
    · rintro rfl
      exact hdesigned ho'
    · obtain ⟨hin, hcontains⟩ := h.listed o' ho'
      refine ⟨(hmem o').2 ⟨?_, hin⟩, hcontains⟩
      rintro rfl
      exact hlisted ho'
    · rintro ⟨o', ho', hshown⟩
      exact h.shown ⟨o', ((hmem o').1 ho').2, hshown⟩

theorem assigned_setGeometry_iff (h : w.Assigned c) (o : OutputId) (geometry : QRect) :
    w.Assigned (c.setGeometry o geometry) ↔
      (o ∈ c.outputs → (o ∈ w.outputsList → geometry.contains w.geometry = true) ∧
        ((geometry.intersected w.geometry).isValid = true → w.designedOutput ≠ none)) := by
  have hself : (c.setGeometry o geometry).geometry o = geometry := Function.update_self ..
  have hother : ∀ o', o' ≠ o → (c.setGeometry o geometry).geometry o' = c.geometry o' := fun o' hne =>
    Function.update_of_ne hne ..
  constructor
  · refine fun hassigned ho => ⟨fun hlisted => ?_, fun hvalid => hassigned.shown ⟨o, ho, ?_⟩⟩
    · have hcontains := (hassigned.listed o hlisted).2
      rwa [hself] at hcontains
    · rwa [hself]
  · refine fun hok => ⟨h.designed, fun o' ho' => ?_, ?_⟩
    · obtain ⟨hin, hcontains⟩ := h.listed o' ho'
      refine ⟨hin, ?_⟩
      by_cases heq : o' = o
      · subst heq
        rw [hself]
        exact (hok hin).1 ho'
      · rw [hother o' heq]
        exact hcontains
    · rintro ⟨o', ho', hshown⟩
      by_cases heq : o' = o
      · subst heq
        rw [hself] at hshown
        exact (hok ho').2 hshown
      · rw [hother o' heq] at hshown
        exact h.shown ⟨o', ho', hshown⟩

theorem assigned_resize_iff (h : w.Assigned c) (size : QSize) :
    ({ w with size := size } : PlacedWindow).Assigned c ↔
      (∀ o ∈ w.outputsList, (c.geometry o).contains ⟨w.position.toPoint, size⟩ = true) ∧
        (c.Shows ⟨w.position.toPoint, size⟩ → w.designedOutput ≠ none) :=
  ⟨fun hassigned => ⟨fun o ho => (hassigned.listed o ho).2, hassigned.shown⟩,
    fun ⟨hlisted, hshown⟩ => ⟨h.designed, fun o ho => ⟨(h.listed o ho).1, hlisted o ho⟩, hshown⟩⟩

end PlacedWindow

/-! ## All windows -/

namespace WindowOutputs

variable {s : WindowOutputs}

theorem mem_windowsForOutput {w : WindowId} {o : OutputId} : w ∈ s.windowsForOutput (some o) ↔
    w ∈ s.windowsList ∧ (s.window w).designedOutput = some o := by
  show w ∈ s.windowsList.filter (fun w => (s.window w).designedOutput == some o) ↔ _
  rw [List.mem_filter, beq_iff_eq]

/-- A window is among those of one output just if it has a designed output. -/
theorem assigned_iff_forall :
    s.Assigned ↔ ∀ w ∈ s.windowsList, (s.window w).Assigned s.compositor := by
  constructor
  · refine fun h w hw => ⟨h.designed w hw, h.listed w hw, fun hshows hnone => ?_⟩
    obtain ⟨o, ⟨-, ho⟩, -⟩ := h.returned w hw hshows
    exact Option.some_ne_none o ((mem_windowsForOutput.1 ho).2.symm.trans hnone)
  · refine fun h => ⟨fun w hw => (h w hw).designed, fun w hw => (h w hw).listed, ?_⟩
    intro w hw hshows
    obtain ⟨o, ho⟩ := Option.ne_none_iff_exists'.1 ((h w hw).shown hshows)
    refine ⟨o, ⟨(h w hw).designed o ho, mem_windowsForOutput.2 ⟨hw, ho⟩⟩, fun o' ho' => ?_⟩
    exact Option.some.inj ((mem_windowsForOutput.1 ho'.2).2.symm.trans ho)

theorem assigned_setWindow_iff (h : s.Assigned) (w : WindowId) (placed : PlacedWindow) :
    (s.setWindow w placed).Assigned ↔ (w ∈ s.windowsList → placed.Assigned s.compositor) := by
  rw [assigned_iff_forall] at h ⊢
  have hself : (s.setWindow w placed).window w = placed := Function.update_self ..
  constructor
  · intro hall hw
    exact hself ▸ hall w hw
  · intro hw v hv
    by_cases hvw : v = w
    · subst hvw
      rw [hself]
      exact hw hv
    · have hother : (s.setWindow w placed).window v = s.window v := Function.update_of_ne hvw ..
      rw [hother]
      exact h v hv

theorem assigned_createWindow_iff (h : s.Assigned) {w : WindowId} (hw : w ∉ s.windowsList)
    (size : QSize) (position : QPointF) : (s.createWindow w size position).Assigned ↔
      ((PlacedWindow.new size).setPosition s.compositor position).Assigned s.compositor := by
  have heq : s.createWindow w size position =
      { s.setWindow w ((PlacedWindow.new size).setPosition s.compositor position) with
        windowsList := s.windowsList ++ [w] } := if_neg hw
  rw [heq]
  generalize (PlacedWindow.new size).setPosition s.compositor position = placed
  rw [assigned_iff_forall] at h ⊢
  have hself : (s.setWindow w placed).window w = placed := Function.update_self ..
  constructor
  · intro hall
    exact hself ▸ hall w (List.mem_append_right _ (List.mem_singleton_self w))
  · intro hplaced v hv
    show ((s.setWindow w placed).window v).Assigned s.compositor
    rcases List.mem_append.1 hv with hold | hnew
    · have hvw : v ≠ w := by
        rintro rfl
        exact hw hold
      have hother : (s.setWindow w placed).window v = s.window v := Function.update_of_ne hvw ..
      rw [hother]
      exact h v hold
    · obtain rfl := List.mem_singleton.1 hnew
      rw [hself]
      exact hplaced

/-- What a new window's first move leaves. -/
theorem assigned_new_iff (c : CompositorOutputs) (size : QSize) (position : QPointF) :
    ((PlacedWindow.new size).setPosition c position).Assigned c ↔
      (c.Shows ⟨position.toPoint, size⟩ → position ≠ ⟨0, 0⟩ ∧ c.Measures ⟨position.toPoint, size⟩) := by
  have hnone : ∀ o ∈ (PlacedWindow.new size).designedOutput, o ∈ c.outputs := nofun
  by_cases hposition : position = ⟨0, 0⟩
  · subst hposition
    have hsame : (PlacedWindow.new size).setPosition c ⟨0, 0⟩ = PlacedWindow.new size :=
      PlacedWindow.setPosition_self (PlacedWindow.new size) c
    rw [hsame]
    constructor
    · exact fun hassigned hshows => absurd rfl (hassigned.shown hshows)
    · exact fun hok => ⟨nofun, nofun, fun hshows => absurd rfl (hok hshows).1⟩
  · refine (PlacedWindow.assigned_setPosition_iff hnone hposition).trans (imp_congr_right fun _ => ?_)
    exact (or_iff_right (not_not_intro rfl)).trans (and_iff_right hposition).symm

theorem assigned_step_iff (h : s.Assigned) (op : WindowOutputsOp) :
    (s.step op).Assigned ↔ s.OpOk op := by
  have hwindow := assigned_iff_forall.1 h
  cases op with
  | createWindow w size position =>
    by_cases hw : w ∈ s.windowsList
    · have hsame : s.step (.createWindow w size position) = s := if_pos hw
      rw [hsame]
      exact iff_of_true h fun hnot => absurd hw hnot
    · exact (assigned_createWindow_iff h hw size position).trans
        ((assigned_new_iff s.compositor size position).trans (imp_iff_right hw).symm)
  | move w position =>
    refine (assigned_setWindow_iff h w _).trans (imp_congr_right fun hw => ?_)
    by_cases hposition : position = (s.window w).position
    · rw [hposition, PlacedWindow.setPosition_self]
      exact iff_of_true (hwindow w hw) fun hne => absurd rfl hne
    · exact (PlacedWindow.assigned_setPosition_iff (hwindow w hw).designed hposition).trans
        (imp_iff_right hposition).symm
  | resizeSurface w size =>
    refine (assigned_setWindow_iff h w _).trans (imp_congr_right fun hw => ?_)
    exact PlacedWindow.assigned_resize_iff (hwindow w hw) size
  | outputAdded o geometry =>
    refine assigned_iff_forall.trans ?_
    by_cases ho : o ∈ s.compositor.outputs
    · have hsame : s.step (.outputAdded o geometry) = s := by
        show { s with compositor := s.compositor.addOutput o geometry } = s
        rw [CompositorOutputs.addOutput, dif_pos ho]
      rw [hsame]
      exact iff_of_true hwindow fun hnot => absurd ho hnot
    · refine Iff.trans (forall₂_congr fun w hw => ?_) (imp_iff_right ho).symm
      exact PlacedWindow.assigned_addOutput_iff (hwindow w hw) ho geometry
  | outputRemoved o =>
    refine assigned_iff_forall.trans (forall₂_congr fun w hw => ?_)
    exact PlacedWindow.assigned_removeOutput_iff (hwindow w hw) o
  | outputChanged o geometry =>
    refine assigned_iff_forall.trans ⟨fun hall ho w hw => ?_, fun hok w hw => ?_⟩
    · exact (PlacedWindow.assigned_setGeometry_iff (hwindow w hw) o geometry).1 (hall w hw) ho
    · exact (PlacedWindow.assigned_setGeometry_iff (hwindow w hw) o geometry).2 fun ho => hok ho w hw

/-! ## Runs -/

theorem assigned_init : init.Assigned := ⟨nofun, nofun, nofun⟩

/-- **Windows and outputs.**  In exactly the runs whose operations meet `OpOk`, each
window's designed output is null or in the compositor, its outputs are in the
compositor and contain it, and a window that some output shows is among the windows of
exactly one output, in every state reached. -/
theorem assigned_iff (ops : List WindowOutputsOp) :
    Run.Always (fun s op => some (step s op)) Assigned init ops ↔
      Run.Meets (fun s op => some (step s op)) OpOk init ops :=
  Run.always_iff_of_decides
    (fun _ op h => Run.decides_total (assigned_step_iff h op) (assigned_step_iff h op).2) ops init
    assigned_init assigned_init

/-- The output of a window is removed: the window keeps it. -/
theorem output_removed :
    ¬ Run.Always (fun s op => some (step s op)) Assigned init
      [.outputAdded 0 ⟨⟨0, 0⟩, ⟨640, 480⟩⟩, .createWindow 0 ⟨64, 48⟩ ⟨48, 96⟩, .outputRemoved 0] := by
  rintro ⟨-, s₁, hs₁, -, s₂, hs₂, -, s₃, hs₃, h, -⟩
  obtain rfl := Option.some.inj hs₁
  obtain rfl := Option.some.inj hs₂
  obtain rfl := Option.some.inj hs₃
  have hgone := h.designed 0 (by decide) 0 (by decide +kernel)
  exact absurd hgone (by decide)

end WindowOutputs

end GreenIsland.Server

import GreenIsland.Lib.Custody
import GreenIsland.Lib.Run
import GreenIsland.Platform.PointerPosition
import GreenIsland.Qt.Geometry

/-! The windows of a compositor that runs inside another one (`EglFSWaylandWindow`).

A window that is created has a `wl_egl_window` and an EGL surface on it, and draws into
a framebuffer.  Hiding the window destroys the first two, and showing it again does
not make them.  The framebuffer is built again only if a geometry was set since whose
size is not that of the framebuffer; a new scale alone leaves it as it is, and it is
the scaled size that the geometry is compared with.

Both are as they should be along the runs in which a window that was hidden is not
shown again before it is destroyed and created, and the framebuffer is asked for only
when a change is noticed or makes no difference (`surfaces_ok_iff`). -/

namespace GreenIsland.Platform

/-! ## Model -/

/-- A `wl_egl_window`, by its number. -/
structure EglWindow where
  number : Nat
  size : QSize
deriving DecidableEq

/-- What is made for a window. -/
inductive WindowPart
  | eglWindow (number : Nat)
  | eglSurface (number : Nat)
deriving DecidableEq

structure WaylandWindow where
  created : Bool
  /-- `isVisible()` of the `QWindow` -/
  visible : Bool
  geometry : QRect
  minimumSize : QSize
  maximumSize : QSize
  /-- the integration has a full screen shell -/
  fullScreenShell : Bool
  outputGeometry : QRect
  scale : Int
  eglWindow : Option EglWindow
  eglSurface : Option Nat
  /-- the size of `m_contentFBO` -/
  contentFBO : Option QSize
  resize : Bool
  /-- how often the surface was reset -/
  resets : Nat
  made : List WindowPart
  destroyed : List WindowPart
deriving DecidableEq

namespace WaylandWindow

def init (minimumSize maximumSize : QSize) (fullScreenShell : Bool) (outputGeometry : QRect)
    (scale : Int) : WaylandWindow where
  created := false
  visible := false
  geometry := .null
  minimumSize := minimumSize
  maximumSize := maximumSize
  fullScreenShell := fullScreenShell
  outputGeometry := outputGeometry
  scale := scale
  eglWindow := none
  eglSurface := none
  contentFBO := none
  resize := false
  resets := 0
  made := []
  destroyed := []

def needsToUpdateContentFBO (w : WaylandWindow) : Bool := w.resize || w.contentFBO = none

/-- The framebuffer that is returned is `contentFBO` afterwards. -/
def takeContentFBO (w : WaylandWindow) : WaylandWindow :=
  if w.needsToUpdateContentFBO then
    { w with contentFBO := some (w.geometry.size.times w.scale), resize := false }
  else w

/-- The geometry that `setGeometry` sets. -/
def bounded (w : WaylandWindow) (rect : QRect) : QRect :=
  if w.fullScreenShell then w.outputGeometry
  else ⟨rect.topLeft,
    ⟨qBound w.minimumSize.width rect.size.width w.maximumSize.width,
      qBound w.minimumSize.height rect.size.height w.maximumSize.height⟩⟩

def setGeometry (w : WaylandWindow) (rect : QRect) : WaylandWindow :=
  let geometry := w.bounded rect
  { w with
    geometry := geometry
    resize := w.resize || w.contentFBO.any fun size => size ≠ geometry.size
    eglWindow := w.eglWindow.map fun window => { window with size := geometry.size } }

def destroyEglSurface (w : WaylandWindow) : WaylandWindow :=
  match w.eglSurface with
  | none => w
  | some n => { w with eglSurface := none, destroyed := w.destroyed ++ [.eglSurface n] }

def destroyEglWindow (w : WaylandWindow) : WaylandWindow :=
  match w.eglWindow with
  | none => w
  | some window =>
    { w with eglWindow := none, destroyed := w.destroyed ++ [.eglWindow window.number] }

def invalidateSurface (w : WaylandWindow) : WaylandWindow := w.destroyEglSurface.destroyEglWindow

/-- `none` if EGL makes no surface on the window, which ends the process. -/
def resetSurface (w : WaylandWindow) (made : Bool) : Option WaylandWindow :=
  if made then
    some { w with
      eglWindow := some ⟨w.resets, w.geometry.size⟩
      eglSurface := some w.resets
      resets := w.resets + 1
      made := w.made ++ [.eglWindow w.resets] ++ [.eglSurface w.resets] }
  else none

def create (w : WaylandWindow) (made : Bool) : Option WaylandWindow :=
  if w.created then some w
  else ({ w with created := true }.setGeometry .null).resetSurface made

def destroy (w : WaylandWindow) : WaylandWindow := { w.invalidateSurface with created := false }

/-- The `QWindow` is visible or not before its platform window is told. -/
def setVisible (w : WaylandWindow) (visible : Bool) : WaylandWindow :=
  if visible then { w with visible := true } else { w with visible := false }.invalidateSurface

inductive Op
  | create (made : Bool)
  | setVisible (visible : Bool)
  | setGeometry (rect : QRect)
  | setSizeLimits (minimumSize maximumSize : QSize)
  | outputChanged (geometry : QRect) (scale : Int)
  | contentFBO
  | destroy

def call (w : WaylandWindow) : Op → Option WaylandWindow
  | .create made => w.create made
  | .setVisible visible => some (w.setVisible visible)
  | .setGeometry rect => some (w.setGeometry rect)
  | .setSizeLimits minimumSize maximumSize =>
    some { w with minimumSize := minimumSize, maximumSize := maximumSize }
  | .outputChanged geometry scale => some { w with outputGeometry := geometry, scale := scale }
  | .contentFBO => some w.takeContentFBO
  | .destroy => some w.destroy

/-- What the window has of the things that were made. -/
def held (w : WaylandWindow) : List WindowPart :=
  (w.eglSurface.map WindowPart.eglSurface).toList ++
    (w.eglWindow.map fun window => WindowPart.eglWindow window.number).toList

end WaylandWindow

/-! ## Runs -/

/-- A window, and what happened to it. -/
structure WindowRun where
  window : WaylandWindow
  /-- the window was hidden since it was created -/
  hidden : Bool
  /-- the size and the scale that the framebuffer was built for -/
  built : Option (QSize × Int)
  /-- the sizes that were set since -/
  sizes : List QSize

namespace WindowRun

open WaylandWindow (Op)

def init (window : WaylandWindow) : WindowRun := ⟨window, false, none, []⟩

/-- The record of a call after which the window is `w`. -/
def record (r : WindowRun) (w : WaylandWindow) : Op → WindowRun
  | .create _ =>
    if r.window.created then { r with window := w }
    else { r with window := w, hidden := false, sizes := r.sizes ++ [w.geometry.size] }
  | .setVisible visible => { r with window := w, hidden := r.hidden || !visible }
  | .setGeometry _ => { r with window := w, sizes := r.sizes ++ [w.geometry.size] }
  | .contentFBO =>
    if r.window.needsToUpdateContentFBO then
      { r with window := w, built := some (w.geometry.size, w.scale), sizes := [] }
    else { r with window := w }
  | .setSizeLimits _ _ => { r with window := w }
  | .outputChanged _ _ => { r with window := w }
  | .destroy => { r with window := w }

def step (r : WindowRun) (op : Op) : Option WindowRun :=
  (r.window.call op).map fun w => r.record w op

/-! ## Specification -/

/-- **The surfaces.**  A created window that is visible has both, as large as its
geometry; what was made is the window's or was destroyed once; and a window that is
not created has none. -/
structure SurfacesOk (w : WaylandWindow) : Prop where
  live : w.created = true → w.visible = true →
    ∃ n m, w.eglWindow = some ⟨n, w.geometry.size⟩ ∧ w.eglSurface = some m ∧
      .eglWindow n ∉ w.destroyed ∧ .eglSurface m ∉ w.destroyed
  once : ∀ x ∈ w.made, w.destroyed.count x + w.held.count x = 1
  gone : w.created = false → w.held = []

/-- The framebuffer that `contentFBO` returns has the scaled size of the window. -/
def FramebufferOk (w : WaylandWindow) : Op → Prop
  | .contentFBO => w.contentFBO = some (w.geometry.size.times w.scale)
  | _ => True

def StepOk (_ : WindowRun) (op : Op) (r' : WindowRun) : Prop :=
  SurfacesOk r'.window ∧ FramebufferOk r'.window op

/-- A window is not shown after it was hidden; and since the framebuffer was built a
size was set that differs from its own, or the scaled size is still the same. -/
def Ok (r : WindowRun) : Op → Prop
  | .setVisible visible => visible = true → r.window.created = true → r.hidden = false
  | .contentFBO => ∀ size scale, r.built = some (size, scale) →
    (∃ g ∈ r.sizes, g ≠ size.times scale) ∨
      r.window.geometry.size.times r.window.scale = size.times scale
  | _ => True

end WindowRun

/-! ## The surfaces -/

def WindowPart.number : WindowPart → Nat
  | .eglWindow n => n
  | .eglSurface n => n

/-- Both surfaces are there from when the window is created until it is hidden or
destroyed. -/
structure Surfaces (w : WaylandWindow) (hidden : Bool) : Prop where
  custody : Custody w.made w.destroyed w.held
  fresh : ∀ x ∈ w.made, x.number < w.resets
  live : w.created = true → hidden = false →
    ∃ n m, w.eglWindow = some ⟨n, w.geometry.size⟩ ∧ w.eglSurface = some m
  gone : (w.created = true → hidden = true) → w.eglWindow = none ∧ w.eglSurface = none
  shown : w.created = true → w.visible = true → hidden = false

section
variable {w w' : WaylandWindow} {hidden : Bool}

theorem surfaces_init (minimumSize maximumSize : QSize) (fullScreenShell : Bool)
    (outputGeometry : QRect) (scale : Int) :
    Surfaces (.init minimumSize maximumSize fullScreenShell outputGeometry scale) false where
  custody := .nil
  fresh := fun _ hx => absurd hx List.not_mem_nil
  live := fun hcreated _ => absurd hcreated Bool.false_ne_true
  gone := fun _ => ⟨rfl, rfl⟩
  shown := fun _ _ => rfl

theorem Surfaces.surfacesOk (h : Surfaces w hidden) : WindowRun.SurfacesOk w where
  live := by
    intro hcreated hvisible
    obtain ⟨n, m, hwindow, hsurface⟩ := h.live hcreated (h.shown hcreated hvisible)
    refine ⟨n, m, hwindow, hsurface, h.custody.not_mem_back ?_, h.custody.not_mem_back ?_⟩
    · rw [WaylandWindow.held, hwindow]
      exact List.mem_append_right _ (List.mem_singleton_self _)
    · rw [WaylandWindow.held, hsurface]
      exact List.mem_append_left _ (List.mem_singleton_self _)
  once := fun _ hx => h.custody.once hx
  gone := by
    intro hcreated
    obtain ⟨hwindow, hsurface⟩ := h.gone fun htrue => by
      rw [hcreated] at htrue
      cases htrue
    rw [WaylandWindow.held, hwindow, hsurface]
    rfl

theorem held_setGeometry (w : WaylandWindow) (rect : QRect) : (w.setGeometry rect).held = w.held := by
  unfold WaylandWindow.held WaylandWindow.setGeometry
  cases w.eglWindow with
  | none => rfl
  | some window => rfl

/-- The `wl_egl_window` is resized with the window. -/
theorem Surfaces.setGeometry (h : Surfaces w hidden) (rect : QRect) :
    Surfaces (w.setGeometry rect) hidden where
  custody := by
    rw [held_setGeometry]
    exact h.custody
  fresh := h.fresh
  live := by
    intro hcreated hhidden
    obtain ⟨n, m, hwindow, hsurface⟩ := h.live hcreated hhidden
    refine ⟨n, m, ?_, hsurface⟩
    show w.eglWindow.map _ = _
    rw [hwindow]
    rfl
  gone := by
    intro hgone
    obtain ⟨hwindow, hsurface⟩ := h.gone hgone
    refine ⟨?_, hsurface⟩
    show w.eglWindow.map _ = _
    rw [hwindow]
    rfl
  shown := h.shown

/-- What `invalidateSurface` changes: everything is given back. -/
theorem invalidateSurface_spec (w : WaylandWindow) :
    ∃ destroyed, w.invalidateSurface =
      { w with eglWindow := none, eglSurface := none, destroyed := destroyed } ∧
        (Custody w.made w.destroyed w.held → Custody w.made destroyed []) := by
  unfold WaylandWindow.invalidateSurface WaylandWindow.destroyEglWindow
    WaylandWindow.destroyEglSurface WaylandWindow.held
  cases hwindow : w.eglWindow with
  | none =>
    cases hsurface : w.eglSurface with
    | none =>
      simp only [hwindow]
      exact ⟨w.destroyed, by rw [← hwindow, ← hsurface], id⟩
    | some n =>
      simp only
      exact ⟨_, by rw [← hwindow], Custody.giveBack⟩
  | some window =>
    cases hsurface : w.eglSurface with
    | none =>
      simp only [hwindow]
      exact ⟨_, by rw [← hsurface], Custody.giveBack⟩
    | some n =>
      simp only
      exact ⟨_, rfl, fun h => h.giveBack.giveBack⟩

/-- The window is hidden. -/
theorem Surfaces.hide (h : Surfaces w hidden) : Surfaces (w.setVisible false) true := by
  obtain ⟨destroyed, heq, hcustody⟩ := invalidateSurface_spec { w with visible := false }
  have hset : w.setVisible false = { w with visible := false }.invalidateSurface := rfl
  rw [hset, heq]
  refine ⟨hcustody h.custody, h.fresh, fun _ hhidden => ?_, fun _ => ⟨rfl, rfl⟩, fun _ hvisible => ?_⟩
  · exact absurd hhidden (by decide)
  · exact absurd hvisible Bool.false_ne_true

theorem Surfaces.destroy (h : Surfaces w hidden) : Surfaces w.destroy hidden := by
  obtain ⟨destroyed, heq, hcustody⟩ := invalidateSurface_spec w
  unfold WaylandWindow.destroy
  rw [heq]
  refine ⟨hcustody h.custody, h.fresh, fun hcreated => ?_, fun _ => ⟨rfl, rfl⟩, fun hcreated => ?_⟩
  · exact absurd hcreated Bool.false_ne_true
  · exact absurd hcreated Bool.false_ne_true

/-- A window without surfaces is given both. -/
theorem surfaces_resetSurface (hcustody : Custody w.made w.destroyed [])
    (hfresh : ∀ x ∈ w.made, x.number < w.resets) (hcreated : w.created = true) {made : Bool}
    (hreset : w.resetSurface made = some w') : Surfaces w' false := by
  unfold WaylandWindow.resetSurface at hreset
  split_ifs at hreset
  obtain rfl := Option.some.inj hreset
  have hwindow : WindowPart.eglWindow w.resets ∉ w.made := fun hmem =>
    Nat.lt_irrefl _ (hfresh _ hmem)
  have hsurface : WindowPart.eglSurface w.resets ∉ w.made ++ [.eglWindow w.resets] := by
    rw [List.mem_append, List.mem_singleton]
    rintro (hmem | hmem)
    · exact Nat.lt_irrefl _ (hfresh _ hmem)
    · cases hmem
  refine ⟨?_, ?_, fun _ _ => ⟨_, _, rfl, rfl⟩, fun hgone => ?_, fun _ _ => rfl⟩
  · exact ((hcustody.take hwindow).take hsurface).perm_held (List.Perm.swap _ _ [])
  · intro x hx
    rw [List.mem_append, List.mem_append, List.mem_singleton, List.mem_singleton] at hx
    rcases hx with (hx | rfl) | rfl
    · exact Nat.lt_succ_of_lt (hfresh x hx)
    · exact Nat.lt_succ_self _
    · exact Nat.lt_succ_self _
  · exact absurd (hgone hcreated) Bool.false_ne_true

theorem Surfaces.create (h : Surfaces w hidden) (hcreated : w.created = false) {made : Bool}
    (hcreate : w.create made = some w') : Surfaces w' false := by
  have hheld : w.held = [] := h.surfacesOk.gone hcreated
  have hcustody := h.custody
  rw [hheld] at hcustody
  unfold WaylandWindow.create at hcreate
  rw [hcreated, if_neg Bool.false_ne_true] at hcreate
  exact surfaces_resetSurface (w := { w with created := true }.setGeometry .null) hcustody h.fresh
    rfl hcreate

end

/-! ## The framebuffer -/

/-- The framebuffer has the size that it was built for, and is built again when another
size was set since. -/
structure Framebuffer (w : WaylandWindow) (built : Option (QSize × Int)) (sizes : List QSize) :
    Prop where
  contentFBO : w.contentFBO = built.map fun p => p.1.times p.2
  resize : w.resize = true ↔ ∃ p, built = some p ∧ ∃ g ∈ sizes, g ≠ p.1.times p.2

section
variable {w w' : WaylandWindow} {built : Option (QSize × Int)} {sizes : List QSize}

theorem Framebuffer.congr (h : Framebuffer w built sizes) (hfbo : w'.contentFBO = w.contentFBO)
    (hresize : w'.resize = w.resize) : Framebuffer w' built sizes :=
  ⟨hfbo.trans h.contentFBO, hresize ▸ h.resize⟩

theorem Framebuffer.setGeometry (h : Framebuffer w built sizes) (rect : QRect) :
    Framebuffer (w.setGeometry rect) built (sizes ++ [(w.setGeometry rect).geometry.size]) where
  contentFBO := h.contentFBO
  resize := by
    generalize hnew : (w.setGeometry rect).geometry.size = new
    have hresize : (w.setGeometry rect).resize =
        (w.resize || w.contentFBO.any fun size => size ≠ new) := by
      rw [← hnew]
      rfl
    rw [hresize, Bool.or_eq_true, h.resize, h.contentFBO]
    cases built with
    | none => simp
    | some p =>
      simp only [Option.some.injEq, exists_eq_left', Option.map_some, Option.any_some,
        decide_eq_true_iff, List.mem_append, List.mem_singleton, or_and_right, exists_or,
        exists_eq_left, ne_comm (a := new)]

theorem framebuffer_takeContentFBO (hupdate : w.needsToUpdateContentFBO = true) :
    Framebuffer w.takeContentFBO (some (w.geometry.size, w.scale)) [] := by
  unfold WaylandWindow.takeContentFBO
  rw [if_pos hupdate]
  exact ⟨rfl, by simp⟩

/-- **When the framebuffer that is returned is the right one.** -/
theorem framebufferOk_iff (h : Framebuffer w built sizes) :
    WindowRun.FramebufferOk w.takeContentFBO .contentFBO ↔
      ∀ size scale, built = some (size, scale) → (∃ g ∈ sizes, g ≠ size.times scale) ∨
        w.geometry.size.times w.scale = size.times scale := by
  unfold WindowRun.FramebufferOk WaylandWindow.takeContentFBO WaylandWindow.needsToUpdateContentFBO
  cases built with
  | none =>
    have hfbo : w.contentFBO = none := h.contentFBO
    simp [hfbo]
  | some p =>
    have hfbo : w.contentFBO = some (p.1.times p.2) := h.contentFBO
    have hresize : w.resize = true ↔ ∃ g ∈ sizes, g ≠ p.1.times p.2 := by
      rw [h.resize]
      simp
    have hcondition : (∀ size scale, some p = some (size, scale) →
        (∃ g ∈ sizes, g ≠ size.times scale) ∨
          w.geometry.size.times w.scale = size.times scale) ↔
        w.resize = true ∨ w.geometry.size.times w.scale = p.1.times p.2 := by
      rw [hresize]
      constructor
      · intro hall
        exact hall p.1 p.2 rfl
      · rintro hp _ _ ⟨⟩
        exact hp
    rw [hcondition]
    cases hflag : w.resize with
    | true => simp
    | false => simp [hfbo, eq_comm]

theorem Framebuffer.invalidateSurface (h : Framebuffer w built sizes) :
    Framebuffer w.invalidateSurface built sizes := by
  obtain ⟨destroyed, heq, -⟩ := invalidateSurface_spec w
  rw [heq]
  exact h.congr rfl rfl

theorem Framebuffer.create (h : Framebuffer w built sizes) (hcreated : w.created = false)
    {made : Bool} (hcreate : w.create made = some w') :
    Framebuffer w' built (sizes ++ [w'.geometry.size]) := by
  have hset : Framebuffer { w with created := true } built sizes := h.congr rfl rfl
  unfold WaylandWindow.create WaylandWindow.resetSurface at hcreate
  rw [hcreated, if_neg Bool.false_ne_true] at hcreate
  split_ifs at hcreate
  obtain rfl := Option.some.inj hcreate
  exact (hset.setGeometry .null).congr rfl rfl

end

/-! ## The window -/

namespace WindowRun

open WaylandWindow (Op)

variable {r r' : WindowRun}

structure Inv (r : WindowRun) : Prop where
  surfaces : Surfaces r.window r.hidden
  framebuffer : Framebuffer r.window r.built r.sizes

theorem inv_create (h : Inv r) {made : Bool} (heq : r.step (.create made) = some r') : Inv r' := by
  obtain ⟨w, hw, rfl⟩ := Option.map_eq_some_iff.1 heq
  change r.window.create made = some w at hw
  show Inv (if r.window.created then _ else _)
  cases hcreated : r.window.created with
  | true =>
    unfold WaylandWindow.create at hw
    rw [hcreated, if_pos rfl] at hw
    obtain rfl := Option.some.inj hw
    exact h
  | false => exact ⟨h.surfaces.create hcreated hw, h.framebuffer.create hcreated hw⟩

theorem inv_setVisible (h : Inv r) {visible : Bool} (hok : r.Ok (.setVisible visible)) :
    Inv (r.record (r.window.setVisible visible) (.setVisible visible)) := by
  cases visible with
  | true =>
    have hhidden : (r.hidden || !true) = r.hidden := Bool.or_false r.hidden
    refine ⟨?_, h.framebuffer.congr rfl rfl⟩
    show Surfaces { r.window with visible := true } (r.hidden || !true)
    rw [hhidden]
    exact ⟨h.surfaces.custody, h.surfaces.fresh, h.surfaces.live, h.surfaces.gone,
      fun hcreated _ => hok rfl hcreated⟩
  | false =>
    have hhidden : (r.hidden || !false) = true := Bool.or_true r.hidden
    have hframebuffer : Framebuffer { r.window with visible := false } r.built r.sizes :=
      h.framebuffer.congr rfl rfl
    refine ⟨?_, hframebuffer.invalidateSurface⟩
    show Surfaces (r.window.setVisible false) (r.hidden || !false)
    rw [hhidden]
    exact h.surfaces.hide

theorem inv_contentFBO (h : Inv r) : Inv (r.record r.window.takeContentFBO .contentFBO) := by
  show Inv (if r.window.needsToUpdateContentFBO then _ else _)
  have htake : r.window.takeContentFBO = if r.window.needsToUpdateContentFBO then
      { r.window with
        contentFBO := some (r.window.geometry.size.times r.window.scale)
        resize := false } else r.window := rfl
  cases hupdate : r.window.needsToUpdateContentFBO with
  | true =>
    have hframebuffer := framebuffer_takeContentFBO hupdate
    rw [hupdate, if_pos rfl] at htake
    rw [htake] at hframebuffer ⊢
    obtain ⟨hcustody, hfresh, hlive, hgone, hshown⟩ := h.surfaces
    exact ⟨⟨hcustody, hfresh, hlive, hgone, hshown⟩, hframebuffer⟩
  | false =>
    rw [hupdate, if_neg Bool.false_ne_true] at htake
    rw [htake]
    exact h

/-- **A step.** -/
theorem inv_step (h : Inv r) {op : Op} (hok : r.Ok op) (heq : r.step op = some r') : Inv r' := by
  cases op with
  | create made => exact inv_create h heq
  | setVisible visible => exact Option.some.inj heq ▸ inv_setVisible h hok
  | setGeometry rect =>
    obtain rfl := Option.some.inj heq
    exact ⟨h.surfaces.setGeometry rect, h.framebuffer.setGeometry rect⟩
  | setSizeLimits minimumSize maximumSize =>
    obtain rfl := Option.some.inj heq
    obtain ⟨hcustody, hfresh, hlive, hgone, hshown⟩ := h.surfaces
    exact ⟨⟨hcustody, hfresh, hlive, hgone, hshown⟩, h.framebuffer.congr rfl rfl⟩
  | outputChanged geometry scale =>
    obtain rfl := Option.some.inj heq
    obtain ⟨hcustody, hfresh, hlive, hgone, hshown⟩ := h.surfaces
    exact ⟨⟨hcustody, hfresh, hlive, hgone, hshown⟩, h.framebuffer.congr rfl rfl⟩
  | contentFBO => exact Option.some.inj heq ▸ inv_contentFBO h
  | destroy =>
    obtain rfl := Option.some.inj heq
    exact ⟨h.surfaces.destroy, h.framebuffer.invalidateSurface.congr rfl rfl⟩

theorem record_window (r : WindowRun) (w : WaylandWindow) (op : Op) : (r.record w op).window = w := by
  cases op with
  | create made =>
    show WindowRun.window (if r.window.created then _ else _) = w
    split
    · rfl
    · rfl
  | contentFBO =>
    show WindowRun.window (if r.window.needsToUpdateContentFBO then _ else _) = w
    split
    · rfl
    · rfl
  | setVisible visible => rfl
  | setGeometry rect => rfl
  | setSizeLimits minimumSize maximumSize => rfl
  | outputChanged geometry scale => rfl
  | destroy => rfl

/-- Whether `contentFBO` returns the right framebuffer depends on its condition. -/
theorem framebufferOk_contentFBO_iff (h : Inv r) :
    FramebufferOk (r.record r.window.takeContentFBO .contentFBO).window .contentFBO ↔
      r.Ok .contentFBO := by
  rw [record_window]
  exact framebufferOk_iff h.framebuffer

theorem framebufferOk_step (h : Inv r) {op : Op} (hok : r.Ok op) (heq : r.step op = some r') :
    FramebufferOk r'.window op := by
  cases op with
  | contentFBO => exact Option.some.inj heq ▸ (framebufferOk_contentFBO_iff h).2 hok
  | create made => trivial
  | setVisible visible => trivial
  | setGeometry rect => trivial
  | setSizeLimits minimumSize maximumSize => trivial
  | outputChanged geometry scale => trivial
  | destroy => trivial

/-- A window that was hidden is shown without surfaces. -/
theorem not_surfacesOk_setVisible (h : Inv r) {visible : Bool}
    (hbad : ¬ r.Ok (.setVisible visible)) :
    ¬ SurfacesOk (r.record (r.window.setVisible visible) (.setVisible visible)).window := by
  rw [record_window]
  unfold Ok at hbad
  simp only [Classical.not_imp] at hbad
  obtain ⟨rfl, hcreated, hhidden⟩ := hbad
  obtain ⟨hwindow, -⟩ := h.surfaces.gone fun _ => Bool.eq_true_of_not_eq_false hhidden
  intro hok
  obtain ⟨n, m, hlive, -⟩ := hok.live hcreated rfl
  rw [show (r.window.setVisible true).eglWindow = none from hwindow] at hlive
  cases hlive

/-! ## Runs -/

/-- **The windows.**  After every call both surfaces are as they should be, and every
framebuffer that is returned has the scaled size of the window, exactly if no created
window is shown after it was hidden, and no framebuffer is asked for after a change that
goes unnoticed. -/
theorem surfaces_ok_iff (minimumSize maximumSize : QSize) (fullScreenShell : Bool)
    (outputGeometry : QRect) (scale : Int) (ops : List Op) :
    Run.Each step StepOk
        (init (.init minimumSize maximumSize fullScreenShell outputGeometry scale)) ops ↔
      Run.Meets step Ok
        (init (.init minimumSize maximumSize fullScreenShell outputGeometry scale)) ops := by
  have hinit : Inv (init (.init minimumSize maximumSize fullScreenShell outputGeometry scale)) :=
    ⟨surfaces_init .., rfl, by simp [init, WaylandWindow.init]⟩
  refine Run.each_iff_meets (I := Inv) ?_ ?_ ops _ hinit
  · intro r op r' h hok heq
    have hinv := inv_step h hok heq
    exact ⟨⟨hinv.surfaces.surfacesOk, framebufferOk_step h hok heq⟩, hinv⟩
  · intro r op h hbad
    cases op with
    | setVisible visible => exact ⟨_, rfl, fun hok => not_surfacesOk_setVisible h hbad hok.1⟩
    | contentFBO =>
      exact ⟨_, rfl, fun hok => hbad ((framebufferOk_contentFBO_iff h).1 hok.2)⟩
    | create made => exact absurd trivial hbad
    | setGeometry rect => exact absurd trivial hbad
    | setSizeLimits minimumSize maximumSize => exact absurd trivial hbad
    | outputChanged geometry scale => exact absurd trivial hbad
    | destroy => exact absurd trivial hbad

/-! ## A window that is shown again, and a new scale -/

/-- A window of 640x480 in an output of 640x480. -/
def vgaWindow : WindowRun :=
  init (.init ⟨0, 0⟩ ⟨1920, 1080⟩ true ⟨⟨0, 0⟩, ⟨640, 480⟩⟩ 1)

/-- The window has no surfaces when it is shown again, and its framebuffer is that of
the old scale. -/
theorem surfaces_not_ok :
    ¬ Run.Each step StepOk vgaWindow
        [.create true, .setVisible true, .setVisible false, .setVisible true] ∧
      ¬ Run.Each step StepOk vgaWindow
        [.create true, .contentFBO, .outputChanged ⟨⟨0, 0⟩, ⟨640, 480⟩⟩ 2, .contentFBO] := by
  constructor
  · intro h
    obtain ⟨-, h⟩ := h _ rfl
    obtain ⟨-, h⟩ := h _ rfl
    obtain ⟨-, h⟩ := h _ rfl
    obtain ⟨⟨hok, -⟩, -⟩ := h _ rfl
    obtain ⟨n, m, hlive, -⟩ := hok.live rfl rfl
    cases hlive
  · intro h
    obtain ⟨-, h⟩ := h _ rfl
    obtain ⟨-, h⟩ := h _ rfl
    obtain ⟨-, h⟩ := h _ rfl
    obtain ⟨⟨-, hok⟩, -⟩ := h _ rfl
    have hsize : some (QSize.mk 640 480) = some ⟨1280, 960⟩ := hok
    exact absurd hsize (by decide)

end WindowRun

end GreenIsland.Platform

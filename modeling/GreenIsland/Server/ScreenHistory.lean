import GreenIsland.Lib.Overwritten
import GreenIsland.Server.NativeScreenBackend

/-! What a native screen remembers of the changes of its `QScreen`.

`handleScreenChanged` copies the values of the `QScreen` into the `Screen`.  Two
histories of a `QScreen` that end in the same values should leave the same data.
But a `QScreen` in landscape orientation, or in the primary one, leaves the transform
as it is, and one whose subpixels are unknown the subpixel order: there the data are
the same exactly if the changes before agree (`data_eq_iff`).

A history is the list of values that the `QScreen` has whenever
`handleScreenChanged` is called, the first time when the `Screen` is made. -/

namespace GreenIsland.Server

/-! ## Histories -/

/-- The values of a `QScreen` of the application. -/
structure QScreenValues (platformName : String) where
  qscreen : QScreen
  /-- there is a platform screen, and on greenisland it is one of the plugin -/
  backed : ∃ p, qscreen.handle = some p ∧ (platformName = "greenisland" → ∃ e, p = .eglfs e)

namespace NativeScreenBackend

variable {platformName : String}

/-- The calls of `handleScreenChanged`, one after the other. -/
def changes (s : Screen) : List (QScreenValues platformName) → Option Screen
  | [] => some s
  | q :: qs => (handleScreenChanged platformName q.qscreen s).bind fun s => changes s qs

/-- The screen that `handleScreenAdded` makes of a `QScreen`, after the history `h` of
its values and with the present ones. -/
def screenAfter (h : List (QScreenValues platformName)) (present : QScreenValues platformName) :
    Option Screen :=
  let first := h.headD present
  (eglfsScreen platformName first.qscreen).bind fun e =>
    changes (describe e first.qscreen Screen.init) (h ++ [present])

end NativeScreenBackend

/-! ## The data of a screen -/

namespace Screen

/-- The attributes that `handleScreenChanged` sets, without the physical size: its
setter keeps an old one that differs little. -/
def data (s : Screen) : Screen :=
  { s with manufacturer := "", model := "", physicalSize := ⟨0, 0⟩, signals := [] }

theorem data_change {β : Type} [DecidableEq β] {s stored : Screen} {old new : β}
    (signal : ScreenSignal) (h : old = new → stored = s) :
    (s.change old new stored signal).data = stored.data := by
  unfold change
  split
  · next heq => rw [h heq]
  · rfl

variable (s : Screen)

@[simp] theorem data_setPosition (pos : QPoint) :
    (s.setPosition pos).data = { s.data with position := pos } :=
  data_change _ (by rintro rfl; rfl)

@[simp] theorem data_setSize (size : QSize) : (s.setSize size).data = { s.data with size := size } :=
  data_change _ (by rintro rfl; rfl)

@[simp] theorem data_setRefreshRate (refreshRate : Int) :
    (s.setRefreshRate refreshRate).data = { s.data with refreshRate := refreshRate } :=
  data_change _ (by rintro rfl; rfl)

@[simp] theorem data_setPhysicalSize (size : QSizeF) : (s.setPhysicalSize size).data = s.data := by
  unfold setPhysicalSize
  split
  · rfl
  · rfl

@[simp] theorem data_setSubpixel (subpixel : Subpixel) :
    (s.setSubpixel subpixel).data = { s.data with subpixel := subpixel } :=
  data_change _ (by rintro rfl; rfl)

@[simp] theorem data_setTransform (transform : Transform) :
    (s.setTransform transform).data = { s.data with transform := transform } :=
  data_change _ (by rintro rfl; rfl)

@[simp] theorem data_setScaleFactor (scale : Int) :
    (s.setScaleFactor scale).data = { s.data with scaleFactor := scale } :=
  data_change _ (by rintro rfl; rfl)

@[simp] theorem data_setCurrentMode (modeId : Int) :
    (s.setCurrentMode modeId).data = { s.data with currentMode := modeId } :=
  data_change _ (by rintro rfl; rfl)

@[simp] theorem data_setPreferredMode (modeId : Int) :
    (s.setPreferredMode modeId).data = { s.data with preferredMode := modeId } :=
  data_change _ (by rintro rfl; rfl)

@[simp] theorem data_setModes (modes : List ScreenMode) :
    (s.setModes modes).data = { s.data with modes := modes } := rfl

end Screen

/-! ## What a change overwrites -/

/-- The transform that an orientation is taken for, if any. -/
def ScreenOrientation.transform : ScreenOrientation → Option Transform
  | .portrait => some .transform90
  | .invertedLandscape => some .transform180
  | .invertedPortrait => some .transform270
  | _ => none

/-- The subpixel order, unless it is unknown. -/
def Subpixel.known : Subpixel → Option Subpixel
  | .unknown => Option.none
  | subpixel => some subpixel

namespace QScreenValues

variable {platformName : String}

/-- The transform that a change puts in place of the one before. -/
def transform (q : QScreenValues platformName) : Option Transform := q.qscreen.orientation.transform

def subpixel (q : QScreenValues platformName) : Option Subpixel := q.qscreen.subpixelHint.known

end QScreenValues

namespace NativeScreenBackend

theorem data_setTransformFrom (orientation : ScreenOrientation) (s : Screen) :
    (setTransformFrom orientation s).data =
      { s.data with transform := orientation.transform.getD s.data.transform } := by
  cases orientation with
  | primary => rfl
  | landscape => rfl
  | portrait => exact s.data_setTransform _
  | invertedPortrait => exact s.data_setTransform _
  | invertedLandscape => exact s.data_setTransform _

theorem data_setSubpixelFrom (subpixel : Subpixel) (s : Screen) :
    (setSubpixelFrom subpixel s).data =
      { s.data with subpixel := subpixel.known.getD s.data.subpixel } := by
  unfold setSubpixelFrom Subpixel.known
  cases subpixel with
  | unknown => rfl
  | none => exact s.data_setSubpixel _
  | horizontalRgb => exact s.data_setSubpixel _
  | horizontalBgr => exact s.data_setSubpixel _
  | verticalRgb => exact s.data_setSubpixel _
  | verticalBgr => exact s.data_setSubpixel _

theorem data_setModesFrom (e : Option EglFSScreen) (s : Screen) :
    (setModesFrom e s).data = match e with
      | some e => { s.data with
          modes := e.modes, currentMode := e.currentMode, preferredMode := e.preferredMode }
      | none => { s.data with
          modes := [⟨s.data.size, Float.ofInt s.data.refreshRate / 1000⟩], currentMode := 0
          preferredMode := 0 } := by
  cases e with
  | none =>
    simp only [setModesFrom, Screen.data_setPreferredMode, Screen.data_setCurrentMode,
      Screen.data_setModes]
    rfl
  | some e => simp [setModesFrom]

variable {platformName : String}

/-- The platform screen of a `QScreen` of the application. -/
theorem exists_eglfsScreen (q : QScreenValues platformName) :
    ∃ e, eglfsScreen platformName q.qscreen = some e := by
  obtain ⟨p, hp, hegl⟩ := q.backed
  unfold eglfsScreen
  split
  · next h =>
    obtain ⟨e, rfl⟩ := hegl h
    rw [hp]
    exact ⟨_, rfl⟩
  · exact ⟨_, rfl⟩

/-- **One change.**  The `QScreen` alone decides about all but the transform and the
subpixel order, which it may leave as they are. -/
theorem handleScreenChanged_data (q : QScreenValues platformName) :
    ∃ shown : Screen, ∀ s, ∃ s', handleScreenChanged platformName q.qscreen s = some s' ∧
      s'.data = { shown with
        transform := q.transform.getD s.data.transform
        subpixel := q.subpixel.getD s.data.subpixel } := by
  obtain ⟨e, he⟩ := exists_eglfsScreen q
  obtain ⟨p, hp, -⟩ := q.backed
  obtain ⟨shown, hshown⟩ :
      ∃ shown, handleScreenChanged platformName q.qscreen Screen.init = some shown := by
    unfold handleScreenChanged
    rw [he, hp]
    exact ⟨_, rfl⟩
  refine ⟨shown.data, fun s => ?_⟩
  unfold handleScreenChanged at hshown ⊢
  rw [he, hp] at hshown ⊢
  obtain rfl := Option.some.inj hshown
  refine ⟨_, rfl, ?_⟩
  simp only [data_setSubpixelFrom, data_setTransformFrom, data_setModesFrom,
    Screen.data_setScaleFactor, Screen.data_setPhysicalSize, Screen.data_setRefreshRate,
    Screen.data_setSize, Screen.data_setPosition]
  cases e with
  | none => rfl
  | some e => rfl

/-- **All changes** up to one to the present values. -/
theorem changes_data (present : QScreenValues platformName) :
    ∃ shown : Screen, ∀ (h : List (QScreenValues platformName)) (s : Screen),
      ∃ s', changes s (h ++ [present]) = some s' ∧
        s'.data = { shown with
          transform := Overwritten.last QScreenValues.transform s.data.transform (h ++ [present])
          subpixel := Overwritten.last QScreenValues.subpixel s.data.subpixel (h ++ [present]) } := by
  obtain ⟨shown, hshown⟩ := handleScreenChanged_data present
  refine ⟨shown, fun h => ?_⟩
  induction h with
  | nil =>
    intro s
    obtain ⟨s', hs', hdata⟩ := hshown s
    refine ⟨s', ?_, hdata⟩
    show (handleScreenChanged platformName present.qscreen s).bind _ = some s'
    rw [hs']
    rfl
  | cons q h ih =>
    intro s
    obtain ⟨_, hq⟩ := handleScreenChanged_data q
    obtain ⟨s₁, hs₁, hdata₁⟩ := hq s
    obtain ⟨s', hs', hdata⟩ := ih s₁
    refine ⟨s', ?_, ?_⟩
    · show (handleScreenChanged platformName q.qscreen s).bind _ = some s'
      rw [hs₁]
      exact hs'
    · rw [hdata, hdata₁]
      rfl

theorem data_describe (e : Option EglFSScreen) (q : QScreen) (s : Screen) :
    (describe e q s).data = s.data := by
  cases e with
  | none => rfl
  | some e => rfl

theorem screenAfter_data (present : QScreenValues platformName) :
    ∃ shown : Screen, ∀ h : List (QScreenValues platformName),
      ∃ s, screenAfter h present = some s ∧ s.data = { shown with
        transform := Overwritten.last QScreenValues.transform .normal (h ++ [present])
        subpixel := Overwritten.last QScreenValues.subpixel .none (h ++ [present]) } := by
  obtain ⟨shown, hshown⟩ := changes_data present
  refine ⟨shown, fun h => ?_⟩
  obtain ⟨e, he⟩ := exists_eglfsScreen (h.headD present)
  obtain ⟨s, hs, hdata⟩ := hshown h (describe e (h.headD present).qscreen Screen.init)
  rw [data_describe] at hdata
  refine ⟨s, ?_, hdata⟩
  show (eglfsScreen platformName (h.headD present).qscreen).bind _ = some s
  rw [he]
  exact hs

/-- **Two histories** that end in the same values leave the same data if and only if
they agree about the transform, where the present orientation leaves it as it is, and
about the subpixel order, where the present one is unknown. -/
theorem data_eq_iff (h h' : List (QScreenValues platformName)) (present : QScreenValues platformName) :
    ∃ s s', screenAfter h present = some s ∧ screenAfter h' present = some s' ∧
      (s.data = s'.data ↔
        (present.transform = none →
          Overwritten.last QScreenValues.transform .normal h =
            Overwritten.last QScreenValues.transform .normal h') ∧
        (present.subpixel = none →
          Overwritten.last QScreenValues.subpixel .none h =
            Overwritten.last QScreenValues.subpixel .none h')) := by
  obtain ⟨shown, hafter⟩ := screenAfter_data present
  obtain ⟨s, hs, hdata⟩ := hafter h
  obtain ⟨s', hs', hdata'⟩ := hafter h'
  refine ⟨s, s', hs, hs', ?_⟩
  rw [hdata, hdata', ← Overwritten.last_eq_iff, ← Overwritten.last_eq_iff]
  simp only [Screen.mk.injEq, true_and, and_true]
  exact and_comm

/-- A `QScreen` with an orientation. -/
def rotated (orientation : ScreenOrientation) : QScreenValues "xcb" where
  qscreen :=
    { name := "VGA-1"
      geometry := ⟨⟨0, 0⟩, ⟨800, 600⟩⟩
      availableGeometry := ⟨⟨0, 0⟩, ⟨800, 600⟩⟩
      refreshRate := 60
      physicalSize := ⟨300, 200⟩
      devicePixelRatio := 1
      orientation := orientation
      subpixelHint := .none
      handle := some .foreign }
  backed := ⟨.foreign, rfl, fun h => absurd h (by decide)⟩

/-- Rotated away and back: the screen keeps the transform of the rotation. -/
theorem rotated_back :
    ∃ s s', screenAfter [rotated .landscape, rotated .portrait] (rotated .landscape) = some s ∧
      screenAfter [] (rotated .landscape) = some s' ∧
      s.transform = .transform90 ∧ s'.transform = .normal ∧ s.data ≠ s'.data := by
  obtain ⟨shown, hafter⟩ := screenAfter_data (rotated .landscape)
  obtain ⟨s, hs, hdata⟩ := hafter [rotated .landscape, rotated .portrait]
  obtain ⟨s', hs', hdata'⟩ := hafter []
  have htransform : s.transform = .transform90 := congrArg Screen.transform hdata
  have htransform' : s'.transform = .normal := congrArg Screen.transform hdata'
  refine ⟨s, s', hs, hs', htransform, htransform', fun hsame => ?_⟩
  have hsame := congrArg Screen.transform hsame
  exact absurd (htransform.symm.trans (hsame.trans htransform')) (by decide)

end NativeScreenBackend

end GreenIsland.Server

import GreenIsland.Kms.Screen
import GreenIsland.Qt.Double
import GreenIsland.Server.OutputConfiguration

/-! The compositor's screens (`Screen`) and their changesets.

A screen is either backed by a `QScreen` (a native screen) or not (a fake one).
`applyChangeset` gives the changed attributes to what backs the screen.  It is
meant to say `true` only if all of them were taken, to leave the screen alone
when it says `false`, and to keep the current mode a valid one (`Applied`).

It does exactly under `ApplyOk` (`applyChangeset_iff`).  Otherwise:

* a fake screen stores any mode id, which `initialMode` then reads out of range;
* a native screen refuses a mode without a word, and is never asked for another
  transform or scale factor;
* a native screen that is moved gets another size as well: `QRect::setTopLeft`
  leaves the other corner where it is;
* nothing takes the primary attribute.

In all of these the answer is `true`. -/

namespace GreenIsland.Server

/-! ## Model -/

/-- `QWaylandOutput::Subpixel` -/
inductive Subpixel
  | unknown
  | none
  | horizontalRgb
  | horizontalBgr
  | verticalRgb
  | verticalBgr
deriving DecidableEq, Repr

/-- `Screen::Mode` and `EglFSScreen::Mode` -/
structure ScreenMode where
  size : QSize
  refreshRate : Float
deriving DecidableEq

inductive ScreenSignal
  | positionChanged
  | sizeChanged
  | refreshRateChanged
  | physicalSizeChanged
  | subpixelChanged
  | transformChanged
  | scaleFactorChanged
  | currentModeChanged
  | preferredModeChanged
  | modesChanged
deriving DecidableEq, Repr

/-- `ScreenPrivate`, without the pointer to the `QScreen`. -/
structure Screen where
  manufacturer : String
  model : String
  position : QPoint
  size : QSize
  refreshRate : Int
  physicalSize : QSizeF
  subpixel : Subpixel
  transform : Transform
  scaleFactor : Int
  currentMode : Int
  preferredMode : Int
  modes : List ScreenMode
  /-- signals emitted so far, oldest first -/
  signals : List ScreenSignal
deriving DecidableEq

namespace Screen

def init : Screen where
  manufacturer := ""
  model := ""
  position := ⟨0, 0⟩
  size := ⟨-1, -1⟩
  refreshRate := 60000
  physicalSize := ⟨-1, -1⟩
  subpixel := .none
  transform := .normal
  scaleFactor := 1
  currentMode := -1
  preferredMode := -1
  modes := []
  signals := []

/-- A property is replaced and its signal emitted, unless it has the value. -/
def change {β : Type} [DecidableEq β] (s : Screen) (old new : β) (stored : Screen)
    (signal : ScreenSignal) : Screen :=
  if old = new then s else { stored with signals := s.signals ++ [signal] }

def setPosition (s : Screen) (pos : QPoint) : Screen :=
  s.change s.position pos { s with position := pos } .positionChanged

def setSize (s : Screen) (size : QSize) : Screen :=
  s.change s.size size { s with size := size } .sizeChanged

def setRefreshRate (s : Screen) (refreshRate : Int) : Screen :=
  s.change s.refreshRate refreshRate { s with refreshRate := refreshRate } .refreshRateChanged

/-- The sizes are compared with a tolerance. -/
def setPhysicalSize (s : Screen) (size : QSizeF) : Screen :=
  if s.physicalSize.equals size then s
  else { s with physicalSize := size, signals := s.signals ++ [.physicalSizeChanged] }

def setSubpixel (s : Screen) (subpixel : Subpixel) : Screen :=
  s.change s.subpixel subpixel { s with subpixel := subpixel } .subpixelChanged

def setTransform (s : Screen) (transform : Transform) : Screen :=
  s.change s.transform transform { s with transform := transform } .transformChanged

def setScaleFactor (s : Screen) (scale : Int) : Screen :=
  s.change s.scaleFactor scale { s with scaleFactor := scale } .scaleFactorChanged

def setCurrentMode (s : Screen) (modeId : Int) : Screen :=
  s.change s.currentMode modeId { s with currentMode := modeId } .currentModeChanged

def setPreferredMode (s : Screen) (modeId : Int) : Screen :=
  s.change s.preferredMode modeId { s with preferredMode := modeId } .preferredModeChanged

def setModes (s : Screen) (modes : List ScreenMode) : Screen :=
  { s with modes := modes, signals := s.signals ++ [.modesChanged] }

/-- The mode that `QuickOutput::initialize` makes the current one of its output. -/
def initialMode (s : Screen) : Option ScreenMode :=
  qAt s.modes (if s.currentMode < 0 then 0 else s.currentMode)

end Screen

/-- What the KMS screen read of its display's EDID. -/
structure Edid where
  manufacturer : String
  model : String
  serialNumber : String
deriving DecidableEq

/-- The platform screens of the greenisland QPA plugin: those of a device
integration that leaves modes alone, and those of KMS. -/
inductive EglFSScreen
  | base (geometry : QRect) (refreshRate : Float)
  | kms (screen : Kms.Screen) (edid : Edid)
deriving DecidableEq

namespace EglFSScreen

/-- The rate of a KMS mode; 60 if the mode has none. -/
def kmsMode (info : Kms.ModeInfo) : ScreenMode :=
  ⟨⟨info.hdisplay.toNat, info.vdisplay.toNat⟩,
    if 0 < info.vrefresh then Float.ofNat info.vrefresh.toNat else 60⟩

def modes : EglFSScreen → List ScreenMode
  | base geometry refreshRate => [⟨geometry.size, refreshRate⟩]
  | kms screen _ => screen.output.modes.map kmsMode

def currentMode : EglFSScreen → Int
  | base _ _ => 0
  | kms screen _ => screen.output.mode

def setCurrentMode (e : EglFSScreen) (modeId : Int) : EglFSScreen :=
  match e with
  | base _ _ => e
  | kms screen edid => kms (screen.setCurrentMode modeId) edid

end EglFSScreen

/-- The platform screen behind a `QScreen`. -/
inductive PlatformScreen
  | eglfs (screen : EglFSScreen)
  /-- of another QPA plugin: none of the members of `EglFSScreen` exist -/
  | foreign
deriving DecidableEq

/-- `Qt::ScreenOrientation` -/
inductive ScreenOrientation
  | primary
  | portrait
  | landscape
  | invertedPortrait
  | invertedLandscape
deriving DecidableEq

structure QScreen where
  name : String
  geometry : QRect
  availableGeometry : QRect
  refreshRate : Float
  physicalSize : QSizeF
  devicePixelRatio : Float
  orientation : ScreenOrientation
  /-- `subpixelAntialiasingTypeHint()` of the platform screen -/
  subpixelHint : Subpixel
  handle : Option PlatformScreen
deriving DecidableEq

/-- A screen and the `QScreen` it is backed by, none for a fake screen. -/
structure BackedScreen where
  screen : Screen
  qscreen : Option QScreen
deriving DecidableEq

namespace BackedScreen

/-- The branch of `applyChangeset` for a fake screen. -/
def applyFake (s : Screen) (cs live : OutputChangeset) : Screen :=
  let s := if cs.isTransformChanged live then s.setTransform cs.transform else s
  let s := if cs.isModeIdChanged live then s.setCurrentMode cs.modeId else s
  let s := if cs.isPositionChanged live then s.setPosition cs.position else s
  if cs.isScaleFactorChanged live then s.setScaleFactor cs.scaleFactor else s

/-- `eglfsScreen->setCurrentMode`, through a pointer to the platform screen that
was cast without a check. -/
def setPlatformMode (p : PlatformScreen) (modeId : Int) : Option PlatformScreen :=
  match p with
  | .eglfs e => some (.eglfs (e.setCurrentMode modeId))
  | .foreign => none

/-- The `QScreen` after the platform screen was asked for the mode.
`handleScreenGeometryChange` gives it the geometry it is called with. -/
def updated (q : QScreen) (cs live : OutputChangeset) (p : PlatformScreen) : QScreen :=
  { q with
    handle := some p
    geometry := if cs.isPositionChanged live then q.geometry.setTopLeft cs.position
      else q.geometry }

/-- The branch for a native screen. -/
def applyNative (q : QScreen) (p : PlatformScreen) (cs live : OutputChangeset) : Option QScreen :=
  (if cs.isModeIdChanged live then setPlatformMode p cs.modeId else some p).map (updated q cs live)

/-- `Screen::applyChangeset`, and what it returns. -/
def applyChangeset (s : BackedScreen) (cs live : OutputChangeset) : Option (BackedScreen × Bool) :=
  match s.qscreen with
  | some q =>
    match q.handle with
    | some p => (applyNative q p cs live).map fun q => ({ s with qscreen := some q }, true)
    | none => some (s, false)
  | none => some ({ s with screen := applyFake s.screen cs live }, true)

/-! ## What it is meant to do -/

/-- The platform screen is switched to the mode, or is about to be. -/
def Takes (p : PlatformScreen) (modeId : Int) : Prop :=
  match p with
  | .eglfs (.base _ _) => modeId = 0
  | .eglfs (.kms screen _) =>
    (0 ≤ modeId ∧ modeId < screen.output.modes.length) ∧ screen.pendingMode = modeId
  | .foreign => False

/-- The `QScreen` is where the changeset asks for, as large as it was. -/
def Moved (q q' : QScreen) (cs : OutputChangeset) : Prop :=
  q'.geometry.topLeft = cs.position ∧ q'.geometry.size = q.geometry.size

/-- What backs the screen, `s` before the call and `s'` after it, has the value that
the changeset asks for. -/
def Accepted (s s' : BackedScreen) (cs : OutputChangeset) : Attribute → Prop
  | .enabled => False
  | .primary => False
  | .transform => s'.screen.transform = cs.transform
  | .scaleFactor => s'.screen.scaleFactor = cs.scaleFactor
  | .modeId =>
    match s'.qscreen with
    | some q => ∃ p, q.handle = some p ∧ Takes p cs.modeId
    | none => s'.screen.currentMode = cs.modeId
  | .position =>
    match s'.qscreen with
    | some q' => ∀ q, s.qscreen = some q → Moved q q' cs
    | none => s'.screen.position = cs.position

/-- `modeId` is the index of a mode of the screen. -/
def ValidMode (s : Screen) (modeId : Int) : Prop := 0 ≤ modeId ∧ modeId < s.modes.length

/-- The call from `s` to `s'` that returned `ok` did what it is meant to do. -/
structure Applied (s : BackedScreen) (cs live : OutputChangeset) (s' : BackedScreen) (ok : Bool) :
    Prop where
  mode : s'.screen.currentMode = s.screen.currentMode ∨ ValidMode s'.screen s'.screen.currentMode
  accepted : ok = true → ∀ a, cs.isChanged live a = true → Accepted s s' cs a
  unchanged : ok = false → s'.screen = s.screen

/-- The platform screen takes the mode: a KMS screen if the mode exists and no
other one is pending. -/
def CanTake (p : PlatformScreen) (modeId : Int) : Prop :=
  match p with
  | .eglfs (.base _ _) => modeId = 0
  | .eglfs (.kms screen _) =>
    (0 ≤ modeId ∧ modeId < screen.output.modes.length) ∧
      (screen.pendingMode < 0 ∨ screen.pendingMode = modeId)
  | .foreign => False

/-- The changesets that are applied as they are meant to be. -/
def ApplyOk (s : BackedScreen) (cs live : OutputChangeset) : Prop :=
  match s.qscreen with
  | some q => ∀ p, q.handle = some p →
      cs.isPrimaryChanged live = false ∧
        (cs.isModeIdChanged live = true → CanTake p cs.modeId) ∧
        (cs.isPositionChanged live = true → q.geometry.topLeft = cs.position) ∧
        (cs.isTransformChanged live = true → s.screen.transform = cs.transform) ∧
        (cs.isScaleFactorChanged live = true → s.screen.scaleFactor = cs.scaleFactor)
  | none =>
    cs.isPrimaryChanged live = false ∧
      (cs.isModeIdChanged live = true →
        cs.modeId = s.screen.currentMode ∨ ValidMode s.screen cs.modeId)

end BackedScreen

/-! ## The setters -/

namespace Screen

/-- A setter stores its value; what it emits depends on the value there was. -/
theorem change_eq {β : Type} [DecidableEq β] {s stored : Screen} {old new : β} (signal : ScreenSignal)
    (hsame : old = new → s = { stored with signals := s.signals }) :
    ∃ g, s.change old new stored signal = { stored with signals := g } := by
  unfold change
  split
  · next h => exact ⟨s.signals, hsame h⟩
  · exact ⟨_, rfl⟩

theorem setTransform_if (s : Screen) (c : Bool) (transform : Transform) :
    ∃ g, (if c then s.setTransform transform else s) =
      { s with transform := if c then transform else s.transform, signals := g } := by
  cases c with
  | false => exact ⟨s.signals, rfl⟩
  | true => exact change_eq _ (by rintro rfl; rfl)

theorem setCurrentMode_if (s : Screen) (c : Bool) (modeId : Int) :
    ∃ g, (if c then s.setCurrentMode modeId else s) =
      { s with currentMode := if c then modeId else s.currentMode, signals := g } := by
  cases c with
  | false => exact ⟨s.signals, rfl⟩
  | true => exact change_eq _ (by rintro rfl; rfl)

theorem setPosition_if (s : Screen) (c : Bool) (pos : QPoint) :
    ∃ g, (if c then s.setPosition pos else s) =
      { s with position := if c then pos else s.position, signals := g } := by
  cases c with
  | false => exact ⟨s.signals, rfl⟩
  | true => exact change_eq _ (by rintro rfl; rfl)

theorem setScaleFactor_if (s : Screen) (c : Bool) (scale : Int) :
    ∃ g, (if c then s.setScaleFactor scale else s) =
      { s with scaleFactor := if c then scale else s.scaleFactor, signals := g } := by
  cases c with
  | false => exact ⟨s.signals, rfl⟩
  | true => exact change_eq _ (by rintro rfl; rfl)

end Screen

namespace BackedScreen

open Screen

/-! ## Fake screens -/

/-- What a fake screen has after a changeset. -/
theorem applyFake_eq (s : Screen) (cs live : OutputChangeset) :
    ∃ g, applyFake s cs live =
      { s with
        transform := if cs.isTransformChanged live then cs.transform else s.transform
        currentMode := if cs.isModeIdChanged live then cs.modeId else s.currentMode
        position := if cs.isPositionChanged live then cs.position else s.position
        scaleFactor := if cs.isScaleFactorChanged live then cs.scaleFactor else s.scaleFactor
        signals := g } := by
  unfold applyFake
  dsimp only
  obtain ⟨g₁, h₁⟩ := s.setTransform_if (cs.isTransformChanged live) cs.transform
  rw [h₁]
  obtain ⟨g₂, h₂⟩ := setCurrentMode_if _ (cs.isModeIdChanged live) cs.modeId
  rw [h₂]
  obtain ⟨g₃, h₃⟩ := setPosition_if _ (cs.isPositionChanged live) cs.position
  rw [h₃]
  exact setScaleFactor_if _ (cs.isScaleFactorChanged live) cs.scaleFactor

/-- **A fake screen.**  The changeset is applied as meant exactly if it leaves
the primary attribute alone and asks for a mode that the screen has. -/
theorem applied_fake_iff (screen : Screen) (cs live : OutputChangeset) :
    Applied ⟨screen, none⟩ cs live ⟨applyFake screen cs live, none⟩ true ↔
      ApplyOk ⟨screen, none⟩ cs live := by
  obtain ⟨g, hg⟩ := applyFake_eq screen cs live
  rw [hg]
  constructor
  · rintro ⟨hmode, haccepted, -⟩
    refine ⟨?_, fun hm => ?_⟩
    · rcases hp : cs.isPrimaryChanged live with _ | _
      · rfl
      · exact (haccepted rfl .primary hp).elim
    · dsimp only at hmode
      rw [if_pos hm] at hmode
      exact hmode
  · rintro ⟨hprimary, hm⟩
    refine ⟨?_, fun _ a ha => ?_, by rintro ⟨⟩⟩
    · dsimp only
      split
      · next h => exact hm h
      · exact Or.inl rfl
    · cases a with
      | enabled => cases ha
      | primary => exact absurd ha (by simp [OutputChangeset.isChanged, hprimary])
      | modeId => exact if_pos ha
      | transform => exact if_pos ha
      | position => exact if_pos ha
      | scaleFactor => exact if_pos ha

/-! ## Native screens -/

/-- A KMS screen takes a mode that exists while no other one is pending. -/
theorem kms_takes_iff (screen : Kms.Screen) (edid : Edid) (modeId : Int) :
    Takes (.eglfs (.kms (screen.setCurrentMode modeId) edid)) modeId ↔
      CanTake (.eglfs (.kms screen edid)) modeId := by
  show (_ ∧ modeId < (screen.setCurrentMode modeId).output.modes.length) ∧
      (screen.setCurrentMode modeId).pendingMode = modeId ↔
    (_ ∧ modeId < screen.output.modes.length) ∧ (screen.pendingMode < 0 ∨ screen.pendingMode = modeId)
  unfold Kms.Screen.setCurrentMode
  split
  · next hout =>
    refine iff_of_false (fun h => ?_) (fun h => ?_)
    · have := h.1
      omega
    · have := h.1
      omega
  · next hin =>
    have hvalid : 0 ≤ modeId ∧ modeId < screen.output.modes.length := by omega
    split
    · next hpending =>
      refine and_congr_right fun _ => ⟨Or.inr, fun h => ?_⟩
      rcases h with h | h
      · omega
      · exact h
    · next hpending =>
      exact iff_of_true ⟨hvalid, rfl⟩ ⟨hvalid, Or.inl (by omega)⟩

/-- The platform screen takes the mode it is asked for if and only if it can. -/
theorem setPlatformMode_takes_iff (p : PlatformScreen) (modeId : Int) :
    (∃ p', setPlatformMode p modeId = some p' ∧ Takes p' modeId) ↔ CanTake p modeId := by
  match p with
  | .foreign => exact iff_of_false (by rintro ⟨p', h, -⟩; cases h) id
  | .eglfs (.base geometry rate) =>
    constructor
    · rintro ⟨p', h, ht⟩
      obtain rfl := Option.some.inj h
      exact ht
    · exact fun h => ⟨_, rfl, h⟩
  | .eglfs (.kms screen edid) =>
    rw [← kms_takes_iff]
    constructor
    · rintro ⟨p', h, ht⟩
      obtain rfl := Option.some.inj h
      exact ht
    · exact fun h => ⟨_, rfl, h⟩

/-- **A native screen.**  The changeset is applied as meant exactly if it leaves
the primary attribute alone, asks for a mode that the platform screen takes, for
the place where the `QScreen` is, and for no other transform and scale factor than
the screen has. -/
theorem applied_native_iff (screen : Screen) (q : QScreen) {p : PlatformScreen}
    (hp : q.handle = some p) (cs live : OutputChangeset) :
    (∃ q', applyNative q p cs live = some q' ∧
        Applied ⟨screen, some q⟩ cs live ⟨screen, some q'⟩ true) ↔
      ApplyOk ⟨screen, some q⟩ cs live := by
  constructor
  · rintro ⟨q', hq', -, haccepted, -⟩ p₀ hp₀
    obtain rfl : p = p₀ := Option.some.inj (hp.symm.trans hp₀)
    refine ⟨?_, fun hm => ?_, fun hpos => ?_, haccepted rfl .transform, haccepted rfl .scaleFactor⟩
    · rcases hprimary : cs.isPrimaryChanged live with _ | _
      · rfl
      · exact (haccepted rfl .primary hprimary).elim
    · unfold applyNative at hq'
      rw [if_pos hm] at hq'
      obtain ⟨p', hset, rfl⟩ := Option.map_eq_some_iff.1 hq'
      obtain ⟨p'', hp'', ht⟩ := haccepted rfl .modeId hm
      obtain rfl := Option.some.inj hp''
      exact (setPlatformMode_takes_iff p cs.modeId).1 ⟨_, hset, ht⟩
    · obtain ⟨p', -, rfl⟩ := Option.map_eq_some_iff.1 hq'
      obtain ⟨-, hsize⟩ := haccepted rfl .position hpos q rfl
      have hgeometry : (updated q cs live p').geometry = q.geometry.setTopLeft cs.position :=
        if_pos hpos
      rw [hgeometry] at hsize
      exact (q.geometry.size_setTopLeft_iff cs.position).1 hsize
  · intro hok
    obtain ⟨hprimary, hm, hposition, htransform, hscale⟩ := hok p hp
    have hset : ∃ p', (if cs.isModeIdChanged live then setPlatformMode p cs.modeId else some p) =
        some p' ∧ (cs.isModeIdChanged live = true → Takes p' cs.modeId) := by
      split
      · next h =>
        obtain ⟨p', hp', ht⟩ := (setPlatformMode_takes_iff p cs.modeId).2 (hm h)
        exact ⟨p', hp', fun _ => ht⟩
      · next h => exact ⟨p, rfl, fun h' => absurd h' h⟩
    obtain ⟨p', hp', htakes⟩ := hset
    have heq := congrArg (Option.map (updated q cs live)) hp'
    refine ⟨_, heq, ⟨Or.inl rfl, fun _ a ha => ?_, by rintro ⟨⟩⟩⟩
    · cases a with
      | enabled => cases ha
      | primary => exact absurd ha (by simp [OutputChangeset.isChanged, hprimary])
      | modeId => exact ⟨p', rfl, htakes ha⟩
      | transform => exact htransform ha
      | position =>
        have hpos : cs.isPositionChanged live = true := ha
        have hgeometry : (updated q cs live p').geometry = q.geometry.setTopLeft cs.position :=
          if_pos hpos
        intro q₀ hq₀
        obtain rfl : q = q₀ := Option.some.inj hq₀
        exact ⟨congrArg QRect.topLeft hgeometry, (congrArg QRect.size hgeometry).trans
          ((q.geometry.size_setTopLeft_iff cs.position).2 (hposition hpos))⟩
      | scaleFactor => exact hscale ha

/-! ## Results -/

/-- **Changesets are applied as meant** exactly under `ApplyOk`, on every screen
and for every mode id. -/
theorem applyChangeset_iff (s : BackedScreen) (cs live : OutputChangeset) :
    (∃ s' ok, s.applyChangeset cs live = some (s', ok) ∧ Applied s cs live s' ok) ↔
      ApplyOk s cs live := by
  obtain ⟨screen, _ | q⟩ := s
  · rw [← applied_fake_iff]
    constructor
    · rintro ⟨s', ok, h, happlied⟩
      obtain ⟨rfl, rfl⟩ := Prod.mk.inj (Option.some.inj h)
      exact happlied
    · exact fun h => ⟨_, _, rfl, h⟩
  · rcases hp : q.handle with _ | p
    · refine iff_of_true ⟨⟨screen, some q⟩, false, ?_, Or.inl rfl, ?_, fun _ => rfl⟩ ?_
      · unfold applyChangeset
        simp only [hp]
      · rintro ⟨⟩
      · intro p hp'
        rw [hp] at hp'
        cases hp'
    · rw [← applied_native_iff screen q hp]
      have heq : applyChangeset ⟨screen, some q⟩ cs live =
          (applyNative q p cs live).map fun q => (⟨screen, some q⟩, true) := by
        unfold applyChangeset
        simp only [hp]
      rw [heq]
      constructor
      · rintro ⟨s', ok, h, happlied⟩
        obtain ⟨q', hq', heq'⟩ := Option.map_eq_some_iff.1 h
        obtain ⟨rfl, rfl⟩ := Prod.mk.inj heq'
        exact ⟨q', hq', happlied⟩
      · rintro ⟨q', hq', happlied⟩
        exact ⟨_, _, congrArg _ hq', happlied⟩

/-- The screen's mode can be read when an output is made for it, as long as the
screen has modes and its current one is none or one of them. -/
theorem initialMode_isSome (s : Screen) (hmodes : s.modes ≠ [])
    (h : s.currentMode < 0 ∨ ValidMode s s.currentMode) : s.initialMode.isSome := by
  have hlen := List.length_pos_of_ne_nil hmodes
  unfold Screen.initialMode
  unfold ValidMode at h
  split
  · exact Option.isSome_iff_ne_none.2 (qAt_ne_none_iff.2 (by omega))
  · exact Option.isSome_iff_ne_none.2 (qAt_ne_none_iff.2 (by omega))

/-- A fake screen with one mode. -/
def fakeScreen : Screen := { Screen.init with modes := [⟨⟨800, 600⟩, 60⟩], currentMode := 0 }

/-- The attributes of its output. -/
def fakeLive : OutputChangeset := ⟨true, true, .normal, 0, ⟨0, 0⟩, 1⟩

/-- A client asks for mode 7 of a screen with one mode: the call says that the
changeset was applied, and the screen's mode is out of range. -/
theorem stores_unknown_mode :
    ¬ ∃ s' ok, applyChangeset ⟨fakeScreen, none⟩ { fakeLive with modeId := 7 } fakeLive =
        some (s', ok) ∧ Applied ⟨fakeScreen, none⟩ { fakeLive with modeId := 7 } fakeLive s' ok := by
  rintro ⟨s', ok, h, hmode, -, -⟩
  obtain ⟨rfl, rfl⟩ := Prod.mk.inj (Option.some.inj h)
  have hvalid : (7 : Int) = 0 ∨ (0 : Int) ≤ 7 ∧ (7 : Int) < 1 := hmode
  omega

end BackedScreen

end GreenIsland.Server

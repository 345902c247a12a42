import GreenIsland.Qt.Json
import GreenIsland.Server.NativeScreenBackend

/-! The primary screen (`ScreenManager`, `FakeScreenBackend`, `NativeScreenBackend`).

The manager knows the primary screen from the signals of its backend alone.  The
fake backend makes a screen of each output in a JSON document and announces those
the document calls primary, or the first screen when there are none.  The native
backend announces the application's primary screen while it is configured, and
later on what the application announces.

What is to hold (`PrimaryOk`): without screens there is no primary screen, and
otherwise it is one of the backend's that was not deleted.  It holds at the start, and
after every notification of the application, exactly under `ConfigurationOk` and
`OpOk` (`primary_screen_iff`):

* a JSON object has to have outputs: the first of no screens is asked for otherwise;
* the first screen of the application has to be there from the start: one that is
  added later on is not announced as primary;
* a screen that is removed has to be the only one, as the loop that looks for it
  does not get past another one;
* a removed screen stays in the list, and is deleted when the event loop gets control
  (`deletions`): the primary screen must be another one by then, and after that the
  list must not be searched. -/

namespace GreenIsland.Server

/-! ## Model -/

/-- What a manager hears of its backend; a screen is told from others by its number. -/
inductive ManagerSignal
  | screenAdded (serial : Nat)
  | screenRemoved (serial : Nat)
  | primaryScreenChanged (serial : Nat)
deriving DecidableEq

structure FakeScreen where
  serial : Nat
  screen : Screen

structure FakeScreenBackend where
  screens : List FakeScreen
  /-- signals emitted so far, oldest first -/
  signals : List ManagerSignal

namespace FakeScreenBackend

open QJsonValue

def init : FakeScreenBackend := ⟨[], []⟩

def emit (b : FakeScreenBackend) (signal : ManagerSignal) : FakeScreenBackend :=
  { b with signals := b.signals ++ [signal] }

def toPoint (qt : QtNumbers) (o : QJsonObject) : QPoint :=
  ⟨variantToInt qt (o.value "x"), variantToInt qt (o.value "y")⟩

/-- A scale that is not positive is none. -/
def toScale (qt : QtNumbers) (v : Option QJsonValue) : Int :=
  let scale := variantToInt qt v
  if scale ≤ 0 then 1 else scale

def toSize (qt : QtNumbers) (o : QJsonObject) : QSize :=
  ⟨variantToInt qt (o.value "width"), variantToInt qt (o.value "height")⟩

/-- A physical size that is not given is reckoned from the mode's. -/
def toPhysicalSize (qt : QtNumbers) (o : QJsonObject) (size : QSize) : QSize :=
  let dimension := fun key => if o.contains key then variantToInt qt (o.value key) else -1
  let given : QSize := ⟨dimension "width", dimension "height"⟩
  if 0 ≤ given.width ∧ 0 ≤ given.height then given
  else ⟨qFloor (Float.ofInt size.width * 0.26458), qFloor (Float.ofInt size.height * 0.26458)⟩

/-- The orientations that turn the output, by the numbers of `Qt::ScreenOrientation`. -/
def setTransformOf (orientation : Int) (s : Screen) : Screen :=
  if orientation = 1 then s.setTransform .transform90
  else if orientation = 8 then s.setTransform .transform180
  else if orientation = 4 then s.setTransform .transform270
  else s

/-- The screen that the settings of an output describe. -/
def screenOf (qt : QtNumbers) (settings : QJsonObject) : Screen :=
  let modeValue := toObject (settings.value "mode")
  let size := toSize qt (toObject (modeValue.value "size"))
  let refreshRate := variantToInt qt (modeValue.value "refreshRate")
  let physicalSize := toPhysicalSize qt (toObject (settings.value "physicalSize")) size
  let s : Screen :=
    { Screen.init with
      manufacturer := "Green Island"
      model := variantToString qt (settings.value "name") }
  let s := if 0 ≤ physicalSize.width ∧ 0 ≤ physicalSize.height then
      s.setPhysicalSize physicalSize.toSizeF
    else s
  let s := s.setPosition (toPoint qt (toObject (settings.value "position")))
  let s := s.setSize size
  let s := s.setRefreshRate refreshRate
  let s := s.setScaleFactor (toScale qt (settings.value "scale"))
  let s := s.setModes [⟨size, Float.ofInt refreshRate / 1000⟩]
  setTransformOf (variantToInt qt (settings.value "orientation")) s

def append (b : FakeScreenBackend) (screen : Screen) : FakeScreenBackend :=
  ({ b with screens := b.screens ++ [⟨b.screens.length, screen⟩] } : FakeScreenBackend).emit
    (.screenAdded b.screens.length)

/-- The body of the loop over the outputs; the flag is `primarySet`. -/
def addOutput (qt : QtNumbers) (b : FakeScreenBackend × Bool) (output : QJsonValue) :
    FakeScreenBackend × Bool :=
  let settings := toObject (some output)
  let added := b.1.append (screenOf qt settings)
  if variantToBool (settings.value "primary") then
    (added.emit (.primaryScreenChanged b.1.screens.length), true)
  else (added, b.2)

def outputs (o : QJsonObject) : List QJsonValue := toArray (o.value "outputs")

/-- `acquireConfiguration`; the document is `none` when the file cannot be opened.
The result is `none` when the first of no screens is asked for. -/
def acquireConfiguration (qt : QtNumbers) (b : FakeScreenBackend) (document : Option QJsonDocument) :
    Option FakeScreenBackend :=
  match document with
  | some (.object o) =>
    let added := (outputs o).foldl (addOutput qt) (b, false)
    if added.2 then some added.1
    else added.1.screens[0]?.map fun screen => added.1.emit (.primaryScreenChanged screen.serial)
  | _ => some b

end FakeScreenBackend

/-- What the manager hears of a native backend's signal. -/
def BackendSignal.heard {κ : Type} : BackendSignal κ → ManagerSignal
  | .screenAdded screen => .screenAdded screen.serial
  | .screenRemoved screen => .screenRemoved screen.serial
  | .primaryScreenChanged screen => .primaryScreenChanged screen.serial

/-- The first screen of `q`; `none` if one that was deleted is read on the way. -/
def NativeScreenBackend.lookUp {κ : Type} [DecidableEq κ] (freed : List Nat) (q : κ) :
    List (NativeScreen κ) → Option (Option (NativeScreen κ))
  | [] => some none
  | screen :: screens =>
    if screen.serial ∈ freed then none
    else if screen.qscreen = q then some (some screen)
    else lookUp freed q screens

/-- `acquireConfiguration`'s slot for the application's `primaryScreenChanged`. -/
def NativeScreenBackend.handlePrimaryScreenChanged {κ : Type} [DecidableEq κ] (freed : List Nat)
    (b : NativeScreenBackend κ) (q : κ) : Option (NativeScreenBackend κ) :=
  (lookUp freed q b.screens).map fun
    | some screen => b.emit (.primaryScreenChanged screen)
    | none => b

/-- The backend that the manager was made with. -/
inductive ScreenBackend (κ : Type)
  | fake (b : FakeScreenBackend)
  | native (app : QGuiApplication κ) (b : NativeScreenBackend κ)

namespace ScreenBackend

variable {κ : Type}

/-- The numbers of the backend's `screens()`. -/
def screens : ScreenBackend κ → List Nat
  | .fake b => b.screens.map (·.serial)
  | .native _ b => b.screens.map (·.serial)

def signals : ScreenBackend κ → List ManagerSignal
  | .fake b => b.signals
  | .native _ b => b.signals.map BackendSignal.heard

end ScreenBackend

/-- The manager's slot for `primaryScreenChanged`. -/
def ManagerSignal.setPrimary (primaryScreen : Option Nat) : ManagerSignal → Option Nat
  | .primaryScreenChanged serial => some serial
  | _ => primaryScreen

/-- The manager's primary screen after some signals. -/
def primaryAfter (signals : List ManagerSignal) : Option Nat :=
  signals.foldl ManagerSignal.setPrimary none

structure ScreenManager (κ : Type) where
  backend : ScreenBackend κ
  /-- the screens that were deleted -/
  freed : List Nat

/-- What a manager is configured with. -/
inductive ScreenConfiguration (κ : Type)
  /-- the document of the file, `none` if that cannot be opened -/
  | fake (document : Option QJsonDocument)
  /-- the application's screens -/
  | native (app : QGuiApplication κ) (initial : List κ)

/-- What the application tells a native backend. -/
inductive ScreenOp (κ : Type)
  | screenAdded (q : κ)
  | screenRemoved (q : κ)
  | primaryScreenChanged (q : κ)
  /-- the event loop deletes what was handed to `deleteLater` -/
  | deletions

namespace ScreenManager

variable {κ : Type}

/-- `primaryScreen()`: the manager was connected before the first signal. -/
def primaryScreen (m : ScreenManager κ) : Option Nat :=
  primaryAfter m.backend.signals

variable [DecidableEq κ]

/-- `create`, which asks the backend for its configuration. -/
def create (qt : QJsonValue.QtNumbers) : ScreenConfiguration κ → Option (ScreenManager κ)
  | .fake document =>
    (FakeScreenBackend.init.acquireConfiguration qt document).map fun b => ⟨.fake b, []⟩
  | .native app initial =>
    (NativeScreenBackend.acquireConfiguration app initial).map fun b => ⟨.native app b, []⟩

/-- A fake backend is not connected to the application.  The loop of
`handleScreenRemoved` does not end before it has come to all screens. -/
def step (m : ScreenManager κ) (op : ScreenOp κ) : Option (ScreenManager κ) :=
  match m.backend with
  | .fake _ => some m
  | .native app b =>
    match op with
    | .screenAdded q => (b.handleScreenAdded app q).map fun b => { m with backend := .native app b }
    | .screenRemoved q =>
      if ∃ screen ∈ b.screens, screen.serial ∈ m.freed then none
      else (b.handleScreenRemoved q).map fun b => { m with backend := .native app b }
    | .primaryScreenChanged q =>
      (b.handlePrimaryScreenChanged m.freed q).map fun b => { m with backend := .native app b }
    | .deletions => some { m with freed := b.deleted.map (·.serial) }

end ScreenManager

/-! ## What is to hold -/

/-- No screen is primary when there are none, and one of them otherwise, which was not
deleted. -/
def PrimaryAmong (screens freed : List Nat) (primaryScreen : Option Nat) : Prop :=
  if screens = [] then primaryScreen = none
  else ∃ screen ∈ screens, primaryScreen = some screen ∧ screen ∉ freed

namespace ScreenManager

variable {κ : Type}

def PrimaryOk (m : ScreenManager κ) : Prop :=
  PrimaryAmong m.backend.screens m.freed m.primaryScreen

/-- The configurations after which that is so. -/
def ConfigurationOk : ScreenConfiguration κ → Prop
  | .fake document => ∀ o, document = some (.object o) → FakeScreenBackend.outputs o ≠ []
  | .native app initial => initial ≠ [] → ∃ q ∈ initial, app.primaryScreen = some q

/-- **The notifications after which that is so.** -/
def OpOk (m : ScreenManager κ) (op : ScreenOp κ) : Prop :=
  match m.backend with
  | .fake _ => True
  | .native _ b =>
    match op with
    | .screenAdded _ => b.screens ≠ []
    | .screenRemoved q => m.freed = [] ∧ ∀ screen ∈ b.screens, screen.qscreen = q
    | .primaryScreenChanged _ => m.freed = []
    | .deletions => ∀ screen ∈ b.deleted, m.primaryScreen ≠ some screen.serial

end ScreenManager

/-! ## Signals -/

theorem primaryAfter_append (signals : List ManagerSignal) (signal : ManagerSignal) :
    primaryAfter (signals ++ [signal]) = signal.setPrimary (primaryAfter signals) := by
  unfold primaryAfter
  rw [List.foldl_append]
  rfl

theorem primaryAmong_of_mem {screens freed : List Nat} {screen : Nat} (h : screen ∈ screens)
    (hfreed : screen ∉ freed) : PrimaryAmong screens freed (some screen) := by
  unfold PrimaryAmong
  rw [if_neg (List.ne_nil_of_mem h)]
  exact ⟨screen, h, rfl, hfreed⟩

/-- A new screen that is not announced as primary. -/
theorem primaryAmong_append {screens freed : List Nat} {primaryScreen : Option Nat}
    (h : PrimaryAmong screens freed primaryScreen) (screen : Nat) :
    PrimaryAmong (screens ++ [screen]) freed primaryScreen ↔ screens ≠ [] := by
  unfold PrimaryAmong at h ⊢
  rw [if_neg (List.append_ne_nil_of_right_ne_nil _ (List.cons_ne_nil _ _))]
  by_cases hnil : screens = []
  · rw [if_pos hnil] at h
    refine iff_of_false ?_ (not_not.2 hnil)
    rintro ⟨_, -, heq, -⟩
    rw [h] at heq
    cases heq
  · rw [if_neg hnil] at h
    obtain ⟨primary, hmem, heq⟩ := h
    exact iff_of_true ⟨primary, List.mem_append_left _ hmem, heq⟩ hnil

/-- Screens are deleted while there is a primary one. -/
theorem primaryAmong_freed {screens freed : List Nat} {primaryScreen : Option Nat}
    (h : PrimaryAmong screens freed primaryScreen) (freed' : List Nat) :
    PrimaryAmong screens freed' primaryScreen ↔ ∀ screen ∈ freed', primaryScreen ≠ some screen := by
  unfold PrimaryAmong at h ⊢
  by_cases hnil : screens = []
  · rw [if_pos hnil] at h ⊢
    rw [h]
    exact iff_of_true rfl fun _ _ => nofun
  · rw [if_neg hnil] at h ⊢
    obtain ⟨primary, hmem, rfl, -⟩ := h
    constructor
    · rintro ⟨screen, -, heq, hlive⟩ other hother hsame
      obtain rfl := Option.some.inj heq
      obtain rfl := Option.some.inj hsame
      exact hlive hother
    · exact fun hall => ⟨primary, hmem, rfl, fun hfreed => hall primary hfreed rfl⟩

/-! ## The fake backend -/

namespace FakeScreenBackend

open QJsonValue

variable {qt : QtNumbers} {b : FakeScreenBackend}

/-- The primary screen that the backend announced. -/
def primary (b : FakeScreenBackend) : Option Nat := primaryAfter b.signals

/-- The loop invariant; `n` outputs were read. -/
structure Added (b : FakeScreenBackend) (primarySet : Bool) (n : Nat) : Prop where
  length : b.screens.length = n
  announced : primarySet = true → ∃ screen ∈ b.screens, b.primary = some screen.serial
  unannounced : primarySet = false → b.primary = none

theorem added_append (screen : Screen) : (b.append screen).primary = b.primary :=
  primaryAfter_append b.signals _

theorem Added.addOutput {primarySet : Bool} {n : Nat} (h : Added b primarySet n) (output : QJsonValue) :
    Added (addOutput qt (b, primarySet) output).1 (addOutput qt (b, primarySet) output).2 (n + 1) := by
  have hlength : ∀ screen, (b.append screen).screens.length = n + 1 := fun screen => by
    show (b.screens ++ _).length = _
    rw [List.length_append, h.length]
    rfl
  unfold FakeScreenBackend.addOutput
  dsimp only
  split
  · refine ⟨hlength _, fun _ => ?_, nofun⟩
    refine ⟨_, List.mem_append_right _ (List.mem_singleton_self _), ?_⟩
    exact primaryAfter_append _ _
  · refine ⟨hlength _, fun hset => ?_, fun hset => (added_append _).trans (h.unannounced hset)⟩
    obtain ⟨screen, hmem, heq⟩ := h.announced hset
    exact ⟨screen, List.mem_append_left _ hmem, (added_append _).trans heq⟩

theorem Added.foldl (outputs : List QJsonValue) {primarySet : Bool} {n : Nat}
    (h : Added b primarySet n) :
    Added (outputs.foldl (FakeScreenBackend.addOutput qt) (b, primarySet)).1
      (outputs.foldl (FakeScreenBackend.addOutput qt) (b, primarySet)).2 (n + outputs.length) := by
  induction outputs generalizing b primarySet n with
  | nil => exact h
  | cons output outputs ih =>
    rw [List.length_cons, Nat.add_comm outputs.length, ← Nat.add_assoc]
    exact ih (h.addOutput output)

/-- **The fake backend's configuration.**  Without outputs in the object there is no
first screen; otherwise one of the screens is primary. -/
theorem acquireConfiguration_spec (qt : QtNumbers) (document : Option QJsonDocument) :
    (∃ b, init.acquireConfiguration qt document = some b ∧
        PrimaryAmong (b.screens.map (·.serial)) [] b.primary) ↔
      ∀ o, document = some (.object o) → outputs o ≠ [] := by
  unfold acquireConfiguration
  split
  next o =>
    have hadded : Added init false 0 := ⟨rfl, nofun, fun _ => rfl⟩
    have hloop : Added ((outputs o).foldl (addOutput qt) (init, false)).1
        ((outputs o).foldl (addOutput qt) (init, false)).2 (0 + (outputs o).length) :=
      hadded.foldl (outputs o)
    dsimp only
    generalize (outputs o).foldl (addOutput qt) (init, false) = r at hloop
    obtain ⟨b, primarySet⟩ := r
    rw [Nat.zero_add] at hloop
    have hnonempty : (∀ o', some (QJsonDocument.object o) = some (.object o') → outputs o' ≠ []) ↔
        b.screens ≠ [] := by
      rw [← List.length_pos_iff, hloop.length, List.length_pos_iff]
      exact ⟨fun h => h o rfl, fun h o' ho => by cases ho; exact h⟩
    rw [hnonempty]
    cases primarySet with
    | true =>
      obtain ⟨screen, hmem, heq⟩ := hloop.announced rfl
      refine iff_of_true ⟨b, rfl, ?_⟩ (List.ne_nil_of_mem hmem)
      rw [heq]
      exact primaryAmong_of_mem (List.mem_map_of_mem hmem) List.not_mem_nil
    | false =>
      cases hscreens : b.screens with
      | nil => simp
      | cons screen rest =>
        refine iff_of_true ⟨b.emit (.primaryScreenChanged screen.serial), by simp, ?_⟩
          (List.cons_ne_nil _ _)
        have hprimary : (b.emit (.primaryScreenChanged screen.serial)).primary =
            some screen.serial := primaryAfter_append _ _
        rw [hprimary]
        refine primaryAmong_of_mem (List.mem_map_of_mem ?_) List.not_mem_nil
        show screen ∈ b.screens
        rw [hscreens]
        exact List.mem_cons_self
  next hnot =>
    refine iff_of_true ⟨init, rfl, rfl⟩ fun o ho => ?_
    exact absurd ho (hnot o)

end FakeScreenBackend

/-! ## The native backend -/

namespace NativeScreenBackend

variable {κ : Type} {b : NativeScreenBackend κ} {q : κ}

/-- The primary screen that the backend announced. -/
def primary (b : NativeScreenBackend κ) : Option Nat :=
  primaryAfter (b.signals.map BackendSignal.heard)

theorem primary_emit (b : NativeScreenBackend κ) (signal : BackendSignal κ) :
    (b.emit signal).primary = signal.heard.setPrimary b.primary := by
  unfold primary emit
  dsimp only
  rw [List.map_append, List.map_singleton, primaryAfter_append]

/-- Removals do not mention the primary screen. -/
theorem primary_removeAll (b : NativeScreenBackend κ) (l : List (NativeScreen κ)) :
    (b.removeAll l).primary = b.primary := by
  have hremoved : ∀ (l : List (NativeScreen κ)) (p : Option Nat),
      (l.map fun screen => ManagerSignal.screenRemoved screen.serial).foldl
        ManagerSignal.setPrimary p = p := by
    intro l
    induction l with
    | nil => exact fun _ => rfl
    | cons screen l ih => exact fun p => ih p
  unfold primary primaryAfter removeAll
  dsimp only
  rw [List.map_append, List.foldl_append, List.map_map]
  exact hremoved l _

variable [DecidableEq κ]

/-- What is announced with a new screen. -/
theorem handleScreenAdded_eq (app : QGuiApplication κ) (b : NativeScreenBackend κ) (q : κ) :
    ∃ screen : NativeScreen κ, screen.serial = b.created ∧ screen.qscreen = q ∧
      b.handleScreenAdded app q =
        some (if b.initialized = false ∧ app.primaryScreen = some q then
          (b.append screen).emit (.primaryScreenChanged screen) else b.append screen) := by
  obtain ⟨e, -, he, -⟩ := handleScreenChanged_returns app q Screen.init
  obtain ⟨-, data, -, hdata⟩ :=
    handleScreenChanged_returns app q (describe e (app.qscreens q) Screen.init)
  refine ⟨⟨b.created, q, data⟩, rfl, rfl, ?_⟩
  unfold handleScreenAdded
  rw [he]
  simp only [Option.bind_eq_bind, Option.bind_some, hdata]
  rfl

/-- What is known of a backend while it is configured: a screen of the application's
primary one, if that is among those added, is primary. -/
structure Configuring (app : QGuiApplication κ) (b : NativeScreenBackend κ) : Prop where
  initialized : b.initialized = false
  deleted : b.deleted = []
  announced : (∃ screen ∈ b.screens, app.primaryScreen = some screen.qscreen) →
    ∃ screen ∈ b.screens, b.primary = some screen.serial
  unannounced : (¬ ∃ screen ∈ b.screens, app.primaryScreen = some screen.qscreen) → b.primary = none

theorem Configuring.handleScreenAdded {app : QGuiApplication κ} (h : Configuring app b) (q : κ) :
    ∃ b', b.handleScreenAdded app q = some b' ∧ Configuring app b' ∧
      b'.screens.map (·.qscreen) = b.screens.map (·.qscreen) ++ [q] := by
  obtain ⟨screen, -, rfl, hadded⟩ := handleScreenAdded_eq app b q
  refine ⟨_, hadded, ?_⟩
  by_cases hprimary : app.primaryScreen = some screen.qscreen
  · rw [if_pos ⟨h.initialized, hprimary⟩]
    refine ⟨⟨h.initialized, h.deleted, fun _ => ?_, fun hnot => ?_⟩, List.map_append⟩
    · refine ⟨screen, List.mem_append_right _ (List.mem_singleton_self _), ?_⟩
      exact primary_emit _ _
    · exact absurd ⟨screen, List.mem_append_right _ (List.mem_singleton_self _), hprimary⟩ hnot
  · rw [if_neg fun hc => hprimary hc.2]
    have hsame : (b.append screen).primary = b.primary := primary_emit _ _
    have hmem : (∃ s ∈ (b.append screen).screens, app.primaryScreen = some s.qscreen) ↔
        ∃ s ∈ b.screens, app.primaryScreen = some s.qscreen := by
      show (∃ s ∈ b.screens ++ [screen], _) ↔ _
      simp [hprimary]
    refine ⟨⟨h.initialized, h.deleted, fun hex => ?_, fun hnot => ?_⟩, List.map_append⟩
    · obtain ⟨s, hs, heq⟩ := h.announced (hmem.1 hex)
      exact ⟨s, List.mem_append_left _ hs, hsame.trans heq⟩
    · exact hsame.trans (h.unannounced (mt hmem.2 hnot))

theorem Configuring.addAll {app : QGuiApplication κ} (h : Configuring app b) (qs : List κ) :
    ∃ b', addAll app b qs = some b' ∧ Configuring app b' ∧
      b'.screens.map (·.qscreen) = b.screens.map (·.qscreen) ++ qs := by
  induction qs generalizing b with
  | nil => exact ⟨b, rfl, h, (List.append_nil _).symm⟩
  | cons q qs ih =>
    obtain ⟨b₁, h₁, hc₁, hscreens₁⟩ := h.handleScreenAdded q
    obtain ⟨b₂, h₂, hc₂, hscreens₂⟩ := ih hc₁
    refine ⟨b₂, ?_, hc₂, ?_⟩
    · unfold NativeScreenBackend.addAll
      rw [h₁]
      exact h₂
    · rw [hscreens₂, hscreens₁, List.append_assoc]
      rfl

/-- **The native backend's configuration.** -/
theorem acquireConfiguration_spec (app : QGuiApplication κ) (initial : List κ) :
    ∃ b, acquireConfiguration app initial = some b ∧ b.initialized = true ∧ b.deleted = [] ∧
      (PrimaryAmong (b.screens.map (·.serial)) [] b.primary ↔
        (initial ≠ [] → ∃ q ∈ initial, app.primaryScreen = some q)) := by
  have hinit : Configuring app (init : NativeScreenBackend κ) := by
    refine ⟨rfl, rfl, ?_, fun _ => rfl⟩
    rintro ⟨_, hmem, -⟩
    cases hmem
  obtain ⟨b, hb, hc, hscreens⟩ := hinit.addAll initial
  refine ⟨{ b with initialized := true }, congrArg _ hb, rfl, hc.deleted, ?_⟩
  have hprimary : (∃ screen ∈ b.screens, app.primaryScreen = some screen.qscreen) ↔
      ∃ q ∈ initial, app.primaryScreen = some q := by
    rw [show initial = b.screens.map (·.qscreen) from hscreens.symm]
    simp
  have hnil : b.screens.map (·.serial) = [] ↔ initial = [] := by
    rw [show initial = b.screens.map (·.qscreen) from hscreens.symm, List.map_eq_nil_iff,
      List.map_eq_nil_iff]
  show PrimaryAmong (b.screens.map (·.serial)) [] b.primary ↔ _
  by_cases hex : ∃ q ∈ initial, app.primaryScreen = some q
  · obtain ⟨screen, hmem, heq⟩ := hc.announced (hprimary.2 hex)
    refine iff_of_true ?_ fun _ => hex
    rw [heq]
    exact primaryAmong_of_mem (List.mem_map_of_mem hmem) List.not_mem_nil
  · have hnone := hc.unannounced (mt hprimary.1 hex)
    unfold PrimaryAmong
    rw [hnone]
    by_cases hinitial : initial = []
    · rw [if_pos (hnil.2 hinitial)]
      exact iff_of_true rfl fun hne => absurd hinitial hne
    · rw [if_neg (mt hnil.1 hinitial)]
      refine iff_of_false ?_ fun himp => hex (himp hinitial)
      rintro ⟨_, -, heq, -⟩
      cases heq

/-- As long as no screen was deleted the list can be searched. -/
theorem lookUp_nil (q : κ) (screens : List (NativeScreen κ)) :
    lookUp [] q screens = some (screens.find? (·.qscreen = q)) := by
  induction screens with
  | nil => rfl
  | cons screen screens ih =>
    unfold lookUp
    rw [if_neg List.not_mem_nil, List.find?_cons]
    by_cases hq : screen.qscreen = q
    · simp [hq]
    · rw [if_neg hq, ih]
      simp [hq]

/-- What is known of a configured backend of which screens were deleted: a screen is
removed only together with all before it. -/
structure Kept (b : NativeScreenBackend κ) (freed : List Nat) : Prop where
  initialized : b.initialized = true
  deleted : b.deleted ≠ [] → ∃ first ∈ b.screens.head?, first ∈ b.deleted
  freed : freed ≠ [] → ∃ first ∈ b.screens.head?, first.serial ∈ freed

variable {freed : List Nat}

omit [DecidableEq κ] in
theorem Kept.append (h : Kept b freed) (screen : NativeScreen κ) : Kept (b.append screen) freed := by
  have hhead : ∀ first ∈ b.screens.head?, first ∈ (b.append screen).screens.head? := by
    intro first hfirst
    show first ∈ (b.screens ++ [screen]).head?
    rw [List.head?_append, Option.mem_def.1 hfirst]
    rfl
  refine ⟨h.initialized, fun hne => ?_, fun hne => ?_⟩
  · obtain ⟨first, hfirst, hmem⟩ := h.deleted hne
    exact ⟨first, hhead first hfirst, hmem⟩
  · obtain ⟨first, hfirst, hmem⟩ := h.freed hne
    exact ⟨first, hhead first hfirst, hmem⟩

omit [DecidableEq κ] in
/-- All screens are handed to `deleteLater`. -/
theorem Kept.removeAll (h : Kept b freed) : Kept (b.removeAll b.screens) freed := by
  refine ⟨h.initialized, fun hne => ?_, h.freed⟩
  show ∃ first ∈ b.screens.head?, first ∈ b.deleted ++ b.screens
  cases hscreens : b.screens with
  | nil =>
    have hdeleted : b.deleted ≠ [] := by
      intro hnil
      refine hne ?_
      show b.deleted ++ b.screens = []
      rw [hnil, hscreens]
      rfl
    obtain ⟨first, hfirst, -⟩ := h.deleted hdeleted
    rw [hscreens] at hfirst
    cases hfirst
  | cons first rest => exact ⟨first, rfl, List.mem_append_right _ List.mem_cons_self⟩

omit [DecidableEq κ] in
/-- What was handed to `deleteLater` is deleted. -/
theorem Kept.deletions (h : Kept b freed) : Kept b (b.deleted.map (·.serial)) := by
  refine ⟨h.initialized, h.deleted, fun hne => ?_⟩
  obtain ⟨first, hfirst, hmem⟩ := h.deleted fun hnil => hne (List.map_eq_nil_iff.2 hnil)
  exact ⟨first, hfirst, List.mem_map_of_mem hmem⟩

/-- Once a screen was deleted a search comes to a deleted one. -/
theorem Kept.lookUp_eq_none (h : Kept b freed) (hne : freed ≠ []) (q : κ) :
    lookUp freed q b.screens = none := by
  obtain ⟨first, hfirst, hmem⟩ := h.freed hne
  obtain ⟨rest, hscreens⟩ := List.head?_eq_some_iff.1 hfirst
  rw [hscreens]
  exact if_pos hmem

end NativeScreenBackend

/-! ## Results -/

namespace ScreenManager

open NativeScreenBackend

variable {κ : Type} [DecidableEq κ]

/-- What every manager that was created keeps. -/
structure Inv (m : ScreenManager κ) : Prop where
  kept : ∀ app b, m.backend = .native app b → Kept b m.freed
  primaryOk : PrimaryOk m

/-- A manager that was just created has deleted nothing. -/
theorem inv_of_create {qt : QJsonValue.QtNumbers} {configuration : ScreenConfiguration κ}
    {m : ScreenManager κ} (hm : create qt configuration = some m) (hok : PrimaryOk m) : Inv m := by
  refine ⟨?_, hok⟩
  rintro app b hbackend
  cases configuration with
  | fake document =>
    obtain ⟨b', -, rfl⟩ := Option.map_eq_some_iff.1 hm
    cases hbackend
  | native app' initial =>
    obtain ⟨b₁, hb₁, rfl⟩ := Option.map_eq_some_iff.1 hm
    cases hbackend
    obtain ⟨b₂, hb₂, hinitialized, hdeleted, -⟩ :=
      NativeScreenBackend.acquireConfiguration_spec app initial
    obtain rfl := Option.some.inj (hb₁.symm.trans hb₂)
    exact ⟨hinitialized, fun hne => absurd hdeleted hne, fun hne => absurd rfl hne⟩

theorem create_spec (qt : QJsonValue.QtNumbers) (configuration : ScreenConfiguration κ) :
    (∃ m, create qt configuration = some m ∧ PrimaryOk m) ↔ ConfigurationOk configuration := by
  cases configuration with
  | fake document =>
    refine Iff.trans ?_ (FakeScreenBackend.acquireConfiguration_spec qt document)
    constructor
    · rintro ⟨m, hm, hok⟩
      obtain ⟨b, hb, rfl⟩ := Option.map_eq_some_iff.1 hm
      exact ⟨b, hb, hok⟩
    · rintro ⟨b, hb, hprimary⟩
      exact ⟨⟨.fake b, []⟩, congrArg (Option.map _) hb, hprimary⟩
  | native app initial =>
    obtain ⟨b, hb, -, -, hiff⟩ := NativeScreenBackend.acquireConfiguration_spec app initial
    have hcreate : create qt (.native app initial) = some ⟨.native app b, []⟩ :=
      congrArg (Option.map _) hb
    refine Iff.trans ?_ hiff
    rw [hcreate]
    constructor
    · rintro ⟨m, hm, hok⟩
      obtain rfl := Option.some.inj hm
      exact hok
    · exact fun h => ⟨_, rfl, h⟩

section
variable {app : QGuiApplication κ} {b : NativeScreenBackend κ} {freed : List Nat}

omit [DecidableEq κ] in
/-- All that is kept of a native backend. -/
theorem inv_native (hkept : Kept b freed)
    (hok : PrimaryOk (⟨.native app b, freed⟩ : ScreenManager κ)) :
    Inv (⟨.native app b, freed⟩ : ScreenManager κ) := by
  refine ⟨?_, hok⟩
  rintro _ _ heq
  cases heq
  exact hkept

/-- The backend is configured, so the screen is not announced as primary. -/
theorem decides_screenAdded (hI : Inv (⟨.native app b, freed⟩ : ScreenManager κ)) (q : κ) :
    Run.Decides step (fun _ _ m' => PrimaryOk m') OpOk Inv ⟨.native app b, freed⟩
      (.screenAdded q) := by
  have hkept : Kept b freed := hI.kept app b rfl
  have hprimary : PrimaryAmong (b.screens.map (·.serial)) freed b.primary := hI.primaryOk
  obtain ⟨screen, -, -, hadded⟩ := handleScreenAdded_eq app b q
  rw [if_neg fun hc => Bool.false_ne_true (hc.1.symm.trans hkept.initialized)] at hadded
  have hstep : step ⟨.native app b, freed⟩ (.screenAdded q) =
      some ⟨.native app (b.append screen), freed⟩ := congrArg (Option.map _) hadded
  have hiff : PrimaryOk ⟨.native app (b.append screen), freed⟩ ↔ b.screens ≠ [] := by
    show PrimaryAmong ((b.screens ++ [screen]).map (·.serial)) freed (b.append screen).primary ↔ _
    rw [List.map_append, List.map_singleton,
      show (b.append screen).primary = b.primary from primary_emit _ _,
      primaryAmong_append hprimary, ne_eq, List.map_eq_nil_iff]
  exact Or.inr ⟨_, hstep, hiff, fun hok => inv_native (hkept.append screen) (hiff.2 hok)⟩

/-- A screen that was deleted is read, unless none was. -/
theorem decides_screenRemoved (hI : Inv (⟨.native app b, freed⟩ : ScreenManager κ)) (q : κ) :
    Run.Decides step (fun _ _ m' => PrimaryOk m') OpOk Inv ⟨.native app b, freed⟩
      (.screenRemoved q) := by
  have hkept : Kept b freed := hI.kept app b rfl
  by_cases hfreed : freed = []
  swap
  · obtain ⟨first, hfirst, hmem⟩ := hkept.freed hfreed
    have hread : ∃ screen ∈ b.screens, screen.serial ∈ freed :=
      ⟨first, List.mem_of_mem_head? hfirst, hmem⟩
    exact Or.inl ⟨if_pos hread, fun hok => hfreed hok.1⟩
  subst hfreed
  have hunread : ¬ ∃ screen ∈ b.screens, screen.serial ∈ ([] : List Nat) := by
    rintro ⟨_, -, hmem⟩
    cases hmem
  have hremove : step ⟨.native app b, []⟩ (.screenRemoved q) =
      (b.handleScreenRemoved q).map fun b => ⟨.native app b, []⟩ := if_neg hunread
  by_cases hall : ∀ screen ∈ b.screens, screen.qscreen = q
  · have hremoved := handleScreenRemoved_eq_some.2 ⟨hall, rfl⟩
    rw [hremoved] at hremove
    have hok : PrimaryOk ⟨.native app (b.removeAll b.screens), []⟩ := by
      show PrimaryAmong (b.screens.map (·.serial)) [] (b.removeAll b.screens).primary
      rw [primary_removeAll]
      exact hI.primaryOk
    exact Run.decides_good hremove hok ⟨rfl, hall⟩ (inv_native hkept.removeAll hok)
  · refine Or.inl ⟨?_, fun hok => hall hok.2⟩
    have hnone : b.handleScreenRemoved q = none := by
      refine Option.eq_none_iff_forall_ne_some.2 fun b' hb' => hall ?_
      exact (handleScreenRemoved_eq_some.1 hb').1
    rw [hremove, hnone]
    rfl

theorem decides_primaryScreenChanged (hI : Inv (⟨.native app b, freed⟩ : ScreenManager κ)) (q : κ) :
    Run.Decides step (fun _ _ m' => PrimaryOk m') OpOk Inv ⟨.native app b, freed⟩
      (.primaryScreenChanged q) := by
  have hkept : Kept b freed := hI.kept app b rfl
  by_cases hfreed : freed = []
  swap
  · refine Or.inl ⟨?_, hfreed⟩
    show (b.handlePrimaryScreenChanged freed q).map _ = none
    unfold handlePrimaryScreenChanged
    rw [hkept.lookUp_eq_none hfreed]
    rfl
  subst hfreed
  have hstep : step ⟨.native app b, []⟩ (.primaryScreenChanged q) =
      (b.handlePrimaryScreenChanged [] q).map fun b => ⟨.native app b, []⟩ := rfl
  unfold handlePrimaryScreenChanged at hstep
  rw [lookUp_nil] at hstep
  cases hfind : b.screens.find? (·.qscreen = q) with
  | none =>
    rw [hfind] at hstep
    exact Run.decides_good hstep hI.primaryOk rfl hI
  | some screen =>
    rw [hfind] at hstep
    have hok : PrimaryOk ⟨.native app (b.emit (.primaryScreenChanged screen)), []⟩ := by
      show PrimaryAmong (b.screens.map (·.serial)) [] (b.emit (.primaryScreenChanged screen)).primary
      rw [primary_emit]
      have hmem := List.mem_of_find?_eq_some hfind
      exact primaryAmong_of_mem (List.mem_map_of_mem hmem) List.not_mem_nil
    have hkept' : Kept (b.emit (.primaryScreenChanged screen)) [] :=
      ⟨hkept.initialized, hkept.deleted, hkept.freed⟩
    exact Run.decides_good hstep hok rfl (inv_native hkept' hok)

/-- The primary screen must not be among those that are deleted. -/
theorem decides_deletions (hI : Inv (⟨.native app b, freed⟩ : ScreenManager κ)) :
    Run.Decides step (fun _ _ m' => PrimaryOk m') OpOk Inv ⟨.native app b, freed⟩ .deletions := by
  have hkept : Kept b freed := hI.kept app b rfl
  have hiff : PrimaryOk ⟨.native app b, b.deleted.map (·.serial)⟩ ↔
      OpOk ⟨.native app b, freed⟩ .deletions := by
    refine (primaryAmong_freed hI.primaryOk (b.deleted.map (·.serial))).trans ?_
    exact List.forall_mem_map
  exact Or.inr ⟨_, rfl, hiff, fun hok => inv_native hkept.deletions (hiff.2 hok)⟩

theorem decides_native (hI : Inv (⟨.native app b, freed⟩ : ScreenManager κ)) (op : ScreenOp κ) :
    Run.Decides step (fun _ _ m' => PrimaryOk m') OpOk Inv ⟨.native app b, freed⟩ op := by
  cases op with
  | screenAdded q => exact decides_screenAdded hI q
  | screenRemoved q => exact decides_screenRemoved hI q
  | primaryScreenChanged q => exact decides_primaryScreenChanged hI q
  | deletions => exact decides_deletions hI

end

theorem decides_step {m : ScreenManager κ} (hI : Inv m) (op : ScreenOp κ) :
    Run.Decides step (fun _ _ m' => PrimaryOk m') OpOk Inv m op := by
  obtain ⟨backend, freed⟩ := m
  cases backend with
  | fake b => exact Run.decides_good rfl hI.primaryOk trivial hI
  | native app b => exact decides_native hI op

/-- **The primary screen is one of the screens**, after the configuration and every
notification, exactly if the configuration and the notifications are of the kinds
that the backends provide for. -/
theorem primary_screen_iff (qt : QJsonValue.QtNumbers) (configuration : ScreenConfiguration κ)
    (ops : List (ScreenOp κ)) :
    (∃ m, create qt configuration = some m ∧ Run.Always step PrimaryOk m ops) ↔
      ConfigurationOk configuration ∧
        ∀ m, create qt configuration = some m → Run.Meets step OpOk m ops := by
  have hrun : ∀ m, Inv m →
      (Run.Always step PrimaryOk m ops ↔ Run.Meets step OpOk m ops) := fun m hI =>
    Run.always_iff_of_decides (fun _ op hI => decides_step hI op) ops m hI.primaryOk hI
  constructor
  · rintro ⟨m, hm, halways⟩
    refine ⟨(create_spec qt configuration).1 ⟨m, hm, halways.1⟩, fun m' hm' => ?_⟩
    obtain rfl := Option.some.inj (hm.symm.trans hm')
    exact (hrun m (inv_of_create hm halways.1)).1 halways
  · rintro ⟨hok, hmeets⟩
    obtain ⟨m, hm, hprimary⟩ := (create_spec qt configuration).2 hok
    exact ⟨m, hm, (hrun m (inv_of_create hm hprimary)).2 (hmeets m hm)⟩

/-- A JSON object without outputs: the first of no screens is asked for. -/
theorem no_outputs :
    ¬ ∃ m : ScreenManager Unit,
      create ⟨fun _ => 0, fun _ => ""⟩ (.fake (some (.object []))) = some m ∧
        Run.Always step PrimaryOk m [] := by
  rintro ⟨m, ⟨⟩, -⟩

end ScreenManager

end GreenIsland.Server

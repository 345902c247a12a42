import GreenIsland.Lib.Run
import GreenIsland.Lib.While
import GreenIsland.Server.Screen

/-! The screens of the machine (`NativeScreenBackend`).

The backend keeps a `Screen` for each `QScreen` of the application, in the order
in which they were added (`Mirrors`).  `handleScreenAdded` appends to the
backend's list.  `handleScreenRemoved` works on a copy of it: whatever it takes
out stays in the list, and its loop moves on only when it takes a screen out, so
it does not return when it meets one that stays (`handleScreenRemoved_eq_some`,
`removal_ends_iff`).

So the list mirrors the application's screens exactly as long as none is removed
(`store_mirrors_iff`).

A `Screen` object is told from others by its number (`serial`); `deleted` lists
the objects handed to `deleteLater`. -/

namespace GreenIsland.Server

/-! ## Model -/

namespace EglFSScreen

def edid : EglFSScreen → Edid
  | base _ _ => ⟨"", "", ""⟩
  | kms _ edid => edid

def preferredMode : EglFSScreen → Int
  | base _ _ => 0
  | kms screen _ => screen.output.preferredMode

end EglFSScreen

/-- The application's screens and its platform plugin. -/
structure QGuiApplication (κ : Type) where
  platformName : String
  qscreens : κ → QScreen
  primaryScreen : Option κ
  /-- every screen has a platform screen, and on greenisland it is one of the plugin -/
  backed : ∀ q, ∃ p, (qscreens q).handle = some p ∧
    (platformName = "greenisland" → ∃ e, p = .eglfs e)

/-- A `Screen` object: its number, its `m_screen` and its data. -/
structure NativeScreen (κ : Type) where
  serial : Nat
  qscreen : κ
  screen : Screen

inductive BackendSignal (κ : Type)
  | screenAdded (screen : NativeScreen κ)
  | screenRemoved (screen : NativeScreen κ)
  | primaryScreenChanged (screen : NativeScreen κ)

structure NativeScreenBackend (κ : Type) where
  screens : List (NativeScreen κ)
  initialized : Bool
  /-- the number of `Screen` objects that were created -/
  created : Nat
  deleted : List (NativeScreen κ)
  /-- signals emitted so far, oldest first -/
  signals : List (BackendSignal κ)

namespace NativeScreenBackend

/-- `static_cast<EglFSScreen *>(qscreen->handle())`, if the platform is
greenisland and there is a platform screen.  The outer `none` is a cast of
something else. -/
def eglfsScreen (platformName : String) (q : QScreen) : Option (Option EglFSScreen) :=
  if platformName = "greenisland" then
    match q.handle with
    | some (.eglfs e) => some (some e)
    | some .foreign => none
    | none => some none
  else some none

def manufacturer (e : EglFSScreen) : String :=
  if e.edid.manufacturer = "" then "Unknown" else e.edid.manufacturer

def model (e : EglFSScreen) : String :=
  if e.edid.model ≠ "" then
    if e.edid.serialNumber ≠ "" then e.edid.model ++ "/" ++ e.edid.serialNumber else e.edid.model
  else if e.edid.serialNumber ≠ "" then e.edid.serialNumber
  else "Unknown"

/-- Who made the screen. -/
def describe (e : Option EglFSScreen) (q : QScreen) (s : Screen) : Screen :=
  match e with
  | some e => { s with manufacturer := manufacturer e, model := model e }
  | none => { s with manufacturer := "Green Island", model := q.name }

/-- The modes are those of the platform screen, or one made of size and rate. -/
def setModesFrom (e : Option EglFSScreen) (s : Screen) : Screen :=
  match e with
  | some e => ((s.setModes e.modes).setCurrentMode e.currentMode).setPreferredMode e.preferredMode
  | none =>
    let mode := ⟨s.size, Float.ofInt s.refreshRate / 1000⟩
    ((s.setModes [mode]).setCurrentMode 0).setPreferredMode 0

def setTransformFrom (orientation : ScreenOrientation) (s : Screen) : Screen :=
  match orientation with
  | .portrait => s.setTransform .transform90
  | .invertedLandscape => s.setTransform .transform180
  | .invertedPortrait => s.setTransform .transform270
  | _ => s

def setSubpixelFrom (subpixel : Subpixel) (s : Screen) : Screen :=
  match subpixel with
  | .unknown => s
  | subpixel => s.setSubpixel subpixel

def handleScreenChanged (platformName : String) (q : QScreen) (s : Screen) : Option Screen := do
  let s := s.setPosition q.availableGeometry.topLeft
  let s := s.setSize q.availableGeometry.size
  let s := s.setRefreshRate (toInt (q.refreshRate * 1000))
  let s := s.setPhysicalSize q.physicalSize
  let s := s.setScaleFactor (qFloor q.devicePixelRatio)
  let e ← eglfsScreen platformName q
  let s := setTransformFrom q.orientation (setModesFrom e s)
  -- the platform screen is asked for its subpixels without a look at the pointer
  let _ ← q.handle
  return setSubpixelFrom q.subpixelHint s

variable {κ : Type} [DecidableEq κ]

def init : NativeScreenBackend κ where
  screens := []
  initialized := false
  created := 0
  deleted := []
  signals := []

def emit (b : NativeScreenBackend κ) (signal : BackendSignal κ) : NativeScreenBackend κ :=
  { b with signals := b.signals ++ [signal] }

def append (b : NativeScreenBackend κ) (screen : NativeScreen κ) : NativeScreenBackend κ :=
  { b with screens := b.screens ++ [screen], created := b.created + 1 }.emit (.screenAdded screen)

def handleScreenAdded (app : QGuiApplication κ) (b : NativeScreenBackend κ) (q : κ) :
    Option (NativeScreenBackend κ) := do
  let e ← eglfsScreen app.platformName (app.qscreens q)
  let data ← handleScreenChanged app.platformName (app.qscreens q)
    (describe e (app.qscreens q) Screen.init)
  let screen : NativeScreen κ := ⟨b.created, q, data⟩
  let b := b.append screen
  return if b.initialized = false ∧ app.primaryScreen = some q then
      b.emit (.primaryScreenChanged screen)
    else b

/-- The list that `handleScreenRemoved` goes through, from its iterator on. -/
structure Removal (κ : Type) where
  list : List (NativeScreen κ)
  backend : NativeScreenBackend κ

/-- The body of the loop: the screen is taken out of the copied list, and the
iterator moves on, only if it is the one that was removed. -/
def removalTurn (q : κ) (r : Removal κ) : Removal κ :=
  match r.list with
  | [] => r
  | screen :: rest =>
    if screen.qscreen = q then
      ⟨rest, { r.backend with deleted := r.backend.deleted ++ [screen] }.emit (.screenRemoved screen)⟩
    else r

/-- `while (it != list.end())`; `none` if the loop does not end. -/
def handleScreenRemoved (b : NativeScreenBackend κ) (q : κ) : Option (NativeScreenBackend κ) :=
  (While.run (fun r => !r.list.isEmpty) (removalTurn q) b.screens.length ⟨b.screens, b⟩).map
    (·.backend)

/-- The screens that the application has at first, one after the other. -/
def addAll (app : QGuiApplication κ) (b : NativeScreenBackend κ) :
    List κ → Option (NativeScreenBackend κ)
  | [] => some b
  | q :: qs => (handleScreenAdded app b q).bind fun b => addAll app b qs

def acquireConfiguration (app : QGuiApplication κ) (initial : List κ) :
    Option (NativeScreenBackend κ) :=
  (addAll app init initial).map fun b => { b with initialized := true }

end NativeScreenBackend

/-! ## Notifications of the application -/

/-- The backend, the application's screens in the order they were added, and the
screens that were removed. -/
structure Desktop (κ : Type) where
  backend : NativeScreenBackend κ
  live : List κ
  removed : List κ

inductive ScreenNotification (κ : Type)
  | screenAdded (q : κ)
  | screenRemoved (q : κ)

namespace Desktop

variable {κ : Type} [DecidableEq κ]

def start (app : QGuiApplication κ) (initial : List κ) : Option (Desktop κ) :=
  (NativeScreenBackend.acquireConfiguration app initial).map fun b => ⟨b, initial, []⟩

def step (app : QGuiApplication κ) (d : Desktop κ) :
    ScreenNotification κ → Option (Desktop κ)
  | .screenAdded q =>
    (d.backend.handleScreenAdded app q).map fun b => ⟨b, d.live ++ [q], d.removed⟩
  | .screenRemoved q =>
    (d.backend.handleScreenRemoved q).map fun b => ⟨b, d.live.erase q, d.removed ++ [q]⟩

end Desktop

/-- The screens that `screenRemoved` was emitted with. -/
def NativeScreenBackend.removedScreens {κ : Type} (b : NativeScreenBackend κ) :
    List (NativeScreen κ) :=
  b.signals.filterMap fun
    | .screenRemoved screen => some screen
    | _ => none

/-- The backend has one screen for each one of the application, in the order they
were added; `screenRemoved` was emitted for the removed ones, once for each, and
for none that is there. -/
structure Desktop.Mirrors {κ : Type} (d : Desktop κ) : Prop where
  screens : d.backend.screens.map (·.qscreen) = d.live
  announced : (d.backend.removedScreens.map (·.qscreen)).Perm d.removed
  once : (d.backend.removedScreens.map (·.serial)).Nodup
  never : ∀ screen ∈ d.backend.screens, ∀ gone ∈ d.backend.removedScreens,
    screen.serial ≠ gone.serial

/-! ## Removing a screen -/

namespace NativeScreenBackend

variable {κ : Type} {b b' : NativeScreenBackend κ} {q : κ}

/-- All screens of a list are announced as removed and deleted. -/
def removeAll (b : NativeScreenBackend κ) (l : List (NativeScreen κ)) : NativeScreenBackend κ :=
  { b with deleted := b.deleted ++ l, signals := b.signals ++ l.map .screenRemoved }

theorem removedScreens_removeAll (l : List (NativeScreen κ)) :
    (b.removeAll l).removedScreens = b.removedScreens ++ l := by
  unfold removedScreens removeAll
  dsimp only
  rw [List.filterMap_append, List.filterMap_map]
  congr 1
  exact List.filterMap_some

/-- A screen of the application can always be described. -/
theorem handleScreenChanged_returns (app : QGuiApplication κ) (q : κ) (s : Screen) :
    ∃ e s', eglfsScreen app.platformName (app.qscreens q) = some e ∧
      handleScreenChanged app.platformName (app.qscreens q) s = some s' := by
  obtain ⟨p, hp, hegl⟩ := app.backed q
  have he : ∃ e, eglfsScreen app.platformName (app.qscreens q) = some e := by
    unfold eglfsScreen
    split
    · next h =>
      obtain ⟨e, rfl⟩ := hegl h
      rw [hp]
      exact ⟨_, rfl⟩
    · exact ⟨_, rfl⟩
  obtain ⟨e, he⟩ := he
  refine ⟨e, ?_⟩
  unfold handleScreenChanged
  rw [he, hp]
  exact ⟨_, rfl, rfl⟩

variable [DecidableEq κ]

theorem removalTurn_lt (r : Removal κ) (h : (!r.list.isEmpty) = true) :
    (removalTurn q r).list.length < r.list.length ∨ removalTurn q r = r := by
  obtain ⟨_ | ⟨screen, rest⟩, b⟩ := r
  · simp at h
  · unfold removalTurn
    dsimp only
    split
    · exact Or.inl (Nat.lt_succ_self _)
    · exact Or.inr rfl

/-- The loop returns, with any number of turns, as `handleScreenRemoved` says. -/
theorem removal_returns_iff (r : Removal κ) :
    While.Returns (fun r => !r.list.isEmpty) (removalTurn q) ⟨b.screens, b⟩ r ↔
      While.run (fun r => !r.list.isEmpty) (removalTurn q) b.screens.length ⟨b.screens, b⟩ = some r :=
  While.returns_iff (fun r : Removal κ => r.list.length)
    (fun r h => by simp [List.eq_nil_of_length_eq_zero h]) removalTurn_lt _ _ (Nat.le_refl _) r

theorem removal_run (l : List (NativeScreen κ)) (b : NativeScreenBackend κ) (r : Removal κ) :
    While.run (fun r => !r.list.isEmpty) (removalTurn q) l.length ⟨l, b⟩ = some r ↔
      (∀ screen ∈ l, screen.qscreen = q) ∧ r = ⟨[], b.removeAll l⟩ := by
  induction l generalizing b with
  | nil =>
    rw [While.run_done (by rfl)]
    have hnil : b.removeAll [] = b := by simp [removeAll]
    rw [hnil]
    constructor
    · intro h
      exact ⟨by simp, (Option.some.inj h).symm⟩
    · rintro ⟨-, rfl⟩
      rfl
  | cons screen rest ih =>
    by_cases hq : screen.qscreen = q
    · have hturn : removalTurn q ⟨screen :: rest, b⟩ = ⟨rest, b.removeAll [screen]⟩ := by
        unfold removalTurn
        dsimp only
        rw [if_pos hq]
        rfl
      have hall : (b.removeAll [screen]).removeAll rest = b.removeAll (screen :: rest) := by
        simp [removeAll]
      rw [List.length_cons, While.run_turn (by rfl), hturn, ih, hall, List.forall_mem_cons]
      simp [hq]
    · have hturn : removalTurn q ⟨screen :: rest, b⟩ = ⟨screen :: rest, b⟩ := by
        unfold removalTurn
        dsimp only
        rw [if_neg hq]
      rw [While.run_stuck (by rfl) hturn]
      refine iff_of_false (by rintro ⟨⟩) ?_
      rintro ⟨hall, -⟩
      exact hq (hall screen List.mem_cons_self)

/-- **Removal.**  It returns only if no other screen is there, and leaves the
list as it was. -/
theorem handleScreenRemoved_eq_some :
    b.handleScreenRemoved q = some b' ↔
      (∀ screen ∈ b.screens, screen.qscreen = q) ∧ b' = b.removeAll b.screens := by
  unfold handleScreenRemoved
  rw [Option.map_eq_some_iff]
  constructor
  · rintro ⟨r, hr, rfl⟩
    obtain ⟨hall, rfl⟩ := (removal_run _ _ _).1 hr
    exact ⟨hall, rfl⟩
  · rintro ⟨hall, rfl⟩
    exact ⟨_, (removal_run _ _ _).2 ⟨hall, rfl⟩, rfl⟩

/-- The loop of `handleScreenRemoved` ends, and no element of the list is visited
twice on the way.  An element is told by the number of those from it on. -/
def RemovalEnds (b : NativeScreenBackend κ) (q : κ) : Prop :=
  ∃ fuel r,
    While.run (fun r => !r.list.isEmpty) (removalTurn q) fuel ⟨b.screens, b⟩ = some r ∧
      ((While.turns (fun r => !r.list.isEmpty) (removalTurn q) fuel ⟨b.screens, b⟩).map
        (·.list.length)).Nodup

/-- A turn at a screen that was removed moves on. -/
theorem removalTurn_moves (r : Removal κ) (hall : ∀ screen ∈ r.list, screen.qscreen = q)
    (h : (!r.list.isEmpty) = true) :
    (∀ screen ∈ (removalTurn q r).list, screen.qscreen = q) ∧
      (removalTurn q r).list.length < r.list.length := by
  obtain ⟨_ | ⟨screen, rest⟩, b⟩ := r
  · simp at h
  · obtain ⟨hscreen, hrest⟩ := List.forall_mem_cons.1 hall
    unfold removalTurn
    dsimp only
    rw [if_pos hscreen]
    exact ⟨hrest, Nat.lt_succ_self _⟩

/-- **The loop ends**, after one visit of each element, if and only if the backend
has screens of the removed `QScreen` only. -/
theorem removal_ends_iff (b : NativeScreenBackend κ) (q : κ) :
    RemovalEnds b q ↔ ∀ screen ∈ b.screens, screen.qscreen = q := by
  constructor
  · rintro ⟨fuel, r, hrun, -⟩
    exact ((removal_run b.screens b r).1 ((removal_returns_iff r).1 ⟨fuel, hrun⟩)).1
  · intro hall
    refine ⟨b.screens.length, ⟨[], b.removeAll b.screens⟩, ?_, ?_⟩
    · exact (removal_run b.screens b _).2 ⟨hall, rfl⟩
    · -- each turn is made nearer to the end of the list
      refine (While.pairwise_turns (I := fun r => ∀ screen ∈ r.list, screen.qscreen = q)
        (r := fun r r' => r'.list.length < r.list.length) ?_ ?_ _ _ hall).map _ ?_
      · exact fun _ _ _ h h' => Nat.lt_trans h' h
      · exact fun r hr h _ => removalTurn_moves r hr h
      · exact fun _ _ h => (Nat.ne_of_lt h).symm

/-- The second of two screens is removed, and the loop stays at the first one. -/
theorem second_of_two_never_ends :
    ∃ b : NativeScreenBackend (Fin 2), b.screens.map (·.qscreen) = [0, 1] ∧ ¬ RemovalEnds b 1 := by
  refine ⟨⟨[⟨0, 0, Screen.init⟩, ⟨1, 1, Screen.init⟩], true, 2, [], []⟩, rfl, ?_⟩
  rintro ⟨fuel, r, hrun, -⟩
  rw [While.run_stuck rfl rfl fuel] at hrun
  cases hrun

/-! ## Adding a screen -/

/-- **Addition.**  The new screen comes last, and nothing is announced as removed. -/
theorem handleScreenAdded_spec (app : QGuiApplication κ) (b : NativeScreenBackend κ) (q : κ) :
    ∃ b' screen, b.handleScreenAdded app q = some b' ∧ screen.qscreen = q ∧
      b'.screens = b.screens ++ [screen] ∧ b'.removedScreens = b.removedScreens := by
  obtain ⟨e, -, he, -⟩ := handleScreenChanged_returns app q Screen.init
  obtain ⟨-, data, -, hdata⟩ :=
    handleScreenChanged_returns app q (describe e (app.qscreens q) Screen.init)
  unfold handleScreenAdded
  rw [he]
  simp only [Option.bind_eq_bind, Option.bind_some, hdata]
  refine ⟨_, ⟨b.created, q, data⟩, rfl, rfl, ?_, ?_⟩
  · split <;> rfl
  · unfold removedScreens append emit
    split <;> simp [List.filterMap_append]

theorem addAll_spec (app : QGuiApplication κ) (qs : List κ) (b : NativeScreenBackend κ) :
    ∃ b', addAll app b qs = some b' ∧
      b'.screens.map (·.qscreen) = b.screens.map (·.qscreen) ++ qs ∧
      b'.removedScreens = b.removedScreens := by
  induction qs generalizing b with
  | nil => exact ⟨b, rfl, (List.append_nil _).symm, rfl⟩
  | cons q qs ih =>
    obtain ⟨b₁, screen, h₁, hq, hscreens, hremoved⟩ := handleScreenAdded_spec app b q
    obtain ⟨b₂, h₂, hscreens₂, hremoved₂⟩ := ih b₁
    refine ⟨b₂, ?_, ?_, hremoved₂.trans hremoved⟩
    · unfold addAll
      rw [h₁]
      exact h₂
    · rw [hscreens₂, hscreens, List.map_append, List.append_assoc, List.map_singleton, hq]
      rfl

end NativeScreenBackend

/-! ## Results -/

namespace Desktop

open NativeScreenBackend

section
variable {κ : Type} {d d' : Desktop κ}

/-- The invariant of runs without removals. -/
structure Inv (d : Desktop κ) : Prop where
  screens : d.backend.screens.map (·.qscreen) = d.live
  announced : d.backend.removedScreens = []
  removed : d.removed = []

theorem Inv.mirrors (h : Inv d) : Mirrors d := by
  refine ⟨h.screens, ?_, ?_, ?_⟩
  · rw [h.announced, h.removed]
    exact List.Perm.refl _
  · rw [h.announced]
    exact List.nodup_nil
  · intro screen _ gone hgone
    rw [h.announced] at hgone
    cases hgone

variable [DecidableEq κ]

theorem Inv.screenAdded (h : Inv d) (app : QGuiApplication κ) (q : κ) :
    ∃ d', d.step app (.screenAdded q) = some d' ∧ Inv d' := by
  obtain ⟨b', screen, hb', rfl, hscreens, hremoved⟩ := handleScreenAdded_spec app d.backend q
  refine ⟨⟨b', _, _⟩, congrArg (Option.map _) hb', ?_, hremoved.trans h.announced, h.removed⟩
  show b'.screens.map _ = d.live ++ [screen.qscreen]
  rw [hscreens, List.map_append, h.screens]
  rfl

/-- **A removal is never mirrored.**  It does not return, or it leaves the list
as it was. -/
theorem not_mirrors_screenRemoved (h : Inv d) (app : QGuiApplication κ) {q : κ}
    (hs : d.step app (.screenRemoved q) = some d') : ¬ Mirrors d' := by
  intro hm
  obtain ⟨b', hb', rfl⟩ := Option.map_eq_some_iff.1 hs
  obtain ⟨hall, rfl⟩ := handleScreenRemoved_eq_some.1 hb'
  -- the list still has all screens, so `q` was none of them
  have hlive : d.backend.screens.map (·.qscreen) = d.live.erase q := hm.screens
  have hnot : q ∉ d.live := by
    intro hq
    have hlen := congrArg List.length (h.screens.symm.trans hlive)
    rw [List.length_erase_of_mem hq] at hlen
    have := List.length_pos_of_mem hq
    omega
  have hnil : d.backend.screens = [] := by
    refine List.eq_nil_iff_forall_not_mem.2 fun screen hscreen => hnot ?_
    rw [← h.screens, List.mem_map]
    exact ⟨screen, hscreen, hall screen hscreen⟩
  have hlen := hm.announced.length_eq
  rw [removedScreens_removeAll, h.announced, hnil, h.removed] at hlen
  simp at hlen

/-- The application's first screens are mirrored. -/
theorem start_spec (app : QGuiApplication κ) (initial : List κ) :
    ∃ d, start app initial = some d ∧ Inv d ∧ d.live = initial := by
  obtain ⟨b, hb, hscreens, hremoved⟩ := addAll_spec app initial init
  have hstart : start app initial = some ⟨{ b with initialized := true }, initial, []⟩ := by
    unfold start acquireConfiguration
    rw [hb]
    rfl
  exact ⟨_, hstart, ⟨hscreens, hremoved, rfl⟩, rfl⟩

/-- **The backend mirrors the application's screens** at all times, from any
initial ones, if and only if none of them is ever removed. -/
theorem store_mirrors_iff (app : QGuiApplication κ) (initial : List κ)
    (ops : List (ScreenNotification κ)) :
    ∃ d, start app initial = some d ∧
      (Run.Always (step app) Mirrors d ops ↔ ∀ q, .screenRemoved q ∉ ops) := by
  obtain ⟨d, hstart, hI, -⟩ := start_spec app initial
  refine ⟨d, hstart, ?_⟩
  have hadd : ∀ d (op : ScreenNotification κ), Inv d → (∃ q, op = .screenAdded q) →
      ∃ d', step app d op = some d' ∧ Inv d' := by
    rintro d op hI ⟨q, rfl⟩
    exact hI.screenAdded app q
  have hremove : ∀ d (op : ScreenNotification κ) d', Inv d → step app d op = some d' →
      Mirrors d' → ∃ q, op = .screenAdded q := by
    intro d op d' hI hs hm
    cases op with
    | screenAdded q => exact ⟨q, rfl⟩
    | screenRemoved q => exact absurd hm (not_mirrors_screenRemoved hI app hs)
  have hrun : Run.Always (step app) Mirrors d ops ↔
      Run.Meets (step app) (fun _ op => ∃ q, op = .screenAdded q) d ops := by
    refine Run.always_iff_meets (I := Inv) ?_ ?_ hremove ops d hI.mirrors hI
    · intro d op hI hok
      obtain ⟨d', hd', hI'⟩ := hadd d op hI hok
      exact ⟨d', hd', hI'.mirrors⟩
    · intro d op d' hI hs hm
      obtain ⟨d'', hd'', hI'⟩ := hadd d op hI (hremove d op d' hI hs hm)
      obtain rfl : d' = d'' := Option.some.inj (hs.symm.trans hd'')
      exact hI'
  rw [hrun, Run.meets_iff_forall (I := Inv) hadd ops d hI]
  constructor
  · intro h q hq
    obtain ⟨_, h'⟩ := h _ hq
    cases h'
  · intro h op hop
    cases op with
    | screenAdded q => exact ⟨q, rfl⟩
    | screenRemoved q => exact absurd hop (h q)

end

/-- An application with two screens on another platform. -/
def sampleApp : QGuiApplication (Fin 2) where
  platformName := "xcb"
  qscreens q :=
    { name := if q = 0 then "VGA-1" else "HDMI-1"
      geometry := ⟨⟨0, 0⟩, ⟨800, 600⟩⟩
      availableGeometry := ⟨⟨0, 0⟩, ⟨800, 600⟩⟩
      refreshRate := 60
      physicalSize := ⟨300, 200⟩
      devicePixelRatio := 1
      orientation := .primary
      subpixelHint := .none
      handle := some .foreign }
  primaryScreen := some 0
  backed _ := ⟨.foreign, rfl, fun h => absurd h (by decide)⟩

/-- The second of two screens is removed: the loop stays at the first one. -/
theorem second_screen_not_removed :
    ∃ d, start sampleApp [0, 1] = some d ∧
      ¬ Run.Always (step sampleApp) Mirrors d [.screenRemoved 1] := by
  obtain ⟨d, hstart, hI, hlive⟩ := start_spec sampleApp [0, 1]
  refine ⟨d, hstart, ?_⟩
  rintro ⟨-, d', hs, -⟩
  obtain ⟨b', hb', -⟩ := Option.map_eq_some_iff.1 hs
  have hfirst : 0 ∈ d.backend.screens.map (·.qscreen) := by
    rw [hI.screens, hlive]
    decide
  obtain ⟨screen, hscreen, hq⟩ := List.mem_map.1 hfirst
  have hone := (handleScreenRemoved_eq_some.1 hb').1 screen hscreen
  exact absurd (hq.symm.trans hone) (by decide)

end Desktop

end GreenIsland.Server

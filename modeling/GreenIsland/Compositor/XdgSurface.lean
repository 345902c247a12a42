import GreenIsland.Lib.Run
import GreenIsland.Lib.SymmetricDifference
import GreenIsland.Qt.Geometry

/-! An `xdg_surface` and what is announced of it (`QWaylandXdgSurface`).

The compositor proposes a configuration (`sendConfigure`) and keeps it until the client
acknowledges it or a later one; then it is the surface's, and what has changed is announced.
The client also sets the title, the app id, the parent and the window geometry.

* `states_announced`: who flips a flag at each `maximizedChanged` (and likewise for the
  other states) is always right about it.
* `no_silent_change`: no property changes without its signal, and a window that has a type never
  has none again. -/

namespace GreenIsland.Compositor

/-! ## The surface -/

abbrev XdgSurfaceId := Nat

/-- `QWaylandXdgSurface::State` -/
inductive XdgState where
  | maximized
  | fullscreen
  | resizing
  | activated
deriving DecidableEq, Repr

/-- The number on the wire -/
def XdgState.code : XdgState → Nat
  | maximized => 1
  | fullscreen => 2
  | resizing => 3
  | activated => 4

/-- `QWaylandXdgSurfacePrivate::ConfigureEvent` -/
structure ConfigureEvent where
  states : List Nat
  size : QSize
  serial : Nat
deriving DecidableEq, Repr

inductive WindowType where
  | unknown
  | topLevel
  | transient
deriving DecidableEq, Repr

inductive XdgSignal where
  | stateChanged (state : XdgState)
  | statesChanged
  | ackConfigure (serial : Nat)
  | parentSurfaceChanged
  | setTransient
  | setTopLevel
  | titleChanged
  | appIdChanged
  | windowGeometryChanged
deriving DecidableEq, Repr

/-- `QWaylandXdgSurfacePrivate`.  `signals` are those emitted so far. -/
structure XdgSurface where
  parentSurface : Option XdgSurfaceId
  windowType : WindowType
  title : String
  appId : String
  windowGeometry : QRect
  unsetWindowGeometry : Bool
  pendingConfigures : List ConfigureEvent
  lastAckedConfigure : ConfigureEvent
  signals : List XdgSignal

/-- `m_lastAckedConfigure` of a new surface -/
def noConfigure : ConfigureEvent := ⟨[], ⟨0, 0⟩, 0⟩

namespace XdgSurface

/-- The constructor and `initialize`; `fallback` is `calculateFallbackWindowGeometry`. -/
def new (fallback : QRect) : XdgSurface where
  parentSurface := none
  windowType := .unknown
  title := ""
  appId := ""
  windowGeometry := fallback
  unsetWindowGeometry := true
  pendingConfigures := []
  lastAckedConfigure := noConfigure
  signals := []

def emit (X : XdgSurface) (signals : List XdgSignal) : XdgSurface :=
  { X with signals := X.signals ++ signals }

/-- `states().contains(state)`: `maximized`, `fullscreen`, `resizing`, `activated` -/
def has (X : XdgSurface) (state : XdgState) : Bool := X.lastAckedConfigure.states.contains state.code

/-! ## Configurations -/

/-- The oldest that was not acknowledged, though it is called the last one. -/
def lastSentConfigure (X : XdgSurface) : ConfigureEvent :=
  X.pendingConfigures.head?.getD X.lastAckedConfigure

def sendConfigure (X : XdgSurface) (serial : Nat) (size : QSize) (states : List Nat) : XdgSurface :=
  { X with pendingConfigures := X.pendingConfigures ++ [⟨states, size, serial⟩] }

/-- `if (!states.contains(state)) states.append(state);` -/
def appendState (state : XdgState) (states : List Nat) : List Nat :=
  if states.contains state.code then states else states ++ [state.code]

/-- `removeOne` -/
def removeState (state : XdgState) (states : List Nat) : List Nat := states.erase state.code

def maximizedStates (states : List Nat) : List Nat :=
  removeState .resizing (removeState .fullscreen (appendState .maximized states))

def unmaximizedStates (states : List Nat) : List Nat :=
  removeState .resizing (removeState .fullscreen (removeState .maximized states))

def fullscreenStates (states : List Nat) : List Nat :=
  removeState .resizing (removeState .maximized (appendState .fullscreen states))

def resizingStates (states : List Nat) : List Nat :=
  removeState .fullscreen (removeState .maximized (appendState .resizing states))

def sendMaximized (X : XdgSurface) (serial : Nat) (size : QSize) : XdgSurface :=
  X.sendConfigure serial size (maximizedStates X.lastSentConfigure.states)

def sendUnmaximized (X : XdgSurface) (serial : Nat) (size : QSize) : XdgSurface :=
  X.sendConfigure serial size (unmaximizedStates X.lastSentConfigure.states)

def sendFullscreen (X : XdgSurface) (serial : Nat) (size : QSize) : XdgSurface :=
  X.sendConfigure serial size (fullscreenStates X.lastSentConfigure.states)

def sendResizing (X : XdgSurface) (serial : Nat) (maxSize : QSize) : XdgSurface :=
  X.sendConfigure serial maxSize (resizingStates X.lastSentConfigure.states)

def handleFocusLost (X : XdgSurface) (serial : Nat) : XdgSurface :=
  X.sendConfigure serial X.lastSentConfigure.size (removeState .activated X.lastSentConfigure.states)

def handleFocusReceived (X : XdgSurface) (serial : Nat) : XdgSurface :=
  X.sendConfigure serial X.lastSentConfigure.size (appendState .activated X.lastSentConfigure.states)

/-- The loop of `ack_configure`: the configuration and those after it -/
def takeConfigure (serial : Nat) : List ConfigureEvent → Option (ConfigureEvent × List ConfigureEvent)
  | [] => none
  | config :: configs =>
    if config.serial = serial then some (config, configs) else takeConfigure serial configs

def changedSignal : Nat → Option XdgSignal
  | 1 => some (.stateChanged .maximized)
  | 2 => some (.stateChanged .fullscreen)
  | 3 => some (.stateChanged .resizing)
  | 4 => some (.stateChanged .activated)
  | _ => none

/-- `xdg_surface_ack_configure`; the second case is the warning. -/
def ackConfigure (X : XdgSurface) (serial : Nat) : XdgSurface :=
  match takeConfigure serial X.pendingConfigures with
  | some (config, configs) =>
    let changedStates := SymmetricDifference.merge X.lastAckedConfigure.states config.states
    { X with pendingConfigures := configs, lastAckedConfigure := config }.emit
      (changedStates.filterMap changedSignal ++
        (if changedStates.isEmpty then [] else [XdgSignal.statesChanged]) ++
        [XdgSignal.ackConfigure serial])
  | none => { X with pendingConfigures := [] }

/-! ## What the client sets -/

/-- The first part of `xdg_surface_set_parent` -/
def changeParent (X : XdgSurface) (parent : Option XdgSurfaceId) : XdgSurface :=
  if X.parentSurface = parent then X
  else { X with parentSurface := parent }.emit [.parentSurfaceChanged]

/-- The second part: a surface is transient exactly if it has a parent. -/
def changeWindowType (X : XdgSurface) : XdgSurface :=
  if X.parentSurface.isSome ∧ X.windowType ≠ .transient
    then { X with windowType := .transient }.emit [.setTransient]
  else if X.parentSurface = none ∧ X.windowType ≠ .topLevel
    then { X with windowType := .topLevel }.emit [.setTopLevel]
  else X

def setParent (X : XdgSurface) (parent : Option XdgSurfaceId) : XdgSurface :=
  (X.changeParent parent).changeWindowType

def setTitle (X : XdgSurface) (title : String) : XdgSurface :=
  if title = X.title then X else { X with title := title }.emit [.titleChanged]

def setAppId (X : XdgSurface) (appId : String) : XdgSurface :=
  if appId = X.appId then X else { X with appId := appId }.emit [.appIdChanged]

def setWindowGeometry (X : XdgSurface) (x y width height : Int) : XdgSurface :=
  if width ≤ 0 ∨ height ≤ 0 then X
  else
    let X := { X with unsetWindowGeometry := false }
    let geometry : QRect := ⟨⟨x, y⟩, ⟨width, height⟩⟩
    if geometry = X.windowGeometry then X
    else { X with windowGeometry := geometry }.emit [.windowGeometryChanged]

/-- The surface has another size or scale: the geometry follows until the client sets it. -/
def updateFallbackWindowGeometry (X : XdgSurface) (fallback : QRect) : XdgSurface :=
  if X.unsetWindowGeometry = false ∨ fallback = X.windowGeometry then X
  else { X with windowGeometry := fallback }.emit [.windowGeometryChanged]

end XdgSurface

/-- What the compositor sends -/
inductive XdgSend where
  | configure (size : QSize) (states : List Nat)
  | maximized (size : QSize)
  | unmaximized (size : QSize)
  | fullscreen (size : QSize)
  | resizing (maxSize : QSize)
  | focusLost
  | focusReceived

/-- What the compositor sends, what the client requests, and that the size of the surface or its
scale has changed. -/
inductive XdgCall where
  | send (m : XdgSend)
  | ackConfigure (serial : Nat)
  | setParent (parent : Option XdgSurfaceId)
  | setTitle (title : String)
  | setAppId (appId : String)
  | setWindowGeometry (x y width height : Int)
  | updateFallbackWindowGeometry (fallback : QRect)

namespace XdgSurface

def send (X : XdgSurface) (serial : Nat) : XdgSend → XdgSurface
  | .configure size states => X.sendConfigure serial size states
  | .maximized size => X.sendMaximized serial size
  | .unmaximized size => X.sendUnmaximized serial size
  | .fullscreen size => X.sendFullscreen serial size
  | .resizing maxSize => X.sendResizing serial maxSize
  | .focusLost => X.handleFocusLost serial
  | .focusReceived => X.handleFocusReceived serial

/-- A call, and the serial that the compositor draws if it sends something. -/
def step (X : XdgSurface) : Nat × XdgCall → XdgSurface
  | (serial, .send m) => X.send serial m
  | (_, .ackConfigure serial) => X.ackConfigure serial
  | (_, .setParent parent) => X.setParent parent
  | (_, .setTitle title) => X.setTitle title
  | (_, .setAppId appId) => X.setAppId appId
  | (_, .setWindowGeometry x y width height) => X.setWindowGeometry x y width height
  | (_, .updateFallbackWindowGeometry fallback) => X.updateFallbackWindowGeometry fallback

end XdgSurface

namespace XdgSurface

variable {X X' : XdgSurface} {state : XdgState} {serial n : Nat} {states : List Nat}
  {config : ConfigureEvent} {configs : List ConfigureEvent} {c : XdgCall} {m : XdgSend}

/-! ## States and their signals -/

theorem changedSignal_eq_iff : changedSignal n = some (.stateChanged state) ↔ n = state.code := by
  unfold changedSignal
  split <;> cases state <;> simp_all [XdgState.code]

theorem count_changedSignal (states : List Nat) :
    (states.filterMap changedSignal).count (.stateChanged state) = states.count state.code := by
  induction states with
  | nil => rfl
  | cons n states ih =>
    by_cases hn : n = state.code
    · rw [List.filterMap_cons_some (changedSignal_eq_iff.2 hn), List.count_cons, List.count_cons, ih]
      simp [hn]
    · have hne : changedSignal n ≠ some (.stateChanged state) := hn ∘ changedSignal_eq_iff.1
      rw [List.count_cons_of_ne hn, ← ih]
      cases hsignal : changedSignal n with
      | none => rw [List.filterMap_cons_none hsignal]
      | some signal =>
        rw [List.filterMap_cons_some hsignal]
        exact List.count_cons_of_ne fun heq => hne (hsignal.trans (congrArg some heq))

/-- An acknowledged configuration is the first with its serial; those before are dropped. -/
theorem takeConfigure_eq_some {rest : List ConfigureEvent}
    (h : takeConfigure serial configs = some (config, rest)) :
    ∃ skipped, configs = skipped ++ config :: rest ∧ config.serial = serial := by
  induction configs with
  | nil => cases h
  | cons first configs ih =>
    rw [takeConfigure] at h
    split at h
    · next hserial =>
      obtain ⟨rfl, rfl⟩ := Prod.mk.inj (Option.some.inj h)
      exact ⟨[], rfl, hserial⟩
    · obtain ⟨skipped, heq, hserial⟩ := ih h
      exact ⟨first :: skipped, congrArg (first :: ·) heq, hserial⟩

/-- What an acknowledgement announces of a state -/
def announced (X : XdgSurface) (config : ConfigureEvent) (state : XdgState) : Nat :=
  (SymmetricDifference.merge X.lastAckedConfigure.states config.states).count state.code

theorem ackConfigure_spec (X : XdgSurface) (serial : Nat) :
    (∃ config configs, takeConfigure serial X.pendingConfigures = some (config, configs) ∧
        (X.ackConfigure serial).pendingConfigures = configs ∧
        (X.ackConfigure serial).lastAckedConfigure = config ∧
        ∀ state, (X.ackConfigure serial).signals.count (.stateChanged state) =
          X.signals.count (.stateChanged state) + X.announced config state) ∨
      takeConfigure serial X.pendingConfigures = none ∧
        X.ackConfigure serial = { X with pendingConfigures := [] } := by
  rw [ackConfigure]
  cases htake : takeConfigure serial X.pendingConfigures with
  | none => exact .inr ⟨rfl, rfl⟩
  | some taken =>
    refine .inl ⟨taken.1, taken.2, rfl, rfl, rfl, fun state => ?_⟩
    simp only [emit, List.count_append, count_changedSignal, announced]
    split <;> simp

/-- What the client sets leaves the configurations and their signals alone. -/
theorem step_keeps_states {s : Nat} (hsend : ∀ m, c ≠ .send m)
    (hack : ∀ acked, c ≠ .ackConfigure acked) :
    (X.step (s, c)).lastAckedConfigure = X.lastAckedConfigure ∧
      (X.step (s, c)).pendingConfigures = X.pendingConfigures ∧ ∀ state,
        (X.step (s, c)).signals.count (.stateChanged state) =
          X.signals.count (.stateChanged state) := by
  cases c with
  | send m => exact absurd rfl (hsend m)
  | ackConfigure acked => exact absurd rfl (hack acked)
  | setParent parent =>
    simp only [step, setParent, changeParent, changeWindowType]
    split <;> split <;> (try split) <;> exact ⟨rfl, rfl, fun state => by simp [emit]⟩
  | setTitle title =>
    simp only [step, setTitle]
    split <;> exact ⟨rfl, rfl, fun state => by simp [emit]⟩
  | setAppId appId =>
    simp only [step, setAppId]
    split <;> exact ⟨rfl, rfl, fun state => by simp [emit]⟩
  | setWindowGeometry x y width height =>
    simp only [step, setWindowGeometry]
    split <;> (try split) <;> exact ⟨rfl, rfl, fun state => by simp [emit]⟩
  | updateFallbackWindowGeometry fallback =>
    simp only [step, updateFallbackWindowGeometry]
    split <;> exact ⟨rfl, rfl, fun state => by simp [emit]⟩

/-- The configuration that is sent -/
def configuration (X : XdgSurface) (serial : Nat) : XdgSend → ConfigureEvent
  | .configure size states => ⟨states, size, serial⟩
  | .maximized size => ⟨maximizedStates X.lastSentConfigure.states, size, serial⟩
  | .unmaximized size => ⟨unmaximizedStates X.lastSentConfigure.states, size, serial⟩
  | .fullscreen size => ⟨fullscreenStates X.lastSentConfigure.states, size, serial⟩
  | .resizing maxSize => ⟨resizingStates X.lastSentConfigure.states, maxSize, serial⟩
  | .focusLost =>
    ⟨removeState .activated X.lastSentConfigure.states, X.lastSentConfigure.size, serial⟩
  | .focusReceived =>
    ⟨appendState .activated X.lastSentConfigure.states, X.lastSentConfigure.size, serial⟩

/-- All that a call that sends does is to send. -/
theorem send_eq (X : XdgSurface) (serial : Nat) (m : XdgSend) : X.send serial m =
    { X with pendingConfigures := X.pendingConfigures ++ [X.configuration serial m] } := by
  cases m <;> rfl

theorem nodup_appendState (h : states.Nodup) : (appendState state states).Nodup := by
  unfold appendState
  split
  · exact h
  · next hnot =>
    refine List.nodup_append.2 ⟨h, List.nodup_singleton _, fun a ha b hb hab => hnot ?_⟩
    rw [List.contains_iff_mem, ← List.mem_singleton.1 hb, ← hab]
    exact ha

theorem nodup_removeState (h : states.Nodup) : (removeState state states).Nodup := h.erase _

/-- No configuration names a state twice. -/
structure Distinct (X : XdgSurface) : Prop where
  lastAcked : X.lastAckedConfigure.states.Nodup
  pending : ∀ config ∈ X.pendingConfigures, config.states.Nodup

theorem Distinct.lastSentConfigure (hX : X.Distinct) : X.lastSentConfigure.states.Nodup := by
  rw [XdgSurface.lastSentConfigure]
  cases hpending : X.pendingConfigures with
  | nil => exact hX.lastAcked
  | cons config configs => exact hX.pending config (hpending ▸ List.mem_cons_self)

end XdgSurface

/-- The caller names no state twice. -/
def XdgSend.Distinct : XdgSend → Prop
  | configure _ states => states.Nodup
  | _ => True

instance : DecidablePred XdgSend.Distinct := fun m => by
  cases m <;> unfold XdgSend.Distinct <;> infer_instance

def XdgCall.Distinct : XdgCall → Prop
  | send m => m.Distinct
  | _ => True

instance : DecidablePred XdgCall.Distinct := fun c => by
  cases c <;> unfold XdgCall.Distinct <;> infer_instance

namespace XdgSurface

variable {X : XdgSurface} {c : XdgCall} {m : XdgSend} {serial : Nat}

theorem Distinct.configuration (hX : X.Distinct) (hm : m.Distinct) (serial : Nat) :
    (X.configuration serial m).states.Nodup := by
  have hlast := hX.lastSentConfigure
  cases m with
  | configure size states => exact hm
  | maximized => exact nodup_removeState (nodup_removeState (nodup_appendState hlast))
  | unmaximized => exact nodup_removeState (nodup_removeState (nodup_removeState hlast))
  | fullscreen => exact nodup_removeState (nodup_removeState (nodup_appendState hlast))
  | resizing => exact nodup_removeState (nodup_removeState (nodup_appendState hlast))
  | focusLost => exact nodup_removeState hlast
  | focusReceived => exact nodup_appendState hlast

theorem Distinct.send (hX : X.Distinct) (hm : m.Distinct) (serial : Nat) :
    (X.send serial m).Distinct := by
  rw [send_eq]
  refine ⟨hX.lastAcked, fun config hconfig => ?_⟩
  rcases List.mem_append.1 hconfig with hold | hnew
  · exact hX.pending config hold
  · exact List.mem_singleton.1 hnew ▸ hX.configuration hm serial

/-- Flags that are flipped at each change signal are right. -/
structure Announced (X : XdgSurface) : Prop extends X.Distinct where
  odd_iff : ∀ state, X.signals.count (.stateChanged state) % 2 = 1 ↔ X.has state = true

theorem has_iff {state : XdgState} :
    X.has state = true ↔ state.code ∈ X.lastAckedConfigure.states := List.contains_iff_mem

theorem Announced.ackConfigure (hX : X.Announced) (serial : Nat) :
    (X.ackConfigure serial).Announced := by
  rcases ackConfigure_spec X serial with ⟨config, configs, htake, hpending, hlast, hcount⟩ | ⟨-, heq⟩
  · obtain ⟨skipped, hsplit, -⟩ := takeConfigure_eq_some htake
    have hconfig : config.states.Nodup := hX.pending config
      (hsplit ▸ List.mem_append_right _ List.mem_cons_self)
    refine ⟨⟨?_, fun x hx => hX.pending x ?_⟩, fun state => ?_⟩
    · exact hlast ▸ hconfig
    · rw [hpending] at hx
      exact hsplit ▸ List.mem_append_right _ (List.mem_cons_of_mem _ hx)
    · have hodd := hX.odd_iff state
      have hflip := SymmetricDifference.odd_count_merge (a := state.code) hX.lastAcked hconfig
      rw [has_iff] at hodd ⊢
      rw [hcount, hlast, announced]
      by_cases hold : state.code ∈ X.lastAckedConfigure.states <;>
        by_cases hnew : state.code ∈ config.states <;>
        simp only [hold, hnew, iff_true, iff_false, not_true, not_false_iff] at hodd hflip ⊢ <;> omega
  · rw [heq]
    exact ⟨⟨hX.lastAcked, fun _ hx => absurd hx List.not_mem_nil⟩, hX.odd_iff⟩

theorem Announced.step (hX : X.Announced) (hc : c.Distinct) (serial : Nat) :
    (X.step (serial, c)).Announced := by
  by_cases hsend : ∃ m, c = .send m
  · obtain ⟨m, rfl⟩ := hsend
    refine ⟨hX.toDistinct.send hc serial, ?_⟩
    rw [XdgSurface.step, send_eq]
    exact hX.odd_iff
  by_cases hack : ∃ acked, c = .ackConfigure acked
  · obtain ⟨acked, rfl⟩ := hack
    exact hX.ackConfigure acked
  · have hkeeps := step_keeps_states (X := X) (s := serial) (fun m heq => hsend ⟨m, heq⟩)
      fun acked heq => hack ⟨acked, heq⟩
    obtain ⟨hlast, hpending, hcount⟩ := hkeeps
    refine ⟨⟨hlast ▸ hX.lastAcked, hpending ▸ hX.pending⟩, fun state => ?_⟩
    rw [hcount, has_iff, hlast, ← has_iff]
    exact hX.odd_iff state

/-- **Every change of a state is announced.**  In any run, also of a client that acknowledges
whatever it likes, a flag that is flipped at each change signal of a state says whether the
surface has the state, as long as no caller names a state twice. -/
theorem states_announced (fallback : QRect) (cs : List (Nat × XdgCall))
    (hcs : ∀ c ∈ cs, c.2.Distinct) (state : XdgState) :
    (cs.foldl step (new fallback)).signals.count (.stateChanged state) % 2 = 1 ↔
      (cs.foldl step (new fallback)).has state = true := by
  have hrun : ∀ (cs : List (Nat × XdgCall)) (X : XdgSurface), (∀ c ∈ cs, c.2.Distinct) →
      X.Announced → (cs.foldl step X).Announced := by
    intro cs
    induction cs with
    | nil => exact fun X _ hX => hX
    | cons c cs ih =>
      intro X hcs hX
      exact ih (X.step c) (fun c hc => hcs c (List.mem_cons_of_mem _ hc))
        (hX.step (hcs c List.mem_cons_self) c.1)
  have hnew : (new fallback).Announced :=
    ⟨⟨List.nodup_nil, fun _ hx => absurd hx List.not_mem_nil⟩,
      fun _ => iff_of_false Nat.zero_ne_one Bool.false_ne_true⟩
  exact (hrun cs (new fallback) hcs hnew).odd_iff state

/-- The configuration that is acknowledged first is maximized and active, the second inactive. -/
theorem states_announced_refocused :
    let cs := [(1, XdgCall.send .focusReceived), (2, .send (.maximized ⟨800, 600⟩)),
      (0, .ackConfigure 2), (3, .send .focusLost), (0, .ackConfigure 3), (0, .ackConfigure 7)]
    (∀ c ∈ cs, c.2.Distinct) ∧
      ((cs.foldl step (new ⟨⟨0, 0⟩, ⟨0, 0⟩⟩)).signals.count (.stateChanged .activated) % 2 = 1 ↔
        (cs.foldl step (new ⟨⟨0, 0⟩, ⟨0, 0⟩⟩)).has .activated = true) :=
  ⟨by decide, states_announced _ _ (by decide) _⟩

/-! ## Every property and its signal -/

/-- The property that a signal is about has changed. -/
def Changed (X X' : XdgSurface) : XdgSignal → Prop
  | .stateChanged state => X'.has state ≠ X.has state
  | .statesChanged => X'.lastAckedConfigure.states ≠ X.lastAckedConfigure.states
  | .ackConfigure _ => False
  | .parentSurfaceChanged => X'.parentSurface ≠ X.parentSurface
  | .setTransient => X.windowType ≠ .transient ∧ X'.windowType = .transient
  | .setTopLevel => X.windowType ≠ .topLevel ∧ X'.windowType = .topLevel
  | .titleChanged => X'.title ≠ X.title
  | .appIdChanged => X'.appId ≠ X.appId
  | .windowGeometryChanged => X'.windowGeometry ≠ X.windowGeometry

/-- A call: its signals announce every change; there is none for the type `unknown`, and the
surface does not become so. -/
structure Tells (X X' : XdgSurface) : Prop where
  announced : ∃ signals, X'.signals = X.signals ++ signals ∧
    ∀ signal, Changed X X' signal → signal ∈ signals
  known : X'.windowType = .unknown → X.windowType = .unknown

theorem Tells.trans {X' X'' : XdgSurface} (h : Tells X X') (h' : Tells X' X'') : Tells X X'' := by
  obtain ⟨signals, hsignals, htells⟩ := h.announced
  obtain ⟨signals', hsignals', htells'⟩ := h'.announced
  refine ⟨⟨signals ++ signals', by rw [hsignals', hsignals, List.append_assoc],
    fun signal hchanged => ?_⟩, fun hunknown => h.known (h'.known hunknown)⟩
  have heither : Changed X X' signal ∨ Changed X' X'' signal := by
    cases signal with
    | ackConfigure => exact .inl hchanged
    | setTransient | setTopLevel =>
      refine or_iff_not_imp_left.2 fun hnot => ⟨fun hsame => hnot ⟨hchanged.1, hsame⟩, hchanged.2⟩
    | _ => exact not_and_or.1 fun hboth => hchanged (hboth.2.trans hboth.1)
  rcases heither with hfirst | hsecond
  · exact List.mem_append_left _ (htells signal hfirst)
  · exact List.mem_append_right _ (htells' signal hsecond)

/-- Configurations that wait are no property. -/
theorem tells_pending (X : XdgSurface) (configs : List ConfigureEvent) (unset : Bool) :
    Tells X { X with pendingConfigures := configs, unsetWindowGeometry := unset } :=
  ⟨⟨[], (List.append_nil _).symm, fun signal h => by cases signal <;> simp [Changed, has] at h⟩, id⟩

theorem tells_refl (X : XdgSurface) : Tells X X :=
  tells_pending X X.pendingConfigures X.unsetWindowGeometry

/-- **No property changes silently**, whoever calls what: states, parent, window type, title,
app id and geometry change only in a call that emits their signal, and the type never becomes
unknown. -/
theorem no_silent_change (X : XdgSurface) (serial : Nat) (c : XdgCall) :
    Tells X (X.step (serial, c)) := by
  cases c with
  | send m =>
    rw [step, send_eq]
    exact tells_pending X _ X.unsetWindowGeometry
  | ackConfigure serial =>
    rw [step, ackConfigure]
    cases takeConfigure serial X.pendingConfigures with
    | none => exact tells_pending X [] X.unsetWindowGeometry
    | some taken =>
      refine ⟨⟨_, rfl, fun signal h => ?_⟩, id⟩
      cases signal with
      | stateChanged state =>
        refine List.mem_append_left _ (List.mem_append_left _ (List.mem_filterMap.2 ⟨state.code, ?_,
          changedSignal_eq_iff.2 rfl⟩))
        refine SymmetricDifference.mem_merge_of_one fun hsame => h (Bool.eq_iff_iff.2 ?_)
        rw [has_iff, has_iff]
        exact hsame.symm
      | statesChanged =>
        refine List.mem_append_left _ (List.mem_append_right _ ?_)
        have hne : SymmetricDifference.merge X.lastAckedConfigure.states taken.1.states ≠ [] :=
          fun hnil => h (SymmetricDifference.merge_eq_nil.1 hnil).symm
        rw [if_neg (by simpa using hne)]
        exact List.mem_singleton.2 rfl
      | _ => simp [Changed, emit] at h
  | setParent parent =>
    have hparent : Tells X (X.changeParent parent) := by
      rw [changeParent]
      split
      · exact tells_refl X
      · exact ⟨⟨[.parentSurfaceChanged], rfl, fun signal h => by
          cases signal <;> simp_all [Changed, has, emit]⟩, id⟩
    refine hparent.trans ?_
    change Tells (X.changeParent parent) (X.changeParent parent).changeWindowType
    unfold changeWindowType
    split
    · exact ⟨⟨[.setTransient], rfl, fun signal h => by
        cases signal <;> simp_all [Changed, has, emit]⟩, nofun⟩
    · split
      · exact ⟨⟨[.setTopLevel], rfl, fun signal h => by
          cases signal <;> simp_all [Changed, has, emit]⟩, nofun⟩
      · exact tells_refl _
  | setTitle title =>
    rw [step, setTitle]
    split
    · exact tells_refl X
    · exact ⟨⟨[.titleChanged], rfl, fun signal h => by
        cases signal <;> simp_all [Changed, has, emit]⟩, id⟩
  | setAppId appId =>
    rw [step, setAppId]
    split
    · exact tells_refl X
    · exact ⟨⟨[.appIdChanged], rfl, fun signal h => by
        cases signal <;> simp_all [Changed, has, emit]⟩, id⟩
  | setWindowGeometry x y width height =>
    simp only [step, setWindowGeometry]
    split
    · exact tells_refl X
    · split
      · exact tells_pending X X.pendingConfigures false
      · exact ⟨⟨[.windowGeometryChanged], rfl, fun signal h => by
          cases signal <;> simp_all [Changed, has, emit]⟩, id⟩
  | updateFallbackWindowGeometry fallback =>
    rw [step, updateFallbackWindowGeometry]
    split
    · exact tells_refl X
    · exact ⟨⟨[.windowGeometryChanged], rfl, fun signal h => by
        cases signal <;> simp_all [Changed, has, emit]⟩, id⟩

end XdgSurface

end GreenIsland.Compositor

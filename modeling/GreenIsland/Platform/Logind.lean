import Mathlib.Data.List.Basic
import Mathlib.Logic.Function.Basic
import GreenIsland.Lib.Run
import GreenIsland.Qt.Basic

/-! The connection to logind (`Logind`).

The service comes and goes (`serviceRegistered`, `serviceUnregistered`); the
session, its properties and the control of it are asked for with asynchronous
calls, whose replies arrive in any order and whenever they like.  `calls` counts
the replies that are outstanding.

A disconnected `Logind` is meant to have an inactive session, no virtual
terminal and no control (`Reset`), and every change of a property to be
announced, and nothing else (`Announces`).  Both hold exactly as long as every
step meets `OpOk` (`disconnected_reset_iff`).  The handler of the
unregistration resets two of the three properties, the reply handlers do not ask
whether the connection is still there, and the one of `TakeControl` announces
values that did not change. -/

namespace GreenIsland.Platform

/-! ## Model -/

inductive LogindSignal
  | connectedChanged (connected : Bool)
  | hasSessionControlChanged (hasSessionControl : Bool)
  | sessionActiveChanged (active : Bool)
  | vtNumberChanged (vt : Int)
  | inhibitedChanged (inhibited : Bool)
  | inhibited (fd : Int)
  | uninhibited (fd : Int)
deriving DecidableEq, Repr

/-- The asynchronous calls. -/
inductive LogindCall
  | listNames
  | getSession
  | getActive
  | getVTNr
  | takeControl
  | inhibit
deriving DecidableEq, Repr

inductive InhibitFlag
  | shutdown
  | sleep
  | idle
  | powerKey
  | suspendKey
  | hibernateKey
  | lidSwitch
deriving DecidableEq, Repr

inductive InhibitMode
  | block
  | delay
deriving DecidableEq, Repr

/-- The arguments of an `Inhibit` call. -/
structure InhibitMessage where
  what : String
  who : String
  why : String
  mode : String
deriving DecidableEq, Repr

structure Logind where
  isConnected : Bool
  hasSessionControl : Bool
  sessionPath : String
  sessionActive : Bool
  vt : Int
  inhibitFds : List Int
  /-- the replies that are outstanding -/
  calls : LogindCall → Nat
  /-- the `Inhibit` calls that were made, oldest first -/
  messages : List InhibitMessage
  /-- signals emitted so far, oldest first -/
  signals : List LogindSignal
  /-- what was done with file descriptors, oldest first: `true` for one that
  `dup` returned, `false` for one that was closed -/
  fdLog : List (Int × Bool)

namespace Logind

/-- After the constructor, which asks the bus whether the service is there. -/
def init : Logind where
  isConnected := false
  hasSessionControl := false
  sessionPath := ""
  sessionActive := false
  vt := -1
  inhibitFds := []
  calls := fun call => if call = .listNames then 1 else 0
  messages := []
  signals := []
  fdLog := []

def emit (s : Logind) (signal : LogindSignal) : Logind := { s with signals := s.signals ++ [signal] }

/-- `asyncCall` -/
def asyncCall (s : Logind) (call : LogindCall) : Logind :=
  { s with calls := Function.update s.calls call (s.calls call + 1) }

/-- A reply was delivered. -/
def answered (s : Logind) (call : LogindCall) : Logind :=
  { s with calls := Function.update s.calls call (s.calls call - 1) }

def setSessionActive (s : Logind) (active : Bool) : Logind :=
  if s.sessionActive ≠ active then
    { s with sessionActive := active }.emit (.sessionActiveChanged active)
  else s

def setVt (s : Logind) (vt : Int) : Logind :=
  if s.vt ≠ vt then { s with vt := vt }.emit (.vtNumberChanged vt) else s

def setSessionControl (s : Logind) (control : Bool) : Logind :=
  { s with hasSessionControl := control }.emit (.hasSessionControlChanged control)

def serviceRegistered (s : Logind) : Logind := s.asyncCall .getSession

def serviceUnregistered (s : Logind) : Logind :=
  let s := { s with isConnected := false }.emit (.connectedChanged false)
  (s.setSessionActive false).setVt (-1)

def sessionPropertiesChanged (s : Logind) : Logind :=
  if s.isConnected = false ∨ s.sessionPath = "" then s
  else (s.asyncCall .getActive).asyncCall .getVTNr

/-- The reply to `ListNames`, an error if `none`. -/
def listNamesReply (s : Logind) (names : Option (List String)) : Logind :=
  match names with
  | some names => if "org.freedesktop.login1" ∈ names then s.serviceRegistered else s
  | none => s

/-- The reply to `GetSession`: the session's path, an error if `none`. -/
def getSessionReply (s : Logind) (path : Option String) : Logind :=
  if s.isConnected then s
  else
    match path with
    | some path =>
      let s := { s with sessionPath := path, isConnected := true }
      s.sessionPropertiesChanged.emit (.connectedChanged true)
    | none => s

/-- The reply to `Get(Active)`. -/
def activeReply (s : Logind) (active : Option Bool) : Logind :=
  match active with
  | some active => s.setSessionActive active
  | none => s

/-- The reply to `Get(VTNr)`, which becomes an `int`. -/
def vtNrReply (s : Logind) (vtnr : Option UInt32) : Logind :=
  match vtnr with
  | some vtnr => s.setVt (qint32 vtnr.toNat)
  | none => s

def takeControl (s : Logind) : Logind :=
  if s.isConnected = false ∨ s.sessionPath = "" ∨ s.hasSessionControl then s
  else s.asyncCall .takeControl

/-- The reply to `TakeControl`. -/
def takeControlReply (s : Logind) (valid : Bool) : Logind := s.setSessionControl valid

def releaseControl (s : Logind) : Logind :=
  if s.isConnected = false ∨ s.sessionPath = "" ∨ s.hasSessionControl = false then s
  else s.setSessionControl false

/-- The names of the inhibitors, in the order they are tested. -/
def inhibitNames : List (InhibitFlag × String) :=
  [(.shutdown, "shutdown"), (.sleep, "sleep"), (.idle, "idle"), (.powerKey, "handle-power-key"),
    (.suspendKey, "handle-suspend-key"), (.hibernateKey, "handle-hibernate-key"),
    (.lidSwitch, "handle-lid-switch")]

def what (flags : InhibitFlag → Bool) : String :=
  String.intercalate ":" ((inhibitNames.filter fun name => flags name.1).map (·.2))

def inhibit (s : Logind) (who why : String) (flags : InhibitFlag → Bool) (mode : InhibitMode) :
    Logind :=
  if s.isConnected = false then s
  else
    let message : InhibitMessage := ⟨what flags, who, why, if mode = .block then "block" else "delay"⟩
    { s with messages := s.messages ++ [message] }.asyncCall .inhibit

def isInhibited (s : Logind) : Bool := 0 < s.inhibitFds.length

/-- The reply to `Inhibit`; `fd` is what `dup` makes of the descriptor in it. -/
def inhibitReply (s : Logind) (fd : Option Int) : Logind :=
  match fd with
  | some fd =>
    let s := { s with inhibitFds := s.inhibitFds ++ [fd], fdLog := s.fdLog ++ [(fd, true)] }
    let s := if s.inhibitFds.length = 1 then s.emit (.inhibitedChanged true) else s
    s.emit (.inhibited fd)
  | none => s

def uninhibit (s : Logind) (fd : Int) : Logind :=
  if s.isConnected = false ∨ fd ∉ s.inhibitFds then s
  else
    let s := { s with inhibitFds := s.inhibitFds.erase fd, fdLog := s.fdLog ++ [(fd, false)] }
    let s := if s.inhibitFds.length = 0 then s.emit (.inhibitedChanged false) else s
    s.emit (.uninhibited fd)

inductive Op
  | serviceRegistered
  | serviceUnregistered
  | sessionPropertiesChanged
  | listNamesReply (names : Option (List String))
  | getSessionReply (path : Option String)
  | activeReply (active : Option Bool)
  | vtNrReply (vtnr : Option UInt32)
  | takeControl
  | takeControlReply (valid : Bool)
  | releaseControl
  | inhibit (who why : String) (flags : InhibitFlag → Bool) (mode : InhibitMode)
  | inhibitReply (fd : Option Int)
  | uninhibit (fd : Int)

/-- The call that a reply answers. -/
def Op.call : Op → Option LogindCall
  | .listNamesReply _ => some .listNames
  | .getSessionReply _ => some .getSession
  | .activeReply _ => some .getActive
  | .vtNrReply _ => some .getVTNr
  | .takeControlReply _ => some .takeControl
  | .inhibitReply _ => some .inhibit
  | _ => none

/-- What the handler of an event does. -/
def handle (s : Logind) : Op → Logind
  | .serviceRegistered => s.serviceRegistered
  | .serviceUnregistered => s.serviceUnregistered
  | .sessionPropertiesChanged => s.sessionPropertiesChanged
  | .listNamesReply names => s.listNamesReply names
  | .getSessionReply path => s.getSessionReply path
  | .activeReply active => s.activeReply active
  | .vtNrReply vtnr => s.vtNrReply vtnr
  | .takeControl => s.takeControl
  | .takeControlReply valid => s.takeControlReply valid
  | .releaseControl => s.releaseControl
  | .inhibit who why flags mode => s.inhibit who why flags mode
  | .inhibitReply fd => s.inhibitReply fd
  | .uninhibit fd => s.uninhibit fd

/-- A reply is delivered once for each call. -/
def step (s : Logind) (op : Op) : Logind :=
  match op.call with
  | some call => if s.calls call = 0 then s else (s.answered call).handle op
  | none => s.handle op

/-! ## What is to be kept -/

/-- What a disconnected `Logind` looks like. -/
def Reset (s : Logind) : Prop :=
  s.isConnected = false → s.sessionActive = false ∧ s.vt = -1 ∧ s.hasSessionControl = false

def connected? : LogindSignal → Option Bool
  | .connectedChanged b => some b
  | _ => none

def sessionActive? : LogindSignal → Option Bool
  | .sessionActiveChanged b => some b
  | _ => none

def vtNumber? : LogindSignal → Option Int
  | .vtNumberChanged vt => some vt
  | _ => none

def sessionControl? : LogindSignal → Option Bool
  | .hasSessionControlChanged b => some b
  | _ => none

/-- What was announced of one property. -/
def announced {β : Type} (s : Logind) (property? : LogindSignal → Option β) : List β :=
  s.signals.filterMap property?

/-- What there is to announce when a value goes from `old` to `new`. -/
def change {β : Type} [DecidableEq β] (old new : β) : List β := if old = new then [] else [new]

/-- Between `s` and `s'` the properties were announced exactly when they changed. -/
structure Announces (s s' : Logind) : Prop where
  sessionActive : s'.announced sessionActive? =
    s.announced sessionActive? ++ change s.sessionActive s'.sessionActive
  vtNumber : s'.announced vtNumber? = s.announced vtNumber? ++ change s.vt s'.vt
  sessionControl : s'.announced sessionControl? =
    s.announced sessionControl? ++ change s.hasSessionControl s'.hasSessionControl

/-- The same of `isConnected`. -/
def AnnouncesConnected (s s' : Logind) : Prop :=
  s'.announced connected? = s.announced connected? ++ change s.isConnected s'.isConnected

/-- The events that keep a disconnected `Logind` reset and announce what changes. -/
def EventOk (s : Logind) : Op → Prop
  | .serviceUnregistered => s.hasSessionControl = false
  | .activeReply (some active) => s.isConnected = true ∨ active = false
  | .vtNrReply (some vtnr) => s.isConnected = true ∨ qint32 vtnr.toNat = -1
  | .takeControlReply true => s.isConnected = true ∧ s.hasSessionControl = false
  | .takeControlReply false => s.hasSessionControl = true
  | _ => True

/-- The service is not lost without a connection. -/
def LossOk (s : Logind) (op : Op) : Prop := op = .serviceUnregistered → s.isConnected = true

/-- The event happens: it is no reply, or one that is outstanding. -/
def Happens (s : Logind) (op : Op) : Prop := ∀ call, op.call = some call → s.calls call ≠ 0

/-- The steps after which everything is as it is meant to be. -/
def OpOk (s : Logind) (op : Op) : Prop := s.Happens op → s.EventOk op

/-- What a step owes. -/
def Keeps (s : Logind) (_ : Op) (s' : Logind) : Prop := Reset s' ∧ Announces s s'

/-! ## Announcements -/

section
variable {s s' : Logind}

theorem change_self {β : Type} [DecidableEq β] (b : β) : change b b = [] := if_pos rfl

theorem change_eq_singleton {β : Type} [DecidableEq β] {old new : β} :
    change old new = [new] ↔ old ≠ new := by
  unfold change
  split
  · next h => exact iff_of_false (by rintro ⟨⟩) fun hne => hne h
  · next h => exact iff_of_true rfl h

theorem announced_append {β : Type} {new : List LogindSignal} (h : s'.signals = s.signals ++ new)
    (property? : LogindSignal → Option β) :
    s'.announced property? = s.announced property? ++ new.filterMap property? := by
  unfold announced
  rw [h, List.filterMap_append]

/-- What a step announced, from the signals that it emitted. -/
theorem announces_iff {new : List LogindSignal} (h : s'.signals = s.signals ++ new) :
    Announces s s' ↔
      new.filterMap sessionActive? = change s.sessionActive s'.sessionActive ∧
        new.filterMap vtNumber? = change s.vt s'.vt ∧
        new.filterMap sessionControl? = change s.hasSessionControl s'.hasSessionControl := by
  constructor
  · rintro ⟨hactive, hvt, hcontrol⟩
    rw [announced_append h] at hactive hvt hcontrol
    exact ⟨List.append_cancel_left hactive, List.append_cancel_left hvt,
      List.append_cancel_left hcontrol⟩
  · rintro ⟨hactive, hvt, hcontrol⟩
    refine ⟨?_, ?_, ?_⟩
    · rw [announced_append h, hactive]
    · rw [announced_append h, hvt]
    · rw [announced_append h, hcontrol]

theorem announcesConnected_iff {new : List LogindSignal} (h : s'.signals = s.signals ++ new) :
    AnnouncesConnected s s' ↔ new.filterMap connected? = change s.isConnected s'.isConnected := by
  unfold AnnouncesConnected
  rw [announced_append h]
  exact ⟨List.append_cancel_left, fun hc => by rw [hc]⟩

theorem filterMap_map_some {β : Type} (property? : LogindSignal → Option β) (signal : β → LogindSignal)
    (h : ∀ b, property? (signal b) = some b) (l : List β) :
    (l.map signal).filterMap property? = l := by
  rw [List.filterMap_map]
  exact (List.filterMap_congr fun b _ => h b).trans List.filterMap_some

theorem filterMap_map_none {β γ : Type} (property? : LogindSignal → Option γ)
    (signal : β → LogindSignal) (h : ∀ b, property? (signal b) = none) (l : List β) :
    (l.map signal).filterMap property? = [] := by
  rw [List.filterMap_eq_nil_iff]
  intro signal' hmem
  obtain ⟨b, -, rfl⟩ := List.mem_map.1 hmem
  exact h b

/-- Which property the signals of one kind are read back for. -/
theorem filterMap_sessionActiveChanged (l : List Bool) :
    (l.map .sessionActiveChanged).filterMap sessionActive? = l ∧
      (l.map .sessionActiveChanged).filterMap vtNumber? = [] ∧
      (l.map .sessionActiveChanged).filterMap sessionControl? = [] ∧
      (l.map .sessionActiveChanged).filterMap connected? = [] :=
  ⟨filterMap_map_some sessionActive? _ (fun _ => rfl) l, filterMap_map_none _ _ (fun _ => rfl) l,
    filterMap_map_none _ _ (fun _ => rfl) l, filterMap_map_none _ _ (fun _ => rfl) l⟩

theorem filterMap_vtNumberChanged (l : List Int) :
    (l.map .vtNumberChanged).filterMap sessionActive? = [] ∧
      (l.map .vtNumberChanged).filterMap vtNumber? = l ∧
      (l.map .vtNumberChanged).filterMap sessionControl? = [] ∧
      (l.map .vtNumberChanged).filterMap connected? = [] :=
  ⟨filterMap_map_none _ _ (fun _ => rfl) l, filterMap_map_some vtNumber? _ (fun _ => rfl) l,
    filterMap_map_none _ _ (fun _ => rfl) l, filterMap_map_none _ _ (fun _ => rfl) l⟩

theorem filterMap_append_eq_nil {β : Type} {property? : LogindSignal → Option β}
    {l l' : List LogindSignal} (h : l.filterMap property? = []) (h' : l'.filterMap property? = []) :
    (l ++ l').filterMap property? = [] := by
  rw [List.filterMap_append, h, h']
  rfl

theorem setSessionActive_eq (active : Bool) :
    s.setSessionActive active = { s with
      sessionActive := active
      signals := s.signals ++ (change s.sessionActive active).map .sessionActiveChanged } := by
  unfold setSessionActive change
  split
  · rfl
  · next h =>
    have h : s.sessionActive = active := not_not.1 h
    subst h
    simp

theorem setVt_eq (vt : Int) :
    s.setVt vt = { s with
      vt := vt
      signals := s.signals ++ (change s.vt vt).map .vtNumberChanged } := by
  unfold setVt change
  split
  · rfl
  · next h =>
    have h : s.vt = vt := not_not.1 h
    subst h
    simp

/-! ## Events that touch none of these properties -/

/-- No property changes and no signal of one is emitted. -/
structure Quiet (s s' : Logind) : Prop where
  isConnected : s'.isConnected = s.isConnected
  sessionActive : s'.sessionActive = s.sessionActive
  vt : s'.vt = s.vt
  hasSessionControl : s'.hasSessionControl = s.hasSessionControl
  signals : ∃ new, s'.signals = s.signals ++ new ∧ new.filterMap connected? = [] ∧
    new.filterMap sessionActive? = [] ∧ new.filterMap vtNumber? = [] ∧
    new.filterMap sessionControl? = []

theorem Quiet.of_same (hconnected : s'.isConnected = s.isConnected)
    (hactive : s'.sessionActive = s.sessionActive) (hvt : s'.vt = s.vt)
    (hcontrol : s'.hasSessionControl = s.hasSessionControl) (hsignals : s'.signals = s.signals) :
    Quiet s s' :=
  ⟨hconnected, hactive, hvt, hcontrol, [], hsignals.trans (List.append_nil _).symm, rfl, rfl, rfl, rfl⟩

theorem Quiet.refl (s : Logind) : Quiet s s := .of_same rfl rfl rfl rfl rfl

theorem Quiet.trans {s'' : Logind} (h : Quiet s s') (h' : Quiet s' s'') : Quiet s s'' := by
  obtain ⟨new, hnew, h₁, h₂, h₃, h₄⟩ := h.signals
  obtain ⟨new', hnew', h₁', h₂', h₃', h₄'⟩ := h'.signals
  refine ⟨h'.isConnected.trans h.isConnected, h'.sessionActive.trans h.sessionActive,
    h'.vt.trans h.vt, h'.hasSessionControl.trans h.hasSessionControl, new ++ new', ?_, ?_, ?_, ?_, ?_⟩
  · rw [hnew', hnew, List.append_assoc]
  · exact filterMap_append_eq_nil h₁ h₁'
  · exact filterMap_append_eq_nil h₂ h₂'
  · exact filterMap_append_eq_nil h₃ h₃'
  · exact filterMap_append_eq_nil h₄ h₄'

theorem Quiet.reset (h : Quiet s s') (hs : Reset s) : Reset s' := by
  unfold Reset
  rw [h.isConnected, h.sessionActive, h.vt, h.hasSessionControl]
  exact hs

theorem Quiet.announces (h : Quiet s s') : Announces s s' := by
  obtain ⟨new, hnew, -, hactive, hvt, hcontrol⟩ := h.signals
  refine (announces_iff hnew).2 ⟨?_, ?_, ?_⟩
  · rw [h.sessionActive, change_self, hactive]
  · rw [h.vt, change_self, hvt]
  · rw [h.hasSessionControl, change_self, hcontrol]

theorem Quiet.announcesConnected (h : Quiet s s') : AnnouncesConnected s s' := by
  obtain ⟨new, hnew, hconnected, -⟩ := h.signals
  refine (announcesConnected_iff hnew).2 ?_
  rw [h.isConnected, change_self, hconnected]

theorem quiet_asyncCall (s : Logind) (call : LogindCall) : Quiet s (s.asyncCall call) :=
  .of_same rfl rfl rfl rfl rfl

theorem quiet_inhibited (s : Logind) (fd : Int) : Quiet s (s.emit (.inhibited fd)) :=
  ⟨rfl, rfl, rfl, rfl, [.inhibited fd], rfl, rfl, rfl, rfl, rfl⟩

theorem quiet_uninhibited (s : Logind) (fd : Int) : Quiet s (s.emit (.uninhibited fd)) :=
  ⟨rfl, rfl, rfl, rfl, [.uninhibited fd], rfl, rfl, rfl, rfl, rfl⟩

theorem quiet_inhibitedChanged (s : Logind) (b : Bool) : Quiet s (s.emit (.inhibitedChanged b)) :=
  ⟨rfl, rfl, rfl, rfl, [.inhibitedChanged b], rfl, rfl, rfl, rfl, rfl⟩

theorem quiet_sessionPropertiesChanged (s : Logind) : Quiet s s.sessionPropertiesChanged := by
  unfold sessionPropertiesChanged
  split
  · exact .refl s
  · exact (quiet_asyncCall s _).trans (quiet_asyncCall _ _)

theorem quiet_listNamesReply (s : Logind) (names : Option (List String)) :
    Quiet s (s.listNamesReply names) := by
  unfold listNamesReply
  split
  · split
    · exact quiet_asyncCall s _
    · exact .refl s
  · exact .refl s

theorem quiet_takeControl (s : Logind) : Quiet s s.takeControl := by
  unfold takeControl
  split
  · exact .refl s
  · exact quiet_asyncCall s _

theorem quiet_inhibit (s : Logind) (who why : String) (flags : InhibitFlag → Bool)
    (mode : InhibitMode) : Quiet s (s.inhibit who why flags mode) := by
  unfold inhibit
  split
  · exact .refl s
  · exact .of_same rfl rfl rfl rfl rfl

theorem quiet_inhibitReply (s : Logind) (fd : Option Int) : Quiet s (s.inhibitReply fd) := by
  unfold inhibitReply
  split
  · next fd =>
    dsimp only
    refine Quiet.trans ?_ (quiet_inhibited _ fd)
    split
    · refine Quiet.trans ?_ (quiet_inhibitedChanged _ true)
      exact .of_same rfl rfl rfl rfl rfl
    · exact .of_same rfl rfl rfl rfl rfl
  · exact .refl s

theorem quiet_uninhibit (s : Logind) (fd : Int) : Quiet s (s.uninhibit fd) := by
  unfold uninhibit
  split
  · exact .refl s
  · dsimp only
    refine Quiet.trans ?_ (quiet_uninhibited _ fd)
    split
    · refine Quiet.trans ?_ (quiet_inhibitedChanged _ false)
      exact .of_same rfl rfl rfl rfl rfl
    · exact .of_same rfl rfl rfl rfl rfl

/-! ## Events that do -/

/-- What is to be said of an event: when it keeps what is to be kept, and when it
announces the connection. -/
structure Settles (s : Logind) (op : Op) : Prop where
  keeps : Keeps s op (s.handle op) ↔ s.EventOk op
  connected : AnnouncesConnected s (s.handle op) ↔ s.LossOk op

theorem Quiet.settles (hs : Reset s) {op : Op} (h : Quiet s (s.handle op)) (hok : s.EventOk op)
    (hop : op ≠ .serviceUnregistered) : Settles s op where
  keeps := iff_of_true ⟨h.reset hs, h.announces⟩ hok
  connected := iff_of_true h.announcesConnected fun heq => absurd heq hop

/-- The unregistration resets all but the control of the session. -/
theorem settles_serviceUnregistered (s : Logind) : Settles s .serviceUnregistered := by
  have heq : s.handle .serviceUnregistered = { s with
      isConnected := false
      sessionActive := false
      vt := -1
      signals := s.signals ++ .connectedChanged false ::
        ((change s.sessionActive false).map .sessionActiveChanged ++
          (change s.vt (-1)).map .vtNumberChanged) } := by
    show s.serviceUnregistered = _
    unfold serviceUnregistered
    dsimp only
    rw [setSessionActive_eq, setVt_eq]
    simp [emit]
  have hsignals := congrArg signals heq
  obtain ⟨hactive, hactiveVt, hactiveControl, hactiveConnected⟩ :=
    filterMap_sessionActiveChanged (change s.sessionActive false)
  obtain ⟨hvtActive, hvt, hvtControl, hvtConnected⟩ := filterMap_vtNumberChanged (change s.vt (-1))
  refine ⟨?_, ?_⟩
  · unfold Keeps
    rw [announces_iff hsignals, heq]
    constructor
    · rintro ⟨hreset, -⟩
      exact (hreset rfl).2.2
    · intro hcontrol
      refine ⟨fun _ => ⟨rfl, rfl, hcontrol⟩, ?_, ?_, ?_⟩
      · rw [List.filterMap_cons_none rfl, List.filterMap_append, hactive, hvtActive, List.append_nil]
      · rw [List.filterMap_cons_none rfl, List.filterMap_append, hactiveVt, hvt, List.nil_append]
      · rw [List.filterMap_cons_none rfl, List.filterMap_append, hactiveControl, hvtControl, change_self]
        rfl
  · have hcons : ∀ l, List.filterMap connected? (.connectedChanged false :: l) =
        false :: l.filterMap connected? := fun _ => rfl
    rw [announcesConnected_iff hsignals, heq, hcons, List.filterMap_append, hactiveConnected,
      hvtConnected]
    show [false] = change s.isConnected false ↔ _
    rw [eq_comm, change_eq_singleton]
    unfold LossOk
    simp

/-- Setting the session's activity keeps everything while it is connected; a
disconnected one may only be set inactive. -/
theorem setSessionActive_spec (hs : Reset s) (active : Bool) :
    (Reset (s.setSessionActive active) ∧ Announces s (s.setSessionActive active) ↔
        s.isConnected = true ∨ active = false) ∧
      AnnouncesConnected s (s.setSessionActive active) := by
  have heq := setSessionActive_eq (s := s) active
  have hsignals := congrArg signals heq
  obtain ⟨hnew, hnewVt, hnewControl, hnewConnected⟩ :=
    filterMap_sessionActiveChanged (change s.sessionActive active)
  rw [announces_iff hsignals, announcesConnected_iff hsignals, heq]
  refine ⟨⟨?_, fun hok => ⟨fun hc => ?_, ?_, ?_, ?_⟩⟩, ?_⟩
  · rintro ⟨hreset, -⟩
    rcases hc : s.isConnected with _ | _
    · exact Or.inr (hreset hc).1
    · exact Or.inl rfl
  · have hc : s.isConnected = false := hc
    obtain ⟨-, hvt, hcontrol⟩ := hs hc
    rw [hc] at hok
    exact ⟨hok.resolve_left (by simp), hvt, hcontrol⟩
  · exact hnew
  · rw [hnewVt, change_self]
  · rw [hnewControl, change_self]
  · rw [hnewConnected, change_self]

/-- The same of the virtual terminal. -/
theorem setVt_spec (hs : Reset s) (vt : Int) :
    (Reset (s.setVt vt) ∧ Announces s (s.setVt vt) ↔ s.isConnected = true ∨ vt = -1) ∧
      AnnouncesConnected s (s.setVt vt) := by
  have heq := setVt_eq (s := s) vt
  have hsignals := congrArg signals heq
  obtain ⟨hnewActive, hnew, hnewControl, hnewConnected⟩ :=
    filterMap_vtNumberChanged (change s.vt vt)
  rw [announces_iff hsignals, announcesConnected_iff hsignals, heq]
  refine ⟨⟨?_, fun hok => ⟨fun hc => ?_, ?_, ?_, ?_⟩⟩, ?_⟩
  · rintro ⟨hreset, -⟩
    rcases hc : s.isConnected with _ | _
    · exact Or.inr (hreset hc).2.1
    · exact Or.inl rfl
  · have hc : s.isConnected = false := hc
    obtain ⟨hactive, -, hcontrol⟩ := hs hc
    rw [hc] at hok
    exact ⟨hactive, hok.resolve_left (by simp), hcontrol⟩
  · rw [hnewActive, change_self]
  · exact hnew
  · rw [hnewControl, change_self]
  · rw [hnewConnected, change_self]

/-- Setting the control announces it, whether it changed or not. -/
theorem setSessionControl_spec (s : Logind) (control : Bool) :
    (Announces s (s.setSessionControl control) ↔ s.hasSessionControl ≠ control) ∧
      AnnouncesConnected s (s.setSessionControl control) := by
  have hsignals : (s.setSessionControl control).signals =
    s.signals ++ [.hasSessionControlChanged control] := rfl
  rw [announces_iff hsignals, announcesConnected_iff hsignals]
  refine ⟨?_, (change_self _).symm⟩
  rw [← change_eq_singleton]
  constructor
  · rintro ⟨-, -, h⟩
    exact h.symm
  · intro h
    exact ⟨(change_self _).symm, (change_self _).symm, h.symm⟩

theorem settles_takeControlReply (hs : Reset s) (valid : Bool) :
    Settles s (.takeControlReply valid) := by
  obtain ⟨hannounces, hconnected⟩ := setSessionControl_spec s valid
  refine ⟨?_, iff_of_true hconnected (by rintro ⟨⟩)⟩
  have hkeeps : Keeps s (.takeControlReply valid) (s.handle (.takeControlReply valid)) ↔
      Reset (s.setSessionControl valid) ∧ s.hasSessionControl ≠ valid :=
    and_congr_right fun _ => hannounces
  rw [hkeeps]
  cases valid with
  | true =>
    refine and_congr ⟨fun hreset => ?_, fun hc hnot => ?_⟩ (by simp)
    · by_contra hc
      exact absurd (hreset (Bool.eq_false_iff.2 hc)).2.2 (by simp [setSessionControl, emit])
    · have hnot : s.isConnected = false := hnot
      rw [hc] at hnot
      cases hnot
  | false =>
    refine (and_iff_right ?_).trans (by simp [EventOk])
    exact fun hc => ⟨(hs hc).1, (hs hc).2.1, rfl⟩

theorem settles_releaseControl (hs : Reset s) : Settles s .releaseControl := by
  by_cases h : s.isConnected = false ∨ s.sessionPath = "" ∨ s.hasSessionControl = false
  · have heq : s.handle .releaseControl = s := if_pos h
    refine Quiet.settles hs ?_ trivial (by rintro ⟨⟩)
    rw [heq]
    exact .refl s
  · have heq : s.handle .releaseControl = s.setSessionControl false := if_neg h
    obtain ⟨hannounces, hconnected⟩ := setSessionControl_spec s false
    refine ⟨iff_of_true ?_ trivial, iff_of_true ?_ (by rintro ⟨⟩)⟩
    · rw [heq]
      refine ⟨fun hc => absurd (Or.inl hc) h, hannounces.2 fun hcontrol => ?_⟩
      exact h (Or.inr (Or.inr hcontrol))
    · rw [heq]
      exact hconnected

/-- A session that is found connects. -/
theorem settles_getSessionReply (hs : Reset s) (path : Option String) :
    Settles s (.getSessionReply path) := by
  by_cases hc : s.isConnected = true
  · have heq : s.handle (.getSessionReply path) = s := if_pos hc
    refine Quiet.settles hs ?_ trivial (by rintro ⟨⟩)
    rw [heq]
    exact .refl s
  · have heq : s.handle (.getSessionReply path) = _ := if_neg hc
    rcases path with _ | path
    · refine Quiet.settles hs ?_ trivial (by rintro ⟨⟩)
      rw [heq]
      exact .refl s
    · set s₁ : Logind := { s with sessionPath := path, isConnected := true } with hs₁
      have hquiet := quiet_sessionPropertiesChanged s₁
      have hsame : s₁.sessionPropertiesChanged.signals = s.signals := by
        unfold sessionPropertiesChanged
        split <;> rfl
      have hsignals : (s.handle (.getSessionReply (some path))).signals =
          s.signals ++ [.connectedChanged true] := by
        rw [heq]
        exact congrArg (· ++ [LogindSignal.connectedChanged true]) hsame
      have hconnected : (s.handle (.getSessionReply (some path))).isConnected = true := by
        rw [heq]
        exact hquiet.isConnected
      refine ⟨iff_of_true ⟨fun h => ?_, (announces_iff hsignals).2 ?_⟩ trivial,
        iff_of_true ((announcesConnected_iff hsignals).2 ?_) (by rintro ⟨⟩)⟩
      · rw [hconnected] at h
        cases h
      · rw [heq]
        refine ⟨?_, ?_, ?_⟩
        · exact ((congrArg _ hquiet.sessionActive).trans (change_self _)).symm
        · exact ((congrArg _ hquiet.vt).trans (change_self _)).symm
        · exact ((congrArg _ hquiet.hasSessionControl).trans (change_self _)).symm
      · rw [hconnected, Bool.eq_false_iff.2 hc]
        rfl

/-- **Every event.** -/
theorem settles (hs : Reset s) (op : Op) : Settles s op := by
  have hquiet : ∀ {op : Op}, Quiet s (s.handle op) → s.EventOk op → op ≠ .serviceUnregistered →
      Settles s op := fun h hok hop => h.settles hs hok hop
  cases op with
  | serviceRegistered => exact hquiet (quiet_asyncCall s _) trivial (by rintro ⟨⟩)
  | serviceUnregistered => exact settles_serviceUnregistered s
  | sessionPropertiesChanged =>
    exact hquiet (quiet_sessionPropertiesChanged s) trivial (by rintro ⟨⟩)
  | listNamesReply names => exact hquiet (quiet_listNamesReply s names) trivial (by rintro ⟨⟩)
  | getSessionReply path => exact settles_getSessionReply hs path
  | activeReply active =>
    rcases active with _ | active
    · exact hquiet (.refl s) trivial (by rintro ⟨⟩)
    · obtain ⟨hkeeps, hconnected⟩ := setSessionActive_spec hs active
      exact ⟨hkeeps, iff_of_true hconnected (by rintro ⟨⟩)⟩
  | vtNrReply vtnr =>
    rcases vtnr with _ | vtnr
    · exact hquiet (.refl s) trivial (by rintro ⟨⟩)
    · obtain ⟨hkeeps, hconnected⟩ := setVt_spec hs (qint32 vtnr.toNat)
      exact ⟨hkeeps, iff_of_true hconnected (by rintro ⟨⟩)⟩
  | takeControl => exact hquiet (quiet_takeControl s) trivial (by rintro ⟨⟩)
  | takeControlReply valid => exact settles_takeControlReply hs valid
  | releaseControl => exact settles_releaseControl hs
  | inhibit who why flags mode =>
    exact hquiet (quiet_inhibit s who why flags mode) trivial (by rintro ⟨⟩)
  | inhibitReply fd => exact hquiet (quiet_inhibitReply s fd) trivial (by rintro ⟨⟩)
  | uninhibit fd => exact hquiet (quiet_uninhibit s fd) trivial (by rintro ⟨⟩)

/-! ## Results -/

theorem eventOk_answered (call : LogindCall) (op : Op) :
    (s.answered call).EventOk op ↔ s.EventOk op := by
  rcases op with _ | _ | _ | _ | _ | (_ | _) | (_ | _) | _ | (_ | _) | _ | _ | _ | _ <;> exact Iff.rfl

/-- What is owed is the same before and after a reply was counted. -/
theorem keeps_answered (call : LogindCall) (op : Op) (s' : Logind) :
    (s.answered call).Keeps op s' ↔ s.Keeps op s' := by
  refine and_congr_right fun _ => ⟨fun h => ?_, fun h => ?_⟩
  · exact ⟨h.sessionActive, h.vtNumber, h.sessionControl⟩
  · exact ⟨h.sessionActive, h.vtNumber, h.sessionControl⟩

/-- **One step.**  A reply that is not outstanding is not delivered. -/
theorem step_iff (hs : Reset s) (op : Op) :
    (Keeps s op (s.step op) ↔ s.OpOk op) ∧ (AnnouncesConnected s (s.step op) ↔ s.LossOk op) := by
  unfold step OpOk Happens
  split
  · next call hcall =>
    have hloss : s.LossOk op := by
      rintro rfl
      cases hcall
    split
    · next hnone =>
      have hq : Quiet s s := .refl s
      refine ⟨iff_of_true ⟨hs, hq.announces⟩ fun h => ?_, iff_of_true hq.announcesConnected hloss⟩
      exact absurd hnone (h call hcall)
    · next hsome =>
      have hanswered : Reset (s.answered call) := hs
      obtain ⟨hkeeps, hconnected⟩ := settles hanswered op
      have hhappens : ∀ c, op.call = some c → s.calls c ≠ 0 := by
        intro c hc
        obtain rfl : call = c := Option.some.inj (hcall.symm.trans hc)
        exact hsome
      rw [eventOk_answered, keeps_answered] at hkeeps
      exact ⟨hkeeps.trans ⟨fun h _ => h, fun h => h hhappens⟩, hconnected⟩
  · next hcall =>
    obtain ⟨hkeeps, hconnected⟩ := settles hs op
    refine ⟨hkeeps.trans ⟨fun h _ => h, fun h => h ?_⟩, hconnected⟩
    intro call hc
    rw [hcall] at hc
    cases hc

theorem reset_init : Reset init := fun _ => ⟨rfl, rfl, rfl⟩

end

/-- **Logind over whole runs.**  A disconnected `Logind` is reset at all times and
every change of the session's activity, of the virtual terminal and of the
control is announced, and nothing else, if and only if every step meets `OpOk`.
The changes of the connection are announced in the same way if and only if it is
also never lost while there is none. -/
theorem disconnected_reset_iff (ops : List Op) :
    ((Reset init ∧ Run.Along (fun s op => some (step s op)) Keeps init ops) ↔
        Run.Meets (fun s op => some (step s op)) OpOk init ops) ∧
      ((Reset init ∧ Run.Along (fun s op => some (step s op))
          (fun s op s' => Keeps s op s' ∧ AnnouncesConnected s s') init ops) ↔
        Run.Meets (fun s op => some (step s op)) (fun s op => OpOk s op ∧ LossOk s op) init ops) := by
  refine ⟨(and_iff_right reset_init).trans ?_, (and_iff_right reset_init).trans ?_⟩
  · refine Run.along_iff_of_decides (I := Reset) (fun s op hs => ?_) ops init reset_init
    obtain ⟨hkeeps, -⟩ := step_iff hs op
    exact Run.decides_total hkeeps fun hok => (hkeeps.2 hok).1
  · refine Run.along_iff_of_decides (I := Reset) (fun s op hs => ?_) ops init reset_init
    obtain ⟨hkeeps, hconnected⟩ := step_iff hs op
    exact Run.decides_total (and_congr hkeeps hconnected) fun hok => (hkeeps.2 hok.1).1

/-- The service is lost while the session is controlled: the control stays. -/
theorem control_survives_loss :
    ¬ (Reset init ∧ Run.Along (fun s op => some (step s op)) Keeps init
      [.listNamesReply (some ["org.freedesktop.login1"]), .getSessionReply (some "/session/1"),
        .takeControl, .takeControlReply true, .serviceUnregistered]) := by
  rintro ⟨-, s₁, h₁, -, s₂, h₂, -, s₃, h₃, -, s₄, h₄, -, s₅, h₅, ⟨hreset, -⟩, -⟩
  obtain rfl := Option.some.inj h₁
  obtain rfl := Option.some.inj h₂
  obtain rfl := Option.some.inj h₃
  obtain rfl := Option.some.inj h₄
  obtain rfl := Option.some.inj h₅
  have hcontrol := (hreset (by decide)).2.2
  exact absurd hcontrol (by decide)

end Logind

end GreenIsland.Platform

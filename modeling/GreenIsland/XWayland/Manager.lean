import Mathlib.Data.List.Basic
import Mathlib.Logic.Function.Basic
import GreenIsland.Lib.Run

/-! The X window manager of the compositor (`XWaylandManager`).

A shell surface stands for an X window.  It is made, and put into `windowsMap`,
when the window is created; when the window is destroyed it is taken out of the
map and deleted later, by a destructor that calls `removeWindow`.  A message tells
it the id of the Wayland surface of its window; without such a surface it is put
on a list until one is created.

Shell surfaces and Wayland surfaces are numbered in the order of their creation.
`step` is `none` when a pointer is followed that is null or whose object was
deleted.  Beside the manager stands which X windows there are, each with the shell
surface that was made for it last (`Session`).

The map never has a null or deleted shell surface, and only those of existing
windows (`Base.step`).  It has all of them, and every shell surface that was
announced is announced to be removed, once, when it is deleted, exactly along
those runs in which no window is created under the id of another one and no shell
surface is deleted at all (`windows_kept_iff`): the destructor looks its own shell
surface up by an id that is not in the map any more, or is that of a new window. -/

namespace GreenIsland.XWayland

/-! ## Model -/

/-- `XWaylandShellSurface` -/
structure ShellSurface where
  window : UInt32
  surfaceId : UInt32
  surface : Option Nat
  /-- `deleteLater` was called -/
  deleteLater : Bool
  destroyed : Bool
  /-- the value of `surface` whenever `surfaceChanged` was emitted -/
  changes : List (Option Nat)

inductive ManagerSignal
  | shellSurfaceAdded (shellSurface : Option Nat)
  | shellSurfaceRemoved (shellSurface : Option Nat)
deriving DecidableEq, Repr

structure XWaylandManager where
  resourceIdMask : UInt32
  resourceIdBase : UInt32
  /-- pointers by window; `some none` is an entry that is null -/
  windowsMap : UInt32 → Option (Option Nat)
  unpairedWindows : List Nat
  shellSurfaces : Nat → ShellSurface
  /-- the number of shell surfaces that were made -/
  made : Nat
  /-- the Wayland surfaces of the server's client by id -/
  resources : UInt32 → Option Nat
  /-- the number of Wayland surfaces that were created -/
  created : Nat
  signals : List ManagerSignal

namespace XWaylandManager

def init (resourceIdMask resourceIdBase : UInt32) : XWaylandManager where
  resourceIdMask := resourceIdMask
  resourceIdBase := resourceIdBase
  windowsMap := fun _ => none
  unpairedWindows := []
  shellSurfaces := fun _ => ⟨0, 0, none, false, false, []⟩
  made := 0
  resources := fun _ => none
  created := 0
  signals := []

/-- `Xcb::isOurResource` -/
def isOurResource (s : XWaylandManager) (id : UInt32) : Bool :=
  id &&& ~~~s.resourceIdMask == s.resourceIdBase

/-- The object is there. -/
def Alive (s : XWaylandManager) (n : Nat) : Prop := n < s.made ∧ (s.shellSurfaces n).destroyed = false

instance (s : XWaylandManager) (n : Nat) : Decidable (s.Alive n) :=
  inferInstanceAs (Decidable (_ ∧ _))

/-- Follows a pointer. -/
def deref (s : XWaylandManager) (pointer : Option Nat) : Option Nat :=
  pointer.filter fun n => s.Alive n

def setShellSurface (s : XWaylandManager) (n : Nat) (f : ShellSurface → ShellSurface) :
    XWaylandManager :=
  { s with shellSurfaces := Function.update s.shellSurfaces n (f (s.shellSurfaces n)) }

def addWindow (s : XWaylandManager) (id : UInt32) (n : Nat) : XWaylandManager :=
  { s with
    windowsMap := Function.update s.windowsMap id (some (some n))
    signals := s.signals ++ [.shellSurfaceAdded (some n)] }

/-- An id that is not in the map is inserted with a null pointer by `operator[]`, and
then removed. -/
def removeWindow (s : XWaylandManager) (id : UInt32) : XWaylandManager :=
  { s with
    windowsMap := Function.update s.windowsMap id none
    signals := s.signals ++ [.shellSurfaceRemoved (s.windowsMap id).join] }

/-! ### Shell surfaces -/

def setSurfaceId (shellSurface : ShellSurface) (id : UInt32) : ShellSurface :=
  if 0 < shellSurface.surfaceId then shellSurface else { shellSurface with surfaceId := id }

def setSurface (shellSurface : ShellSurface) (surface : Option Nat) : ShellSurface :=
  if shellSurface.surface ≠ none then shellSurface
  else { shellSurface with surface := surface, changes := shellSurface.changes ++ [surface] }

def handleSurfaceDestroyed (shellSurface : ShellSurface) : ShellSurface :=
  { shellSurface with surface := none, changes := shellSurface.changes ++ [none] }

/-- The destructor of shell surface `n`. -/
def destroy (s : XWaylandManager) (n : Nat) : XWaylandManager :=
  let s := s.setShellSurface n fun shellSurface => setSurface shellSurface none
  (s.removeWindow (s.shellSurfaces n).window).setShellSurface n fun shellSurface =>
    { shellSurface with destroyed := true }

/-! ### Events of X -/

def handleCreateNotify (s : XWaylandManager) (id : UInt32) : XWaylandManager :=
  if s.isOurResource id then s
  else
    { s.setShellSurface s.made fun _ => ⟨id, 0, none, false, false, []⟩ with
      made := s.made + 1 }.addWindow id s.made

/-- The shell surface asks the X server to map the window. -/
def handleMapRequest (s : XWaylandManager) (id : UInt32) : Option XWaylandManager :=
  if s.isOurResource id then some s
  else
    match s.windowsMap id with
    | none => some s
    | some pointer => (s.deref pointer).map fun _ => s

/-- Nothing but returns. -/
def handleUnmapNotify (s : XWaylandManager) (_ : UInt32) : XWaylandManager := s

def handleDestroyNotify (s : XWaylandManager) (id : UInt32) : Option XWaylandManager :=
  if s.isOurResource id then some s
  else
    match s.windowsMap id with
    | none => some s
    | some pointer =>
      (s.deref pointer).map fun n =>
        { s.setShellSurface n fun shellSurface => { shellSurface with deleteLater := true } with
          windowsMap := Function.update s.windowsMap id none }

def handleSurfaceId (s : XWaylandManager) (n : Nat) (id : UInt32) : XWaylandManager :=
  if (s.shellSurfaces n).surface ≠ none then s
  else
    let s := s.setShellSurface n fun shellSurface => setSurfaceId shellSurface id
    match s.resources id with
    | some surface => s.setShellSurface n fun shellSurface => setSurface shellSurface (some surface)
    | none =>
      let s := s.setShellSurface n fun shellSurface => setSurface shellSurface none
      { s with unpairedWindows := s.unpairedWindows ++ [n] }

/-- The message `WL_SURFACE_ID`. -/
def handleClientMessage (s : XWaylandManager) (window id : UInt32) : Option XWaylandManager :=
  match s.windowsMap window with
  | none => some s
  | some pointer => (s.deref pointer).map fun n => s.handleSurfaceId n id

/-! ### Events of Wayland -/

/-- The loop of `handleSurfaceCreated`, over a copy of the list. -/
def pair (s : XWaylandManager) (surface : Nat) (id : UInt32) : List Nat → Option XWaylandManager
  | [] => some s
  | n :: ns =>
    if s.Alive n then
      if (s.shellSurfaces n).surfaceId = id then
        let s := s.setShellSurface n fun shellSurface => setSurfaceId shellSurface 0
        let s := s.setShellSurface n fun shellSurface => setSurface shellSurface (some surface)
        some { s with unpairedWindows := s.unpairedWindows.erase n }
      else s.pair surface id ns
    else none

/-- A surface is created; it is `foreign` if it has a client other than the server's. -/
def surfaceCreated (s : XWaylandManager) (id : UInt32) (foreign : Bool) : Option XWaylandManager :=
  let surface := s.created
  let s := { s with created := s.created + 1 }
  if foreign then some s
  else
    let s := { s with resources := Function.update s.resources id (some surface) }
    s.pair surface id s.unpairedWindows

/-- The surface with this id is destroyed, if there is one. -/
def surfaceDestroyed (s : XWaylandManager) (id : UInt32) : XWaylandManager :=
  match s.resources id with
  | none => s
  | some surface =>
    { s with
      resources := Function.update s.resources id none
      shellSurfaces := fun n =>
        if (s.shellSurfaces n).surface = some surface ∧ s.Alive n then
          handleSurfaceDestroyed (s.shellSurfaces n)
        else s.shellSurfaces n }

inductive Op
  | createNotify (window : UInt32)
  | mapRequest (window : UInt32)
  | unmapNotify (window : UInt32)
  | destroyNotify (window : UInt32)
  /-- shell surface `n` is deleted -/
  | deleted (n : Nat)
  | clientMessage (window id : UInt32)
  | surfaceCreated (id : UInt32) (foreign : Bool)
  | surfaceDestroyed (id : UInt32)
deriving DecidableEq, Repr

def handle (s : XWaylandManager) : Op → Option XWaylandManager
  | .createNotify window => some (s.handleCreateNotify window)
  | .mapRequest window => s.handleMapRequest window
  | .unmapNotify window => some (s.handleUnmapNotify window)
  | .destroyNotify window => s.handleDestroyNotify window
  | .deleted n => some (s.destroy n)
  | .clientMessage window id => s.handleClientMessage window id
  | .surfaceCreated id foreign => s.surfaceCreated id foreign
  | .surfaceDestroyed id => some (s.surfaceDestroyed id)

/-- What can happen: a deletion was asked for, and ids of surfaces are not shared. -/
def Deliverable (s : XWaylandManager) : Op → Prop
  | .deleted n => s.Alive n ∧ (s.shellSurfaces n).deleteLater = true
  | .surfaceCreated id foreign => foreign = true ∨ s.resources id = none
  | _ => True

instance (s : XWaylandManager) (op : Op) : Decidable (s.Deliverable op) := by
  cases op <;> unfold Deliverable <;> infer_instance

end XWaylandManager

/-- The manager and the X windows that are not its own, each with the shell surface that was
made for it last. -/
structure Session where
  manager : XWaylandManager
  windows : UInt32 → Option Nat

namespace Session

open XWaylandManager

def init (resourceIdMask resourceIdBase : UInt32) : Session :=
  ⟨XWaylandManager.init resourceIdMask resourceIdBase, fun _ => none⟩

def windowsAfter (t : Session) : Op → UInt32 → Option Nat
  | .createNotify window =>
    if t.manager.isOurResource window then t.windows
    else Function.update t.windows window (some t.manager.made)
  | .destroyNotify window =>
    if t.manager.isOurResource window then t.windows else Function.update t.windows window none
  | _ => t.windows

def step (t : Session) (op : Op) : Option Session :=
  if t.manager.Deliverable op then
    (t.manager.handle op).map fun manager => ⟨manager, t.windowsAfter op⟩
  else some t

end Session

/-! ## What pairing leaves alone -/

namespace XWaylandManager

section
variable {s s' s'' : XWaylandManager} {n m : Nat}

theorem setShellSurface_self (f : ShellSurface → ShellSurface) :
    (s.setShellSurface n f).shellSurfaces n = f (s.shellSurfaces n) := Function.update_self ..

theorem setShellSurface_of_ne (f : ShellSurface → ShellSurface) (h : m ≠ n) :
    (s.setShellSurface n f).shellSurfaces m = s.shellSurfaces m := Function.update_of_ne h ..

/-- Fields that a change of the pairing leaves alone. -/
def SameObject (x y : ShellSurface) : Prop :=
  y.window = x.window ∧ y.deleteLater = x.deleteLater ∧ y.destroyed = x.destroyed

/-- The windows, and which shell surfaces there are, stay as they were. -/
structure Frame (s s' : XWaylandManager) : Prop where
  windowsMap : s'.windowsMap = s.windowsMap
  made : s'.made = s.made
  signals : s'.signals = s.signals
  object : ∀ n, SameObject (s.shellSurfaces n) (s'.shellSurfaces n)

theorem Frame.of_same (hmap : s'.windowsMap = s.windowsMap) (hmade : s'.made = s.made)
    (hsignals : s'.signals = s.signals) (hshell : s'.shellSurfaces = s.shellSurfaces) : Frame s s' := by
  refine ⟨hmap, hmade, hsignals, fun n => ?_⟩
  rw [hshell]
  exact ⟨rfl, rfl, rfl⟩

theorem Frame.refl (s : XWaylandManager) : Frame s s := .of_same rfl rfl rfl rfl

theorem Frame.trans (h : Frame s s') (h' : Frame s' s'') : Frame s s'' := by
  refine ⟨h'.windowsMap.trans h.windowsMap, h'.made.trans h.made, h'.signals.trans h.signals,
    fun n => ?_⟩
  obtain ⟨hwindow, hdelete, hdestroyed⟩ := h.object n
  obtain ⟨hwindow', hdelete', hdestroyed'⟩ := h'.object n
  exact ⟨hwindow'.trans hwindow, hdelete'.trans hdelete, hdestroyed'.trans hdestroyed⟩

theorem frame_setShellSurface {f : ShellSurface → ShellSurface} (hf : ∀ x, SameObject x (f x)) :
    Frame s (s.setShellSurface n f) := by
  refine ⟨rfl, rfl, rfl, fun m => ?_⟩
  by_cases hmn : m = n
  · subst hmn
    rw [setShellSurface_self]
    exact hf _
  · rw [setShellSurface_of_ne f hmn]
    exact ⟨rfl, rfl, rfl⟩

theorem sameObject_setSurfaceId (id : UInt32) (x : ShellSurface) : SameObject x (setSurfaceId x id) := by
  unfold setSurfaceId
  split <;> exact ⟨rfl, rfl, rfl⟩

theorem sameObject_setSurface (surface : Option Nat) (x : ShellSurface) :
    SameObject x (setSurface x surface) := by
  unfold setSurface
  split <;> exact ⟨rfl, rfl, rfl⟩

theorem Frame.alive_iff (h : Frame s s') : s'.Alive n ↔ s.Alive n := by
  unfold Alive
  rw [h.made, (h.object n).2.2]

/-- The two calls that pair a shell surface. -/
theorem frame_setSurface (s : XWaylandManager) (n : Nat) (id : UInt32) (surface : Option Nat) :
    Frame s ((s.setShellSurface n fun shellSurface => setSurfaceId shellSurface id).setShellSurface n
      fun shellSurface => setSurface shellSurface surface) :=
  (frame_setShellSurface (sameObject_setSurfaceId id)).trans
    (frame_setShellSurface (sameObject_setSurface surface))

theorem frame_handleSurfaceId (s : XWaylandManager) (n : Nat) (id : UInt32) :
    Frame s (s.handleSurfaceId n id) := by
  unfold handleSurfaceId
  split
  · exact .refl s
  · dsimp only
    split
    · exact frame_setSurface s n id _
    · exact (frame_setSurface s n id none).trans (.of_same rfl rfl rfl rfl)

theorem frame_pair {surface : Nat} {id : UInt32} {ns : List Nat} (h : s.pair surface id ns = some s') :
    Frame s s' := by
  induction ns with
  | nil =>
    obtain rfl := Option.some.inj h
    exact .refl s
  | cons n ns ih =>
    unfold pair at h
    split at h
    · split at h
      · obtain rfl := Option.some.inj h
        exact (frame_setSurface s n 0 (some surface)).trans (.of_same rfl rfl rfl rfl)
      · exact ih h
    · cases h

theorem frame_surfaceCreated {id : UInt32} {foreign : Bool} (h : s.surfaceCreated id foreign = some s') :
    Frame s s' := by
  unfold surfaceCreated at h
  split at h
  · obtain rfl := Option.some.inj h
    exact .of_same rfl rfl rfl rfl
  · have hpair := frame_pair h
    exact ⟨hpair.windowsMap, hpair.made, hpair.signals, hpair.object⟩

theorem frame_surfaceDestroyed (s : XWaylandManager) (id : UInt32) :
    Frame s (s.surfaceDestroyed id) := by
  unfold surfaceDestroyed
  split
  · exact .refl s
  · refine ⟨rfl, rfl, rfl, fun n => ?_⟩
    show SameObject _ (if _ then _ else _)
    split <;> exact ⟨rfl, rfl, rfl⟩

/-- The events that make, take out and delete no shell surface. -/
theorem frame_handle {op : Op} (hcreate : ∀ window, op ≠ .createNotify window)
    (hdestroy : ∀ window, op ≠ .destroyNotify window) (hdelete : ∀ n, op ≠ .deleted n)
    (h : s.handle op = some s') : Frame s s' := by
  cases op with
  | createNotify window => exact absurd rfl (hcreate window)
  | destroyNotify window => exact absurd rfl (hdestroy window)
  | deleted n => exact absurd rfl (hdelete n)
  | unmapNotify window =>
    obtain rfl := Option.some.inj h
    exact .refl s
  | mapRequest window =>
    replace h : s.handleMapRequest window = some s' := h
    unfold handleMapRequest at h
    split at h
    · obtain rfl := Option.some.inj h
      exact .refl s
    · split at h
      · obtain rfl := Option.some.inj h
        exact .refl s
      · obtain ⟨_, _, rfl⟩ := Option.map_eq_some_iff.1 h
        exact .refl s
  | clientMessage window id =>
    replace h : s.handleClientMessage window id = some s' := h
    unfold handleClientMessage at h
    split at h
    · obtain rfl := Option.some.inj h
      exact .refl s
    · obtain ⟨n, _, rfl⟩ := Option.map_eq_some_iff.1 h
      exact frame_handleSurfaceId s n id
  | surfaceCreated id foreign => exact frame_surfaceCreated h
  | surfaceDestroyed id =>
    obtain rfl := Option.some.inj h
    exact frame_surfaceDestroyed s id

/-! ## The other events -/

/-- The shell surface of a new window. -/
def newShellSurface (window : UInt32) : ShellSurface := ⟨window, 0, none, false, false, []⟩

theorem handleCreateNotify_eq {window : UInt32} (hours : s.isOurResource window = false) :
    s.handleCreateNotify window = { s with
      windowsMap := Function.update s.windowsMap window (some (some s.made))
      shellSurfaces := Function.update s.shellSurfaces s.made (newShellSurface window)
      made := s.made + 1
      signals := s.signals ++ [.shellSurfaceAdded (some s.made)] } := by
  unfold handleCreateNotify
  rw [hours]
  rfl

/-- What is left when a window and its shell surface were taken out of the map. -/
def takenOut (s : XWaylandManager) (window : UInt32) (n : Nat) : XWaylandManager :=
  { s.setShellSurface n fun shellSurface => { shellSurface with deleteLater := true } with
    windowsMap := Function.update s.windowsMap window none }

/-- The window that a destructor looks for is that of its shell surface. -/
theorem destroy_window (s : XWaylandManager) (n : Nat) :
    ((s.setShellSurface n fun shellSurface => setSurface shellSurface none).shellSurfaces n).window =
      (s.shellSurfaces n).window := by
  rw [setShellSurface_self]
  exact (sameObject_setSurface none _).1

theorem destroy_windowsMap (s : XWaylandManager) (n : Nat) :
    (s.destroy n).windowsMap = Function.update s.windowsMap (s.shellSurfaces n).window none := by
  rw [← destroy_window s n]
  rfl

theorem destroy_signals (s : XWaylandManager) (n : Nat) :
    (s.destroy n).signals = s.signals ++
      [.shellSurfaceRemoved (s.windowsMap (s.shellSurfaces n).window).join] := by
  rw [← destroy_window s n]
  rfl

theorem destroy_destroyed (s : XWaylandManager) (n : Nat) :
    ((s.destroy n).shellSurfaces n).destroyed = true := by
  unfold destroy
  rw [setShellSurface_self]

theorem destroy_of_ne (h : m ≠ n) : (s.destroy n).shellSurfaces m = s.shellSurfaces m := by
  unfold destroy
  rw [setShellSurface_of_ne _ h]
  exact setShellSurface_of_ne (s := s) (fun shellSurface => setSurface shellSurface none) h

theorem deref_some (h : s.Alive n) : s.deref (some n) = some n := by
  simp [deref, h]

end

end XWaylandManager

/-! ## What always holds -/

namespace Session

open XWaylandManager

/-- The map has shell surfaces of existing windows only, and these are there. -/
structure Base (t : Session) : Prop where
  mapped : ∀ id pointer, t.manager.windowsMap id = some pointer → pointer ≠ none ∧ t.windows id = pointer
  windows : ∀ id n, t.windows id = some n → t.manager.Alive n ∧
    (t.manager.shellSurfaces n).deleteLater = false ∧ (t.manager.shellSurfaces n).window = id

section
variable {t t' : Session} {op : Op}

theorem base_init (resourceIdMask resourceIdBase : UInt32) :
    Base (init resourceIdMask resourceIdBase) where
  mapped _ _ h := by cases h
  windows _ _ h := by cases h

theorem Base.mapped_some (h : Base t) {id : UInt32} {pointer : Option Nat}
    (hmap : t.manager.windowsMap id = some pointer) : ∃ n, pointer = some n ∧ t.windows id = some n := by
  obtain ⟨hne, hwindow⟩ := h.mapped id pointer hmap
  obtain ⟨n, rfl⟩ := Option.ne_none_iff_exists'.1 hne
  exact ⟨n, rfl, hwindow⟩

/-- Two windows do not share a shell surface. -/
theorem Base.windows_inj (h : Base t) {id id' : UInt32} {n : Nat} (hn : t.windows id = some n)
    (hn' : t.windows id' = some n) : id = id' :=
  (h.windows id n hn).2.2.symm.trans (h.windows id' n hn').2.2

/-- A window keeps its shell surface when that stays as it is. -/
theorem Base.stays (h : Base t) {manager : XWaylandManager} {id : UInt32} {n : Nat}
    (hn : t.windows id = some n) (hmade : t.manager.made ≤ manager.made)
    (hsame : manager.shellSurfaces n = t.manager.shellSurfaces n) :
    manager.Alive n ∧ (manager.shellSurfaces n).deleteLater = false ∧
      (manager.shellSurfaces n).window = id := by
  obtain ⟨⟨hlt, hthere⟩, hnot, hwindow⟩ := h.windows id n hn
  unfold Alive
  rw [hsame]
  exact ⟨⟨Nat.lt_of_lt_of_le hlt hmade, hthere⟩, hnot, hwindow⟩

/-- The pointer that the map has for a window can be used. -/
theorem Base.deref_eq (h : Base t) {id : UInt32} {n : Nat} (hn : t.windows id = some n) :
    t.manager.deref (some n) = some n := deref_some (h.windows id n hn).1

theorem createNotify_ours {window : UInt32} (hours : t.manager.isOurResource window = true) :
    t.manager.handleCreateNotify window = t.manager ∧
      t.windowsAfter (.createNotify window) = t.windows := ⟨if_pos hours, if_pos hours⟩

theorem destroyNotify_ours {window : UInt32} (hours : t.manager.isOurResource window = true) :
    t.manager.handleDestroyNotify window = some t.manager ∧
      t.windowsAfter (.destroyNotify window) = t.windows := ⟨if_pos hours, if_pos hours⟩

theorem windowsAfter_create {window : UInt32} (hours : t.manager.isOurResource window = false) :
    t.windowsAfter (.createNotify window) =
      Function.update t.windows window (some t.manager.made) := if_neg (by simp [hours])

theorem windowsAfter_destroy {window : UInt32} (hours : t.manager.isOurResource window = false) :
    t.windowsAfter (.destroyNotify window) = Function.update t.windows window none :=
  if_neg (by simp [hours])

/-- A step either leaves everything as it was or delivers its event. -/
theorem step_cases (hstep : t.step op = some t') :
    t' = t ∨ t.manager.Deliverable op ∧
      ∃ manager, t.manager.handle op = some manager ∧ t' = ⟨manager, t.windowsAfter op⟩ := by
  unfold step at hstep
  split at hstep
  · next hdeliverable =>
    obtain ⟨manager, hmanager, rfl⟩ := Option.map_eq_some_iff.1 hstep
    exact Or.inr ⟨hdeliverable, manager, hmanager, rfl⟩
  · exact Or.inl (Option.some.inj hstep).symm

theorem Base.frame (h : Base t) {manager : XWaylandManager} (hframe : Frame t.manager manager) :
    Base ⟨manager, t.windows⟩ := by
  refine ⟨fun id pointer hmap => ?_, fun id n hn => ?_⟩
  · replace hmap : manager.windowsMap id = some pointer := hmap
    rw [hframe.windowsMap] at hmap
    exact h.mapped id pointer hmap
  · obtain ⟨hwindow, hdelete, -⟩ := hframe.object n
    obtain ⟨halive, hnot, hid⟩ := h.windows id n hn
    exact ⟨hframe.alive_iff.2 halive, hdelete.trans hnot, hwindow.trans hid⟩

theorem Base.create (h : Base t) {window : UInt32} (hours : t.manager.isOurResource window = false) :
    Base ⟨t.manager.handleCreateNotify window,
      Function.update t.windows window (some t.manager.made)⟩ := by
  rw [handleCreateNotify_eq hours]
  refine ⟨fun id pointer hmap => ?_, fun id n hn => ?_⟩
  · replace hmap : Function.update t.manager.windowsMap window _ id = some pointer := hmap
    show _ ∧ Function.update t.windows window _ id = pointer
    by_cases hid : id = window
    · subst hid
      rw [Function.update_self] at hmap ⊢
      obtain rfl := Option.some.inj hmap
      exact ⟨Option.some_ne_none _, rfl⟩
    · rw [Function.update_of_ne hid] at hmap ⊢
      exact h.mapped id pointer hmap
  · replace hn : Function.update t.windows window _ id = some n := hn
    by_cases hid : id = window
    · subst hid
      rw [Function.update_self] at hn
      obtain rfl := Option.some.inj hn
      have hnew : Function.update t.manager.shellSurfaces t.manager.made (newShellSurface id)
        t.manager.made = newShellSurface id := Function.update_self ..
      refine ⟨⟨Nat.lt_succ_self _, ?_⟩, ?_, ?_⟩
      all_goals
        dsimp only
        rw [hnew]
        rfl
    · rw [Function.update_of_ne hid] at hn
      have hne : n ≠ t.manager.made := Nat.ne_of_lt (h.windows id n hn).1.1
      exact h.stays hn (Nat.le_succ _) (Function.update_of_ne hne ..)

/-- A window is taken out of the map, and its shell surface is left to be deleted. -/
theorem Base.takeOut (h : Base t) {window : UInt32} {n : Nat} (hn : t.windows window = some n) :
    Base ⟨takenOut t.manager window n, Function.update t.windows window none⟩ := by
  refine ⟨fun id pointer hmap => ?_, fun id m hm => ?_⟩
  · replace hmap : Function.update t.manager.windowsMap window none id = some pointer := hmap
    show _ ∧ Function.update t.windows window none id = pointer
    by_cases hid : id = window
    · subst hid
      rw [Function.update_self] at hmap
      cases hmap
    · rw [Function.update_of_ne hid] at hmap ⊢
      exact h.mapped id pointer hmap
  · replace hm : Function.update t.windows window none id = some m := hm
    by_cases hid : id = window
    · subst hid
      rw [Function.update_self] at hm
      cases hm
    · rw [Function.update_of_ne hid] at hm
      have hne : m ≠ n := by
        rintro rfl
        exact hid (h.windows_inj hm hn)
      have hother := setShellSurface_of_ne (s := t.manager) (n := n)
        (fun shellSurface => { shellSurface with deleteLater := true }) hne
      exact h.stays hm (Nat.le_refl _) hother

/-- A window that the map does not have is gone. -/
theorem Base.forget (h : Base t) {window : UInt32} (hnone : t.manager.windowsMap window = none) :
    Base ⟨t.manager, Function.update t.windows window none⟩ := by
  refine ⟨fun id pointer hmap => ?_, fun id n hn => ?_⟩
  · show _ ∧ Function.update t.windows window none id = pointer
    have hid : id ≠ window := by
      rintro rfl
      rw [hnone] at hmap
      cases hmap
    rw [Function.update_of_ne hid]
    exact h.mapped id pointer hmap
  · replace hn : Function.update t.windows window none id = some n := hn
    by_cases hid : id = window
    · subst hid
      rw [Function.update_self] at hn
      cases hn
    · rw [Function.update_of_ne hid] at hn
      exact h.windows id n hn

/-- What the handler of `DestroyNotify` finds. -/
theorem Base.handleDestroyNotify_eq (h : Base t) {window : UInt32}
    (hours : t.manager.isOurResource window = false) :
    t.manager.windowsMap window = none ∧ t.manager.handleDestroyNotify window = some t.manager ∨
      ∃ n, t.manager.windowsMap window = some (some n) ∧ t.windows window = some n ∧
        t.manager.handleDestroyNotify window = some (takenOut t.manager window n) := by
  unfold handleDestroyNotify
  rw [hours]
  cases hmap : t.manager.windowsMap window with
  | none => exact Or.inl ⟨rfl, rfl⟩
  | some pointer =>
    obtain ⟨n, rfl, hn⟩ := h.mapped_some hmap
    refine Or.inr ⟨n, rfl, hn, ?_⟩
    show (t.manager.deref (some n)).map _ = _
    rw [h.deref_eq hn]
    rfl

/-- A shell surface that was left to be deleted is no window's. -/
theorem Base.ne_of_deleteLater (h : Base t) {id : UInt32} {m n : Nat} (hm : t.windows id = some m)
    (hn : (t.manager.shellSurfaces n).deleteLater = true) : m ≠ n := by
  rintro rfl
  rw [(h.windows id m hm).2.1] at hn
  cases hn

theorem Base.delete (h : Base t) {n : Nat} (hn : (t.manager.shellSurfaces n).deleteLater = true) :
    Base ⟨t.manager.destroy n, t.windows⟩ := by
  refine ⟨fun id pointer hmap => ?_, fun id m hm => ?_⟩
  · replace hmap : (t.manager.destroy n).windowsMap id = some pointer := hmap
    rw [destroy_windowsMap] at hmap
    by_cases hid : id = (t.manager.shellSurfaces n).window
    · rw [hid, Function.update_self] at hmap
      cases hmap
    · rw [Function.update_of_ne hid] at hmap
      exact h.mapped id pointer hmap
  · exact h.stays hm (Nat.le_refl _) (destroy_of_ne (h.ne_of_deleteLater hm hn))

/-- **Every step keeps it.** -/
theorem Base.step (h : Base t) (hstep : t.step op = some t') : Base t' := by
  rcases step_cases hstep with rfl | ⟨hdeliverable, manager, hmanager, rfl⟩
  · exact h
  cases op with
  | createNotify window =>
    obtain rfl := Option.some.inj hmanager
    cases hours : t.manager.isOurResource window with
    | true =>
      obtain ⟨hsame, hwindows⟩ := createNotify_ours hours
      rw [hsame, hwindows]
      exact h
    | false =>
      rw [windowsAfter_create hours]
      exact h.create hours
  | destroyNotify window =>
    cases hours : t.manager.isOurResource window with
    | true =>
      obtain ⟨hsame, hwindows⟩ := destroyNotify_ours hours
      obtain rfl := Option.some.inj (hsame.symm.trans hmanager)
      rw [hwindows]
      exact h
    | false =>
      rw [windowsAfter_destroy hours]
      rcases h.handleDestroyNotify_eq hours with ⟨hnone, hsame⟩ | ⟨n, -, hn, htaken⟩
      · obtain rfl := Option.some.inj (hsame.symm.trans hmanager)
        exact h.forget hnone
      · obtain rfl := Option.some.inj (htaken.symm.trans hmanager)
        exact h.takeOut hn
  | deleted n =>
    obtain rfl := Option.some.inj hmanager
    exact h.delete hdeliverable.2
  | _ => exact h.frame (frame_handle (by rintro _ ⟨⟩) (by rintro _ ⟨⟩) (by rintro _ ⟨⟩) hmanager)

end

/-! ## What is to be kept -/

/-- The map and the announcements are what they should be. -/
structure Kept (t : Session) : Prop where
  maps : ∀ id, t.manager.windowsMap id = (t.windows id).map some
  alive : ∀ id n, t.windows id = some n → t.manager.Alive n
  added : ∀ n, t.manager.signals.count (.shellSurfaceAdded (some n)) =
    if n < t.manager.made then 1 else 0
  /-- every deleted shell surface was announced to be removed, and no other one was -/
  removed : ∀ n, t.manager.signals.count (.shellSurfaceRemoved (some n)) =
    if (t.manager.shellSurfaces n).destroyed then 1 else 0
  not_null : .shellSurfaceAdded none ∉ t.manager.signals ∧ .shellSurfaceRemoved none ∉ t.manager.signals
  /-- a shell surface that is no window's is about to be deleted, if it was not yet -/
  leaving : ∀ n < t.manager.made, (∀ id, t.windows id ≠ some n) →
    (t.manager.shellSurfaces n).deleteLater = true ∨ (t.manager.shellSurfaces n).destroyed = true

/-- **The steps after which that is so.** -/
def OpOk (t : Session) : Op → Prop
  | .createNotify window => t.manager.isOurResource window = false → t.windows window = none
  | .deleted n => ¬ t.manager.Deliverable (.deleted n)
  | _ => True

/-- The invariant of runs that are kept. -/
structure Inv (t : Session) : Prop where
  base : Base t
  kept : Kept t
  undeleted : ∀ n, (t.manager.shellSurfaces n).destroyed = false
  unpaired : ∀ n ∈ t.manager.unpairedWindows, n < t.manager.made

theorem inv_init (resourceIdMask resourceIdBase : UInt32) :
    Inv (init resourceIdMask resourceIdBase) where
  base := base_init _ _
  kept := by
    refine ⟨fun _ => rfl, fun _ _ h => ?_, fun _ => rfl, fun _ => rfl, ?_,
      fun _ h => absurd h (Nat.not_lt_zero _)⟩
    · cases h
    · exact ⟨List.not_mem_nil, List.not_mem_nil⟩
  undeleted _ := rfl
  unpaired _ h := by cases h

section
variable {t : Session}

theorem Inv.frame (h : Inv t) {manager : XWaylandManager} (hframe : Frame t.manager manager)
    (hunpaired : ∀ n ∈ manager.unpairedWindows, n < t.manager.made) : Inv ⟨manager, t.windows⟩ := by
  have hdestroyed : ∀ n, (manager.shellSurfaces n).destroyed = (t.manager.shellSurfaces n).destroyed :=
    fun n => (hframe.object n).2.2
  refine ⟨h.base.frame hframe, ⟨fun id => ?_, fun id n hn => ?_, fun n => ?_, fun n => ?_, ?_,
    fun n hn hno => ?_⟩, fun n => (hdestroyed n).trans (h.undeleted n), fun n hn => ?_⟩
  · show manager.windowsMap id = _
    rw [hframe.windowsMap]
    exact h.kept.maps id
  · exact hframe.alive_iff.2 (h.kept.alive id n hn)
  · show manager.signals.count _ = if n < manager.made then 1 else 0
    rw [hframe.signals, hframe.made]
    exact h.kept.added n
  · show manager.signals.count _ = if (manager.shellSurfaces n).destroyed then 1 else 0
    rw [hframe.signals, hdestroyed]
    exact h.kept.removed n
  · show _ ∉ manager.signals ∧ _ ∉ manager.signals
    rw [hframe.signals]
    exact h.kept.not_null
  · show (manager.shellSurfaces n).deleteLater = true ∨ (manager.shellSurfaces n).destroyed = true
    rw [(hframe.object n).2.1, hdestroyed]
    exact h.kept.leaving n (hframe.made ▸ hn) hno
  · show n < manager.made
    rw [hframe.made]
    exact hunpaired n hn

/-- The map changes with the windows. -/
theorem Inv.maps_update (h : Inv t) (window : UInt32) (n : Option Nat) (id : UInt32) :
    Function.update t.manager.windowsMap window (n.map some) id =
      (Function.update t.windows window n id).map some := by
  by_cases hid : id = window
  · subst hid
    rw [Function.update_self, Function.update_self]
  · rw [Function.update_of_ne hid, Function.update_of_ne hid]
    exact h.kept.maps id

/-- A new window with an id that no other window has. -/
theorem Inv.create (h : Inv t) {window : UInt32} (hours : t.manager.isOurResource window = false)
    (hnew : t.windows window = none) :
    Inv ⟨t.manager.handleCreateNotify window,
      Function.update t.windows window (some t.manager.made)⟩ := by
  have hbase := h.base.create hours
  rw [handleCreateNotify_eq hours] at hbase ⊢
  let shellSurfaces := Function.update t.manager.shellSurfaces t.manager.made (newShellSurface window)
  have hobject : ∀ n, n ≠ t.manager.made → shellSurfaces n = t.manager.shellSurfaces n :=
    fun n hn => Function.update_of_ne hn ..
  have hmade : shellSurfaces t.manager.made = newShellSurface window := Function.update_self ..
  have hdestroyed : ∀ n, (shellSurfaces n).destroyed = false := by
    intro n
    by_cases hn : n = t.manager.made
    · rw [hn, hmade]
      rfl
    · rw [hobject n hn]
      exact h.undeleted n
  refine ⟨hbase, ⟨fun id => ?_, fun id n hn => (hbase.windows id n hn).1, fun n => ?_, fun n => ?_, ?_,
    fun n hn hno => ?_⟩, hdestroyed, fun n hn => Nat.lt_succ_of_lt (h.unpaired n hn)⟩
  · exact h.maps_update window (some t.manager.made) id
  · show (t.manager.signals ++ [_]).count _ = if n < t.manager.made + 1 then 1 else 0
    rw [List.count_append, h.kept.added n, List.count_singleton]
    simp only [beq_iff_eq, ManagerSignal.shellSurfaceAdded.injEq, Option.some.injEq]
    split <;> split <;> split <;> omega
  · show (t.manager.signals ++ [_]).count _ = if (shellSurfaces n).destroyed then 1 else 0
    rw [List.count_append, h.kept.removed n, h.undeleted n, hdestroyed n]
    rfl
  · obtain ⟨hadded, hremoved⟩ := h.kept.not_null
    constructor
    · exact List.not_mem_append hadded (by simp)
    · exact List.not_mem_append hremoved (by simp)
  · show (shellSurfaces n).deleteLater = true ∨ (shellSurfaces n).destroyed = true
    have hne : n ≠ t.manager.made := by
      rintro rfl
      exact hno window (Function.update_self ..)
    rw [hobject n hne]
    refine h.kept.leaving n (Nat.lt_of_le_of_ne (Nat.le_of_lt_succ hn) hne) fun id hid => ?_
    have hother : id ≠ window := by
      rintro rfl
      rw [hnew] at hid
      cases hid
    exact hno id ((Function.update_of_ne hother ..).trans hid)

/-- A window that is destroyed. -/
theorem Inv.takeOut (h : Inv t) {window : UInt32} {n : Nat} (hn : t.windows window = some n) :
    Inv ⟨takenOut t.manager window n, Function.update t.windows window none⟩ := by
  have hbase := h.base.takeOut hn
  let marked := t.manager.setShellSurface n fun shellSurface => { shellSurface with deleteLater := true }
  have hself : marked.shellSurfaces n = { t.manager.shellSurfaces n with deleteLater := true } :=
    setShellSurface_self _
  have hother : ∀ m, m ≠ n → marked.shellSurfaces m = t.manager.shellSurfaces m := fun m hm =>
    setShellSurface_of_ne _ hm
  have hdestroyed : ∀ m, (marked.shellSurfaces m).destroyed = (t.manager.shellSurfaces m).destroyed := by
    intro m
    by_cases hm : m = n
    · rw [hm, hself]
    · rw [hother m hm]
  refine ⟨hbase, ⟨fun id => ?_, fun id m hm => (hbase.windows id m hm).1, h.kept.added, fun m => ?_,
    h.kept.not_null, fun m hm hno => ?_⟩, fun m => (hdestroyed m).trans (h.undeleted m), h.unpaired⟩
  · exact h.maps_update window none id
  · show t.manager.signals.count _ = if (marked.shellSurfaces m).destroyed then 1 else 0
    rw [hdestroyed m]
    exact h.kept.removed m
  · show (marked.shellSurfaces m).deleteLater = true ∨ (marked.shellSurfaces m).destroyed = true
    by_cases hmn : m = n
    · rw [hmn, hself]
      exact Or.inl rfl
    · rw [hother m hmn]
      refine h.kept.leaving m hm fun id hid => hno id ?_
      have hne : id ≠ window := by
        rintro rfl
        exact hmn (Option.some.inj (hid.symm.trans hn))
      exact (Function.update_of_ne hne ..).trans hid

/-! ## The events that pair return -/

theorem pair_returns {s : XWaylandManager} {surface : Nat} {id : UInt32} {ns : List Nat}
    (h : ∀ n ∈ ns, s.Alive n) :
    ∃ s', s.pair surface id ns = some s' ∧ s'.unpairedWindows ⊆ s.unpairedWindows := by
  induction ns with
  | nil => exact ⟨s, rfl, List.Subset.refl _⟩
  | cons n ns ih =>
    unfold pair
    rw [if_pos (h n List.mem_cons_self)]
    split
    · exact ⟨_, rfl, List.erase_subset⟩
    · exact ih fun m hm => h m (List.mem_cons_of_mem n hm)

theorem unpaired_handleSurfaceId (s : XWaylandManager) (n : Nat) (id : UInt32) :
    (s.handleSurfaceId n id).unpairedWindows ⊆ s.unpairedWindows ++ [n] := by
  unfold handleSurfaceId
  split
  · exact List.subset_append_left _ _
  · dsimp only
    split
    · exact List.subset_append_left _ _
    · exact List.Subset.refl _

theorem Base.handleMapRequest_eq (h : Base t) (window : UInt32) :
    t.manager.handleMapRequest window = some t.manager := by
  unfold handleMapRequest
  split
  · rfl
  · cases hmap : t.manager.windowsMap window with
    | none => rfl
    | some pointer =>
      obtain ⟨n, rfl, hn⟩ := h.mapped_some hmap
      show (t.manager.deref (some n)).map _ = _
      rw [h.deref_eq hn]
      rfl

/-- A message reaches the shell surface of its window, or nothing. -/
theorem Base.handleClientMessage_eq (h : Base t) (window id : UInt32) :
    t.manager.windowsMap window = none ∧ t.manager.handleClientMessage window id = some t.manager ∨
      ∃ n, t.manager.windowsMap window = some (some n) ∧ t.windows window = some n ∧
        t.manager.handleClientMessage window id = some (t.manager.handleSurfaceId n id) := by
  unfold handleClientMessage
  cases hmap : t.manager.windowsMap window with
  | none => exact Or.inl ⟨rfl, rfl⟩
  | some pointer =>
    obtain ⟨n, rfl, hn⟩ := h.mapped_some hmap
    refine Or.inr ⟨n, rfl, hn, ?_⟩
    show (t.manager.deref (some n)).map _ = _
    rw [h.deref_eq hn]
    rfl

/-- An event that makes, takes out and deletes no shell surface returns and keeps
the invariant. -/
theorem Inv.pairing (h : Inv t) {op : Op} (hcreate : ∀ window, op ≠ .createNotify window)
    (hdestroy : ∀ window, op ≠ .destroyNotify window) (hdelete : ∀ n, op ≠ .deleted n) :
    ∃ manager, t.manager.handle op = some manager ∧ Inv ⟨manager, t.windows⟩ := by
  have key : ∃ manager, t.manager.handle op = some manager ∧
      ∀ n ∈ manager.unpairedWindows, n < t.manager.made := by
    cases op with
    | createNotify window => exact absurd rfl (hcreate window)
    | destroyNotify window => exact absurd rfl (hdestroy window)
    | deleted n => exact absurd rfl (hdelete n)
    | mapRequest window => exact ⟨_, h.base.handleMapRequest_eq window, h.unpaired⟩
    | unmapNotify window => exact ⟨_, rfl, h.unpaired⟩
    | clientMessage window id =>
      rcases h.base.handleClientMessage_eq window id with ⟨-, hsame⟩ | ⟨n, -, hn, hhandled⟩
      · exact ⟨_, hsame, h.unpaired⟩
      · refine ⟨_, hhandled, fun m hm => ?_⟩
        rcases List.mem_append.1 (unpaired_handleSurfaceId _ _ _ hm) with hm | hm
        · exact h.unpaired m hm
        · rw [List.mem_singleton.1 hm]
          exact (h.base.windows window n hn).1.1
    | surfaceCreated id foreign =>
      cases foreign with
      | true => exact ⟨_, rfl, h.unpaired⟩
      | false =>
        let s : XWaylandManager := { t.manager with
          created := t.manager.created + 1
          resources := Function.update t.manager.resources id (some t.manager.created) }
        have halive : ∀ n ∈ s.unpairedWindows, s.Alive n := fun n hn => ⟨h.unpaired n hn, h.undeleted n⟩
        have hreturns : ∃ s', s.pair t.manager.created id s.unpairedWindows = some s' ∧
            s'.unpairedWindows ⊆ s.unpairedWindows := pair_returns halive
        obtain ⟨manager, hmanager, hsub⟩ := hreturns
        exact ⟨manager, hmanager, fun n hn => h.unpaired n (hsub hn)⟩
    | surfaceDestroyed id =>
      refine ⟨_, rfl, ?_⟩
      unfold surfaceDestroyed
      split
      · exact h.unpaired
      · exact h.unpaired
  obtain ⟨manager, hmanager, hunpaired⟩ := key
  exact ⟨manager, hmanager, h.frame (frame_handle hcreate hdestroy hdelete hmanager) hunpaired⟩

/-! ## The events that break it -/

/-- A window whose id another one has. -/
theorem Inv.not_kept_create (h : Inv t) {window : UInt32} {n : Nat}
    (hours : t.manager.isOurResource window = false) (hn : t.windows window = some n) :
    ¬ Kept ⟨t.manager.handleCreateNotify window,
      Function.update t.windows window (some t.manager.made)⟩ := by
  intro hkept
  obtain ⟨⟨hmade, hthere⟩, hnot, -⟩ := h.base.windows window n hn
  have hobject : (t.manager.handleCreateNotify window).shellSurfaces n = t.manager.shellSurfaces n := by
    rw [handleCreateNotify_eq hours]
    exact Function.update_of_ne (Nat.ne_of_lt hmade) ..
  have hlt : n < (t.manager.handleCreateNotify window).made := by
    rw [handleCreateNotify_eq hours]
    exact Nat.lt_succ_of_lt hmade
  have hleaving := hkept.leaving n hlt fun id hid => ?_
  · dsimp only at hleaving
    rw [hobject, hnot, hthere] at hleaving
    rcases hleaving with hfalse | hfalse <;> cases hfalse
  · replace hid : Function.update t.windows window (some t.manager.made) id = some n := hid
    by_cases hwindow : id = window
    · rw [hwindow, Function.update_self] at hid
      exact Nat.ne_of_gt hmade (Option.some.inj hid)
    · rw [Function.update_of_ne hwindow] at hid
      exact hwindow (h.base.windows_inj hid hn)

/-- A shell surface is deleted. -/
theorem Inv.not_kept_destroy (h : Inv t) {n : Nat}
    (hn : (t.manager.shellSurfaces n).deleteLater = true) :
    ¬ Kept ⟨t.manager.destroy n, t.windows⟩ := by
  intro hkept
  cases hpointer : (t.manager.windowsMap (t.manager.shellSurfaces n).window).join with
  | none =>
    refine hkept.not_null.2 ?_
    show _ ∈ (t.manager.destroy n).signals
    rw [destroy_signals, hpointer]
    simp
  | some m =>
    have hm : t.windows (t.manager.shellSurfaces n).window = some m := by
      have hjoin : ∀ pointer : Option Nat, (pointer.map some).join = pointer := by rintro (_ | _) <;> rfl
      rwa [h.kept.maps, hjoin] at hpointer
    have hother := destroy_of_ne (s := t.manager) (h.base.ne_of_deleteLater hm hn)
    have hremoved := hkept.removed m
    dsimp only at hremoved
    rw [hother, h.undeleted m, destroy_signals, hpointer, List.count_append, h.kept.removed m,
      h.undeleted m] at hremoved
    simp at hremoved

/-! ## One step -/

theorem step_of_deliverable {op : Op} {manager : XWaylandManager}
    (hdeliverable : t.manager.Deliverable op) (hmanager : t.manager.handle op = some manager) :
    t.step op = some ⟨manager, t.windowsAfter op⟩ := by
  unfold Session.step
  rw [if_pos hdeliverable, hmanager]
  rfl

theorem Inv.decides_create (h : Inv t) (window : UInt32) :
    Run.Decides step (fun _ _ t' => Kept t') OpOk Inv t (.createNotify window) := by
  have hstep : t.step (.createNotify window) =
      some ⟨t.manager.handleCreateNotify window, t.windowsAfter (.createNotify window)⟩ :=
    step_of_deliverable trivial rfl
  cases hours : t.manager.isOurResource window with
  | true =>
    obtain ⟨hsame, hwindows⟩ := createNotify_ours hours
    rw [hsame, hwindows] at hstep
    refine Run.decides_good hstep h.kept (fun hnot => ?_) h
    rw [hours] at hnot
    cases hnot
  | false =>
    rw [windowsAfter_create hours] at hstep
    cases hn : t.windows window with
    | none =>
      have hcreated := h.create hours hn
      exact Run.decides_good hstep hcreated.kept (fun _ => hn) hcreated
    | some n =>
      have hbad : ¬ t.OpOk (.createNotify window) := fun hok => by
        have hnone := hok hours
        rw [hn] at hnone
        cases hnone
      exact Run.decides_bad hstep (h.not_kept_create hours hn) hbad

theorem Inv.decides_destroyNotify (h : Inv t) (window : UInt32) :
    Run.Decides step (fun _ _ t' => Kept t') OpOk Inv t (.destroyNotify window) := by
  cases hours : t.manager.isOurResource window with
  | true =>
    obtain ⟨hsame, hwindows⟩ := destroyNotify_ours hours
    have hstep : t.step (.destroyNotify window) =
        some ⟨t.manager, t.windowsAfter (.destroyNotify window)⟩ := step_of_deliverable trivial hsame
    rw [hwindows] at hstep
    exact Run.decides_good hstep h.kept trivial h
  | false =>
    have hwindows := windowsAfter_destroy hours
    rcases h.base.handleDestroyNotify_eq hours with ⟨hnone, hsame⟩ | ⟨n, -, hn, htaken⟩
    · have hstep : t.step (.destroyNotify window) =
          some ⟨t.manager, t.windowsAfter (.destroyNotify window)⟩ := step_of_deliverable trivial hsame
      rw [h.kept.maps, Option.map_eq_none_iff] at hnone
      have hgone : Function.update t.windows window none = t.windows :=
        Function.update_eq_iff.2 ⟨hnone.symm, fun _ _ => rfl⟩
      rw [hwindows, hgone] at hstep
      exact Run.decides_good hstep h.kept trivial h
    · have hstep : t.step (.destroyNotify window) = some ⟨_, t.windowsAfter (.destroyNotify window)⟩ :=
        step_of_deliverable trivial htaken
      rw [hwindows] at hstep
      have htakenOut := h.takeOut hn
      exact Run.decides_good hstep htakenOut.kept trivial htakenOut

theorem Inv.decides_deleted (h : Inv t) (n : Nat) :
    Run.Decides step (fun _ _ t' => Kept t') OpOk Inv t (.deleted n) := by
  by_cases hdeliverable : t.manager.Deliverable (.deleted n)
  · have hstep := step_of_deliverable hdeliverable rfl
    have hbad : ¬ t.OpOk (.deleted n) := fun hok => hok hdeliverable
    exact Run.decides_bad hstep (h.not_kept_destroy hdeliverable.2) hbad
  · exact Run.decides_good (if_neg hdeliverable) h.kept hdeliverable h

/-- **One step.** -/
theorem Inv.decides (h : Inv t) (op : Op) :
    Run.Decides step (fun _ _ t' => Kept t') OpOk Inv t op := by
  have hpairing : (∀ window, op ≠ .createNotify window) → (∀ window, op ≠ .destroyNotify window) →
      (∀ n, op ≠ .deleted n) → t.OpOk op → t.windowsAfter op = t.windows →
      Run.Decides step (fun _ _ t' => Kept t') OpOk Inv t op := by
    intro hcreate hdestroy hdelete hok hwindows
    by_cases hdeliverable : t.manager.Deliverable op
    · obtain ⟨manager, hmanager, hinv⟩ := h.pairing hcreate hdestroy hdelete
      have hstep := step_of_deliverable hdeliverable hmanager
      rw [hwindows] at hstep
      exact Run.decides_good hstep hinv.kept hok hinv
    · exact Run.decides_good (if_neg hdeliverable) h.kept hok h
  cases op with
  | createNotify window => exact h.decides_create window
  | destroyNotify window => exact h.decides_destroyNotify window
  | deleted n => exact h.decides_deleted n
  | _ => exact hpairing (by rintro _ ⟨⟩) (by rintro _ ⟨⟩) (by rintro _ ⟨⟩) trivial rfl

end

/-! ## Results -/

/-- **The window map over whole runs.** -/
theorem windows_kept_iff (resourceIdMask resourceIdBase : UInt32) (ops : List Op) :
    Run.Always step Kept (init resourceIdMask resourceIdBase) ops ↔
      Run.Meets step OpOk (init resourceIdMask resourceIdBase) ops := by
  have hinit := inv_init resourceIdMask resourceIdBase
  exact Run.always_iff_of_decides (fun _ op h => Inv.decides h op) ops _ hinit.kept hinit

/-- An id is used again before the old shell surface is deleted: the new window is
announced to be removed and taken out of the map. -/
theorem new_window_removed :
    ¬ Run.Always step Kept (init 0x1fffff 0x200000)
      [.createNotify 0x600003, .destroyNotify 0x600003, .createNotify 0x600003, .deleted 0] := by
  rintro ⟨-, t₁, h₁, -, t₂, h₂, -, t₃, h₃, -, t₄, h₄, hkept, -⟩
  obtain rfl := Option.some.inj h₁
  obtain rfl := Option.some.inj h₂
  obtain rfl := Option.some.inj h₃
  obtain rfl := Option.some.inj h₄
  exact absurd (hkept.maps 0x600003) (by decide)

end Session

end GreenIsland.XWayland

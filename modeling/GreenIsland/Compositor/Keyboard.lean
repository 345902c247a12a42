import Mathlib.Logic.Function.Basic
import Mathlib.Data.List.Basic

/-! The keyboard of a seat (`QWaylandKeyboard`, `QWaylandSeat`).

Clients ask for any number of `wl_keyboard` resources; the one of the focused surface's client is told
of the focus, the keys and the modifiers.  All are told the keymap.  The calls are what clients
request, what the compositor calls, and the keys that the system reports.

What xkbcommon does is a parameter (`Xkb`); there is a context.  A keymap goes to the clients in a
temporary file that is mapped, which may fail; then they are sent -1 for it.  A key goes to the
client only if Qt delivers it to an item that passes it on (`KeyDelivery`).

`step` is `none` when a null pointer or a destroyed surface is used or an assertion fails. -/

namespace GreenIsland.Compositor

abbrev ClientId := Nat

abbrev KeyboardSurfaceId := Nat

/-- `wl_keyboard` resources -/
abbrev KeyboardId := Nat

/-- The state of the modifiers, as it is serialized -/
structure Modifiers where
  modsDepressed : Nat
  modsLatched : Nat
  modsLocked : Nat
  group : Nat
deriving DecidableEq, Repr

/-- xkbcommon: `σ` are the states, `κ` the compiled keymaps as text and `μ` the names of keymaps. -/
structure Xkb (σ κ μ : Type) where
  updateKey : σ → Nat → Bool → σ
  serializeMods : σ → Modifiers
  updateMask : σ → Modifiers → σ
  compile : μ → Option (σ × κ)

/-- What a `wl_keyboard` is told; `fd` is the file of the keymap, or -1.  `surfaceDestroyed` is no
message: its client has destroyed a surface. -/
inductive KeyboardEvent (κ : Type) where
  | keymap (fd : Option κ)
  | enter (surface : KeyboardSurfaceId) (keys : List Nat)
  | leave (surface : KeyboardSurfaceId)
  | key (key : Nat) (pressed : Bool)
  | modifiers (mods : Modifiers)
  | surfaceDestroyed (surface : KeyboardSurfaceId)
deriving DecidableEq

/-- The way of a key through Qt: whether it comes to an item that passes it on to the seat (no filter
keeps it, the item sends input events and has the focus if the key is released), whether the
focused surface's input method is enabled and the seat has a text input, and whether the client
of the surface has bound the key extension, which then posts the key. -/
structure KeyDelivery where
  toItem : Bool
  toTextInput : Bool
  toKeyExtension : Bool
deriving DecidableEq, Repr

structure KeyboardResource where
  id : KeyboardId
  client : ClientId
deriving DecidableEq, Repr

structure KeyboardSurface where
  id : KeyboardSurfaceId
  client : ClientId
  isCursorSurface : Bool
deriving DecidableEq, Repr

/-- `QWaylandKeyboardPrivate`, with the surfaces that exist.  `resources` is the resource map, the
newest first; `keymap_fd` is the text in the file, `none` for -1; `data_device` says whether the seat
has one; `sent` is what each resource was told. -/
structure KeyboardSeat (σ κ μ : Type) where
  surfaces : List KeyboardSurface
  nextSurface : KeyboardSurfaceId
  resources : List KeyboardResource
  nextResource : KeyboardId
  focus : Option KeyboardSurfaceId
  focusResource : Option KeyboardId
  focusDestroyListener : Option KeyboardSurfaceId
  keys : List Nat
  mods : Modifiers
  keymap : μ
  pendingKeymap : Bool
  xkbState : σ
  keymapFd : Option κ
  dataDevice : Bool
  sent : KeyboardId → List (KeyboardEvent κ)

namespace KeyboardSeat

variable {σ κ μ : Type}

/-- A new seat, whose keymap was compiled and put into its file. -/
def new (keymap : μ) (compiled : σ × κ) : KeyboardSeat σ κ μ where
  surfaces := []
  nextSurface := 0
  resources := []
  nextResource := 0
  focus := none
  focusResource := none
  focusDestroyListener := none
  keys := []
  mods := ⟨0, 0, 0, 0⟩
  keymap := keymap
  pendingKeymap := false
  xkbState := compiled.1
  keymapFd := some compiled.2
  dataDevice := false
  sent := fun _ => []

/-! ## Surfaces and resources -/

def surface (w : KeyboardSeat σ κ μ) (s : KeyboardSurfaceId) : Option KeyboardSurface :=
  w.surfaces.find? fun surface => surface.id = s

/-- `surface->resource()->client`, of a surface that exists -/
def clientOf (w : KeyboardSeat σ κ μ) (s : KeyboardSurfaceId) : Option ClientId :=
  (w.surface s).map KeyboardSurface.client

/-- `resourceMap().value(client)`, the newest one -/
def resourceFor (w : KeyboardSeat σ κ μ) (client : ClientId) : Option KeyboardResource :=
  w.resources.find? fun resource => resource.client = client

def send (w : KeyboardSeat σ κ μ) (r : KeyboardId) (events : List (KeyboardEvent κ)) :
    KeyboardSeat σ κ μ :=
  { w with sent := Function.update w.sent r (w.sent r ++ events) }

/-- To all resources -/
def broadcast (w : KeyboardSeat σ κ μ) (event : KeyboardEvent κ) : KeyboardSeat σ κ μ :=
  { w with sent := fun r =>
      if r ∈ w.resources.map KeyboardResource.id then w.sent r ++ [event] else w.sent r }

/-! ## The focus -/

def sendEnter (w : KeyboardSeat σ κ μ) (s : KeyboardSurfaceId) (r : KeyboardId) : KeyboardSeat σ κ μ :=
  w.send r [.modifiers w.mods, .enter s w.keys]

/-- The client of the focused surface has bound a new keyboard. -/
def checkFocusResource (w : KeyboardSeat σ κ μ) (resource : KeyboardResource) :
    Option (KeyboardSeat σ κ μ) :=
  match w.focus with
  | none => some w
  | some s =>
    if w.focusResource = some resource.id then some w
    else (w.clientOf s).map fun client =>
      if client = resource.client then
        { w.sendEnter s resource.id with focusResource := some resource.id }
      else w

/-- The focus is taken from the surface that had it. -/
def sendLeave (w : KeyboardSeat σ κ μ) : Option (KeyboardSeat σ κ μ) :=
  match w.focusResource with
  | none => some w
  | some r => do
    let s ← w.focus
    let _ ← w.clientOf s
    return w.send r [.leave s]

/-- `focused`; a surface that is passed exists. -/
def focused (w : KeyboardSeat σ κ μ) (surface : Option KeyboardSurface) :
    Option (KeyboardSeat σ κ μ) := do
  let surface := surface.filter fun surface => !surface.isCursorSurface
  let target := surface.map KeyboardSurface.id
  let left ← (if w.focus ≠ target then
      w.sendLeave.map fun w => { w with focusDestroyListener := target }
    else some w)
  let resource := surface.bind fun surface => left.resourceFor surface.client
  let entered :=
    match surface, resource with
    | some surface, some resource =>
      if w.focus ≠ target ∨ w.focusResource ≠ some resource.id
        then left.sendEnter surface.id resource.id else left
    | _, _ => left
  return { entered with
    focusResource := resource.map KeyboardResource.id
    focus := target }

/-- `QWaylandSeat::setKeyboardFocus`.  A destroyed surface is refused; the data device is told the
client of the surface, also if there is no surface. -/
def setKeyboardFocus (w : KeyboardSeat σ κ μ) (s : Option KeyboardSurfaceId) :
    Option (KeyboardSeat σ κ μ) :=
  match s with
  | none =>
    if w.focus = none then some w
    else if w.dataDevice then none
    else w.focused none
  | some s =>
    match w.surface s with
    | none => some w
    | some surface => if w.focus = some s then some w else w.focused (some surface)

def focusDestroyed (w : KeyboardSeat σ κ μ) : KeyboardSeat σ κ μ :=
  { w with focusDestroyListener := none, focus := none, focusResource := none }

/-! ## Resources and surfaces that come and go -/

def createSurface (w : KeyboardSeat σ κ μ) (client : ClientId) : KeyboardSeat σ κ μ :=
  { w with
    surfaces := ⟨w.nextSurface, client, false⟩ :: w.surfaces
    nextSurface := w.nextSurface + 1 }

def markAsCursorSurface (w : KeyboardSeat σ κ μ) (s : KeyboardSurfaceId) : KeyboardSeat σ κ μ :=
  { w with surfaces := w.surfaces.map fun surface =>
      if surface.id = s then { surface with isCursorSurface := true } else surface }

/-- The destroy listener fires. -/
def destroySurface (w : KeyboardSeat σ κ μ) (s : KeyboardSurfaceId) : KeyboardSeat σ κ μ :=
  let w := if w.focusDestroyListener = some s then w.focusDestroyed else w
  { w with surfaces := w.surfaces.filter fun surface => surface.id ≠ s }.broadcast (.surfaceDestroyed s)

/-- `seat_get_keyboard` and `keyboard_bind_resource` -/
def getKeyboard (w : KeyboardSeat σ κ μ) (client : ClientId) : Option (KeyboardSeat σ κ μ) :=
  let resource : KeyboardResource := ⟨w.nextResource, client⟩
  let bound := { w with nextResource := w.nextResource + 1 }.send resource.id [.keymap w.keymapFd]
  (bound.checkFocusResource resource).map fun w => { w with resources := resource :: w.resources }

/-- `keyboard_release` and `keyboard_destroy_resource` -/
def releaseKeyboard (w : KeyboardSeat σ κ μ) (r : KeyboardId) : KeyboardSeat σ κ μ :=
  { w with
    resources := w.resources.filter fun resource => resource.id ≠ r
    focusResource := if w.focusResource = some r then none else w.focusResource }

/-! ## Keys -/

/-- The assertion is that the code is one of the evdev codes, which are 8 less. -/
def toWaylandXkbV1Key (code : Nat) : Option Nat := if 8 ≤ code then some (code - 8) else none

def keyEvent (w : KeyboardSeat σ κ μ) (code : Nat) (pressed : Bool) : Option (KeyboardSeat σ κ μ) :=
  (toWaylandXkbV1Key code).map fun key =>
    if pressed then { w with keys := w.keys ++ [key] }
    else { w with keys := w.keys.filter fun k => k ≠ key }

def sendKeyEvent (w : KeyboardSeat σ κ μ) (code : Nat) (pressed : Bool) :
    Option (KeyboardSeat σ κ μ) :=
  (toWaylandXkbV1Key code).map fun key =>
    match w.focusResource with
    | some r => w.send r [.key key pressed]
    | none => w

/-- `QWaylandSeat::sendFullKeyEvent` -/
def sendFullKeyEvent (w : KeyboardSeat σ κ μ) (code : Nat) (pressed : Bool) (delivery : KeyDelivery) :
    Option (KeyboardSeat σ κ μ) :=
  if w.focus = none then some w
  else if delivery.toTextInput ∧ code = 0 then some w
  else if delivery.toKeyExtension then some w
  else w.sendKeyEvent code pressed

/-- `QWindowSystemEventHandler::sendEvent`, with `keyPressEvent` and `keyReleaseEvent` of the item -/
def deliver (w : KeyboardSeat σ κ μ) (code : Nat) (pressed : Bool) (delivery : KeyDelivery) :
    Option (KeyboardSeat σ κ μ) :=
  if delivery.toItem then w.sendFullKeyEvent code pressed delivery else some w

def modifiers (w : KeyboardSeat σ κ μ) (mods : Modifiers) : KeyboardSeat σ κ μ :=
  match w.focusResource with
  | some r => w.send r [.modifiers mods]
  | none => w

variable (xkb : Xkb σ κ μ)

def updateModifierState (w : KeyboardSeat σ κ μ) (code : Nat) (pressed : Bool) : KeyboardSeat σ κ μ :=
  let w := { w with xkbState := xkb.updateKey w.xkbState code pressed }
  let mods := xkb.serializeMods w.xkbState
  if w.mods = mods then w else { w with mods := mods }.modifiers mods

/-- `createXKBKeymap` and `createXKBState`.  A keymap that cannot be compiled is warned about; if its
file cannot be made or mapped, the old one is closed and the old state stays. -/
def createXKBKeymap (w : KeyboardSeat σ κ μ) (mapped : Bool) : KeyboardSeat σ κ μ :=
  match xkb.compile w.keymap with
  | some (xkbState, keymap) =>
    if mapped then { w with xkbState := xkbState, keymapFd := some keymap }
    else { w with keymapFd := none }
  | none => w

def sendKeymap (w : KeyboardSeat σ κ μ) : KeyboardSeat σ κ μ := w.broadcast (.keymap w.keymapFd)

def updateKeymap (w : KeyboardSeat σ κ μ) (mapped : Bool) : KeyboardSeat σ κ μ :=
  if w.pendingKeymap = false ∨ w.keys ≠ [] then w
  else
    let w := (createXKBKeymap xkb { w with pendingKeymap := false } mapped).sendKeymap
    let xkbState := xkb.updateMask w.xkbState ⟨0, w.mods.modsLatched, w.mods.modsLocked, 0⟩
    { w with xkbState := xkbState }.modifiers w.mods

/-- `WindowSystemEventHandler::sendEvent`, for a key that is no repetition -/
def handleKey (w : KeyboardSeat σ κ μ) (code : Nat) (pressed : Bool) (delivery : KeyDelivery)
    (mapped : Bool) : Option (KeyboardSeat σ κ μ) := do
  let w ← w.keyEvent code pressed
  let w ← w.deliver code pressed delivery
  return (w.updateKeymap xkb mapped).updateModifierState xkb code pressed

def setKeymap (w : KeyboardSeat σ κ μ) (keymap : μ) (mapped : Bool) : KeyboardSeat σ κ μ :=
  let w := { w with keymap := keymap, pendingKeymap := true }
  if w.keys = [] then w.updateKeymap xkb mapped else w

/-- The pointer has entered a surface of the client. -/
def sendKeyModifiers (w : KeyboardSeat σ κ μ) (client : ClientId) : KeyboardSeat σ κ μ :=
  match w.resourceFor client with
  | some resource => w.send resource.id [.modifiers w.mods]
  | none => w

end KeyboardSeat

inductive KeyboardCall (μ : Type) where
  | createSurface (client : ClientId)
  | markAsCursorSurface (s : KeyboardSurfaceId)
  | destroySurface (s : KeyboardSurfaceId)
  | getKeyboard (client : ClientId)
  | releaseKeyboard (r : KeyboardId)
  | getDataDevice
  | setKeyboardFocus (s : Option KeyboardSurfaceId)
  | handleKey (code : Nat) (pressed : Bool) (delivery : KeyDelivery) (mapped : Bool)
  | setKeymap (keymap : μ) (mapped : Bool)
  | sendKeyModifiers (client : ClientId)

namespace KeyboardSeat

variable {σ κ μ : Type}

def step (xkb : Xkb σ κ μ) (w : KeyboardSeat σ κ μ) : KeyboardCall μ → Option (KeyboardSeat σ κ μ)
  | .createSurface client => some (w.createSurface client)
  | .markAsCursorSurface s => some (w.markAsCursorSurface s)
  | .destroySurface s => some (w.destroySurface s)
  | .getKeyboard client => w.getKeyboard client
  | .releaseKeyboard r => some (w.releaseKeyboard r)
  | .getDataDevice => some { w with dataDevice := true }
  | .setKeyboardFocus s => w.setKeyboardFocus s
  | .handleKey code pressed delivery mapped => w.handleKey xkb code pressed delivery mapped
  | .setKeymap keymap mapped => some (w.setKeymap xkb keymap mapped)
  | .sendKeyModifiers client => some (w.sendKeyModifiers client)

end KeyboardSeat

end GreenIsland.Compositor

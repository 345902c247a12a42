import Mathlib.Data.List.Nodup
import Mathlib.Logic.Function.Basic
import GreenIsland.Lib.Keyed
import GreenIsland.Lib.Run
import GreenIsland.Platform.LibInputTouch

/-! Devices that come and go (`LibInputHandler::_q_liEventHandler`).

A device has any of four capabilities, for each of which the handler counts the
devices.  For a device with touch it creates a `QTouchDevice`, announces it, and
keeps its touch points in a hash with the device's address as key; an address may
come back with another device.

Beside the handler stand the devices that are present, each with its capabilities
and the touch device that was announced for it.

* The counters are right after every event (`counts_right`).  `capabilities` is not:
  it starts from no flag and only ever masks flags out, so it is empty whatever the
  counters are (`capabilities_eq_zero`), and it is right as long as no device with a
  capability was added (`capabilities_ok_iff`).
* `unregisterDevice` writes to its argument only if something is there already, and
  its caller passes a null pointer: every removal announces a null touch device and
  nothing is taken out of the hash.  Touch devices are announced in pairs as long as
  none of them is removed (`touch_devices_ok_iff`). -/

namespace GreenIsland.Platform

/-! ## Model -/

/-- The capabilities that are counted. -/
inductive DeviceCapability
  | keyboard
  | pointer
  | touch
  | gesture
deriving DecidableEq, Repr

/-- `LibInputHandler::CapabilityFlag` -/
def DeviceCapability.flag : DeviceCapability → UInt32
  | .pointer => 0x01
  | .keyboard => 0x02
  | .touch => 0x04
  | .gesture => 0x08

/-- The capabilities of a device. -/
structure DeviceCapabilities where
  keyboard : Bool
  pointer : Bool
  touch : Bool
  gesture : Bool
deriving DecidableEq, Repr

/-- `libinput_device_has_capability` -/
def DeviceCapabilities.has (caps : DeviceCapabilities) : DeviceCapability → Bool
  | .keyboard => caps.keyboard
  | .pointer => caps.pointer
  | .touch => caps.touch
  | .gesture => caps.gesture

inductive HandlerSignal (Pos : Type)
  | capabilitiesChanged
  /-- `keyboardCountChanged`, `pointerCountChanged`, `touchCountChanged`, `gestureCountChanged` -/
  | countChanged (capability : DeviceCapability) (count : Int)
  | touchDeviceRegistered (td : Nat)
  /-- `none` is the null pointer -/
  | touchDeviceUnregistered (td : Option Nat)
  /-- `touchEvent`, `touchCancel` -/
  | touch (signal : TouchSignal Pos)
deriving DecidableEq, Repr

/-- `State`, with the `QTouchDevice` by number. -/
structure DeviceState (Pos : Type) where
  touchDevice : Option Nat
  touchPoints : List (TouchPoint Pos)

structure LibInputHandlerPrivate (Dev Pos : Type) where
  /-- `keyboardCount`, `pointerCount`, `touchCount`, `gestureCount` -/
  counts : DeviceCapability → Int
  /-- the hash of `LibInputTouchPrivate` -/
  state : Dev → Option (DeviceState Pos)
  /-- how many `QTouchDevice`s were created -/
  created : Nat

namespace LibInputHandlerPrivate

variable {Dev Pos : Type}

/-- `LibInputHandler::capabilities` -/
def capabilities (s : LibInputHandlerPrivate Dev Pos) : UInt32 :=
  let caps := 0
  let caps := if s.counts .keyboard > 0 then caps &&& DeviceCapability.keyboard.flag else caps
  let caps := if s.counts .pointer > 0 then caps &&& DeviceCapability.pointer.flag else caps
  let caps := if s.counts .touch > 0 then caps &&& DeviceCapability.touch.flag else caps
  if s.counts .gesture > 0 then caps &&& DeviceCapability.touch.flag else caps

/-- The handler of an event so far, with the signals it emitted. -/
abbrev Emitting (Dev Pos : Type) : Type := LibInputHandlerPrivate Dev Pos × List (HandlerSignal Pos)

/-- A counter is raised or lowered. -/
def count (capability : DeviceCapability) (d : Int) (h : Emitting Dev Pos) : Emitting Dev Pos :=
  let n := h.1.counts capability + d
  ({ h.1 with counts := Function.update h.1.counts capability n },
    h.2 ++ [.capabilitiesChanged, .countChanged capability n])

section
variable [DecidableEq Dev]

/-- `state[device]`, which is created if it is missing. -/
def stateAt (s : LibInputHandlerPrivate Dev Pos) (device : Dev) : DeviceState Pos :=
  (s.state device).getD ⟨none, []⟩

def setState (s : LibInputHandlerPrivate Dev Pos) (device : Dev) (state : DeviceState Pos) :
    LibInputHandlerPrivate Dev Pos :=
  { s with state := Function.update s.state device (some state) }

def registerDevice (s : LibInputHandlerPrivate Dev Pos) (device : Dev) :
    Nat × LibInputHandlerPrivate Dev Pos :=
  let td := s.created
  let s := { s with created := s.created + 1 }
  (td, s.setState device { s.stateAt device with touchDevice := some td })

/-- `td` is what the out-parameter points to. -/
def unregisterDevice (s : LibInputHandlerPrivate Dev Pos) (device : Dev) (td : Option Nat) :
    Option Nat × LibInputHandlerPrivate Dev Pos :=
  if td.isSome then ((s.stateAt device).touchDevice, s.setState device (s.stateAt device))
  else (td, s)

/-- What is done with a touch device that was added. -/
def announce (device : Dev) (h : Emitting Dev Pos) : Emitting Dev Pos :=
  let registered := h.1.registerDevice device
  (registered.2, h.2 ++ [.touchDeviceRegistered registered.1])

/-- What is done with a touch device that was removed. -/
def renounce (device : Dev) (h : Emitting Dev Pos) : Emitting Dev Pos :=
  let unregistered := h.1.unregisterDevice device none
  (unregistered.2, h.2 ++ [.touchDeviceUnregistered unregistered.1])

/-- `LIBINPUT_EVENT_DEVICE_ADDED` -/
def deviceAdded (s : LibInputHandlerPrivate Dev Pos) (device : Dev) (caps : DeviceCapabilities) :
    Emitting Dev Pos :=
  let h := (s, [])
  let h := if caps.has .keyboard then count .keyboard 1 h else h
  let h := if caps.has .pointer then count .pointer 1 h else h
  let h := if caps.has .touch then count .touch 1 (announce device h) else h
  if caps.has .gesture then count .gesture 1 h else h

/-- `LIBINPUT_EVENT_DEVICE_REMOVED` -/
def deviceRemoved (s : LibInputHandlerPrivate Dev Pos) (device : Dev) (caps : DeviceCapabilities) :
    Emitting Dev Pos :=
  let h := (s, [])
  let h := if caps.has .keyboard then count .keyboard (-1) h else h
  let h := if caps.has .pointer then count .pointer (-1) h else h
  let h := if caps.has .touch then count .touch (-1) (renounce device h) else h
  if caps.has .gesture then count .gesture (-1) h else h

/-- The five touch events, as `TouchState.handle` has them. -/
def handleTouch [DecidableEq Pos] (s : LibInputHandlerPrivate Dev Pos) (device : Dev) (contact : Nat)
    (e : TouchEvent Pos) : Emitting Dev Pos :=
  let state := s.stateAt device
  let handled := (TouchState.mk state.touchDevice.isSome state.touchPoints).handle contact e
  (s.setState device { state with touchPoints := handled.1.touchPoints }, handled.2.map .touch)

end

end LibInputHandlerPrivate

/-! ## The devices -/

inductive DeviceEvent (Dev Pos : Type)
  | added (device : Dev) (caps : DeviceCapabilities)
  | removed (device : Dev)
  | touch (device : Dev) (e : TouchEvent Pos)

/-- A device between its addition and its removal. -/
structure PresentDevice (Dev : Type) where
  device : Dev
  caps : DeviceCapabilities
  /-- the touch device that was announced for it -/
  announced : Option Nat
deriving DecidableEq, Repr

/-- The touch devices that signals announce as registered. -/
def registrations {Pos : Type} (signals : List (HandlerSignal Pos)) : List Nat :=
  signals.filterMap fun
    | .touchDeviceRegistered td => some td
    | _ => none

/-- And as unregistered. -/
def unregistrations {Pos : Type} (signals : List (HandlerSignal Pos)) : List (Option Nat) :=
  signals.filterMap fun
    | .touchDeviceUnregistered td => some td
    | _ => none

/-- The handler with the devices and what it told of them. -/
structure InputDevices (Dev Pos : Type) where
  handler : LibInputHandlerPrivate Dev Pos
  present : List (PresentDevice Dev)
  signals : List (HandlerSignal Pos)
  /-- the number of touch events -/
  touches : Nat

namespace InputDevices

variable {Dev Pos : Type}

def init : InputDevices Dev Pos := ⟨⟨fun _ => 0, fun _ => none, 0⟩, [], [], 0⟩

section
variable [DecidableEq Dev] [DecidableEq Pos]

/-- A device is added that is not present, removed while it is, and touched if it
is present and has touch; libinput delivers nothing else. -/
def step (w : InputDevices Dev Pos) : DeviceEvent Dev Pos → InputDevices Dev Pos
  | .added device caps =>
    match Keyed.find PresentDevice.device device w.present with
    | some _ => w
    | none =>
      let h := w.handler.deviceAdded device caps
      { w with
        handler := h.1
        present := w.present ++ [⟨device, caps, (registrations h.2).head?⟩]
        signals := w.signals ++ h.2 }
  | .removed device =>
    match Keyed.find PresentDevice.device device w.present with
    | none => w
    | some p =>
      let h := w.handler.deviceRemoved device p.caps
      { w with handler := h.1, present := w.present.erase p, signals := w.signals ++ h.2 }
  | .touch device e =>
    match Keyed.find PresentDevice.device device w.present with
    | none => w
    | some p =>
      if p.caps.has .touch then
        let h := w.handler.handleTouch device w.touches e
        { w with handler := h.1, signals := w.signals ++ h.2, touches := w.touches + 1 }
      else w

end

/-! ## What is to hold -/

/-- The number of present devices with a capability. -/
def having (w : InputDevices Dev Pos) (capability : DeviceCapability) : Nat :=
  w.present.countP fun p => p.caps.has capability

def CountsRight (w : InputDevices Dev Pos) : Prop :=
  ∀ capability, w.handler.counts capability = w.having capability

/-- The counters and `capabilities` tell what the present devices can do. -/
structure CapabilitiesOk (w : InputDevices Dev Pos) : Prop where
  counts : w.CountsRight
  /-- `QFlags::testFlag` on the left -/
  flags : ∀ capability : DeviceCapability,
    w.handler.capabilities &&& capability.flag = capability.flag ↔ 0 < w.handler.counts capability

/-- **The condition of the capabilities.**  A device that is added has none. -/
def AddOk (w : InputDevices Dev Pos) : DeviceEvent Dev Pos → Prop
  | .added device caps =>
    device ∉ w.present.map PresentDevice.device → ∀ capability, caps.has capability = false
  | _ => True

/-- What a step owes to the touch devices. -/
structure TouchDevicesOk (w : InputDevices Dev Pos) (e : DeviceEvent Dev Pos)
    (w' : InputDevices Dev Pos) : Prop where
  /-- a removal announces what the addition announced -/
  removal : ∀ p ∈ w.present, p.caps.touch = true → e = .removed p.device →
    ∃ td new, p.announced = some td ∧ w'.signals = w.signals ++ new ∧ unregistrations new = [some td]
  /-- once for each touch device whose device is gone -/
  once : ∀ td ∈ registrations w'.signals,
    (unregistrations w'.signals).count (some td) =
      if some td ∈ w'.present.map PresentDevice.announced then 0 else 1
  /-- no state of a device that is not present -/
  states : ∀ device, w'.handler.state device ≠ none → device ∈ w'.present.map PresentDevice.device

/-- **The condition of the touch devices.**  None of them is removed. -/
def RemoveOk (w : InputDevices Dev Pos) (e : DeviceEvent Dev Pos) : Prop :=
  ∀ p ∈ w.present, p.caps.touch = true → e ≠ .removed p.device

end InputDevices

/-! ## What an event does -/

namespace LibInputHandlerPrivate

variable {Dev Pos : Type} {s : LibInputHandlerPrivate Dev Pos} {device : Dev} {caps : DeviceCapabilities}

/-- No flag survives: the first mask is applied to nothing. -/
theorem capabilities_eq_zero (s : LibInputHandlerPrivate Dev Pos) : s.capabilities = 0 := by
  have hmask : ∀ (b : Prop) [Decidable b] (flag : UInt32),
      (if b then (0 : UInt32) &&& flag else 0) = 0 := by
    intro b _ flag
    split
    · exact UInt32.zero_and
    · rfl
  unfold capabilities
  simp only [hmask]

/-- One of the four branches of an event, after something `g` that leaves the
counters alone. -/
theorem counts_branch {g : Emitting Dev Pos → Emitting Dev Pos}
    (hg : ∀ h, (g h).1.counts = h.1.counts) (b : Bool) (x : DeviceCapability) (d : Int)
    (h : Emitting Dev Pos) (c : DeviceCapability) :
    (if b then count x d (g h) else h).1.counts c =
      h.1.counts c + if c = x ∧ b = true then d else 0 := by
  cases b with
  | false => simp
  | true =>
    show Function.update (g h).1.counts x ((g h).1.counts x + d) c = _
    rw [hg]
    by_cases hc : c = x
    · subst hc
      simp
    · rw [Function.update_of_ne hc]
      simp [hc]

theorem counts_plain_branch (b : Bool) (x : DeviceCapability) (d : Int) (h : Emitting Dev Pos)
    (c : DeviceCapability) :
    (if b then count x d h else h).1.counts c = h.1.counts c + if c = x ∧ b = true then d else 0 :=
  counts_branch (g := fun h => h) (fun _ => rfl) b x d h c

section
variable [DecidableEq Dev]

theorem announce_counts (h : Emitting Dev Pos) : (announce device h).1.counts = h.1.counts := rfl

theorem renounce_counts (h : Emitting Dev Pos) : (renounce device h).1.counts = h.1.counts := rfl

theorem deviceAdded_counts (c : DeviceCapability) :
    (s.deviceAdded device caps).1.counts c = s.counts c + if caps.has c then 1 else 0 := by
  dsimp only [deviceAdded]
  rw [counts_plain_branch, counts_branch announce_counts, counts_plain_branch, counts_plain_branch]
  cases c <;> simp

theorem deviceRemoved_counts (c : DeviceCapability) :
    (s.deviceRemoved device caps).1.counts c = s.counts c - if caps.has c then 1 else 0 := by
  dsimp only [deviceRemoved]
  rw [counts_plain_branch, counts_branch renounce_counts, counts_plain_branch, counts_plain_branch]
  cases c <;> simp <;> split <;> rfl

/-- Only the branch of touch announces something. -/
theorem registrations_deviceAdded :
    registrations (s.deviceAdded device caps).2 = if caps.touch then [s.created] else [] := by
  rcases caps with ⟨k, p, t, g⟩
  cases k <;> cases p <;> cases t <;> cases g <;> rfl

theorem unregistrations_deviceAdded : unregistrations (s.deviceAdded device caps).2 = [] := by
  rcases caps with ⟨k, p, t, g⟩
  cases k <;> cases p <;> cases t <;> cases g <;> rfl

theorem registrations_deviceRemoved : registrations (s.deviceRemoved device caps).2 = [] := by
  rcases caps with ⟨k, p, t, g⟩
  cases k <;> cases p <;> cases t <;> cases g <;> rfl

/-- The touch device that a removal announces is the null pointer. -/
theorem unregistrations_deviceRemoved :
    unregistrations (s.deviceRemoved device caps).2 = if caps.touch then [none] else [] := by
  rcases caps with ⟨k, p, t, g⟩
  cases k <;> cases p <;> cases t <;> cases g <;> rfl

theorem deviceRemoved_state : (s.deviceRemoved device caps).1.state = s.state := by
  rcases caps with ⟨k, p, t, g⟩
  cases k <;> cases p <;> cases t <;> cases g <;> rfl

theorem deviceAdded_state : (s.deviceAdded device caps).1.state =
    if caps.touch then
      Function.update s.state device (some { s.stateAt device with touchDevice := some s.created })
    else s.state := by
  rcases caps with ⟨k, p, t, g⟩
  cases k <;> cases p <;> cases t <;> cases g <;> rfl

/-- A touch event of a device announces none. -/
theorem announcements_handleTouch [DecidableEq Pos] (s : LibInputHandlerPrivate Dev Pos)
    (device : Dev) (contact : Nat) (e : TouchEvent Pos) :
    registrations (s.handleTouch device contact e).2 = [] ∧
      unregistrations (s.handleTouch device contact e).2 = [] := by
  constructor
  · exact List.filterMap_eq_nil_iff.2 fun signal hsignal => by
      obtain ⟨touch, -, rfl⟩ := List.mem_map.1 hsignal
      rfl
  · exact List.filterMap_eq_nil_iff.2 fun signal hsignal => by
      obtain ⟨touch, -, rfl⟩ := List.mem_map.1 hsignal
      rfl

end

end LibInputHandlerPrivate

/-! ## The counters -/

namespace InputDevices

open LibInputHandlerPrivate

variable {Dev Pos : Type} {w : InputDevices Dev Pos}

theorem countsRight_init : (init : InputDevices Dev Pos).CountsRight := fun _ => rfl

/-- The flags are right only where there is nothing to tell. -/
theorem capabilitiesOk_iff (h : w.CountsRight) :
    w.CapabilitiesOk ↔ ∀ p ∈ w.present, ∀ c, p.caps.has c = false := by
  have hzero : ∀ c : DeviceCapability, (0 : UInt32) &&& c.flag ≠ c.flag := by
    intro c
    cases c <;> decide
  have hflags : w.CapabilitiesOk ↔ ∀ c, ¬ 0 < w.handler.counts c := by
    constructor
    · intro hok c hpos
      have hflag := (hok.flags c).2 hpos
      rw [capabilities_eq_zero] at hflag
      exact hzero c hflag
    · intro hnone
      refine ⟨h, fun c => iff_of_false ?_ (hnone c)⟩
      rw [capabilities_eq_zero]
      exact hzero c
  have hcount : ∀ c, ¬ 0 < w.handler.counts c ↔ ∀ p ∈ w.present, p.caps.has c = false := by
    intro c
    rw [h c, Int.natCast_pos, having, List.countP_pos_iff]
    simp
  simp only [hflags, hcount]
  exact ⟨fun hnone p hp c => hnone c p hp, fun hnone c p hp => hnone p hp c⟩

variable [DecidableEq Dev]

theorem mem_present_of_find {device : Dev} {p : PresentDevice Dev}
    (h : Keyed.find PresentDevice.device device w.present = some p) : p ∈ w.present :=
  List.mem_of_find?_eq_some h

/-- The devices that have the capability, with and without `p`. -/
theorem countP_present_erase {p : PresentDevice Dev} (hp : p ∈ w.present)
    (f : PresentDevice Dev → Bool) :
    w.present.countP f = (w.present.erase p).countP f + if f p then 1 else 0 := by
  rw [(List.perm_cons_erase hp).countP_eq f, List.countP_cons]

variable [DecidableEq Pos]

/-- **The counters follow the devices.** -/
theorem countsRight_step (h : w.CountsRight) (e : DeviceEvent Dev Pos) : (w.step e).CountsRight := by
  intro c
  cases e with
  | added device caps =>
    dsimp only [step]
    split
    · exact h c
    · show (w.handler.deviceAdded device caps).1.counts c = ((w.present ++ [_]).countP _ : Nat)
      rw [deviceAdded_counts, h c, List.countP_append, List.countP_singleton]
      cases caps.has c with
      | false => rfl
      | true => exact (Int.natCast_succ _).symm
  | removed device =>
    dsimp only [step]
    split
    · exact h c
    · next p hfind =>
      show (w.handler.deviceRemoved device p.caps).1.counts c = ((w.present.erase p).countP _ : Nat)
      have hcount : w.having c = _ := countP_present_erase (mem_present_of_find hfind) _
      rw [deviceRemoved_counts, h c, hcount]
      cases p.caps.has c with
      | false => exact Int.sub_zero _
      | true => simp
  | touch device e =>
    dsimp only [step]
    split
    · exact h c
    · split
      · exact h c
      · exact h c

/-- **The counters are always right.** -/
theorem counts_right (es : List (DeviceEvent Dev Pos)) :
    Run.Always (fun w e => some (step w e)) CountsRight (init : InputDevices Dev Pos) es :=
  Run.always_of_inv (fun w e h => ⟨step w e, rfl, countsRight_step h e⟩) (fun _ h => h) es init
    countsRight_init

/-- **When the capabilities are told.**  As long as no device that has one is added,
and no longer. -/
theorem capabilities_ok_iff (es : List (DeviceEvent Dev Pos)) :
    Run.Always (fun w e => some (step w e)) CapabilitiesOk (init : InputDevices Dev Pos) es ↔
      Run.Meets (fun w e => some (step w e)) AddOk init es := by
  have hinit : (init : InputDevices Dev Pos).CapabilitiesOk :=
    (capabilitiesOk_iff countsRight_init).2 fun p hp => by cases hp
  refine Run.always_iff_of_decides (I := CapabilitiesOk) ?_ es init hinit hinit
  intro w e hw
  have hcounts := countsRight_step hw.counts e
  have hnone := (capabilitiesOk_iff hw.counts).1 hw
  have hiff : (step w e).CapabilitiesOk ↔ w.AddOk e := by
    rw [capabilitiesOk_iff hcounts]
    cases e with
    | added device caps =>
      dsimp only [step, AddOk]
      rw [← Keyed.find_eq_none]
      split
      · next p hfind => exact iff_of_true hnone fun h => by rw [hfind] at h; cases h
      · next hfind =>
        rw [List.forall_mem_append, List.forall_mem_singleton, and_iff_right hnone, imp_iff_right hfind]
    | removed device =>
      dsimp only [step, AddOk]
      rw [iff_true]
      split
      · exact hnone
      · exact fun p hp => hnone p (List.mem_of_mem_erase hp)
    | touch device e =>
      dsimp only [step, AddOk]
      rw [iff_true]
      split
      · exact hnone
      · split
        · exact hnone
        · exact hnone
  exact Run.decides_total hiff hiff.2

/-- A keyboard is plugged in: its counter is 1, and there is no flag. -/
theorem capabilities_ok_fails :
    ¬ Run.Always (fun w e => some (step w e)) CapabilitiesOk (init : InputDevices Nat Nat)
      [.added 0 ⟨true, false, false, false⟩] := by
  rintro ⟨-, w, hw, hok, -⟩
  obtain rfl := Option.some.inj hw
  exact absurd ((hok.flags .keyboard).2 (by decide)) (by decide)

/-! ## The touch devices -/

/-- Without removals of touch devices: the hash has states of such devices only,
each touch device that was announced is that of a present device, and none was
announced as gone. -/
structure TouchInv (w : InputDevices Dev Pos) : Prop where
  nodup : (w.present.map PresentDevice.device).Nodup
  announced : ∀ p ∈ w.present, p.announced.isSome = p.caps.touch
  states : ∀ device, w.handler.state device ≠ none →
    ∃ p ∈ w.present, p.device = device ∧ p.caps.touch = true
  registered : ∀ td ∈ registrations w.signals, some td ∈ w.present.map PresentDevice.announced
  unregistered : unregistrations w.signals = []

omit [DecidableEq Dev] [DecidableEq Pos] in
theorem touchInv_init : (init : InputDevices Dev Pos).TouchInv where
  nodup := List.nodup_nil
  announced _ h := by cases h
  states _ h := absurd rfl h
  registered _ h := by cases h
  unregistered := rfl

omit [DecidableEq Dev] [DecidableEq Pos] in
theorem registrations_append (l l' : List (HandlerSignal Pos)) :
    registrations (l ++ l') = registrations l ++ registrations l' := List.filterMap_append

omit [DecidableEq Dev] [DecidableEq Pos] in
theorem unregistrations_append (l l' : List (HandlerSignal Pos)) :
    unregistrations (l ++ l') = unregistrations l ++ unregistrations l' := List.filterMap_append

/-- An addition, also of a device with the address of an earlier one. -/
theorem TouchInv.added (h : w.TouchInv) (device : Dev) (caps : DeviceCapabilities) :
    (w.step (.added device caps)).TouchInv := by
  dsimp only [step]
  split
  · exact h
  · next hfind =>
    have hnew := Keyed.find_eq_none.1 hfind
    rw [registrations_deviceAdded]
    refine ⟨?_, ?_, ?_, ?_, ?_⟩
    · rw [List.map_append, List.map_singleton]
      refine List.nodup_append.2 ⟨h.nodup, List.nodup_singleton _, ?_⟩
      rintro a ha b hb rfl
      obtain rfl := List.mem_singleton.1 hb
      exact hnew ha
    · refine List.forall_mem_append.2 ⟨h.announced, List.forall_mem_singleton.2 ?_⟩
      cases caps.touch <;> rfl
    · intro d hd
      rw [deviceAdded_state] at hd
      by_cases hsame : caps.touch = true ∧ d = device
      · exact ⟨_, List.mem_append_right _ (List.mem_singleton_self _), hsame.2.symm, hsame.1⟩
      · have hold : w.handler.state d ≠ none := by
          split at hd
          · next htouch =>
            rwa [Function.update_of_ne fun heq => hsame ⟨htouch, heq⟩] at hd
          · exact hd
        obtain ⟨p, hp, hdevice⟩ := h.states d hold
        exact ⟨p, List.mem_append_left _ hp, hdevice⟩
    · intro td htd
      rw [registrations_append, registrations_deviceAdded, List.mem_append] at htd
      rw [List.map_append, List.mem_append]
      rcases htd with hold | hnow
      · exact Or.inl (h.registered td hold)
      · right
        cases htouch : caps.touch with
        | false => rw [htouch] at hnow; cases hnow
        | true =>
          rw [htouch] at hnow
          obtain rfl := List.mem_singleton.1 hnow
          exact List.mem_singleton_self _
    · rw [unregistrations_append, h.unregistered, unregistrations_deviceAdded]
      rfl

/-- A touch event, of a device that is present. -/
theorem TouchInv.touch (h : w.TouchInv) (device : Dev) (e : TouchEvent Pos) :
    (w.step (.touch device e)).TouchInv := by
  dsimp only [step]
  split
  · exact h
  · next p hfind =>
    have hp := mem_present_of_find hfind
    split
    · next htouch =>
      obtain ⟨hreg, hunreg⟩ := announcements_handleTouch w.handler device w.touches e
      refine ⟨h.nodup, h.announced, ?_, ?_, ?_⟩
      · intro d hd
        by_cases hsame : d = device
        · exact ⟨p, hp, (Keyed.key_of_find hfind).trans hsame.symm, htouch⟩
        · refine h.states d ?_
          have hkept : (w.handler.handleTouch device w.touches e).1.state d = w.handler.state d :=
            Function.update_of_ne hsame _ _
          rwa [hkept] at hd
      · rw [registrations_append, hreg, List.append_nil]
        exact h.registered
      · rw [unregistrations_append, h.unregistered, hunreg]
        rfl
    · exact h

/-- The removal of a device without touch. -/
theorem TouchInv.removed (h : w.TouchInv) (device : Dev) (hok : w.RemoveOk (.removed device)) :
    (w.step (.removed device)).TouchInv := by
  dsimp only [step]
  split
  · exact h
  · next p hfind =>
    have hp := mem_present_of_find hfind
    have hnot : p.caps.touch = false := by
      refine Bool.eq_false_iff.2 fun htouch => hok p hp htouch ?_
      rw [Keyed.key_of_find hfind]
    have hkept : ∀ q ∈ w.present, q.caps.touch = true → q ∈ w.present.erase p := by
      intro q hq hq'
      refine (List.mem_erase_of_ne ?_).2 hq
      rintro rfl
      rw [hnot] at hq'
      cases hq'
    refine ⟨?_, ?_, ?_, ?_, ?_⟩
    · exact h.nodup.sublist (List.erase_sublist.map _)
    · exact fun q hq => h.announced q (List.mem_of_mem_erase hq)
    · intro d hd
      rw [deviceRemoved_state] at hd
      obtain ⟨q, hq, hdevice, htouch⟩ := h.states d hd
      exact ⟨q, hkept q hq htouch, hdevice, htouch⟩
    · intro td htd
      rw [registrations_append, registrations_deviceRemoved, List.append_nil] at htd
      obtain ⟨q, hq, hq'⟩ := List.mem_map.1 (h.registered td htd)
      have htouch : q.caps.touch = true := by rw [← h.announced q hq, hq']; rfl
      exact List.mem_map.2 ⟨q, hkept q hq htouch, hq'⟩
    · rw [unregistrations_append, h.unregistered, unregistrations_deviceRemoved, hnot]
      rfl

theorem TouchInv.step (h : w.TouchInv) (e : DeviceEvent Dev Pos) (hok : w.RemoveOk e) :
    (w.step e).TouchInv := by
  cases e with
  | added device caps => exact h.added device caps
  | removed device => exact h.removed device hok
  | touch device e => exact h.touch device e

omit [DecidableEq Dev] [DecidableEq Pos] in
/-- Before and after an event that removes no touch device. -/
theorem TouchInv.touchDevicesOk {w' : InputDevices Dev Pos} {e : DeviceEvent Dev Pos}
    (h' : w'.TouchInv) (hok : w.RemoveOk e) : TouchDevicesOk w e w' where
  removal p hp htouch he := absurd he (hok p hp htouch)
  once td htd := by
    rw [h'.unregistered, if_pos (h'.registered td htd)]
    rfl
  states device hstate := by
    obtain ⟨p, hp, hdevice, -⟩ := h'.states device hstate
    exact List.mem_map.2 ⟨p, hp, hdevice⟩

/-- The removal of a touch device announces the null pointer. -/
theorem TouchInv.not_removed (h : w.TouchInv) {p : PresentDevice Dev} (hp : p ∈ w.present)
    (htouch : p.caps.touch = true) :
    ¬ TouchDevicesOk w (.removed p.device) (w.step (.removed p.device)) := by
  intro hok
  obtain ⟨td, new, -, hsignals, hnew⟩ := hok.removal p hp htouch rfl
  have hstep : (w.step (.removed p.device)).signals =
      w.signals ++ (w.handler.deviceRemoved p.device p.caps).2 := by
    dsimp only [InputDevices.step]
    rw [Keyed.find_of_mem h.nodup hp]
  obtain rfl := List.append_cancel_left (hsignals.symm.trans hstep)
  rw [unregistrations_deviceRemoved, if_pos htouch] at hnew
  cases hnew

/-- **When touch devices are announced in pairs.**  As long as none of them is
removed, and no longer. -/
theorem touch_devices_ok_iff (es : List (DeviceEvent Dev Pos)) :
    Run.Along (fun w e => some (step w e)) TouchDevicesOk (init : InputDevices Dev Pos) es ↔
      Run.Meets (fun w e => some (step w e)) RemoveOk init es := by
  refine Run.along_iff_of_decides (I := TouchInv) ?_ es init touchInv_init
  intro w e h
  refine Run.decides_total ⟨?_, fun hok => (h.step e hok).touchDevicesOk hok⟩ (h.step e)
  rintro hok p hp htouch rfl
  exact h.not_removed hp htouch hok

/-- A touch screen is plugged in and out again. -/
theorem touch_devices_ok_fails :
    ¬ Run.Along (fun w e => some (step w e)) TouchDevicesOk (init : InputDevices Nat Nat)
      [.added 0 ⟨false, false, true, false⟩, .removed 0] := by
  rintro ⟨w, hw, -, w', hw', hok, -⟩
  obtain rfl := Option.some.inj hw
  obtain rfl := Option.some.inj hw'
  obtain ⟨td, new, -, hsignals, hnew⟩ := hok.removal ⟨0, ⟨false, false, true, false⟩, some 0⟩
    (List.mem_singleton_self _) rfl rfl
  obtain rfl := List.append_cancel_left (hsignals.symm.trans rfl)
  cases hnew

end InputDevices

end GreenIsland.Platform

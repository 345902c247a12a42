import Mathlib.Data.List.Basic
import GreenIsland.Lib.Run
import GreenIsland.Qt.Basic

/-! Key repeat in a nested session (`EglFSWaylandInput`, with the client's `Keyboard`).

The press of a key that repeats starts a timer; the release of the key stops it.
At each timeout the plugin makes up a release and a press of the key.

What the timer should do (`Repeats`): it is active only while the key in
`m_repeatCode` is held and a surface has the focus, it makes the first repeat of a
press wait for the delay and the others for the interval that the rate stands for,
and with the rate 0 nothing is repeated.  `repeats_iff` says in which runs it does.
The plugin takes the rate for the first wait, and the delay for the others; it does
not look whether the rate is 0; and it is not told when the focus goes, so the timer
must not be active then. -/

namespace GreenIsland.Client

/-! ## Model -/

structure Keyboard where
  focusSurface : Option Nat
  repeatRate : Int
  repeatDelay : Int
deriving DecidableEq

namespace Keyboard

def init : Keyboard := ⟨none, 0, 0⟩

def enter (k : Keyboard) (surface : Option Nat) : Keyboard := { k with focusSurface := surface }

def leave (k : Keyboard) : Keyboard := { k with focusSurface := none }

def repeatInfo (k : Keyboard) (rate delay : Int) : Keyboard :=
  let k := if qint32 k.repeatRate ≠ rate then { k with repeatRate := max rate 0 } else k
  if qint32 k.repeatDelay ≠ delay then { k with repeatDelay := max delay 0 } else k

end Keyboard

end GreenIsland.Client

namespace GreenIsland.Platform

/-- What xkbcommon says of a key event. -/
structure XkbKey where
  /-- there is a keymap, or the default one can be loaded -/
  keymap : Bool
  sym : Nat
  text : String
  qtKey : Int
  keyRepeats : Bool
deriving DecidableEq

/-- The arguments of `handleExtendedKeyEvent`; windows go by their surface. -/
structure ExtendedKeyEvent where
  window : Option Nat
  time : Nat
  press : Bool
  key : Int
  modifiers : Nat
  nativeScanCode : UInt32
  nativeVirtualKey : Nat
  nativeModifiers : Nat
  text : String
  autorep : Bool
deriving DecidableEq

/-- The part of `EglFSWaylandInput` that is about keys. -/
structure WaylandKeyInput where
  modifiers : Nat
  nativeModifiers : Nat
  repeatKey : Int
  repeatCode : UInt32
  repeatTime : Nat
  repeatText : String
  repeatSym : Nat
  /-- `m_repeatTimer` -/
  active : Bool
  interval : Int
  /-- what was handed to Qt -/
  handled : List ExtendedKeyEvent
deriving DecidableEq

namespace WaylandKeyInput

def init : WaylandKeyInput where
  modifiers := 0
  nativeModifiers := 0
  repeatKey := 0
  repeatCode := 0
  repeatTime := 0
  repeatText := ""
  repeatSym := 0
  active := false
  interval := 0
  handled := []

def handleExtendedKeyEvent (s : WaylandKeyInput) (e : ExtendedKeyEvent) : WaylandKeyInput :=
  { s with handled := s.handled ++ [e] }

def processKeyEvent (s : WaylandKeyInput) (keyboard : Client.Keyboard) (press : Bool) (time : Nat)
    (key : UInt32) (xkb : XkbKey) : WaylandKeyInput :=
  if xkb.keymap = false then s
  else
    let code := key + 8
    let s := s.handleExtendedKeyEvent
      { window := keyboard.focusSurface
        time := time
        press := press
        key := xkb.qtKey
        modifiers := s.modifiers
        nativeScanCode := code
        nativeVirtualKey := xkb.sym
        nativeModifiers := s.nativeModifiers
        text := xkb.text
        autorep := false }
    if press && xkb.keyRepeats then
      { s with
        repeatKey := xkb.qtKey
        repeatCode := code
        repeatTime := time
        repeatText := xkb.text
        repeatSym := xkb.sym
        interval := keyboard.repeatRate
        active := true }
    else if s.repeatCode = code then { s with active := false }
    else s

/-- The event that a repeat makes up. -/
def repeated (s : WaylandKeyInput) (keyboard : Client.Keyboard) (press : Bool) : ExtendedKeyEvent where
  window := keyboard.focusSurface
  time := s.repeatTime
  press := press
  key := s.repeatKey
  modifiers := s.modifiers
  nativeScanCode := s.repeatCode
  nativeVirtualKey := s.repeatSym
  nativeModifiers := s.nativeModifiers
  text := s.repeatText
  autorep := true

/-- `repeatKey` -/
def timeout (s : WaylandKeyInput) (keyboard : Client.Keyboard) : WaylandKeyInput :=
  let s := { s with interval := keyboard.repeatDelay }
  (s.handleExtendedKeyEvent (s.repeated keyboard false)).handleExtendedKeyEvent
    (s.repeated keyboard true)

/-- `keyboardModifiersChanged`; `modifiers` is what xkbcommon makes of the masks. -/
def modifiersChanged (s : WaylandKeyInput) (modifiers depressed latched locked : Nat) :
    WaylandKeyInput :=
  { s with modifiers := modifiers, nativeModifiers := depressed ||| latched ||| locked }

end WaylandKeyInput

inductive KeyInputEvent
  | enter (surface : Option Nat) (keys : List UInt32)
  | leave
  | key (press : Bool) (time : Nat) (key : UInt32) (xkb : XkbKey)
  | modifiers (modifiers depressed latched locked : Nat)
  | repeatInfo (rate delay : Int)
  | timeout
deriving DecidableEq

/-- The keyboard, the plugin, and what the repeats go by: the codes of the keys that
are held, the rate and the delay when the timer was last set, and whether the last
press was repeated since. -/
structure NestedKeys where
  keyboard : Client.Keyboard
  input : WaylandKeyInput
  held : List UInt32
  rate : Int
  delay : Int
  again : Bool
deriving DecidableEq

namespace NestedKeys

def init : NestedKeys := ⟨Client.Keyboard.init, WaylandKeyInput.init, [], 0, 0, false⟩

/-- The timer was set. -/
def mark (s : NestedKeys) (again : Bool) : NestedKeys :=
  { s with rate := s.keyboard.repeatRate, delay := s.keyboard.repeatDelay, again := again }

/-- Keys are held from their press to their release; with the focus all are let go,
and the new focus comes with the keys that are held then. -/
def heldAfter (held : List UInt32) : KeyInputEvent → List UInt32
  | .enter _ keys => keys.map (· + 8)
  | .leave => []
  | .key true _ key _ => (key + 8) :: held
  | .key false _ key _ => held.filter (· ≠ key + 8)
  | _ => held

/-- A timer that is not active does not time out. -/
def step (s : NestedKeys) (e : KeyInputEvent) : NestedKeys :=
  let held := heldAfter s.held e
  match e with
  | .enter surface _ => { s with keyboard := s.keyboard.enter surface, held := held }
  | .leave => { s with keyboard := s.keyboard.leave, held := held }
  | .key press time key xkb =>
    let s := { s with input := s.input.processKeyEvent s.keyboard press time key xkb, held := held }
    if xkb.keymap && (press && xkb.keyRepeats) then s.mark false else s
  | .modifiers modifiers depressed latched locked =>
    { s with input := s.input.modifiersChanged modifiers depressed latched locked }
  | .repeatInfo rate delay => { s with keyboard := s.keyboard.repeatInfo rate delay }
  | .timeout =>
    if s.input.active then { s with input := s.input.timeout s.keyboard }.mark true else s

/-! ## What the timer should do -/

/-- The timer is active only while its key is held and there is a focus. -/
def Justified (s : NestedKeys) : Prop :=
  s.input.active = true → s.input.repeatCode ∈ s.held ∧ s.keyboard.focusSurface.isSome = true

/-- How long the next repeat should wait; `interval` is what the rate stands for. -/
def wait (interval : Int → Int) (s : NestedKeys) : Int :=
  if s.again then interval s.rate else s.delay

/-- A repeat comes after the time that it should wait, and while keys are repeated. -/
def Repeats (interval : Int → Int) (s : NestedKeys) (e : KeyInputEvent) (s' : NestedKeys) : Prop :=
  s'.Justified ∧ (e = .timeout → s.input.active = true →
    s.input.interval = s.wait interval ∧ s.keyboard.repeatRate ≠ 0)

/-- What an event must meet for this. -/
def OpOk (interval : Int → Int) (s : NestedKeys) : KeyInputEvent → Prop
  | .enter surface keys => s.input.active = true →
      s.input.repeatCode ∈ keys.map (· + 8) ∧ surface.isSome = true
  | .leave => s.input.active = false
  | .key press _ key xkb =>
    -- the key starts to repeat, or its release is not noticed
    if press then xkb.keymap = true → xkb.keyRepeats = true → s.keyboard.focusSurface.isSome = true
    else xkb.keymap = false → s.input.repeatCode = key + 8 → s.input.active = false
  | .timeout => s.input.active = true →
      (if s.again then s.delay = interval s.rate else s.rate = s.delay) ∧ s.keyboard.repeatRate ≠ 0
  | _ => True

/-- What all events keep. -/
structure Inv (s : NestedKeys) : Prop where
  justified : s.Justified
  interval_eq : s.input.active = true → s.input.interval = if s.again then s.delay else s.rate

end NestedKeys

/-! ## What one event does -/

namespace WaylandKeyInput

variable (s : WaylandKeyInput) (keyboard : Client.Keyboard) (time : Nat) (key : UInt32) {xkb : XkbKey}

theorem processKeyEvent_of_no_keymap (press : Bool) (h : xkb.keymap = false) :
    s.processKeyEvent keyboard press time key xkb = s := by
  unfold processKeyEvent
  rw [if_pos h]

/-- A key that is pressed and repeats sets the timer. -/
theorem processKeyEvent_repeating (h : xkb.keymap = true) (hrepeats : xkb.keyRepeats = true) :
    ∃ s' : WaylandKeyInput, s.processKeyEvent keyboard true time key xkb = s' ∧ s'.active = true ∧
      s'.repeatCode = key + 8 ∧ s'.interval = keyboard.repeatRate := by
  refine ⟨_, rfl, ?_⟩
  simp [processKeyEvent, h, hrepeats]

/-- Any other event of a key stops the timer if it is about the same key. -/
theorem processKeyEvent_other {press : Bool} (h : xkb.keymap = true)
    (hother : (press && xkb.keyRepeats) = false) :
    ∃ s' : WaylandKeyInput, s.processKeyEvent keyboard press time key xkb = s' ∧
      s'.repeatCode = s.repeatCode ∧ s'.interval = s.interval ∧
      s'.active = (s.active && decide (s.repeatCode ≠ key + 8)) := by
  refine ⟨_, rfl, ?_⟩
  unfold processKeyEvent
  rw [if_neg (by simp [h]), if_neg (by simp [hother])]
  by_cases hcode : s.repeatCode = key + 8
  · simp [handleExtendedKeyEvent, hcode]
  · simp [handleExtendedKeyEvent, hcode]

end WaylandKeyInput

namespace NestedKeys

variable {interval : Int → Int} {s : NestedKeys}

abbrev Decides (interval : Int → Int) : NestedKeys → KeyInputEvent → Prop :=
  Run.Decides (fun s e => some (step s e)) (Repeats interval) (OpOk interval) Inv

/-- What is to be shown of an event that is no timeout. -/
theorem decides_of_justified {e : KeyInputEvent} (he : e ≠ .timeout)
    (hiff : (s.step e).Justified ↔ OpOk interval s e)
    (hinterval : (s.step e).input.active = true → (s.step e).input.interval =
      if (s.step e).again then (s.step e).delay else (s.step e).rate) : Decides interval s e :=
  Run.decides_total ((and_iff_left fun h => absurd h he).trans hiff) fun hok => ⟨hiff.2 hok, hinterval⟩

theorem decides_enter (h : s.Inv) (surface : Option Nat) (keys : List UInt32) :
    Decides interval s (.enter surface keys) :=
  decides_of_justified nofun Iff.rfl h.interval_eq

theorem decides_leave (h : s.Inv) : Decides interval s .leave := by
  refine decides_of_justified nofun ?_ h.interval_eq
  show (s.input.active = true → s.input.repeatCode ∈ [] ∧ _) ↔ s.input.active = false
  simp

/-- A key that is not the one of the event stays held. -/
theorem mem_heldAfter_key {code key : UInt32} (hne : code ≠ key + 8) (hmem : code ∈ s.held)
    (press : Bool) (time : Nat) (xkb : XkbKey) :
    code ∈ heldAfter s.held (.key press time key xkb) := by
  cases press with
  | true => exact List.mem_cons_of_mem _ hmem
  | false => exact List.mem_filter.2 ⟨hmem, decide_eq_true hne⟩

theorem decides_key_of_no_keymap (h : s.Inv) (press : Bool) (time : Nat) (key : UInt32) (xkb : XkbKey)
    (hkeymap : xkb.keymap = false) : Decides interval s (.key press time key xkb) := by
  have hstep : s.step (.key press time key xkb) =
      { s with held := heldAfter s.held (.key press time key xkb) } := by
    simp [step, hkeymap, WaylandKeyInput.processKeyEvent_of_no_keymap]
  refine decides_of_justified nofun ?_ (hstep ▸ h.interval_eq)
  rw [hstep]
  cases press with
  | true =>
    refine iff_of_true (fun hactive => ?_)
      fun hnot => absurd (hkeymap.symm.trans hnot) Bool.false_ne_true
    exact ⟨List.mem_cons_of_mem _ (h.justified hactive).1, (h.justified hactive).2⟩
  | false =>
    constructor
    · intro hjustified _ hcode
      by_contra hactive
      have hmem := (hjustified (eq_true_of_ne_false hactive)).1
      exact of_decide_eq_true (List.mem_filter.1 hmem).2 hcode
    · intro hok hactive
      refine ⟨mem_heldAfter_key (fun hcode => ?_) (h.justified hactive).1 false time xkb,
        (h.justified hactive).2⟩
      exact Bool.false_ne_true ((hok hkeymap hcode).symm.trans hactive)

/-- The timer is set. -/
theorem decides_key_repeating (time : Nat) (key : UInt32) (xkb : XkbKey)
    (hkeymap : xkb.keymap = true) (hrepeats : xkb.keyRepeats = true) :
    Decides interval s (.key true time key xkb) := by
  obtain ⟨input, hinput, hactive, hcode, hinterval⟩ :=
    s.input.processKeyEvent_repeating s.keyboard time key hkeymap hrepeats
  have hstep : s.step (.key true time key xkb) =
      { s with input := input, held := (key + 8) :: s.held }.mark false := by
    simp [step, heldAfter, hkeymap, hrepeats, hinput]
  refine decides_of_justified nofun ?_ fun _ => by rw [hstep]; exact hinterval
  rw [hstep]
  simp [Justified, mark, OpOk, hactive, hcode, hkeymap, hrepeats]

theorem decides_key_other (h : s.Inv) (press : Bool) (time : Nat) (key : UInt32) (xkb : XkbKey)
    (hkeymap : xkb.keymap = true) (hother : (press && xkb.keyRepeats) = false) :
    Decides interval s (.key press time key xkb) := by
  obtain ⟨input, hinput, hcode, hinterval, hactive⟩ :=
    s.input.processKeyEvent_other s.keyboard time key hkeymap hother
  have hstep : s.step (.key press time key xkb) =
      { s with input := input, held := heldAfter s.held (.key press time key xkb) } := by
    simp [step, hother, hinput]
  -- a timer that is still active was so before, for another key
  have hbefore : input.active = true → s.input.active = true ∧ s.input.repeatCode ≠ key + 8 := by
    rw [hactive, Bool.and_eq_true, decide_eq_true_iff]
    exact id
  refine decides_of_justified nofun (iff_of_true ?_ ?_) ?_
  · rw [hstep]
    intro hafter
    obtain ⟨hactive, hne⟩ := hbefore hafter
    exact ⟨hcode ▸ mem_heldAfter_key hne (h.justified hactive).1 press time xkb,
      (h.justified hactive).2⟩
  · cases press with
    | true => exact fun _ hrepeats => absurd (hother.symm.trans hrepeats) Bool.false_ne_true
    | false => exact fun hnot => absurd (hnot.symm.trans hkeymap) Bool.false_ne_true
  · rw [hstep]
    exact fun hafter => hinterval.trans (h.interval_eq (hbefore hafter).1)

theorem decides_key (h : s.Inv) (press : Bool) (time : Nat) (key : UInt32) (xkb : XkbKey) :
    Decides interval s (.key press time key xkb) := by
  cases hkeymap : xkb.keymap with
  | false => exact decides_key_of_no_keymap h press time key xkb hkeymap
  | true =>
    cases hrepeating : press && xkb.keyRepeats with
    | true =>
      obtain ⟨rfl, hrepeats⟩ := Bool.and_eq_true_iff.1 hrepeating
      exact decides_key_repeating time key xkb hkeymap hrepeats
    | false => exact decides_key_other h press time key xkb hkeymap hrepeating

theorem focusSurface_repeatInfo (k : Client.Keyboard) (rate delay : Int) :
    (k.repeatInfo rate delay).focusSurface = k.focusSurface := by
  unfold Client.Keyboard.repeatInfo
  by_cases hrate : qint32 k.repeatRate ≠ rate
  · simp only [if_pos hrate]
    split <;> rfl
  · simp only [if_neg hrate]
    split <;> rfl

theorem decides_repeatInfo (h : s.Inv) (rate delay : Int) :
    Decides interval s (.repeatInfo rate delay) := by
  refine decides_of_justified nofun (iff_of_true (fun hactive => ?_) trivial) h.interval_eq
  show _ ∧ (s.keyboard.repeatInfo rate delay).focusSurface.isSome = true
  rw [focusSurface_repeatInfo]
  exact h.justified hactive

theorem decides_timeout (h : s.Inv) : Decides interval s .timeout := by
  cases hactive : s.input.active with
  | false =>
    have hstep : s.step .timeout = s := by simp [step, hactive]
    have hnot : ¬ s.input.active = true := Bool.eq_false_iff.1 hactive
    refine Run.decides_total
      (iff_of_true ⟨?_, fun _ hnow => absurd hnow hnot⟩ fun hnow => absurd hnow hnot)
      fun _ => hstep.symm ▸ h
    rw [hstep]
    exact h.justified
  | true =>
    have hstep : s.step .timeout = { s with input := s.input.timeout s.keyboard }.mark true := by
      simp [step, hactive]
    have hjustified : (s.step .timeout).Justified := by
      rw [hstep]
      exact fun _ => h.justified hactive
    refine Run.decides_total ((and_iff_right hjustified).trans ?_) fun _ => ⟨hjustified, ?_⟩
    · show (_ → _ → _ ∧ _) ↔ (_ → _ ∧ _)
      rw [h.interval_eq hactive, wait]
      cases s.again with
      | true => simp
      | false => simp
    · rw [hstep]
      exact fun _ => rfl

theorem decides (s : NestedKeys) (e : KeyInputEvent) (h : s.Inv) : Decides interval s e := by
  cases e with
  | enter surface keys => exact decides_enter h surface keys
  | leave => exact decides_leave h
  | key press time key xkb => exact decides_key h press time key xkb
  | modifiers modifiers depressed latched locked =>
    exact decides_of_justified nofun (iff_of_true h.justified trivial) h.interval_eq
  | repeatInfo rate delay => exact decides_repeatInfo h rate delay
  | timeout => exact decides_timeout h

/-! ## Runs -/

theorem inv_init : init.Inv := ⟨nofun, nofun⟩

/-- **Key repeat.**  Whatever interval a rate stands for, the timer does what it should
along a run if and only if no focus is lost while it is active, only keys of a focused
surface start to repeat, no release of the repeating key is lost for want of a keymap,
and each timeout finds a rate other than 0, with the rate equal to the delay at the
first repeat, and the delay equal to the interval at the others. -/
theorem repeats_iff (interval : Int → Int) (es : List KeyInputEvent) :
    Run.Along (fun s e => some (step s e)) (Repeats interval) init es ↔
      Run.Meets (fun s e => some (step s e)) (OpOk interval) init es :=
  Run.along_iff_of_decides decides es init inv_init

def keyA : XkbKey := ⟨true, 97, "a", 65, true⟩

/-- 40 characters a second after 400 ms: the first repeat comes after 40 ms. -/
theorem first_repeat_after_rate :
    ¬ Run.Along (fun s e => some (step s e)) (Repeats fun rate => 1000 / rate) init
      [.repeatInfo 40 400, .enter (some 1) [], .key true 10 30 keyA, .timeout] := by
  rintro ⟨s₁, hs₁, -, s₂, hs₂, -, s₃, hs₃, -, s₄, -, ⟨-, hwait⟩, -⟩
  obtain rfl := Option.some.inj hs₁
  obtain rfl := Option.some.inj hs₂
  obtain rfl := Option.some.inj hs₃
  have hwait := hwait rfl (by decide)
  revert hwait
  decide

/-- The focus goes while a key is held. -/
theorem active_without_focus :
    ¬ Run.Along (fun s e => some (step s e)) (Repeats fun rate => 1000 / rate) init
      [.enter (some 1) [], .key true 10 30 keyA, .leave] := by
  rintro ⟨s₁, hs₁, -, s₂, hs₂, -, s₃, hs₃, ⟨hjustified, -⟩, -⟩
  obtain rfl := Option.some.inj hs₁
  obtain rfl := Option.some.inj hs₂
  obtain rfl := Option.some.inj hs₃
  have hjustified := hjustified (by decide)
  revert hjustified
  decide

end NestedKeys

end GreenIsland.Platform

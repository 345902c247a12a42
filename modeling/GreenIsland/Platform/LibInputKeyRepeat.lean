import Mathlib.Data.List.Basic
import GreenIsland.Lib.History
import GreenIsland.Lib.Run

/-! Key repeat of the keyboards that libinput reads (`LibInputKeyboard`).

Each key event makes a press or a release for Qt.  The press of a key that repeats
starts a single-shot timer, whose timeout makes another press from what the handler
remembers and starts the timer again; every other key event stops the timer.

So the timer is active only after the press of a key that repeats and timeouts,
with nothing else in between: whatever keys are pressed and released in whatever
order, the key that is remembered is held while the timer is active, and every
repeat stands in the log of what was handed to Qt as `RepeatOk` says
(`repeats_right`).

What xkbcommon and Qt's tables answer is a parameter (`Xkb`). -/

namespace GreenIsland.Platform

/-! ## Model -/

def keyShift : Int := 0x01000020
def keyControl : Int := 0x01000021
def keyMeta : Int := 0x01000022
def keyAlt : Int := 0x01000023

def shiftModifier : UInt32 := 0x02000000
def controlModifier : UInt32 := 0x04000000
def altModifier : UInt32 := 0x08000000
def metaModifier : UInt32 := 0x10000000

/-- The entries of `modifiers`. -/
inductive ModifierIndex
  | ctrl
  | alt
  | shift
  | logo
deriving DecidableEq, Repr

/-- xkbcommon with a keymap, and the translation of its key symbols; `σ` are the
states of a keyboard. -/
structure Xkb (σ : Type) where
  stateKeyGetOneSym : σ → UInt32 → UInt32
  /-- all bytes of the text of a key -/
  stateKeyUtf8 : σ → UInt32 → List UInt8
  /-- whether the modifier is depressed or latched -/
  stateModIndexIsActive : σ → ModifierIndex → Bool
  stateUpdateKey : σ → UInt32 → Bool → σ
  keymapKeyRepeats : UInt32 → Bool
  /-- `QString::fromUtf8` -/
  fromUtf8 : List UInt8 → String
  /-- the key, and the modifiers with those of the key -/
  keysymToQtKey : UInt32 → UInt32 → String → Int × UInt32

structure LibInputKeyEvent where
  key : Int
  modifiers : UInt32
  nativeScanCode : UInt32
  nativeVirtualKey : UInt32
  nativeModifiers : UInt32
  text : String
  autoRepeat : Bool
  repeatCount : UInt16
deriving DecidableEq, Repr

inductive KeySignal
  | keyPressed (e : LibInputKeyEvent)
  | keyReleased (e : LibInputKeyEvent)
deriving DecidableEq, Repr

/-- `repeatData` -/
structure RepeatData where
  key : Int
  modifiers : UInt32
  nativeScanCode : UInt32
  nativeVirtualKey : UInt32
  nativeModifiers : UInt32
  text : String
  repeatCount : UInt16
deriving DecidableEq, Repr

/-- The event of a repeat. -/
def RepeatData.keyEvent (d : RepeatData) : LibInputKeyEvent where
  key := d.key
  modifiers := d.modifiers
  nativeScanCode := d.nativeScanCode
  nativeVirtualKey := d.nativeVirtualKey
  nativeModifiers := d.nativeModifiers
  text := d.text
  autoRepeat := true
  repeatCount := d.repeatCount

structure LibInputKeyboard (σ : Type) where
  /-- `none` if the context, the keymap or the state could not be made -/
  state : Option σ
  /-- whether `repeatTimer` is active -/
  active : Bool
  interval : UInt32
  repeatRate : UInt32
  repeatDelay : UInt32
  repeatData : RepeatData

namespace LibInputKeyboard

variable {σ : Type} (xkb : Xkb σ)

/-- `repeatData` is not initialised; `data` is what it happens to hold. -/
def init (state : Option σ) (data : RepeatData) : LibInputKeyboard σ where
  state := state
  active := false
  interval := 0
  repeatRate := 40
  repeatDelay := 400
  repeatData := data

def handleRepeat (k : LibInputKeyboard σ) : LibInputKeyboard σ × List KeySignal :=
  ({ k with
      repeatData := { k.repeatData with repeatCount := k.repeatData.repeatCount + 1 }
      interval := k.repeatRate
      active := true },
    [.keyPressed k.repeatData.keyEvent])

/-- `xkb_state_key_get_utf8` with a buffer: the size of the text, and what of it
fits in front of a NUL. -/
def keyGetUtf8 (state : σ) (key : UInt32) (bufferSize : Nat) : Nat × List UInt8 :=
  let bytes := xkb.stateKeyUtf8 state key
  (bytes.length, bytes.take (bufferSize - 1))

/-- The text of a key; the buffer is enlarged where it is too small. -/
def keyText (state : σ) (key : UInt32) : String :=
  let (size, chars) := keyGetUtf8 xkb state key 32
  let chars := if size + 1 > 32 then (keyGetUtf8 xkb state key (size + 1)).2 else chars
  xkb.fromUtf8 (chars.take size)

/-- The modifiers of a key event; a modifier key that is pressed does not count itself. -/
def keyModifiers (state : σ) (qtkey : Int) (isPressed : Bool) (modifiers : UInt32) : UInt32 :=
  let modifiers :=
    if xkb.stateModIndexIsActive state .ctrl ∧ (qtkey ≠ keyControl ∨ !isPressed) then
      modifiers ||| controlModifier
    else modifiers
  let modifiers :=
    if xkb.stateModIndexIsActive state .alt ∧ (qtkey ≠ keyAlt ∨ !isPressed) then
      modifiers ||| altModifier
    else modifiers
  let modifiers :=
    if xkb.stateModIndexIsActive state .shift ∧ (qtkey ≠ keyShift ∨ !isPressed) then
      modifiers ||| shiftModifier
    else modifiers
  if xkb.stateModIndexIsActive state .logo ∧ (qtkey ≠ keyMeta ∨ !isPressed) then
    modifiers ||| metaModifier
  else modifiers

/-- What Qt is told of a key event. -/
def keyEventOf (state : σ) (key : UInt32) (isPressed : Bool) : LibInputKeyEvent :=
  let keysym := xkb.stateKeyGetOneSym state key
  let text := keyText xkb state key
  let (qtkey, modifiers) := xkb.keysymToQtKey keysym 0 text
  let modifiers := keyModifiers xkb state qtkey isPressed modifiers
  { key := qtkey
    modifiers := modifiers
    nativeScanCode := key
    nativeVirtualKey := keysym
    nativeModifiers := modifiers
    text := text
    autoRepeat := false
    repeatCount := 1 }

/-- `code` is the key of the kernel. -/
def handleKey (k : LibInputKeyboard σ) (code : UInt32) (isPressed : Bool) :
    LibInputKeyboard σ × List KeySignal :=
  match k.state with
  | none => (k, [])
  | some state =>
    let key := code + 8
    let keyEvent := keyEventOf xkb state key isPressed
    let k := { k with state := some (xkb.stateUpdateKey state key isPressed) }
    let signals := if isPressed then [KeySignal.keyPressed keyEvent] else [.keyReleased keyEvent]
    if isPressed && xkb.keymapKeyRepeats key then
      ({ k with
          repeatData :=
            { key := keyEvent.key
              modifiers := keyEvent.modifiers
              nativeScanCode := key
              nativeVirtualKey := keyEvent.nativeVirtualKey
              nativeModifiers := keyEvent.modifiers
              text := keyEvent.text
              repeatCount := 1 }
          interval := k.repeatDelay
          active := true },
        signals)
    else if k.active then ({ k with active := false }, signals)
    else (k, signals)

end LibInputKeyboard

/-! ## Runs -/

inductive KeyboardInput
  | key (code : UInt32) (isPressed : Bool)
  | timeout
deriving DecidableEq, Repr

/-- The keyboard, the keys that are held, and what was handed to Qt. -/
structure RepeatingKeys (σ : Type) where
  keyboard : LibInputKeyboard σ
  held : List UInt32
  log : List KeySignal

namespace RepeatingKeys

variable {σ : Type} (xkb : Xkb σ)

def init (state : Option σ) (data : RepeatData) : RepeatingKeys σ :=
  ⟨LibInputKeyboard.init state data, [], []⟩

/-- Two keyboards may have the same key pressed. -/
def heldAfter (held : List UInt32) (code : UInt32) : Bool → List UInt32
  | true => (code + 8) :: held
  | false => held.erase (code + 8)

/-- A timer that is not active does not time out. -/
def step (s : RepeatingKeys σ) : KeyboardInput → RepeatingKeys σ
  | .key code isPressed =>
    let (keyboard, signals) := s.keyboard.handleKey xkb code isPressed
    { keyboard := keyboard, held := heldAfter s.held code isPressed, log := s.log ++ signals }
  | .timeout =>
    if s.keyboard.active then
      let (keyboard, signals) := { s.keyboard with active := false }.handleRepeat
      { s with keyboard := keyboard, log := s.log ++ signals }
    else s

/-- A repeat of a press. -/
def IsRepeat : KeySignal → Prop
  | .keyPressed e => e.autoRepeat = true
  | .keyReleased _ => False

/-- The log ends with a press and its repeats, `since`. -/
structure EndsWith (log : List KeySignal) (press : LibInputKeyEvent) (since : List KeySignal) :
    Prop where
  split : ∃ earlier, log = earlier ++ .keyPressed press :: since
  press : press.autoRepeat = false
  repeats : ∀ signal ∈ since, IsRepeat signal

/-- **What a repeat owes to the log.**  It follows a press and the repeats of that
press, with no other press and no release of any key in between; it is that press
again, and its count says the how many-th repeat it is. -/
def RepeatOk (log : List KeySignal) : KeySignal → Prop
  | .keyPressed e =>
    e.autoRepeat = true →
      ∃ press since, EndsWith log press since ∧
        e = { press with autoRepeat := true, repeatCount := UInt16.ofNat (since.length + 1) }
  | .keyReleased _ => True

/-- What is to hold in every state. -/
structure RepeatsRight (s : RepeatingKeys σ) : Prop where
  held : s.keyboard.active = true → s.keyboard.repeatData.nativeScanCode ∈ s.held
  repeating : s.keyboard.active = true →
    xkb.keymapKeyRepeats s.keyboard.repeatData.nativeScanCode = true
  log : History.Each RepeatOk s.log

/-! ## The timer -/

variable {xkb} {s : RepeatingKeys σ}

/-- While the timer is active, the log ends with the press of the key that is
remembered and its repeats, and the next repeat is due. -/
structure Inv (xkb : Xkb σ) (s : RepeatingKeys σ) : Prop where
  log : History.Each RepeatOk s.log
  made : s.keyboard.active = true → s.keyboard.state ≠ none
  held : s.keyboard.active = true → s.keyboard.repeatData.nativeScanCode ∈ s.held
  repeating : s.keyboard.active = true →
    xkb.keymapKeyRepeats s.keyboard.repeatData.nativeScanCode = true
  due : s.keyboard.active = true → ∃ press since, EndsWith s.log press since ∧
    s.keyboard.repeatData.keyEvent =
      { press with autoRepeat := true, repeatCount := UInt16.ofNat (since.length + 1) }

theorem inv_init (state : Option σ) (data : RepeatData) : Inv xkb (init state data) where
  log := History.each_nil
  made h := by cases h
  held h := by cases h
  repeating h := by cases h
  due h := by cases h

theorem endsWith_press (log : List KeySignal) {press : LibInputKeyEvent}
    (h : press.autoRepeat = false) : EndsWith (log ++ [.keyPressed press]) press [] :=
  ⟨⟨log, rfl⟩, h, fun _ hmem => by cases hmem⟩

/-- One more repeat. -/
theorem EndsWith.concat {log since : List KeySignal} {press : LibInputKeyEvent}
    (h : EndsWith log press since) {e : LibInputKeyEvent} (he : e.autoRepeat = true) :
    EndsWith (log ++ [.keyPressed e]) press (since ++ [.keyPressed e]) := by
  obtain ⟨earlier, hsplit⟩ := h.split
  refine ⟨⟨earlier, ?_⟩, h.press, List.forall_mem_append.2 ⟨h.repeats, ?_⟩⟩
  · rw [hsplit, List.append_assoc, List.cons_append]
  · exact List.forall_mem_singleton.2 he

/-- Without a keymap nothing happens. -/
theorem handleKey_none {k : LibInputKeyboard σ} (h : k.state = none) (code : UInt32)
    (isPressed : Bool) : k.handleKey xkb code isPressed = (k, []) := by
  unfold LibInputKeyboard.handleKey
  rw [h]

section
variable (xkb) {k : LibInputKeyboard σ} {state : σ} (h : k.state = some state) (code : UInt32)
  (isPressed : Bool)

include h

theorem handleKey_signals : (k.handleKey xkb code isPressed).2 =
    if isPressed then [.keyPressed (LibInputKeyboard.keyEventOf xkb state (code + 8) isPressed)]
    else [.keyReleased (LibInputKeyboard.keyEventOf xkb state (code + 8) isPressed)] := by
  unfold LibInputKeyboard.handleKey
  rw [h]
  dsimp only
  split
  · rfl
  · split
    · rfl
    · rfl

/-- **The timer after a key event.**  It is active exactly if a key that repeats was
pressed. -/
theorem handleKey_active : (k.handleKey xkb code isPressed).1.active =
    (isPressed && xkb.keymapKeyRepeats (code + 8)) := by
  unfold LibInputKeyboard.handleKey
  rw [h]
  dsimp only
  split
  · next hrepeats => exact hrepeats.symm
  · next hrepeats =>
    rw [Bool.not_eq_true] at hrepeats
    rw [hrepeats]
    split
    · rfl
    · next hactive => exact Bool.not_eq_true _ ▸ hactive

theorem handleKey_state : (k.handleKey xkb code isPressed).1.state ≠ none := by
  unfold LibInputKeyboard.handleKey
  rw [h]
  dsimp only
  split
  · exact Option.some_ne_none _
  · split
    · exact Option.some_ne_none _
    · exact Option.some_ne_none _

/-- What is remembered then. -/
theorem handleKey_repeatData (hrepeats : (isPressed && xkb.keymapKeyRepeats (code + 8)) = true) :
    (k.handleKey xkb code isPressed).1.repeatData.nativeScanCode = code + 8 ∧
    (k.handleKey xkb code isPressed).1.repeatData.keyEvent =
      { LibInputKeyboard.keyEventOf xkb state (code + 8) isPressed with
        autoRepeat := true, repeatCount := 1 } := by
  unfold LibInputKeyboard.handleKey
  rw [h]
  dsimp only
  rw [if_pos hrepeats]
  exact ⟨rfl, rfl⟩

end

/-- A key event, of whatever key and in whatever state of the timer. -/
theorem Inv.key (hinv : Inv xkb s) (code : UInt32) (isPressed : Bool) :
    Inv xkb (s.step xkb (.key code isPressed)) := by
  cases hstate : s.keyboard.state with
  | none =>
    have hinactive : ¬ s.keyboard.active = true := fun h => hinv.made h hstate
    dsimp only [step]
    rw [handleKey_none hstate, List.append_nil]
    exact ⟨hinv.log, fun h => absurd h hinactive, fun h => absurd h hinactive,
      fun h => absurd h hinactive, fun h => absurd h hinactive⟩
  | some state =>
    have hsignals := handleKey_signals xkb hstate code isPressed
    have hactive := handleKey_active xkb hstate code isPressed
    have hdata := handleKey_repeatData xkb hstate code isPressed
    refine ⟨?_, fun _ => handleKey_state xkb hstate code isPressed, ?_, ?_, ?_⟩
    · show History.Each RepeatOk (s.log ++ (s.keyboard.handleKey xkb code isPressed).2)
      rw [hsignals]
      cases isPressed with
      | false => exact History.each_concat.2 ⟨hinv.log, trivial⟩
      | true => exact History.each_concat.2 ⟨hinv.log, fun h => by cases h⟩
    · intro h
      have hrepeats := hactive.symm.trans h
      obtain ⟨rfl, -⟩ := Bool.and_eq_true_iff.1 hrepeats
      show (s.keyboard.handleKey xkb code true).1.repeatData.nativeScanCode ∈ (code + 8) :: s.held
      rw [(hdata hrepeats).1]
      exact List.mem_cons_self
    · intro h
      have hrepeats := hactive.symm.trans h
      show xkb.keymapKeyRepeats
        (s.keyboard.handleKey xkb code isPressed).1.repeatData.nativeScanCode = true
      rw [(hdata hrepeats).1]
      exact (Bool.and_eq_true_iff.1 hrepeats).2
    · intro h
      have hrepeats := hactive.symm.trans h
      obtain ⟨rfl, -⟩ := Bool.and_eq_true_iff.1 hrepeats
      refine ⟨_, [], ?_, (hdata hrepeats).2⟩
      show EndsWith (s.log ++ (s.keyboard.handleKey xkb code true).2) _ []
      rw [hsignals]
      exact endsWith_press s.log rfl

/-- A timeout is the next repeat of the press at the end of the log. -/
theorem Inv.timeout (hinv : Inv xkb s) : Inv xkb (s.step xkb .timeout) := by
  dsimp only [step]
  split
  · next hactive =>
    obtain ⟨press, since, hends, hevent⟩ := hinv.due hactive
    refine ⟨?_, fun _ => hinv.made hactive, fun _ => hinv.held hactive,
      fun _ => hinv.repeating hactive, fun _ => ⟨press, _, hends.concat rfl, ?_⟩⟩
    · exact History.each_concat.2 ⟨hinv.log, fun _ => ⟨press, since, hends, hevent⟩⟩
    · have hnext : ({ s.keyboard.repeatData with
          repeatCount := s.keyboard.repeatData.repeatCount + 1 } : RepeatData).keyEvent =
          { s.keyboard.repeatData.keyEvent with
            repeatCount := s.keyboard.repeatData.keyEvent.repeatCount + 1 } := rfl
      refine hnext.trans ?_
      rw [hevent, List.length_append, List.length_singleton, UInt16.ofNat_add (since.length + 1)]
      rfl
  · exact hinv

theorem Inv.step (hinv : Inv xkb s) (input : KeyboardInput) : Inv xkb (s.step xkb input) := by
  cases input with
  | key code isPressed => exact hinv.key code isPressed
  | timeout => exact hinv.timeout

/-- **Keys are repeated right.**  For all presses and releases of keys and all timeouts,
in whatever order. -/
theorem repeats_right (xkb : Xkb σ) (state : Option σ) (data : RepeatData)
    (inputs : List KeyboardInput) :
    Run.Always (fun s input => some (step xkb s input)) (RepeatsRight xkb) (init state data) inputs :=
  Run.always_of_inv (I := Inv xkb) (fun s input h => ⟨s.step xkb input, rfl, h.step input⟩)
    (fun _ h => ⟨h.held, h.repeating, h.log⟩) inputs (init state data) (inv_init state data)

end RepeatingKeys

end GreenIsland.Platform

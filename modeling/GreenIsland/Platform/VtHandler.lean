import Mathlib.Order.Basic
import GreenIsland.Lib.Run

/-! The virtual terminal of the session (`VtHandler`), and its keyboard.

`setup` opens the terminal, silences its keyboard (`toggleKeyboard(false)`: it is
muted, or its mode set to `K_OFF`), sets graphics mode and installs a handler for
signals; when one of these fails, what was done is undone.  A suspension and the
destructor restore the keyboard (`toggleKeyboard(true)`), a resumption silences it
again.  Any of the calls to the kernel may fail.

The mode to restore is read whenever the keyboard is silenced.  So it is kept by a
resumption only if it is read again then, in a terminal that has it: after a
`K_OFF`, or a failed read, it is replaced by `K_UNICODE`.  Where the terminal cannot
be silenced, a resumption closes it with the notifier whose slot it runs in.  The
destructor deletes a notifier that is gone: it is a child of the handler, and those
are deleted before.  Then the process ends or goes on, which the run tells.
`keyboard_kept_iff` says exactly in which runs the keyboard is restored and the
mode to restore is kept.

In the kernel a keyboard has a mode and is muted or not.  The cursor is left out:
`toggleTtyCursor` closes the descriptors that it opens. -/

namespace GreenIsland.Platform

/-! ## Model -/

/-- The keyboard modes of `linux/kd.h`. -/
inductive KbMode
  | raw
  | xlate
  | mediumraw
  | unicode
  | off
deriving DecidableEq

/-- The state of the terminal in the kernel. -/
structure Terminal where
  kbMode : KbMode
  muted : Bool
  /-- `KD_GRAPHICS` rather than `KD_TEXT` -/
  graphics : Bool
deriving DecidableEq

/-- What `toggleKeyboard(false)` finds: the environment variable
`GREENISLAND_QPA_ENABLE_TERMINAL_KEYBOARD`, and which of its calls succeed. -/
structure Silencing where
  terminalKeyboard : Bool
  /-- `KDGKBMODE` -/
  read : Bool
  /-- `KDSKBMUTE` -/
  mute : Bool
  /-- `KDSKBMODE` with `K_OFF` -/
  off : Bool
deriving DecidableEq

/-- Which calls of `toggleKeyboard(true)` succeed. -/
structure Restoring where
  /-- `KDSKBMUTE` -/
  unmute : Bool
  /-- `KDSKBMODE` -/
  restore : Bool
deriving DecidableEq

/-- A call of `setup`, with the answers that it gets. -/
structure Setup where
  nr : Int
  open_ : Option Nat
  isValidVt : Bool
  silencing : Silencing
  /-- `KDSETMODE` with `KD_GRAPHICS` -/
  graphics : Bool
  socketpair : Option (Nat × Nat)
  /-- `KDSETMODE` with `KD_TEXT` -/
  text : Bool
  restoring : Restoring
deriving DecidableEq

structure VtHandler where
  /-- `none` is `-1` -/
  vtFd : Option Nat
  vtNumber : Int
  /-- the mode to restore -/
  kbMode : KbMode
  /-- `notifier` is not a null pointer -/
  notifier : Bool
  signalFd : Int × Int
  active : Bool
  terminal : Terminal
  /-- the descriptors that were opened, and those that were closed -/
  opened : List Int
  closed : List Int
  /-- the handler was destroyed, or its process has ended -/
  gone : Bool
deriving DecidableEq

/-- The mode is read; one that cannot be read, or is off, is taken for `K_UNICODE`. -/
def Silencing.kbMode (a : Silencing) (mode : KbMode) : KbMode :=
  if a.read = false then .unicode else if mode = .off then .unicode else mode

/-- The keyboard can be silenced neither way. -/
def Silencing.fails (a : Silencing) : Bool := !a.terminalKeyboard && !a.mute && !a.off

def Terminal.silence (t : Terminal) (a : Silencing) : Terminal :=
  if a.terminalKeyboard then t
  else if a.mute then { t with muted := true }
  else if a.off then { t with kbMode := .off }
  else t

def Terminal.restore (t : Terminal) (kbMode : KbMode) (r : Restoring) : Terminal :=
  { t with
    muted := if r.unmute then false else t.muted
    kbMode := if r.restore then kbMode else t.kbMode }

namespace VtHandler

/-- `kbMode` is what the terminal has; `signalFd` is not initialised. -/
def init (kbMode : KbMode) (signalFd : Int × Int) : VtHandler where
  vtFd := none
  vtNumber := 0
  kbMode := .off
  notifier := false
  signalFd := signalFd
  active := false
  terminal := ⟨kbMode, false, false⟩
  opened := []
  closed := []
  gone := false

def close (s : VtHandler) (fd : Int) : VtHandler := { s with closed := s.closed ++ [fd] }

def closeSignalFd (s : VtHandler) : VtHandler := (s.close s.signalFd.1).close s.signalFd.2

def closeFd (s : VtHandler) : VtHandler :=
  match s.vtFd with
  | none => s
  | some fd =>
    let s := if s.notifier then ({ s with notifier := false }).closeSignalFd else s
    { s.close fd with vtFd := none }

/-- `toggleKeyboard(true)` -/
def enableKeyboard (s : VtHandler) (r : Restoring) : VtHandler :=
  match s.vtFd with
  | none => s
  | some _ => { s with terminal := s.terminal.restore s.kbMode r }

/-- `toggleKeyboard(false)` -/
def disableKeyboard (s : VtHandler) (a : Silencing) : VtHandler :=
  match s.vtFd with
  | none => s
  | some _ =>
    let s := { s with
      kbMode := a.kbMode s.terminal.kbMode
      terminal := s.terminal.silence a }
    if a.fails then s.closeFd else s

/-- Whether there is a socket pair or not, it answers that all went well. -/
def installSignalHandler (s : VtHandler) (socketpair : Option (Nat × Nat)) : VtHandler × Bool :=
  let s := match socketpair with
    | some (a, b) => { s with signalFd := (a, b), opened := s.opened ++ [(a : Int), (b : Int)] }
    | none => s
  ({ s with notifier := true }, true)

def setup (s : VtHandler) (k : Setup) : VtHandler :=
  if s.vtFd ≠ none then s
  else if k.nr < 0 then s
  else
    match k.open_ with
    | none => s
    | some fd =>
      let s := { s with vtFd := some fd, opened := s.opened ++ [(fd : Int)] }
      if k.isValidVt = false then s.closeFd
      else
        let s := s.disableKeyboard k.silencing
        -- the terminal may be closed by now, and the call refused for that
        if s.vtFd = none ∨ k.graphics = false then (s.enableKeyboard k.restoring).closeFd
        else
          let s := { s with terminal := { s.terminal with graphics := true } }
          match s.installSignalHandler k.socketpair with
          | (s, false) =>
            let s := { s with terminal := { s.terminal with graphics := !k.text } }
            (s.enableKeyboard k.restoring).closeFd
          | (s, true) => { s with vtNumber := k.nr, active := true }

inductive SigNo
  | interrupt (r : Restoring)
  | suspend (r : Restoring)
  | resume (a : Silencing)

/-- The slot of the notifier; it ends with a look at the notifier, which may be a
null pointer by then. -/
def activated (s : VtHandler) (sigNo : SigNo) : Option VtHandler :=
  match s.vtFd with
  | none => some s
  | some _ =>
    match sigNo with
    | .interrupt r => some { s.enableKeyboard r with gone := true }
    | .suspend r =>
      let s := s.enableKeyboard r
      if s.notifier then some s else none
    | .resume a =>
      let s := s.disableKeyboard a
      if s.notifier then some s else none

/-- `~VtHandlerPrivate` -/
def destroy (s : VtHandler) (r : Restoring) : VtHandler :=
  let s := s.enableKeyboard r
  let s := if s.notifier then s.closeSignalFd else s
  { s.closeFd with gone := true }

inductive VtOp
  | setup (k : Setup)
  | signal (sigNo : SigNo)
  /-- the process survives that a notifier is deleted twice, or does not -/
  | destroy (r : Restoring) (survives : Bool)

/-- A signal comes through the notifier. -/
def step (s : VtHandler) (op : VtOp) : Option VtHandler :=
  if s.gone then some s
  else
    match op with
    | .setup k => some (s.setup k)
    | .signal sigNo => if s.notifier then s.activated sigNo else some s
    | .destroy r survives =>
      -- the notifier was deleted with the children of the handler
      if s.notifier = true ∧ survives = false then none else some (s.destroy r)

/-! ## What a setup does -/

/-- The terminal cannot be had: it is there, or there is none. -/
def Refused (s : VtHandler) (k : Setup) : Prop := s.vtFd ≠ none ∨ k.nr < 0 ∨ k.open_ = none

instance (s : VtHandler) (k : Setup) : Decidable (s.Refused k) :=
  inferInstanceAs (Decidable (_ ∨ _ ∨ _))

/-- The results of a setup, by the step that failed. -/
inductive SetupTo (s : VtHandler) (k : Setup) : VtHandler → Prop
  | refused (h : s.Refused k) : SetupTo s k s
  | invalid (fd : Nat) (h : ¬ s.Refused k) (hfd : k.open_ = some fd) (hvt : k.isValidVt = false) :
    SetupTo s k { s with opened := s.opened ++ [(fd : Int)], closed := s.closed ++ [(fd : Int)] }
  | unsilenced (fd : Nat) (h : ¬ s.Refused k) (hfd : k.open_ = some fd) (hvt : k.isValidVt = true)
    (hfails : k.silencing.fails = true) :
    SetupTo s k { s with
      opened := s.opened ++ [(fd : Int)]
      closed := s.closed ++ [(fd : Int)]
      kbMode := k.silencing.kbMode s.terminal.kbMode }
  | text (fd : Nat) (h : ¬ s.Refused k) (hfd : k.open_ = some fd) (hvt : k.isValidVt = true)
    (hfails : k.silencing.fails = false) (hgraphics : k.graphics = false) :
    SetupTo s k { s with
      opened := s.opened ++ [(fd : Int)]
      closed := s.closed ++ [(fd : Int)]
      kbMode := k.silencing.kbMode s.terminal.kbMode
      terminal := (s.terminal.silence k.silencing).restore
        (k.silencing.kbMode s.terminal.kbMode) k.restoring }
  | taken (fd : Nat) (s' : VtHandler) (h : ¬ s.Refused k) (hfd : k.open_ = some fd)
    (hvt : k.isValidVt = true) (hfails : k.silencing.fails = false) (hgraphics : k.graphics = true)
    (hs' : s' = { s with
      vtFd := some fd
      opened := s.opened ++ [(fd : Int)]
      kbMode := k.silencing.kbMode s.terminal.kbMode
      terminal := { s.terminal.silence k.silencing with graphics := true } }) :
    SetupTo s k { (s'.installSignalHandler k.socketpair).1 with vtNumber := k.nr, active := true }

theorem silence_of_fails {t : Terminal} {a : Silencing} (h : a.fails = true) : t.silence a = t := by
  unfold Silencing.fails at h
  simp only [Bool.and_eq_true, Bool.not_eq_true'] at h
  simp [Terminal.silence, h.1.1, h.1.2, h.2]

theorem setupTo {s : VtHandler} (hnotifier : s.vtFd = none → s.notifier = false) (k : Setup) :
    SetupTo s k (s.setup k) := by
  unfold setup
  split
  · next h => exact .refused (Or.inl h)
  next hvt =>
  have hnone : s.vtFd = none := not_not.1 hvt
  have hfalse := hnotifier hnone
  split
  · next h => exact .refused (Or.inr (Or.inl h))
  next hnr =>
  split
  · next h => exact .refused (Or.inr (Or.inr h))
  next fd hfd =>
  have h : ¬ s.Refused k := by
    rintro (h | h | h)
    · exact hvt h
    · exact hnr h
    · rw [hfd] at h
      cases h
  dsimp only
  split
  · next hinvalid =>
    convert SetupTo.invalid fd h hfd hinvalid using 1
    simp [closeFd, close, hfalse, hnone]
  next hvalid =>
  have hvalid : k.isValidVt = true := by simpa using hvalid
  by_cases hfails : k.silencing.fails = true
  · convert SetupTo.unsilenced fd h hfd hvalid hfails using 1
    simp [disableKeyboard, enableKeyboard, closeFd, close, hfails, hfalse, silence_of_fails hfails,
      hnone]
  · have hfails : k.silencing.fails = false := by simpa using hfails
    simp only [disableKeyboard, hfails]
    by_cases hgraphics : k.graphics = true
    · convert SetupTo.taken fd _ h hfd hvalid hfails hgraphics rfl using 1
      simp [hgraphics, installSignalHandler]
    · have hgraphics : k.graphics = false := by simpa using hgraphics
      convert SetupTo.text fd h hfd hvalid hfails hgraphics using 1
      simp [hgraphics, enableKeyboard, closeFd, close, hfalse, hnone]

/-! ## What the other operations do -/

theorem destroy_of_none {s : VtHandler} (hvt : s.vtFd = none) (hnotifier : s.notifier = false)
    (r : Restoring) : s.destroy r = { s with gone := true } := by
  simp [destroy, enableKeyboard, closeFd, hvt, hnotifier]

/-- The descriptors of the socket pair are closed, and once more with the terminal. -/
theorem destroy_of_some {s : VtHandler} {fd : Nat} (hvt : s.vtFd = some fd)
    (hnotifier : s.notifier = true) (r : Restoring) :
    s.destroy r = { s with
      vtFd := none
      notifier := false
      terminal := s.terminal.restore s.kbMode r
      closed := s.closed ++ [s.signalFd.1, s.signalFd.2, s.signalFd.1, s.signalFd.2, (fd : Int)]
      gone := true } := by
  simp [destroy, enableKeyboard, closeFd, closeSignalFd, close, hvt, hnotifier]

/-- The results of a signal; a resumption that fails ends in the null pointer. -/
inductive SignalTo (s : VtHandler) : SigNo → Option VtHandler → Prop
  | ignored (sigNo : SigNo) (hvt : s.vtFd = none) : SignalTo s sigNo (some s)
  | interrupt (r : Restoring) (hvt : s.vtFd ≠ none) :
    SignalTo s (.interrupt r)
      (some { s with terminal := s.terminal.restore s.kbMode r, gone := true })
  | suspend (r : Restoring) (hvt : s.vtFd ≠ none) :
    SignalTo s (.suspend r) (some { s with terminal := s.terminal.restore s.kbMode r })
  | crash (a : Silencing) (hvt : s.vtFd ≠ none) (hfails : a.fails = true) :
    SignalTo s (.resume a) none
  | resume (a : Silencing) (hvt : s.vtFd ≠ none) (hfails : a.fails = false) :
    SignalTo s (.resume a) (some { s with
      kbMode := a.kbMode s.terminal.kbMode
      terminal := s.terminal.silence a })

theorem signalTo {s : VtHandler} (hgone : s.gone = false) (hnotifier : s.notifier = s.vtFd.isSome)
    (sigNo : SigNo) : SignalTo s sigNo (step s (.signal sigNo)) := by
  cases hvt : s.vtFd with
  | none =>
    rw [hvt, Option.isSome_none] at hnotifier
    convert SignalTo.ignored sigNo hvt using 1
    simp [step, hgone, hnotifier]
  | some fd =>
    rw [hvt, Option.isSome_some] at hnotifier
    have hne : s.vtFd ≠ none := by rw [hvt]; exact Option.some_ne_none fd
    have hstep : step s (.signal sigNo) = s.activated sigNo := by simp [step, hgone, hnotifier]
    rw [hstep]
    cases sigNo with
    | interrupt r =>
      convert SignalTo.interrupt r hne using 1
      simp [activated, enableKeyboard, hvt]
    | suspend r =>
      convert SignalTo.suspend r hne using 1
      simp [activated, enableKeyboard, hvt, hnotifier]
    | resume a =>
      by_cases hfails : a.fails = true
      · convert SignalTo.crash a hne hfails using 1
        simp [activated, disableKeyboard, closeFd, closeSignalFd, close, hfails, hvt, hnotifier]
      · have hfails : a.fails = false := by simpa using hfails
        convert SignalTo.resume a hne hfails using 1
        simp [activated, disableKeyboard, hfails, hvt, hnotifier]

end VtHandler

/-! ## The keyboard -/

/-- The keyboard is as it was before, in the mode `before` and not muted. -/
def Terminal.Restored (before : KbMode) (t : Terminal) : Prop := t.kbMode = before ∧ t.muted = false

/-- After `toggleKeyboard(true)` the keyboard is as it was before, if the mode to restore
is that of before, or cannot be set and need not be, and a muted one can be unmuted. -/
theorem restored_restore_iff {before kbMode : KbMode} {t : Terminal} {r : Restoring} :
    (t.restore kbMode r).Restored before ↔
      (r.restore = true → kbMode = before) ∧ (r.restore = false → t.kbMode = before) ∧
        (t.muted = true → r.unmute = true) := by
  unfold Terminal.Restored Terminal.restore
  dsimp only
  cases r.restore <;> cases r.unmute <;> simp

/-- The mode that is remembered is the one there was, if it was read and is none that
counts as unknown. -/
theorem kbMode_eq_iff {a : Silencing} {mode kbMode : KbMode} :
    a.kbMode mode = kbMode ↔
      (a.read = true → mode ≠ .off → mode = kbMode) ∧
        (a.read = false ∨ mode = .off → kbMode = .unicode) := by
  unfold Silencing.kbMode
  by_cases hread : a.read = false
  · rw [if_pos hread]
    simp [hread, eq_comm]
  · rw [if_neg hread]
    by_cases hoff : mode = .off
    · rw [if_pos hoff]
      simp [hread, hoff, eq_comm]
    · rw [if_neg hoff]
      simp [hread, hoff]

theorem fails_eq_false_iff {a : Silencing} :
    a.fails = false ↔ a.terminalKeyboard = true ∨ a.mute = true ∨ a.off = true := by
  unfold Silencing.fails
  cases a.terminalKeyboard <;> cases a.mute <;> cases a.off <;> simp

/-- A keyboard that was silenced is muted, or has lost its mode. -/
theorem silence_restored {before : KbMode} {t : Terminal} (h : t.Restored before) {a : Silencing}
    (hfails : a.fails = false) :
    ((t.silence a).kbMode = before ↔
        before = .off ∨ a.terminalKeyboard = true ∨ a.mute = true) ∧
      ((t.silence a).muted = true ↔ a.terminalKeyboard = false ∧ a.mute = true) := by
  obtain ⟨rfl, hmuted⟩ := h
  unfold Terminal.silence
  rw [fails_eq_false_iff] at hfails
  by_cases hkeyboard : a.terminalKeyboard = true
  · simp [hkeyboard, hmuted]
  · rw [if_neg hkeyboard]
    by_cases hmute : a.mute = true
    · simp [hkeyboard, hmute]
    · have hoff : a.off = true := by simpa [hkeyboard, hmute] using hfails
      simp [hkeyboard, hmute, hoff, hmuted, eq_comm]

namespace VtHandler

/-- What is owed by a step: without a terminal of its own the handler has left the
keyboard as it was, and being suspended and resumed does not change the mode to
restore. -/
def Kept (before : KbMode) (s : VtHandler) (op : VtOp) (s' : VtHandler) : Prop :=
  (s'.vtFd = none → s'.terminal.Restored before) ∧
    match op with
    | .signal (.suspend _) | .signal (.resume _) => s'.kbMode = s.kbMode
    | _ => True

/-- A setup that gets as far as graphics mode and is refused it: what it undoes. -/
structure RefusalOk (before : KbMode) (a : Silencing) (r : Restoring) : Prop where
  restored : r.restore = true → (a.read = true ∧ before ≠ .off) ∨ before = .unicode
  unrestored : r.restore = false →
    before = .off ∨ a.terminalKeyboard = true ∨ a.mute = true
  unmuted : a.terminalKeyboard = false → a.mute = true → r.unmute = true

/-- A resumption of a handler with a terminal. -/
structure ResumeOk (s : VtHandler) (a : Silencing) : Prop where
  silenced : a.terminalKeyboard = true ∨ a.mute = true ∨ a.off = true
  read : a.read = true → s.terminal.kbMode ≠ .off → s.terminal.kbMode = s.kbMode
  unread : a.read = false ∨ s.terminal.kbMode = .off → s.kbMode = .unicode

/-- The end of a handler with a terminal. -/
structure DestroyOk (before : KbMode) (s : VtHandler) (r : Restoring) (survives : Bool) : Prop where
  survives : survives = true
  restored : r.restore = true → s.kbMode = before
  unrestored : r.restore = false → s.terminal.kbMode = before
  unmuted : s.terminal.muted = true → r.unmute = true

/-- **The steps that do so.** -/
def KeyboardOk (before : KbMode) (s : VtHandler) (op : VtOp) : Prop :=
  s.gone = false →
    match op with
    | .setup k => ¬ s.Refused k → k.isValidVt = true →
        (k.silencing.terminalKeyboard = true ∨ k.silencing.mute = true ∨ k.silencing.off = true) →
          k.graphics = false → RefusalOk before k.silencing k.restoring
    | .signal (.resume a) => s.vtFd ≠ none → s.ResumeOk a
    | .signal _ => True
    | .destroy r survives => s.vtFd ≠ none → DestroyOk before s r survives

structure KeyboardInv (before : KbMode) (s : VtHandler) : Prop where
  notifier : s.notifier = s.vtFd.isSome
  released : s.vtFd = none → s.terminal.Restored before

theorem keyboardInv_init (before : KbMode) (signalFd : Int × Int) :
    KeyboardInv before (init before signalFd) := ⟨rfl, fun _ => ⟨rfl, rfl⟩⟩

section
variable {before : KbMode} {s s' : VtHandler}

theorem KeyboardInv.notifier_of_none (h : KeyboardInv before s) (hvt : s.vtFd = none) :
    s.notifier = false := by rw [h.notifier, hvt]; rfl

theorem KeyboardInv.notifier_of_some (h : KeyboardInv before s) {fd : Nat} (hvt : s.vtFd = some fd) :
    s.notifier = true := by rw [h.notifier, hvt]; rfl

/-- The keyboard is restored after a refusal under its condition. -/
theorem refusalOk_iff {t : Terminal} (h : t.Restored before) {a : Silencing}
    (hfails : a.fails = false) {r : Restoring} :
    ((t.silence a).restore (a.kbMode t.kbMode) r).Restored before ↔ RefusalOk before a r := by
  obtain ⟨hmode, hmuted⟩ := silence_restored h hfails
  rw [restored_restore_iff, hmode, hmuted, h.1, kbMode_eq_iff]
  have hread : ((a.read = true → before ≠ .off → before = before) ∧
      (a.read = false ∨ before = .off → before = .unicode)) ↔
        (a.read = true ∧ before ≠ .off) ∨ before = .unicode := by
    cases a.read <;> by_cases hoff : before = .off <;> simp [hoff]
  rw [hread]
  exact ⟨fun ⟨h₁, h₂, h₃⟩ => ⟨h₁, h₂, fun hk hm => h₃ ⟨hk, hm⟩⟩,
    fun ⟨h₁, h₂, h₃⟩ => ⟨h₁, h₂, fun hk => h₃ hk.1 hk.2⟩⟩

/-- A setup that the handler comes out of as it was, but for the terminal's keyboard. -/
theorem decides_release {k : Setup} (hs : step s (.setup k) = some s') (hvt : s'.vtFd = none)
    (hnotifier : s'.notifier = false)
    (hiff : s'.terminal.Restored before ↔ KeyboardOk before s (.setup k)) :
    Run.Decides step (Kept before) (KeyboardOk before) (KeyboardInv before) s (.setup k) := by
  refine Or.inr ⟨s', hs, ?_, fun hok => ⟨by rw [hnotifier, hvt]; rfl, fun _ => hiff.2 hok⟩⟩
  refine Iff.trans ?_ hiff
  exact ⟨fun hkept => hkept.1 hvt, fun hrestored => ⟨fun _ => hrestored, trivial⟩⟩

theorem decides_setup (h : KeyboardInv before s) (hgone : s.gone = false) (k : Setup) :
    Run.Decides step (Kept before) (KeyboardOk before) (KeyboardInv before) s (.setup k) := by
  have hstep : step s (.setup k) = some (s.setup k) := by simp [step, hgone]
  have hto := setupTo h.notifier_of_none k
  generalize s.setup k = s' at hstep hto
  have hnone : ¬ s.Refused k → s.vtFd = none := fun hnot => not_not.1 (mt Or.inl hnot)
  cases hto with
  | refused hrefused =>
    exact Run.decides_good hstep ⟨h.released, trivial⟩ (fun _ hnot => absurd hrefused hnot) h
  | invalid fd hnot hfd hinvalid =>
    have hvt := hnone hnot
    refine decides_release hstep hvt (h.notifier_of_none hvt) ?_
    refine iff_of_true (h.released hvt) fun _ _ hvalid => ?_
    exact absurd (hinvalid.symm.trans hvalid) Bool.false_ne_true
  | unsilenced fd hnot hfd hvalid hfails =>
    have hvt := hnone hnot
    refine decides_release hstep hvt (h.notifier_of_none hvt) ?_
    refine iff_of_true (h.released hvt) fun _ _ _ hnot' => ?_
    exact absurd ((fails_eq_false_iff.2 hnot').symm.trans hfails) Bool.false_ne_true
  | text fd hnot hfd hvalid hfails hgraphics =>
    have hvt := hnone hnot
    refine decides_release hstep hvt (h.notifier_of_none hvt) ?_
    refine (refusalOk_iff (h.released hvt) hfails).trans ⟨fun hok _ _ _ _ _ => hok, fun hok => ?_⟩
    exact hok hgone hnot hvalid (fails_eq_false_iff.1 hfails) hgraphics
  | taken fd s₁ hnot hfd hvalid hfails hgraphics hs₁ =>
    have hfd' : (s₁.installSignalHandler k.socketpair).1.vtFd = some fd := by
      rw [hs₁]
      unfold installSignalHandler
      split <;> rfl
    have hnotifier : (s₁.installSignalHandler k.socketpair).1.notifier = true := by
      unfold installSignalHandler
      rfl
    have hreleased : ∀ P : Prop, (s₁.installSignalHandler k.socketpair).1.vtFd = none → P := by
      intro P hvt
      rw [hfd'] at hvt
      cases hvt
    refine Run.decides_good hstep ⟨hreleased _, trivial⟩ (fun _ _ _ _ htext => ?_)
      ⟨?_, hreleased _⟩
    · exact absurd (htext.symm.trans hgraphics) Bool.false_ne_true
    · show (s₁.installSignalHandler k.socketpair).1.notifier =
        (s₁.installSignalHandler k.socketpair).1.vtFd.isSome
      rw [hfd', hnotifier]
      rfl

theorem decides_signal (h : KeyboardInv before s) (hgone : s.gone = false) (sigNo : SigNo) :
    Run.Decides step (Kept before) (KeyboardOk before) (KeyboardInv before) s (.signal sigNo) := by
  have hto := signalTo hgone h.notifier sigNo
  generalize hstep : step s (.signal sigNo) = next at hto
  cases hto with
  | ignored _ hvt =>
    refine Run.decides_good hstep ⟨h.released, ?_⟩ (fun _ => ?_) h
    · cases sigNo <;> trivial
    · cases sigNo with
      | interrupt r => trivial
      | suspend r => trivial
      | resume a => exact fun hne => absurd hvt hne
  | interrupt r hvt =>
    exact Run.decides_good hstep ⟨fun hnone => absurd hnone hvt, trivial⟩ (fun _ => trivial)
      ⟨h.notifier, fun hnone => absurd hnone hvt⟩
  | suspend r hvt =>
    exact Run.decides_good hstep ⟨fun hnone => absurd hnone hvt, rfl⟩ (fun _ => trivial)
      ⟨h.notifier, fun hnone => absurd hnone hvt⟩
  | crash a hvt hfails =>
    refine Or.inl ⟨hstep, fun hok => ?_⟩
    have hnot := fails_eq_false_iff.2 (hok hgone hvt).silenced
    exact Bool.false_ne_true (hnot.symm.trans hfails)
  | resume a hvt hfails =>
    refine Or.inr ⟨_, hstep, ?_, fun _ => ⟨h.notifier, fun hnone => absurd hnone hvt⟩⟩
    constructor
    · intro hkept _ _
      obtain ⟨hread, hunread⟩ := kbMode_eq_iff.1 hkept.2
      exact ⟨fails_eq_false_iff.1 hfails, hread, hunread⟩
    · intro hok
      obtain ⟨-, hread, hunread⟩ := hok hgone hvt
      exact ⟨fun hnone => absurd hnone hvt, kbMode_eq_iff.2 ⟨hread, hunread⟩⟩

theorem decides_destroy (h : KeyboardInv before s) (hgone : s.gone = false) (r : Restoring)
    (survives : Bool) :
    Run.Decides step (Kept before) (KeyboardOk before) (KeyboardInv before) s
      (.destroy r survives) := by
  cases hvt : s.vtFd with
  | none =>
    have hnotifier := h.notifier_of_none hvt
    have hstep : step s (.destroy r survives) = some (s.destroy r) := by
      simp [step, hgone, hnotifier]
    rw [destroy_of_none hvt hnotifier] at hstep
    exact Run.decides_good hstep ⟨h.released, trivial⟩ (fun _ hne => absurd hvt hne)
      ⟨h.notifier, h.released⟩
  | some fd =>
    have hnotifier := h.notifier_of_some hvt
    have hne : s.vtFd ≠ none := by rw [hvt]; exact Option.some_ne_none fd
    cases survives with
    | false =>
      refine Or.inl ⟨by simp [step, hgone, hnotifier], fun hok => ?_⟩
      exact Bool.false_ne_true (hok hgone hne).survives
    | true =>
    have hstep : step s (.destroy r true) = some (s.destroy r) := by simp [step, hgone]
    rw [destroy_of_some hvt hnotifier] at hstep
    have hiff : (s.terminal.restore s.kbMode r).Restored before ↔
        KeyboardOk before s (.destroy r true) := by
      refine restored_restore_iff.trans ⟨fun ⟨h₁, h₂, h₃⟩ _ _ => ⟨rfl, h₁, h₂, h₃⟩, fun hok => ?_⟩
      obtain ⟨-, h₁, h₂, h₃⟩ := hok hgone hne
      exact ⟨h₁, h₂, h₃⟩
    refine Or.inr ⟨_, hstep, ?_, fun hok => ⟨rfl, fun _ => hiff.2 hok⟩⟩
    exact Iff.trans ⟨fun hkept => hkept.1 rfl, fun hrestored => ⟨fun _ => hrestored, trivial⟩⟩ hiff

theorem decides_keyboard (h : KeyboardInv before s) (op : VtOp) :
    Run.Decides step (Kept before) (KeyboardOk before) (KeyboardInv before) s op := by
  by_cases hgone : s.gone = true
  · have hstep : step s op = some s := if_pos hgone
    refine Run.decides_good hstep ⟨h.released, ?_⟩ (fun hnot => ?_) h
    · split <;> trivial
    · exact absurd (hnot.symm.trans hgone) Bool.false_ne_true
  · have hgone : s.gone = false := Bool.eq_false_iff.2 hgone
    cases op with
    | setup k => exact decides_setup h hgone k
    | signal sigNo => exact decides_signal h hgone sigNo
    | destroy r survives => exact decides_destroy h hgone r survives

end

/-- **The keyboard is left as it was, and the mode to restore is kept, in exactly the
runs whose steps meet their condition.** -/
theorem keyboard_kept_iff (before : KbMode) (signalFd : Int × Int) (ops : List VtOp) :
    Run.Along step (Kept before) (init before signalFd) ops ↔
      Run.Meets step (KeyboardOk before) (init before signalFd) ops :=
  Run.along_iff_of_decides (fun _ op h => decides_keyboard h op) ops _
    (keyboardInv_init before signalFd)

/-- A setup of `/dev/tty2` whose keyboard cannot be muted, only turned off. -/
def offSetup : Setup where
  nr := 2
  open_ := some 5
  isValidVt := true
  silencing := ⟨false, true, false, true⟩
  graphics := true
  socketpair := some (6, 7)
  text := true
  restoring := ⟨true, true⟩

/-- Resumed without having been suspended by the handler, it takes the mode that it
set itself for the terminal's. -/
theorem mode_replaced :
    ¬ Run.Along step (Kept .xlate) (init .xlate (0, 0))
      [.setup offSetup, .signal (.resume ⟨false, true, false, true⟩), .destroy ⟨true, true⟩ true] := by
  rintro ⟨_, ⟨⟩, -, _, ⟨⟩, h, -⟩
  exact absurd h.2 (by decide)

end VtHandler

end GreenIsland.Platform

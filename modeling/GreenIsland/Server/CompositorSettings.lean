import Mathlib.Logic.Function.Iterate
import GreenIsland.Lib.Run

/-! Settings of a compositor (`CompositorSettings`, `Keymap`).

The settings are pushed to the keyboard of the compositor's default seat: the
repeat rate and delay when they are set, and all of them (`setupKeymap`) when the
component is complete, the compositor or the keymap is replaced, or one of these
objects signals a change.

`setCompositor` and `setKeymap` store the new object after `setupKeymap`, which
therefore still sees the old one, and it is the new object that they disconnect.
So after every step the keyboard of the current compositor has the settings, and
is left alone by replaced objects, if and only if every step meets `OpOk`
(`settings_kept_iff`).

Keyboards start with any configuration, and the objects that are set may be null. -/

namespace GreenIsland.Server

/-! ## Model -/

inductive KeymapField
  | layout
  | variant
  | options
  | model
  | rules
deriving DecidableEq, Repr

/-- The fields of a `Keymap`, which are those of the `QWaylandKeymap` made from it. -/
abbrev Keymap := KeymapField → String

/-- What makes up the repeat info of a keyboard. -/
inductive KeyboardRepeat
  | rate
  | delay
deriving DecidableEq, Repr

/-- `QWaylandKeyboard` -/
structure QWaylandKeyboard where
  keymap : Keymap
  keyRepeat : KeyboardRepeat → UInt32
  /-- the number of `setKeymap` calls -/
  updates : Nat

namespace QWaylandKeyboard

def setKeymap (kb : QWaylandKeyboard) (keymap : Keymap) : QWaylandKeyboard :=
  { kb with keymap := keymap, updates := kb.updates + 1 }

def setRepeat (kb : QWaylandKeyboard) (i : KeyboardRepeat) (value : UInt32) : QWaylandKeyboard :=
  { kb with keyRepeat := Function.update kb.keyRepeat i value }

def setRepeatRate (kb : QWaylandKeyboard) := kb.setRepeat .rate
def setRepeatDelay (kb : QWaylandKeyboard) := kb.setRepeat .delay

end QWaylandKeyboard

/-- The settings with the objects they are about.  `κ` names the compositors, each
with the keyboard of its default seat, and `μ` the keymap objects. -/
structure CompositorSettings (κ μ : Type) where
  initialized : Bool
  compositor : Option κ
  /-- `repeatRate` and `repeatDelay` -/
  keyRepeat : KeyboardRepeat → UInt32
  keymap : Option μ
  /-- the compositors connected to `_q_setupKeymap`, once for each `connect` -/
  seatConnections : List κ
  /-- the keymap objects connected to it -/
  keymapConnections : List μ
  keyboards : κ → QWaylandKeyboard
  keymaps : μ → Keymap
  /-- the rate and delay that were set last, if they were set -/
  repeatSet : KeyboardRepeat → Option UInt32

namespace CompositorSettings

section
variable {κ μ : Type} [DecidableEq κ] [DecidableEq μ]

def init (keyboards : κ → QWaylandKeyboard) (keymaps : μ → Keymap) : CompositorSettings κ μ where
  initialized := false
  compositor := none
  keyRepeat
    | .rate => 40
    | .delay => 400
  keymap := none
  seatConnections := []
  keymapConnections := []
  keyboards := keyboards
  keymaps := keymaps
  repeatSet _ := none

def updateKeyboard (s : CompositorSettings κ μ) (c : κ) (f : QWaylandKeyboard → QWaylandKeyboard) :
    CompositorSettings κ μ :=
  { s with keyboards := Function.update s.keyboards c (f (s.keyboards c)) }

def setupKeymap (s : CompositorSettings κ μ) : CompositorSettings κ μ :=
  match s.compositor, s.keymap with
  | some c, some k =>
    if s.initialized then
      s.updateKeyboard c fun kb =>
        ((kb.setKeymap (s.keymaps k)).setRepeatRate (s.keyRepeat .rate)).setRepeatDelay
          (s.keyRepeat .delay)
    else s
  | _, _ => s

/-- The connections after an object is replaced: if there was one, the new one is
disconnected; then it is connected. -/
def rewire {α : Type} [DecidableEq α] (connections : List α) (old new : Option α) : List α :=
  let connections := if old = none then connections else connections.filter fun a => some a ≠ new
  connections ++ new.toList

def setCompositor (s : CompositorSettings κ μ) (compositor : Option κ) : CompositorSettings κ μ :=
  if s.compositor = compositor then s
  else
    let s := { s with seatConnections := rewire s.seatConnections s.compositor compositor }
    let s := if compositor = none then s else s.setupKeymap
    { s with compositor := compositor }

def setKeymap (s : CompositorSettings κ μ) (keymap : Option μ) : CompositorSettings κ μ :=
  if s.keymap = keymap then s
  else
    let s := { s with keymapConnections := rewire s.keymapConnections s.keymap keymap }
    let s := if keymap = none then s else s.setupKeymap
    { s with keymap := keymap }

def setKeyboardRepeat (s : CompositorSettings κ μ) (i : KeyboardRepeat) (value : UInt32) :
    CompositorSettings κ μ :=
  if s.keyRepeat i = value then s
  else
    let s := { s with keyRepeat := Function.update s.keyRepeat i value }
    match s.compositor with
    | some c => s.updateKeyboard c fun kb => kb.setRepeat i value
    | none => s

def setKeyboardRepeatRate (s : CompositorSettings κ μ) := s.setKeyboardRepeat .rate
def setKeyboardRepeatDelay (s : CompositorSettings κ μ) := s.setKeyboardRepeat .delay

def componentComplete (s : CompositorSettings κ μ) : CompositorSettings κ μ :=
  { s with initialized := true }.setupKeymap

/-- The setters of a `Keymap`; a change is signalled to every connection. -/
def setField (s : CompositorSettings κ μ) (k : μ) (field : KeymapField) (value : String) :
    CompositorSettings κ μ :=
  if s.keymaps k field = value then s
  else
    let keymap := Function.update (s.keymaps k) field value
    let s := { s with keymaps := Function.update s.keymaps k keymap }
    setupKeymap^[s.keymapConnections.count k] s

def setLayout (s : CompositorSettings κ μ) (k : μ) := s.setField k .layout
def setVariant (s : CompositorSettings κ μ) (k : μ) := s.setField k .variant
def setOptions (s : CompositorSettings κ μ) (k : μ) := s.setField k .options
def setModel (s : CompositorSettings κ μ) (k : μ) := s.setField k .model
def setRules (s : CompositorSettings κ μ) (k : μ) := s.setField k .rules

/-- A compositor emits `defaultSeatChanged`. -/
def defaultSeatChanged (s : CompositorSettings κ μ) (c : κ) : CompositorSettings κ μ :=
  setupKeymap^[s.seatConnections.count c] s

inductive Op (κ μ : Type)
  | setCompositor (compositor : Option κ)
  | setKeymap (keymap : Option μ)
  | setKeyboardRepeat (i : KeyboardRepeat) (value : UInt32)
  | componentComplete
  | setField (k : μ) (field : KeymapField) (value : String)
  | defaultSeatChanged (c : κ)

def step (s : CompositorSettings κ μ) : Op κ μ → CompositorSettings κ μ
  | .setCompositor compositor => s.setCompositor compositor
  | .setKeymap keymap => s.setKeymap keymap
  | .setKeyboardRepeat i value =>
    { s.setKeyboardRepeat i value with repeatSet := Function.update s.repeatSet i (some value) }
  | .componentComplete => s.componentComplete
  | .setField k field value => s.setField k field value
  | .defaultSeatChanged c => s.defaultSeatChanged c

/-! ## What is to be kept -/

/-- The keyboard of the compositor has the repeat rate and delay, if they were set. -/
def Repeats (s : CompositorSettings κ μ) (c : κ) : Prop :=
  ∀ i, ∀ value ∈ s.repeatSet i, (s.keyboards c).keyRepeat i = value

/-- It has all settings. -/
def Shows (s : CompositorSettings κ μ) (c : κ) : Prop :=
  (∀ k ∈ s.keymap, (s.keyboards c).keymap = s.keymaps k) ∧ s.Repeats c

/-- The current compositor has the settings, once the component is complete. -/
def Settled (s : CompositorSettings κ μ) : Prop :=
  s.initialized = true → ∀ c ∈ s.compositor, s.Shows c

/-- The step is due to an object that is not the current one. -/
def Foreign (s : CompositorSettings κ μ) : Op κ μ → Prop
  | .setField k _ _ => s.keymap ≠ some k
  | .defaultSeatChanged c => s.compositor ≠ some c
  | _ => False

/-- What a step owes. -/
structure Kept (s : CompositorSettings κ μ) (op : Op κ μ) (s' : CompositorSettings κ μ) : Prop where
  settled : s'.Settled
  undisturbed : s.Foreign op → s'.keyboards = s.keyboards

/-- `setupKeymap` does something. -/
def Ready (s : CompositorSettings κ μ) : Prop :=
  s.initialized = true ∧ s.compositor ≠ none ∧ s.keymap ≠ none

/-- **The steps after which that is so.** -/
def OpOk (s : CompositorSettings κ μ) : Op κ μ → Prop
  | .setCompositor compositor => s.initialized = true → ∀ c ∈ compositor, s.Shows c
  | .setKeymap keymap => s.initialized = true → ∀ c ∈ s.compositor, ∀ k ∈ keymap,
      (s.keyboards c).keymap = s.keymaps k
  | .setKeyboardRepeat i value => s.initialized = true → ∀ c ∈ s.compositor, s.keyRepeat i = value →
      (s.keyboards c).keyRepeat i = value
  | .componentComplete => s.keymap = none → ∀ c ∈ s.compositor, s.Repeats c
  | .setField k field value =>
    s.keymap ≠ some k → s.Ready → k ∈ s.keymapConnections → s.keymaps k field = value
  | .defaultSeatChanged c => s.compositor ≠ some c → s.Ready → c ∉ s.seatConnections

/-- What holds along every run. -/
structure Base (s : CompositorSettings κ μ) : Prop where
  connected : ∀ k ∈ s.keymap, k ∈ s.keymapConnections
  repeatSet : ∀ i, ∀ value ∈ s.repeatSet i, s.keyRepeat i = value

structure Inv (s : CompositorSettings κ μ) : Prop where
  base : s.Base
  settled : s.Settled

end

section
variable {κ μ : Type} {s s' : CompositorSettings κ μ} {c : κ} {k : μ} {n : Nat}

/-! ## Pushing the settings -/

/-- The settings stay, as far as a keyboard can show them. -/
structure SameSettings (s s' : CompositorSettings κ μ) : Prop where
  initialized : s'.initialized = s.initialized
  compositor : s'.compositor = s.compositor
  keymap : s'.keymap = s.keymap
  keymaps : s'.keymaps = s.keymaps
  repeatSet : s'.repeatSet = s.repeatSet

theorem SameSettings.ready (h : SameSettings s s') (hready : s.Ready) : s'.Ready := by
  unfold Ready
  rw [h.initialized, h.compositor, h.keymap]
  exact hready

theorem inv_init (keyboards : κ → QWaylandKeyboard) (keymaps : μ → Keymap) :
    Inv (init keyboards keymaps) := by
  refine ⟨⟨fun _ h => ?_, fun _ _ h => ?_⟩, fun h => ?_⟩
  · cases h
  · cases h
  · cases h

section
variable [DecidableEq κ]

theorem setupKeymap_of_not_ready (h : ¬ s.Ready) : s.setupKeymap = s := by
  unfold setupKeymap
  split
  · next c k hc hk =>
    refine if_neg fun hinit => h ⟨hinit, ?_, ?_⟩
    · simp [hc]
    · simp [hk]
  · rfl

theorem setupKeymap_of_ready (hinit : s.initialized = true) (hc : s.compositor = some c)
    (hk : s.keymap = some k) :
    s.setupKeymap = s.updateKeyboard c fun kb =>
      ((kb.setKeymap (s.keymaps k)).setRepeatRate (s.keyRepeat .rate)).setRepeatDelay
        (s.keyRepeat .delay) := by
  unfold setupKeymap
  rw [hc, hk]
  exact if_pos hinit

/-- Only keyboards are changed. -/
theorem setupKeymap_eq (s : CompositorSettings κ μ) :
    s.setupKeymap = { s with keyboards := s.setupKeymap.keyboards } := by
  unfold setupKeymap
  split
  · split <;> rfl
  · rfl

theorem sameSettings_setupKeymap (s : CompositorSettings κ μ) : SameSettings s s.setupKeymap := by
  rw [setupKeymap_eq]
  exact ⟨rfl, rfl, rfl, rfl, rfl⟩

theorem setupKeymap_of_ne (hc : s.compositor ≠ some c) :
    s.setupKeymap.keyboards c = s.keyboards c := by
  unfold setupKeymap
  split
  · next c' k hc' hk =>
    split
    · have hne : c ≠ c' := fun h => hc (h ▸ hc')
      exact Function.update_of_ne hne ..
    · rfl
  · rfl

theorem Base.setupKeymap (h : Base s) : Base s.setupKeymap := by
  rw [setupKeymap_eq]
  exact ⟨h.connected, h.repeatSet⟩

/-- The keyboard shows what was pushed. -/
theorem Base.shows_setupKeymap (h : Base s) (hready : s.Ready) (hc : s.compositor = some c) :
    s.setupKeymap.Shows c := by
  obtain ⟨hinit, -, hkeymap⟩ := hready
  obtain ⟨k, hk⟩ := Option.ne_none_iff_exists'.1 hkeymap
  rw [setupKeymap_of_ready hinit hc hk]
  unfold updateKeyboard Shows Repeats
  dsimp only
  rw [Function.update_self]
  refine ⟨fun k' hk' => ?_, fun i value hvalue => ?_⟩
  · obtain rfl : k = k' := Option.some.inj (hk.symm.trans hk')
    rfl
  · rw [← h.repeatSet i value hvalue]
    cases i <;> rfl

theorem Inv.setupKeymap (h : Inv s) : Inv s.setupKeymap := by
  by_cases hready : s.Ready
  · refine ⟨h.base.setupKeymap, fun _ c hc => h.base.shows_setupKeymap hready ?_⟩
    exact (sameSettings_setupKeymap s).compositor ▸ hc
  · rw [setupKeymap_of_not_ready hready]
    exact h

/-- Pushing the settings once more does not change the keymap. -/
theorem Inv.keymap_setupKeymap (h : Inv s) (hinit : s.initialized = true)
    (hc : s.compositor = some c) :
    (s.setupKeymap.keyboards c).keymap = (s.keyboards c).keymap := by
  cases hk : s.keymap with
  | none =>
    have hready : ¬ s.Ready := fun hready => hready.2.2 hk
    rw [setupKeymap_of_not_ready hready]
  | some k =>
    have hafter := (h.setupKeymap.settled (s := s.setupKeymap) ?_ c ?_).1 k ?_
    · rw [hafter, (h.settled hinit c hc).1 k hk, (sameSettings_setupKeymap s).keymaps]
    · exact (sameSettings_setupKeymap s).initialized.trans hinit
    · exact (sameSettings_setupKeymap s).compositor.trans hc
    · exact (sameSettings_setupKeymap s).keymap.trans hk

/-! ## Signals -/

theorem iterate_of_not_ready (h : ¬ s.Ready) (n : Nat) : CompositorSettings.setupKeymap^[n] s = s :=
  Function.iterate_fixed (setupKeymap_of_not_ready h) n

theorem sameSettings_iterate (s : CompositorSettings κ μ) (n : Nat) :
    SameSettings s (CompositorSettings.setupKeymap^[n] s) := by
  induction n with
  | zero => exact ⟨rfl, rfl, rfl, rfl, rfl⟩
  | succ n ih =>
    rw [Function.iterate_succ_apply']
    have h := sameSettings_setupKeymap (CompositorSettings.setupKeymap^[n] s)
    exact ⟨h.initialized.trans ih.initialized, h.compositor.trans ih.compositor,
      h.keymap.trans ih.keymap, h.keymaps.trans ih.keymaps, h.repeatSet.trans ih.repeatSet⟩

theorem Base.iterate (h : Base s) (n : Nat) : Base (CompositorSettings.setupKeymap^[n] s) := by
  induction n with
  | zero => exact h
  | succ n ih =>
    rw [Function.iterate_succ_apply']
    exact ih.setupKeymap

theorem Inv.iterate (h : Inv s) (n : Nat) : Inv (CompositorSettings.setupKeymap^[n] s) := by
  induction n with
  | zero => exact h
  | succ n ih =>
    rw [Function.iterate_succ_apply']
    exact ih.setupKeymap

/-- A signal that arrives brings the keyboard up to date. -/
theorem Base.settled_iterate (h : Base s) (hready : s.Ready) (hn : n ≠ 0) :
    Settled (CompositorSettings.setupKeymap^[n] s) := by
  obtain ⟨m, rfl⟩ := Nat.exists_eq_succ_of_ne_zero hn
  rw [Function.iterate_succ_apply']
  have hsame := sameSettings_iterate s m
  have hlast := sameSettings_setupKeymap (CompositorSettings.setupKeymap^[m] s)
  exact fun _ c hc => (h.iterate m).shows_setupKeymap (hsame.ready hready) (hlast.compositor ▸ hc)

/-- The keyboard notices each signal that arrives. -/
theorem updates_iterate (hready : s.Ready) (hc : s.compositor = some c) (n : Nat) :
    ((CompositorSettings.setupKeymap^[n] s).keyboards c).updates = (s.keyboards c).updates + n := by
  induction n with
  | zero => rfl
  | succ n ih =>
    rw [Function.iterate_succ_apply', ← Nat.add_assoc, ← ih]
    have hsame := sameSettings_iterate s n
    obtain ⟨hinit, -, hkeymap⟩ := hsame.ready hready
    obtain ⟨k, hk⟩ := Option.ne_none_iff_exists'.1 hkeymap
    rw [setupKeymap_of_ready hinit (hsame.compositor.trans hc) hk]
    unfold updateKeyboard
    dsimp only
    rw [Function.update_self]
    rfl

/-- No keyboard is touched exactly if no signal arrives or there is nothing to push. -/
theorem keyboards_iterate_iff (s : CompositorSettings κ μ) (n : Nat) :
    (CompositorSettings.setupKeymap^[n] s).keyboards = s.keyboards ↔ (s.Ready → n = 0) := by
  by_cases hready : s.Ready
  · rw [forall_prop_of_true hready]
    constructor
    · intro h
      obtain ⟨c, hc⟩ := Option.ne_none_iff_exists'.1 hready.2.1
      have hupdates := updates_iterate hready hc n
      rw [h] at hupdates
      omega
    · rintro rfl
      rfl
  · rw [iterate_of_not_ready hready]
    exact iff_of_true rfl fun h => absurd h hready

end

/-! ## One step -/

section

theorem mem_rewire {α : Type} [DecidableEq α] (connections : List α) (old : Option α) (a : α) :
    a ∈ rewire connections old (some a) := by
  simp [rewire]

theorem setCompositor_of_ne [DecidableEq κ] {compositor : Option κ} (hne : s.compositor ≠ compositor) :
    ∃ connections, s.setCompositor compositor =
      { (if compositor = none then s else s.setupKeymap) with
        compositor := compositor
        seatConnections := connections } := by
  refine ⟨rewire s.seatConnections s.compositor compositor, (if_neg hne).trans ?_⟩
  split
  · rfl
  · unfold setupKeymap
    dsimp only
    split
    · split <;> rfl
    · rfl

variable [DecidableEq κ] [DecidableEq μ]

theorem setKeymap_of_ne {keymap : Option μ} (hne : s.keymap ≠ keymap) :
    s.setKeymap keymap =
      { (if keymap = none then s else s.setupKeymap) with
        keymap := keymap
        keymapConnections := rewire s.keymapConnections s.keymap keymap } := by
  refine (if_neg hne).trans ?_
  split
  · rfl
  · unfold setupKeymap
    dsimp only
    split
    · split <;> rfl
    · rfl

omit [DecidableEq μ] in
theorem Base.setCompositor (h : Base s) (compositor : Option κ) :
    Base (s.setCompositor compositor) := by
  by_cases heq : s.compositor = compositor
  · rw [CompositorSettings.setCompositor, if_pos heq]
    exact h
  · obtain ⟨connections, hafter⟩ := setCompositor_of_ne heq
    have hsetup := h.setupKeymap
    rw [hafter]
    split
    · exact ⟨h.connected, h.repeatSet⟩
    · exact ⟨hsetup.connected, hsetup.repeatSet⟩

theorem Base.setKeymap (h : Base s) (keymap : Option μ) : Base (s.setKeymap keymap) := by
  by_cases heq : s.keymap = keymap
  · rw [CompositorSettings.setKeymap, if_pos heq]
    exact h
  · have hsetup := h.setupKeymap
    have hconnected : ∀ k ∈ keymap, k ∈ rewire s.keymapConnections s.keymap keymap := by
      intro k hk
      rw [Option.mem_def.1 hk]
      exact mem_rewire ..
    rw [setKeymap_of_ne heq]
    split
    · exact ⟨hconnected, h.repeatSet⟩
    · exact ⟨hconnected, hsetup.repeatSet⟩

omit [DecidableEq μ] in
theorem Base.setKeyboardRepeat (h : Base s) (i : KeyboardRepeat) (value : UInt32) :
    Base { s.setKeyboardRepeat i value with
      repeatSet := Function.update s.repeatSet i (some value) } := by
  have hset : ∀ j, ∀ v ∈ Function.update s.repeatSet i (some value) j,
      Function.update s.keyRepeat i value j = v := by
    intro j v hv
    by_cases hj : j = i
    · subst hj
      rw [Function.update_self] at hv ⊢
      exact Option.some.inj hv
    · rw [Function.update_of_ne hj] at hv ⊢
      exact h.repeatSet j v hv
  unfold CompositorSettings.setKeyboardRepeat
  split
  · next heq =>
    refine ⟨h.connected, fun j v hv => ?_⟩
    have hv' := hset j v hv
    rwa [← heq, Function.update_eq_self] at hv'
  · dsimp only
    split <;> exact ⟨h.connected, hset⟩

theorem Base.setField (h : Base s) (k : μ) (field : KeymapField) (value : String) :
    Base (s.setField k field value) := by
  unfold CompositorSettings.setField
  split
  · exact h
  · refine Base.iterate ?_ _
    exact ⟨h.connected, h.repeatSet⟩

theorem Base.step (h : Base s) (op : Op κ μ) : Base (s.step op) := by
  cases op with
  | setCompositor compositor => exact h.setCompositor compositor
  | setKeymap keymap => exact h.setKeymap keymap
  | setKeyboardRepeat i value => exact h.setKeyboardRepeat i value
  | componentComplete =>
    have hinit : Base { s with initialized := true } := ⟨h.connected, h.repeatSet⟩
    exact hinit.setupKeymap
  | setField k field value => exact h.setField k field value
  | defaultSeatChanged c => exact h.iterate _

theorem Inv.decides_of_iff (h : Inv s) {op : Op κ μ} (hforeign : ¬ s.Foreign op)
    (hiff : (s.step op).Settled ↔ s.OpOk op) :
    Run.Decides (fun s op => some (step s op)) Kept OpOk Inv s op := by
  refine Run.decides_total ⟨fun hkept => hiff.1 hkept.settled, fun hok => ⟨hiff.2 hok, ?_⟩⟩ ?_
  · exact fun hf => absurd hf hforeign
  · exact fun hok => ⟨h.base.step op, hiff.2 hok⟩

omit [DecidableEq μ] in
theorem Inv.settled_setCompositor_iff (h : Inv s) (compositor : Option κ) :
    (s.setCompositor compositor).Settled ↔ s.OpOk (.setCompositor compositor : Op κ μ) := by
  by_cases heq : s.compositor = compositor
  · rw [setCompositor, if_pos heq]
    refine iff_of_true h.settled fun hinit c hc => h.settled hinit c ?_
    rw [heq]
    exact hc
  · obtain ⟨connections, hafter⟩ := setCompositor_of_ne heq
    rw [hafter]
    cases compositor with
    | none => exact iff_of_true (fun _ c hc => by cases hc) fun _ c hc => by cases hc
    | some c =>
      -- the old compositor's keyboard was set up, if any
      rw [if_neg (Option.some_ne_none c), setupKeymap_eq]
      have hkb := setupKeymap_of_ne heq
      unfold Settled OpOk Shows Repeats
      simp only [Option.mem_def, Option.some.injEq, forall_eq', hkb]

theorem Inv.settled_setKeymap_iff (h : Inv s) (keymap : Option μ) :
    (s.setKeymap keymap).Settled ↔ s.OpOk (.setKeymap keymap : Op κ μ) := by
  by_cases heq : s.keymap = keymap
  · rw [setKeymap, if_pos heq]
    refine iff_of_true h.settled fun hinit c hc k hk => (h.settled hinit c hc).1 k ?_
    rw [heq]
    exact hk
  · rw [setKeymap_of_ne heq]
    cases keymap with
    | none =>
      refine iff_of_true (fun hinit c hc => ?_) fun _ c _ k hk => ?_
      · refine ⟨fun k hk => ?_, (h.settled hinit c hc).2⟩
        cases hk
      · cases hk
    | some k =>
      rw [if_neg (Option.some_ne_none k)]
      have hsame := sameSettings_setupKeymap s
      have hsettled := h.setupKeymap.settled
      constructor
      · intro hnew hinit c hc k' hk'
        have hshows := hnew (hsame.initialized.trans hinit) c (hsame.compositor.trans hc)
        rw [← h.keymap_setupKeymap hinit hc, ← hsame.keymaps]
        exact hshows.1 k' hk'
      · intro hok hinit c hc
        have hinit' : s.initialized = true := hsame.initialized.symm.trans hinit
        have hc' : s.compositor = some c := hsame.compositor.symm.trans hc
        refine ⟨fun k' hk' => ?_, (hsettled hinit c hc).2⟩
        show (s.setupKeymap.keyboards c).keymap = s.setupKeymap.keymaps k'
        rw [h.keymap_setupKeymap hinit' hc', hsame.keymaps]
        exact hok hinit' c hc' k' hk'

omit [DecidableEq μ] in
theorem Inv.settled_setKeyboardRepeat_iff (h : Inv s) (i : KeyboardRepeat) (value : UInt32) :
    Settled { s.setKeyboardRepeat i value with
      repeatSet := Function.update s.repeatSet i (some value) } ↔
      s.OpOk (.setKeyboardRepeat i value : Op κ μ) := by
  unfold setKeyboardRepeat
  split
  · next heq =>
    constructor
    · intro hnew hinit c hc _
      exact (hnew hinit c hc).2 i value (Function.update_self ..)
    · intro hok hinit c hc
      have hshows := h.settled hinit c hc
      refine ⟨hshows.1, fun j v hv => ?_⟩
      have hv' : Function.update s.repeatSet i (some value) j = some v := hv
      by_cases hj : j = i
      · subst hj
        rw [Function.update_self] at hv'
        exact (hok hinit c hc heq).trans (Option.some.inj hv')
      · rw [Function.update_of_ne hj] at hv'
        exact hshows.2 j v hv'
  · next hne =>
    refine iff_of_true (fun hinit c hc => ?_) fun _ c _ heq => absurd heq hne
    cases hc' : s.compositor with
    | none =>
      simp only [hc'] at hc
      cases hc
    | some c' =>
      simp only [hc'] at hinit hc ⊢
      obtain rfl : c' = c := Option.some.inj hc
      have hshows := h.settled hinit c' hc'
      unfold Shows Repeats updateKeyboard QWaylandKeyboard.setRepeat
      simp only [Function.update_self]
      refine ⟨hshows.1, fun j v hv => ?_⟩
      by_cases hj : j = i
      · subst hj
        rw [Function.update_self] at hv ⊢
        exact Option.some.inj hv
      · rw [Function.update_of_ne hj] at hv ⊢
        exact hshows.2 j v hv

omit [DecidableEq μ] in
theorem Inv.settled_componentComplete_iff (h : Inv s) :
    s.componentComplete.Settled ↔ s.OpOk (.componentComplete : Op κ μ) := by
  have hbase : Base { s with initialized := true } := ⟨h.base.connected, h.base.repeatSet⟩
  unfold componentComplete
  by_cases hready : Ready { s with initialized := true }
  · have hsame := sameSettings_setupKeymap { s with initialized := true }
    refine iff_of_true (fun _ c hc => ?_) fun hnone => absurd hnone hready.2.2
    exact hbase.shows_setupKeymap hready (hsame.compositor.symm.trans hc)
  · rw [setupKeymap_of_not_ready hready]
    constructor
    · intro hnew _ c hc
      exact (hnew rfl c hc).2
    · intro hok _ c hc
      have hnone : s.keymap = none := by
        by_contra hk
        have hc' : s.compositor = some c := hc
        exact hready ⟨rfl, by simp [hc'], hk⟩
      refine ⟨fun k hk => ?_, hok hnone c hc⟩
      have hk' : s.keymap = some k := hk
      rw [hnone] at hk'
      cases hk'

/-- A field of the current keymap object is changed. -/
theorem Inv.settled_setField (h : Inv s) (hk : s.keymap = some k) (field : KeymapField)
    (value : String) : (s.setField k field value).Settled := by
  unfold setField
  split
  · exact h.settled
  · have hcount : s.keymapConnections.count k ≠ 0 :=
      Nat.ne_of_gt (List.count_pos_iff.2 (h.base.connected k hk))
    dsimp only
    generalize Function.update s.keymaps k _ = keymaps
    by_cases hready : Ready { s with keymaps := keymaps }
    · exact Base.settled_iterate ⟨h.base.connected, h.base.repeatSet⟩ hready hcount
    · rw [iterate_of_not_ready hready]
      intro hinit c hc
      have hc' : s.compositor = some c := hc
      exact absurd ⟨hinit, by simp [hc'], by simp [hk]⟩ hready

/-- A step that is due to another object: its signals arrive, or the keyboards are
left alone. -/
theorem Inv.decides_foreign {op : Op κ μ} {t : CompositorSettings κ μ} (h : Inv t)
    (hforeign : s.Foreign op) (hkeyboards : t.keyboards = s.keyboards)
    (hstep : s.step op = CompositorSettings.setupKeymap^[n] t)
    (hok : s.OpOk op ↔ (t.Ready → n = 0)) :
    Run.Decides (fun s op => some (step s op)) Kept OpOk Inv s op := by
  have hinv := h.iterate n
  refine Run.decides_total ?_ fun _ => ?_
  · rw [hok, hstep, ← keyboards_iterate_iff, hkeyboards]
    exact ⟨fun hkept => hkept.undisturbed hforeign, fun heq => ⟨hinv.settled, fun _ => heq⟩⟩
  · rw [hstep]
    exact hinv

theorem Inv.decides_setField (h : Inv s) (k : μ) (field : KeymapField) (value : String) :
    Run.Decides (fun s op => some (step s op)) Kept OpOk Inv s (.setField k field value) := by
  by_cases hk : s.keymap = some k
  · have hsettled := h.settled_setField hk field value
    exact h.decides_of_iff (fun hne => hne hk) (iff_of_true hsettled fun hne => absurd hk hne)
  · by_cases hvalue : s.keymaps k field = value
    · refine h.decides_foreign (n := 0) hk rfl (if_pos hvalue) ?_
      exact iff_of_true (fun _ _ _ => hvalue) fun _ => rfl
    · let keymaps := Function.update s.keymaps k (Function.update (s.keymaps k) field value)
      have hinv : Inv { s with keymaps := keymaps } := by
        refine ⟨⟨h.base.connected, h.base.repeatSet⟩, fun hinit c hc => ?_⟩
        refine ⟨fun k' hk' => ?_, (h.settled hinit c hc).2⟩
        have hne : k' ≠ k := by
          rintro rfl
          exact hk hk'
        show (s.keyboards c).keymap = keymaps k'
        rw [show keymaps k' = s.keymaps k' from Function.update_of_ne hne ..]
        exact (h.settled hinit c hc).1 k' hk'
      refine hinv.decides_foreign hk rfl (if_neg hvalue)
        ⟨fun hok hready => ?_, fun hzero _ hready hmem => ?_⟩
      · exact List.count_eq_zero.2 fun hmem => hvalue (hok hk hready hmem)
      · exact absurd hmem (List.count_eq_zero.1 (hzero hready))

theorem Inv.decides_defaultSeatChanged (h : Inv s) (c : κ) :
    Run.Decides (fun s op => some (step s op)) Kept OpOk Inv s (.defaultSeatChanged c : Op κ μ) := by
  by_cases hc : s.compositor = some c
  · have hsettled := (h.iterate (s.seatConnections.count c)).settled
    exact h.decides_of_iff (fun hne => hne hc) (iff_of_true hsettled fun hne => absurd hc hne)
  · refine h.decides_foreign hc rfl rfl ⟨fun hok hready => ?_, fun hzero _ hready hmem => ?_⟩
    · exact List.count_eq_zero.2 (hok hc hready)
    · exact List.count_eq_zero.1 (hzero hready) hmem

theorem Inv.decides (h : Inv s) (op : Op κ μ) :
    Run.Decides (fun s op => some (step s op)) Kept OpOk Inv s op := by
  cases op with
  | setCompositor compositor => exact h.decides_of_iff id (h.settled_setCompositor_iff compositor)
  | setKeymap keymap => exact h.decides_of_iff id (h.settled_setKeymap_iff keymap)
  | setKeyboardRepeat i value => exact h.decides_of_iff id (h.settled_setKeyboardRepeat_iff i value)
  | componentComplete => exact h.decides_of_iff id h.settled_componentComplete_iff
  | setField k field value => exact h.decides_setField k field value
  | defaultSeatChanged c => exact h.decides_defaultSeatChanged c

/-- **When the settings are kept.**  The keyboard of the current compositor has the
settings after every step, whatever was set before, and replaced objects leave the
keyboards alone, if and only if every step meets its condition. -/
theorem settings_kept_iff (keyboards : κ → QWaylandKeyboard) (keymaps : μ → Keymap)
    (ops : List (Op κ μ)) :
    Run.Along (fun s op => some (step s op)) Kept (init keyboards keymaps) ops ↔
      Run.Meets (fun s op => some (step s op)) OpOk (init keyboards keymaps) ops :=
  Run.along_iff_of_decides (fun _ op h => Inv.decides h op) ops _ (inv_init keyboards keymaps)

end

/-- The keyboard keeps the keymap that was replaced. -/
theorem replaced_keymap_kept :
    ¬ Run.Along (fun s op => some (step s op)) Kept
      (init (fun _ : Unit => ⟨fun _ => "", fun _ => 25, 0⟩) fun k _ => if k then "de" else "us")
      [.setCompositor (some ()), .setKeymap (some false), .componentComplete,
        .setKeymap (some true)] := by
  rintro ⟨_, ⟨⟩, -, _, ⟨⟩, -, _, ⟨⟩, -, _, ⟨⟩, hkept, -⟩
  have hkeymap := congrFun ((hkept.settled rfl () rfl).1 true rfl) .layout
  revert hkeymap
  decide

end

end CompositorSettings

end GreenIsland.Server

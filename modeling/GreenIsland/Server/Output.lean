import Mathlib.Data.List.Basic
import GreenIsland.Lib.Marked
import GreenIsland.Lib.Run
import GreenIsland.Qt.Basic
import GreenIsland.Qt.ModeFlags

/-! The modes of an output of the compositor (`QWaylandOutput`).

Which mode is the current one and which one the preferred one is stored twice:
`currentMode` and `preferredMode` are indices into `modes`, and each mode has
the two flags.  `Consistent` says that the two agree, and that no two modes have
the same size and refresh rate.

`OpOk` is the condition on a call under which the modes stay consistent and a
call that names an unknown mode changes none of them, and it is exact
(`modes_kept_iff`).  What breaks them otherwise:

* `addMode` of the current (preferred) mode without its flag takes the flag from
  the mode and leaves the index;
* `setCurrentMode` takes the flag from the current mode before it looks for the
  new one, and leaves the index when there is none;
* `initialize` empties the list and leaves the indices.

Rates are compared with `==` only, and nothing is assumed about it: a rate that
is not a number differs from itself.  Assertions are compiled out; an index that
is out of range is a fault. -/

namespace GreenIsland.Server

open ModeFlags

/-! ## Model -/

structure Mode (ρ : Type) where
  flags : ModeFlags
  size : QSize
  refreshRate : ρ

/-- What the output reads of its window: its size and the refresh rate of the
screen it is on. -/
structure QWindow (ρ : Type) where
  size : QSize
  screenRefreshRate : ρ

structure Output (ρ : Type) where
  modes : List (Mode ρ)
  currentMode : Int
  preferredMode : Int
  window : Option (QWindow ρ)
  sizeFollowsWindow : Bool
  initialized : Bool
  /-- mode events for every bound client, oldest first -/
  outbox : List (Mode ρ)

section
variable {ρ : Type} [BEq ρ]

/-- The comparison that all searches make. -/
def Mode.matches (mode : Mode ρ) (size : QSize) (refreshRate : ρ) : Bool :=
  mode.size == size && mode.refreshRate == refreshRate

/-- `Mode::operator==` -/
def Mode.equals (mode other : Mode ρ) : Bool :=
  mode.flags == other.flags && mode.size == other.size && mode.refreshRate == other.refreshRate

namespace Output

def init (window : Option (QWindow ρ)) (sizeFollowsWindow : Bool) : Output ρ where
  modes := []
  currentMode := -1
  preferredMode := -1
  window := window
  sizeFollowsWindow := sizeFollowsWindow
  initialized := false
  outbox := []

def sendModesInfo (o : Output ρ) : Output ρ := { o with outbox := o.outbox ++ o.modes }

def findMode (modes : List (Mode ρ)) (size : QSize) (refreshRate : ρ) : Option Nat :=
  modes.findIdx? (·.matches size refreshRate)

/-- `QVector::indexOf` -/
def indexOf (modes : List (Mode ρ)) (mode : Mode ρ) : Int :=
  match modes.findIdx? (·.equals mode) with
  | some i => i
  | none => -1

/-- The mode at index `i` loses the flag. -/
def clearFlag (modes : List (Mode ρ)) (i : Int) (flag : ModeFlag) : Option (List (Mode ρ)) :=
  (qAt modes i).map fun mode => modes.set i.toNat { mode with flags := mode.flags.clear flag }

/-- The index of the mode that has the flag. -/
def index (o : Output ρ) : ModeFlag → Int
  | .current => o.currentMode
  | .preferred => o.preferredMode

def setIndex (o : Output ρ) (flag : ModeFlag) (i : Int) : Output ρ :=
  match flag with
  | .current => { o with currentMode := i }
  | .preferred => { o with preferredMode := i }

/-- A mode that already has the flag loses it when another one is to get it. -/
def takeFlag (o : Output ρ) (flag : ModeFlag) (flags : ModeFlags) : Option (Output ρ) :=
  if o.index flag ≠ -1 ∧ flags.testFlag flag = true then
    (clearFlag o.modes (o.index flag) flag).map fun modes =>
      { o with modes := modes }.setIndex flag (-1)
  else some o

/-- The flags of mode `i` are replaced, unless it has them already. -/
def updateMode (o : Output ρ) (i : Nat) (flags : ModeFlags) : Option (Output ρ) := do
  let mode ← o.modes[i]?
  if mode.flags ≠ flags then
    return { o with
      modes := o.modes.set i { mode with flags := flags }
      currentMode := if flags.testFlag .current then i else o.currentMode
      preferredMode := if flags.testFlag .preferred then i else o.preferredMode }.sendModesInfo
  else return o

def appendMode (o : Output ρ) (newMode : Mode ρ) : Output ρ :=
  let modes := o.modes ++ [newMode]
  { o with
    modes := modes
    currentMode := if newMode.flags.testFlag .current then indexOf modes newMode else o.currentMode
    preferredMode :=
      if newMode.flags.testFlag .preferred then indexOf modes newMode else o.preferredMode
  }.sendModesInfo

def addMode (o : Output ρ) (size : QSize) (flags : ModeFlags) (refreshRate : ρ) :
    Option (Output ρ) := do
  let o ← o.takeFlag .current flags
  let o ← o.takeFlag .preferred flags
  match findMode o.modes size refreshRate with
  | some i => o.updateMode i flags
  | none => return o.appendMode ⟨flags, size, refreshRate⟩

/-- The window is resized to the current mode.  If it has another size, its
`widthChanged` and `heightChanged` follow as calls of their own. -/
def resizeWindow (o : Output ρ) : Option (Output ρ) :=
  match o.window with
  | none => some o
  | some window => do
    let mode ← qAt o.modes o.currentMode
    return { o with window := some { window with size := mode.size } }

/-- The second half of `setCurrentMode`, after the flag was removed from the
mode that was the current one. -/
def switchMode (o : Output ρ) (size : QSize) (refreshRate : ρ) : Option (Output ρ) := do
  match findMode o.modes size refreshRate with
  | some i =>
    let mode ← o.modes[i]?
    { o with
      modes := o.modes.set i { mode with flags := mode.flags.set .current }
      currentMode := i }.sendModesInfo.resizeWindow
  | none => o.resizeWindow

def setCurrentMode (o : Output ρ) (size : QSize) (refreshRate : ρ) : Option (Output ρ) :=
  if o.currentMode ≠ -1 then do
    let mode ← qAt o.modes o.currentMode
    if mode.matches size refreshRate then return o
    else
      let modes ← clearFlag o.modes o.currentMode .current
      { o with modes := modes }.switchMode size refreshRate
  else o.switchMode size refreshRate

def setCurrentModeId (o : Output ρ) (modeId : Int) : Option (Output ρ) :=
  if modeId = o.currentMode then some o
  else if modeId < 0 ∨ modeId ≥ o.modes.length then some o
  else do
    let mode ← qAt o.modes modeId
    o.setCurrentMode mode.size mode.refreshRate

/-- `Mode::Current | Mode::Preferred` -/
def fakeModeFlags : ModeFlags := (ModeFlags.set 0 .current).set .preferred

/-- A fake mode based on the window's size, if the size follows the window. -/
def addFakeMode (o : Output ρ) : Option (Output ρ) :=
  match o.window, o.sizeFollowsWindow with
  | some window, true =>
    { o with modes := [] }.addMode window.size fakeModeFlags window.screenRefreshRate
  | _, _ => some o

/-- `initialize` -/
def initializeOutput (o : Output ρ) : Option (Output ρ) :=
  o.addFakeMode.map fun o => { o with initialized := true }

/-- The current mode gets another size, if the size follows the window. -/
def resizeCurrentMode (o : Output ρ) (resize : QSize → QSize) : Option (Output ρ) :=
  if o.window.isNone ∨ o.sizeFollowsWindow = false ∨ o.currentMode < 0 then some o
  else do
    let mode ← qAt o.modes o.currentMode
    return { o with
      modes := o.modes.set o.currentMode.toNat { mode with size := resize mode.size } }.sendModesInfo

def handleSetWidth (o : Output ρ) (newWidth : Int) : Option (Output ρ) :=
  o.resizeCurrentMode fun size => { size with width := newWidth }

def handleSetHeight (o : Output ρ) (newHeight : Int) : Option (Output ρ) :=
  o.resizeCurrentMode fun size => { size with height := newHeight }

inductive Op (ρ : Type)
  | initializeOutput
  | addMode (size : QSize) (flags : ModeFlags) (refreshRate : ρ)
  | setCurrentMode (size : QSize) (refreshRate : ρ)
  | setCurrentModeId (modeId : Int)

def step (o : Output ρ) : Op ρ → Option (Output ρ)
  | .initializeOutput => o.initializeOutput
  | .addMode size flags refreshRate => o.addMode size flags refreshRate
  | .setCurrentMode size refreshRate => o.setCurrentMode size refreshRate
  | .setCurrentModeId modeId => o.setCurrentModeId modeId

/-! ## What is to be kept -/

/-- There is a mode of that size and rate. -/
def Known (o : Output ρ) (size : QSize) (refreshRate : ρ) : Prop :=
  ∃ mode ∈ o.modes, mode.matches size refreshRate = true

/-- The two records of the current and of the preferred mode agree, and each
mode is there once. -/
structure Consistent (o : Output ρ) : Prop where
  distinct : o.modes.Pairwise fun a b => a.matches b.size b.refreshRate = false
  marked : ∀ flag, Marked (·.flags.testFlag flag) o.modes (o.index flag)

/-- The call names a mode that the output does not have. -/
def NamesUnknown (o : Output ρ) : Op ρ → Prop
  | .setCurrentMode size refreshRate => ¬ o.Known size refreshRate
  | .setCurrentModeId modeId => modeId < 0 ∨ o.modes.length ≤ modeId
  | _ => False

structure Kept (o : Output ρ) (op : Op ρ) (o' : Output ρ) : Prop where
  consistent : o'.Consistent
  unknown : o.NamesUnknown op → o'.modes = o.modes ∧ o'.currentMode = o.currentMode

/-- A mode can be switched to: it exists, or there is nothing to switch from. -/
def CanSwitch (o : Output ρ) (size : QSize) (refreshRate : ρ) : Prop :=
  o.Known size refreshRate ∨ o.currentMode = -1 ∧ o.window = none

/-- The calls that keep the modes consistent. -/
def OpOk (o : Output ρ) : Op ρ → Prop
  | .initializeOutput => ∀ window, o.window = some window → o.sizeFollowsWindow = true →
      (∀ flag, o.index flag = -1) ∧
        (window.screenRefreshRate == window.screenRefreshRate) = true
  | .addMode size flags refreshRate =>
      match findMode o.modes size refreshRate with
      | some i => ∀ flag, (i : Int) = o.index flag → flags.testFlag flag = true
      | none => ∀ flag, flags.testFlag flag = true → (refreshRate == refreshRate) = true
  | .setCurrentMode size refreshRate => o.CanSwitch size refreshRate
  | .setCurrentModeId modeId => modeId ≠ o.currentMode → ∀ mode, qAt o.modes modeId = some mode →
      o.CanSwitch mode.size mode.refreshRate

/-! ## Lemmas about lists of modes -/

/-- What the modes are told apart by. -/
def keys (modes : List (Mode ρ)) : List (QSize × ρ) := modes.map fun m => (m.size, m.refreshRate)

section
variable {modes modes' : List (Mode ρ)} {mode : Mode ρ} {size : QSize} {refreshRate : ρ} {i : Int}
  {k : Nat} {flag : ModeFlag}

section
omit [BEq ρ]

theorem keys_set (h : modes[k]? = some mode) (flags : ModeFlags) :
    keys (modes.set k { mode with flags := flags }) = keys modes := by
  unfold keys
  rw [List.map_set]
  refine List.ext_getElem? fun n => ?_
  rw [List.getElem?_set]
  split
  · next hn =>
    subst hn
    rw [List.getElem?_map, h, List.length_map]
    split
    · rfl
    · next hlen => exact absurd (List.getElem?_eq_some_iff.1 h).1 hlen
  · rfl

theorem clearFlag_eq (h : IndexOrNone modes i) (hi : i ≠ -1) (flag : ModeFlag) :
    ∃ m, modes[i.toNat]? = some m ∧ (i.toNat : Int) = i ∧
      clearFlag modes i flag =
        some (modes.set i.toNat { m with flags := m.flags.clear flag }) := by
  obtain ⟨m, hm, hcast⟩ := h.exists_getElem hi
  refine ⟨m, hm, hcast, ?_⟩
  unfold clearFlag
  rw [qAt_of_nonneg (by omega), hm]
  rfl

end

theorem findMode_congr (h : keys modes = keys modes') :
    findMode modes size refreshRate = findMode modes' size refreshRate := by
  have key : ∀ l : List (Mode ρ), findMode l size refreshRate =
      (keys l).findIdx? fun key => key.1 == size && key.2 == refreshRate := by
    intro l
    unfold keys findMode
    rw [List.findIdx?_map]
    rfl
  rw [key, key, h]

theorem pairwise_congr (h : keys modes = keys modes') :
    (modes.Pairwise fun a b => a.matches b.size b.refreshRate = false) ↔
      modes'.Pairwise fun a b => a.matches b.size b.refreshRate = false := by
  have key : ∀ l : List (Mode ρ), (l.Pairwise fun a b => a.matches b.size b.refreshRate = false) ↔
      (keys l).Pairwise fun a b => (a.1 == b.1 && a.2 == b.2) = false := by
    intro l
    unfold keys
    rw [List.pairwise_map]
    rfl
  rw [key, key, h]

theorem findMode_eq_none : findMode modes size refreshRate = none ↔
    ∀ m ∈ modes, m.matches size refreshRate = false := by
  simp [findMode, List.findIdx?_eq_none_iff]

theorem findMode_eq_some (h : findMode modes size refreshRate = some k) :
    ∃ m, modes[k]? = some m ∧ m.matches size refreshRate = true := by
  obtain ⟨hlt, hm, -⟩ := List.findIdx?_eq_some_iff_getElem.1 h
  exact ⟨modes[k], List.getElem?_eq_getElem hlt, hm⟩

/-- The appended mode is found, if it equals itself at all. -/
theorem indexOf_append (h : findMode modes mode.size mode.refreshRate = none) :
    indexOf (modes ++ [mode]) mode =
      if mode.refreshRate == mode.refreshRate then (modes.length : Int) else -1 := by
  have hnone : modes.findIdx? (·.equals mode) = none := by
    rw [List.findIdx?_eq_none_iff]
    intro m hm
    have hne := findMode_eq_none.1 h m hm
    unfold Mode.matches at hne
    unfold Mode.equals
    rw [Bool.and_assoc, hne, Bool.and_false]
  unfold indexOf
  rw [List.findIdx?_append, hnone]
  cases hr : mode.refreshRate == mode.refreshRate <;> simp [Mode.equals, hr]

end

/-! ## One call -/

section
variable {o o' : Output ρ} {flag g : ModeFlag} {flags : ModeFlags} {size : QSize} {refreshRate : ρ}

section
omit [BEq ρ]

@[simp] theorem index_setIndex (o : Output ρ) (flag g : ModeFlag) (i : Int) :
    (o.setIndex flag i).index g = if g = flag then i else o.index g := by
  cases flag <;> cases g <;> rfl

@[simp] theorem modes_setIndex (o : Output ρ) (flag : ModeFlag) (i : Int) :
    (o.setIndex flag i).modes = o.modes := by
  cases flag <;> rfl

@[simp] theorem index_withModes (o : Output ρ) (modes : List (Mode ρ)) (g : ModeFlag) :
    ({ o with modes := modes } : Output ρ).index g = o.index g := by
  cases g <;> rfl

/-- Both indices are -1 or indices of modes. -/
def Valid (o : Output ρ) : Prop := ∀ g, IndexOrNone o.modes (o.index g)

/-- Mode `n` after the flag was taken from the mode that has it, if `flags` ask for it. -/
def strip (o : Output ρ) (flags : ModeFlags) (n : Nat) (flag : ModeFlag) (m : Mode ρ) : Mode ρ :=
  if o.index flag = n ∧ flags.testFlag flag = true then { m with flags := m.flags.clear flag } else m

theorem testFlag_strip (o : Output ρ) (flags : ModeFlags) (n : Nat) (flag g : ModeFlag) (m : Mode ρ) :
    (o.strip flags n flag m).flags.testFlag g = true ↔
      m.flags.testFlag g = true ∧ ¬ (g = flag ∧ o.index flag = n ∧ flags.testFlag flag = true) := by
  unfold strip
  split
  · next h =>
    have hg : (g = flag ∧ o.index flag = n ∧ flags.testFlag flag = true) ↔ flag = g :=
      ⟨fun h => h.1.symm, fun hg => ⟨hg.symm, h⟩⟩
    rw [hg]
    simp
  · next h => exact (and_iff_left fun hc => h hc.2).symm

theorem strip_key (o : Output ρ) (flags : ModeFlags) (n : Nat) (flag : ModeFlag) (m : Mode ρ) :
    (o.strip flags n flag m).size = m.size ∧
      (o.strip flags n flag m).refreshRate = m.refreshRate := by
  unfold strip
  split <;> exact ⟨rfl, rfl⟩

/-- What `takeFlag` does: the same modes in the same order, the flag nowhere if
another mode is to get it. -/
structure Took (o : Output ρ) (flag : ModeFlag) (flags : ModeFlags) (o' : Output ρ) : Prop where
  modes : ∀ n, o'.modes[n]? = o.modes[n]?.map (o.strip flags n flag)
  index : ∀ g, o'.index g = if g = flag ∧ flags.testFlag flag = true then -1 else o.index g
  outbox : o'.outbox = o.outbox

theorem takeFlag_spec (h : IndexOrNone o.modes (o.index flag)) (flags : ModeFlags) :
    ∃ o', o.takeFlag flag flags = some o' ∧ Took o flag flags o' := by
  unfold takeFlag
  split
  · next hflag =>
    obtain ⟨hi, hflag⟩ := hflag
    obtain ⟨m, hm, hcast, hclear⟩ := clearFlag_eq h hi flag
    rw [hclear]
    refine ⟨_, rfl, fun n => ?_, fun g => ?_, by cases flag <;> rfl⟩
    · rw [modes_setIndex, List.getElem?_set]
      unfold strip
      split
      · next hn =>
        subst hn
        rw [hm, if_pos (List.getElem?_eq_some_iff.1 hm).1, Option.map_some, if_pos ⟨hcast.symm, hflag⟩]
      · next hn =>
        have hne : ¬ (o.index flag = n ∧ flags.testFlag flag = true) := fun h => hn (by omega)
        simp [hne]
    · rw [index_setIndex, index_withModes]
      simp [hflag]
  · next hflag =>
    refine ⟨o, rfl, fun n => ?_, fun g => ?_, rfl⟩
    · have hne : ¬ (o.index flag = n ∧ flags.testFlag flag = true) := fun h =>
        hflag ⟨by rw [h.1]; omega, h.2⟩
      have hid : o.strip flags n flag = id := funext fun _ => if_neg hne
      rw [hid, Option.map_id]
      rfl
    · split
      · next hg =>
        obtain ⟨rfl, hg⟩ := hg
        by_contra hne
        exact hflag ⟨hne, hg⟩
      · rfl

theorem Took.keys (h : Took o flag flags o') : keys o'.modes = keys o.modes := by
  refine List.ext_getElem? fun n => ?_
  unfold Output.keys
  rw [List.getElem?_map, List.getElem?_map, h.modes, Option.map_map]
  congr 1
  funext m
  exact Prod.ext (strip_key ..).1 (strip_key ..).2

theorem Took.marked (h : Took o flag flags o')
    (hm : ∀ g, Marked (·.flags.testFlag g) o.modes (o.index g)) (g : ModeFlag) :
    Marked (·.flags.testFlag g) o'.modes (o'.index g) where
  valid := by
    have hlen := congrArg List.length h.keys
    have hv := (hm g).valid
    unfold Output.keys at hlen
    rw [List.length_map, List.length_map] at hlen
    rw [h.index]
    unfold IndexOrNone at hv ⊢
    rw [hlen]
    split
    · exact Or.inl rfl
    · exact hv
  has_iff n m' hn := by
    rw [h.modes] at hn
    obtain ⟨m, hmode, rfl⟩ := Option.map_eq_some_iff.1 hn
    rw [testFlag_strip, (hm g).has_iff n m hmode, h.index]
    by_cases hg : g = flag ∧ flags.testFlag flag = true
    · rw [if_pos hg, hg.1]
      have hflag := hg.2
      constructor
      · rintro ⟨hn, hne⟩
        exact absurd ⟨rfl, hn.symm, hflag⟩ hne
      · intro hn
        omega
    · rw [if_neg hg]
      exact and_iff_left fun hc => hg ⟨hc.1, hc.2.2⟩

theorem updateMode_spec {i : Nat} {m : Mode ρ} (h : o.modes[i]? = some m) (flags : ModeFlags) :
    ∃ o', o.updateMode i flags = some o' ∧ o'.modes = o.modes.set i { m with flags := flags } ∧
      (∀ g, o'.index g = if flags.testFlag g = true ∧ m.flags ≠ flags then (i : Int) else o.index g) ∧
      o'.outbox = if m.flags = flags then o.outbox else o.outbox ++ o'.modes := by
  unfold updateMode
  rw [h, Option.bind_eq_bind, Option.bind_some]
  by_cases hflags : m.flags ≠ flags
  · rw [if_pos hflags]
    refine ⟨_, rfl, rfl, fun g => ?_, (if_neg hflags).symm⟩
    cases g <;> simp [index, sendModesInfo, hflags]
  · rw [if_neg hflags]
    obtain rfl := not_not.1 hflags
    exact ⟨o, rfl, (set_eq_self h).symm, fun g => by simp, (if_pos rfl).symm⟩

/-- Resizing the window changes nothing else. -/
theorem resizeWindow_eq (h : o.resizeWindow = some o') :
    o'.modes = o.modes ∧ (∀ g, o'.index g = o.index g) ∧ o'.outbox = o.outbox := by
  unfold resizeWindow at h
  split at h
  · obtain rfl := Option.some.inj h
    exact ⟨rfl, fun _ => rfl, rfl⟩
  · rw [Option.bind_eq_bind, Option.bind_eq_some_iff] at h
    obtain ⟨m, -, hm⟩ := h
    obtain rfl := Option.some.inj hm
    exact ⟨rfl, fun g => by cases g <;> rfl, rfl⟩

theorem exists_resizeWindow {m : Mode ρ} (h : qAt o.modes o.currentMode = some m) :
    ∃ o', o.resizeWindow = some o' := by
  unfold resizeWindow
  split
  · exact ⟨_, rfl⟩
  · rw [h]
    exact ⟨_, rfl⟩

end

/-- An output whose modes lost the flags that `flags` ask for. -/
structure Taken (o : Output ρ) (flags : ModeFlags) (o' : Output ρ) : Prop where
  modes : ∀ n, o'.modes[n]? =
    o.modes[n]?.map fun m => o.strip flags n .preferred (o.strip flags n .current m)
  index : ∀ g, o'.index g = if flags.testFlag g = true then -1 else o.index g
  outbox : o'.outbox = o.outbox
  keys : Output.keys o'.modes = Output.keys o.modes
  marked : (∀ g, Marked (·.flags.testFlag g) o.modes (o.index g)) →
    ∀ g, Marked (·.flags.testFlag g) o'.modes (o'.index g)

/-- `addMode` takes the flags from other modes, then looks for the mode. -/
theorem addMode_spec (h : Valid o) (size : QSize) (flags : ModeFlags) (refreshRate : ρ) :
    ∃ o₂, Taken o flags o₂ ∧
      o.addMode size flags refreshRate =
        match findMode o.modes size refreshRate with
        | some i => o₂.updateMode i flags
        | none => some (o₂.appendMode ⟨flags, size, refreshRate⟩) := by
  obtain ⟨o₁, ho₁, h₁⟩ := takeFlag_spec (h .current) flags
  have hpreferred : o₁.index .preferred = o.index .preferred := (h₁.index _).trans (by simp)
  have hvalid₁ : IndexOrNone o₁.modes (o₁.index .preferred) := by
    have hlen := congrArg List.length h₁.keys
    unfold keys at hlen
    rw [List.length_map, List.length_map] at hlen
    have hv := h .preferred
    unfold IndexOrNone at hv ⊢
    rwa [hpreferred, hlen]
  obtain ⟨o₂, ho₂, h₂⟩ := takeFlag_spec hvalid₁ flags
  refine ⟨o₂, ⟨fun n => ?_, fun g => ?_, h₂.outbox.trans h₁.outbox, h₂.keys.trans h₁.keys,
    fun hm => h₂.marked (h₁.marked hm)⟩, ?_⟩
  · rw [h₂.modes, h₁.modes, Option.map_map]
    unfold strip
    rw [hpreferred]
    rfl
  · rw [h₂.index, h₁.index]
    cases g <;> simp
  · unfold addMode
    rw [ho₁, Option.bind_eq_bind, Option.bind_some, ho₂, Option.bind_some,
      findMode_congr (h₂.keys.trans h₁.keys)]
    rfl

theorem index_appendMode (o : Output ρ) (mode : Mode ρ) (g : ModeFlag) :
    (o.appendMode mode).index g =
      if mode.flags.testFlag g = true then indexOf (o.modes ++ [mode]) mode else o.index g := by
  cases g <;> rfl

theorem Consistent.valid (h : Consistent o) : Valid o := fun g => (h.marked g).valid

/-- Updating a mode, once its flags were taken from other modes. -/
theorem Taken.updateMode_keeps {o₂ : Output ρ} (htaken : Taken o flags o₂) (h : Consistent o) {i : Nat}
    (hfind : findMode o.modes size refreshRate = some i)
    (hok : ∀ g, (i : Int) = o.index g → flags.testFlag g = true) :
    ∃ o', o₂.updateMode i flags = some o' ∧ Consistent o' := by
  rw [← findMode_congr htaken.keys] at hfind
  obtain ⟨m, hm, -⟩ := findMode_eq_some hfind
  obtain ⟨o', ho', hmodes, hindex', -⟩ := updateMode_spec hm flags
  refine ⟨o', ho', ?_, fun g => ?_⟩
  · rw [hmodes]
    exact (pairwise_congr (keys_set hm flags)).2 ((pairwise_congr htaken.keys).2 h.distinct)
  · have hg := htaken.marked h.marked g
    rw [hmodes, hindex' g]
    rw [htaken.index g] at hg ⊢
    cases hflag : flags.testFlag g with
    | false =>
      simp only [hflag, Bool.false_eq_true, if_false, false_and] at hg ⊢
      refine hg.replace ⟨fun h => absurd h (by simp [hflag]), fun hi => ?_⟩
      rw [hok g hi] at hflag
      cases hflag
    | true =>
      simp only [hflag, if_true, true_and] at hg ⊢
      split
      · exact hg.mark (List.getElem?_eq_some_iff.1 hm).1 hflag
      · next hsame =>
        -- the mode cannot have had the flag: it was taken from the mode that has it
        exfalso
        have := (hg.has_iff i m hm).1 (by rw [not_not.1 hsame]; exact hflag)
        omega

/-- Appending a mode that is not there. -/
theorem Taken.appendMode_keeps {o₂ : Output ρ} (htaken : Taken o flags o₂) (h : Consistent o)
    (hfind : findMode o.modes size refreshRate = none)
    (hok : ∀ g, flags.testFlag g = true → (refreshRate == refreshRate) = true) :
    Consistent (o₂.appendMode ⟨flags, size, refreshRate⟩) := by
  rw [← findMode_congr htaken.keys] at hfind
  have hdistinct := (pairwise_congr htaken.keys).2 h.distinct
  refine ⟨?_, fun g => ?_⟩
  · refine List.pairwise_append.2 ⟨hdistinct, List.pairwise_singleton _ _, fun a ha b hb => ?_⟩
    obtain rfl := List.mem_singleton.1 hb
    exact findMode_eq_none.1 hfind a ha
  · have hg := htaken.marked h.marked g
    rw [index_appendMode, indexOf_append hfind]
    rw [htaken.index g] at hg ⊢
    cases hflag : flags.testFlag g with
    | false =>
      simp only [hflag, Bool.false_eq_true, if_false] at hg ⊢
      exact hg.append hflag
    | true =>
      simp only [hflag, if_true, hok g hflag] at hg ⊢
      exact hg.append_marked hflag

theorem addMode_keeps (h : Consistent o) (hok : OpOk o (.addMode size flags refreshRate)) :
    ∃ o', o.addMode size flags refreshRate = some o' ∧ Consistent o' := by
  obtain ⟨o₂, htaken, heq⟩ := addMode_spec h.valid size flags refreshRate
  rw [heq]
  simp only [OpOk] at hok
  split at hok
  · next i hfind => exact htaken.updateMode_keeps h hfind hok
  · next hfind => exact ⟨_, rfl, htaken.appendMode_keeps h hfind hok⟩

theorem opOk_addMode (h : Consistent o) (ho' : o.addMode size flags refreshRate = some o')
    (h' : Consistent o') : OpOk o (.addMode size flags refreshRate) := by
  obtain ⟨o₂, htaken, heq⟩ := addMode_spec h.valid size flags refreshRate
  have hindex := htaken.index
  have hkeys := htaken.keys
  rw [heq] at ho'
  simp only [OpOk]
  split
  · next i hfind =>
    rw [hfind] at ho'
    rw [← findMode_congr hkeys] at hfind
    obtain ⟨m, hm, -⟩ := findMode_eq_some hfind
    obtain ⟨o'', ho'', hmodes, hindex', -⟩ := updateMode_spec hm flags
    obtain rfl : o'' = o' := Option.some.inj (ho''.symm.trans ho')
    intro g hg
    by_contra hflag
    -- the index still names the mode, which lost the flag
    have hnew : o''.modes[i]? = some { m with flags := flags } := by
      rw [hmodes, List.getElem?_set_self (List.getElem?_eq_some_iff.1 hm).1]
    have := (h'.marked g).has_iff i _ hnew
    rw [hindex' g, if_neg (fun hc => hflag hc.1), hindex g, if_neg hflag] at this
    exact hflag (this.2 hg)
  · next hfind =>
    rw [hfind] at ho'
    rw [← findMode_congr hkeys] at hfind
    obtain rfl := Option.some.inj ho'
    intro g hflag
    by_contra hrate
    have hnew : (o₂.appendMode ⟨flags, size, refreshRate⟩).modes[o₂.modes.length]? =
        some ⟨flags, size, refreshRate⟩ := List.getElem?_concat_length
    have := ((h'.marked g).has_iff _ _ hnew).1 hflag
    rw [index_appendMode, if_pos hflag, indexOf_append hfind, if_neg hrate] at this
    omega

theorem known_iff : o.Known size refreshRate ↔ ∃ i, findMode o.modes size refreshRate = some i := by
  constructor
  · rintro ⟨m, hm, hmatch⟩
    cases hfind : findMode o.modes size refreshRate with
    | some i => exact ⟨i, rfl⟩
    | none =>
      rw [findMode_eq_none.1 hfind m hm] at hmatch
      cases hmatch
  · rintro ⟨i, hi⟩
    obtain ⟨m, hm, hmatch⟩ := findMode_eq_some hi
    exact ⟨m, List.mem_of_getElem? hm, hmatch⟩

/-- Switching to a mode that exists. -/
theorem switchMode_found {i : Nat} (hfind : findMode o.modes size refreshRate = some i) :
    ∃ o' m, o.switchMode size refreshRate = some o' ∧ o.modes[i]? = some m ∧
      o'.modes = o.modes.set i { m with flags := m.flags.set .current } ∧
      (∀ g, o'.index g = if g = .current then (i : Int) else o.index g) ∧
      o'.outbox = o.outbox ++ o'.modes := by
  obtain ⟨m, hm, -⟩ := findMode_eq_some hfind
  have hlt := (List.getElem?_eq_some_iff.1 hm).1
  unfold switchMode
  rw [hfind]
  simp only [hm, Option.bind_eq_bind, Option.bind_some]
  set o₁ : Output ρ := { o with
    modes := o.modes.set i { m with flags := m.flags.set .current }
    currentMode := i } with ho₁
  have hat : qAt o₁.sendModesInfo.modes o₁.sendModesInfo.currentMode =
      some { m with flags := m.flags.set .current } := by
    show qAt (o.modes.set i _) (i : Int) = _
    rw [qAt_of_nonneg (by omega), Int.toNat_natCast, List.getElem?_set_self hlt]
  obtain ⟨o', ho'⟩ := exists_resizeWindow hat
  obtain ⟨hmodes, hindex, houtbox⟩ := resizeWindow_eq ho'
  refine ⟨o', m, ho', rfl, hmodes, fun g => ?_, ?_⟩
  · rw [hindex]
    cases g <;> rfl
  · rw [houtbox, hmodes]
    rfl

/-- It keeps the modes consistent, if no mode is marked as the current one. -/
theorem switchMode_keeps {i : Nat} (hfind : findMode o.modes size refreshRate = some i)
    (hdistinct : o.modes.Pairwise fun a b => a.matches b.size b.refreshRate = false)
    (hcurrent : Marked (·.flags.testFlag .current) o.modes (-1))
    (hpreferred : Marked (·.flags.testFlag .preferred) o.modes o.preferredMode) :
    ∃ o', o.switchMode size refreshRate = some o' ∧ Consistent o' := by
  obtain ⟨o', m, ho', hm, hmodes, hindex, -⟩ := switchMode_found hfind
  refine ⟨o', ho', ?_, fun g => ?_⟩
  · rw [hmodes]
    exact (pairwise_congr (keys_set hm _)).2 hdistinct
  · rw [hmodes, hindex]
    cases g with
    | current => exact hcurrent.mark (List.getElem?_eq_some_iff.1 hm).1 (by simp)
    | preferred =>
      refine hpreferred.replace ?_
      rw [← hpreferred.has_iff i m hm]
      simp

theorem switchMode_not_found (hfind : findMode o.modes size refreshRate = none) :
    o.switchMode size refreshRate = o.resizeWindow := by
  unfold switchMode
  rw [hfind]

/-- The three ways through `setCurrentMode`. -/
theorem setCurrentMode_cases (h : Valid o) (size : QSize) (refreshRate : ρ) :
    (o.Known size refreshRate ∧ o.setCurrentMode size refreshRate = some o) ∨
    (o.currentMode = -1 ∧
      o.setCurrentMode size refreshRate = o.switchMode size refreshRate) ∨
    ∃ m, o.modes[o.currentMode.toNat]? = some m ∧ (o.currentMode.toNat : Int) = o.currentMode ∧
      o.setCurrentMode size refreshRate =
        ({ o with
            modes := o.modes.set o.currentMode.toNat
              { m with flags := m.flags.clear .current } } : Output ρ).switchMode size refreshRate := by
  unfold setCurrentMode
  split
  · next hc =>
    obtain ⟨m, hm, hcast, hclear⟩ := clearFlag_eq (h .current) hc .current
    simp only [index] at hm hcast hclear
    rw [qAt_of_nonneg (by omega), hm, Option.bind_eq_bind, Option.bind_some, hclear]
    split
    · next hmatch => exact Or.inl ⟨⟨m, List.mem_of_getElem? hm, hmatch⟩, rfl⟩
    · exact Or.inr (Or.inr ⟨m, rfl, hcast, rfl⟩)
  · next hc => exact Or.inr (Or.inl ⟨not_not.1 hc, rfl⟩)

theorem setCurrentMode_keeps (h : Consistent o) (hok : o.CanSwitch size refreshRate) :
    ∃ o', o.setCurrentMode size refreshRate = some o' ∧ Consistent o' ∧
      (¬ o.Known size refreshRate → o' = o) := by
  have hcurrent := h.marked .current
  simp only [index] at hcurrent
  by_cases hknown : o.Known size refreshRate
  · simp only [hknown, not_true_eq_false, false_implies, and_true]
    obtain ⟨i, hi⟩ := known_iff.1 hknown
    rcases setCurrentMode_cases h.valid size refreshRate with ⟨-, heq⟩ | ⟨hc, heq⟩ | ⟨m, hm, hcast, heq⟩
    · exact ⟨o, heq, h⟩
    · rw [heq]
      exact switchMode_keeps hi h.distinct (hc ▸ hcurrent) (h.marked .preferred)
    · have hkeys := keys_set hm (m.flags.clear .current)
      rw [heq]
      refine switchMode_keeps (i := i) ?_ ((pairwise_congr hkeys).2 h.distinct)
        (hcurrent.unmark hcast (by simp)) ((h.marked .preferred).replace ?_)
      · exact (findMode_congr hkeys).trans hi
      · rw [← (h.marked .preferred).has_iff _ m hm]
        simp
  · obtain ⟨hc, hwindow⟩ := hok.resolve_left hknown
    refine ⟨o, ?_, h, fun _ => rfl⟩
    have hfind : findMode o.modes size refreshRate = none := by
      by_contra hne
      exact hknown (known_iff.2 (Option.ne_none_iff_exists'.1 hne))
    unfold setCurrentMode
    rw [if_neg (not_not.2 hc), switchMode_not_found hfind]
    unfold resizeWindow
    rw [hwindow]

theorem canSwitch_of_consistent (h : Consistent o)
    (ho' : o.setCurrentMode size refreshRate = some o') (h' : Consistent o') :
    o.CanSwitch size refreshRate := by
  by_cases hknown : o.Known size refreshRate
  · exact Or.inl hknown
  have hfind : findMode o.modes size refreshRate = none := by
    by_contra hne
    exact hknown (known_iff.2 (Option.ne_none_iff_exists'.1 hne))
  rcases setCurrentMode_cases h.valid size refreshRate with ⟨hk, -⟩ | ⟨hc, heq⟩ | ⟨m, hm, hcast, heq⟩
  · exact absurd hk hknown
  · -- a window would be resized to mode -1
    refine Or.inr ⟨hc, ?_⟩
    rw [heq, switchMode_not_found hfind] at ho'
    unfold resizeWindow at ho'
    split at ho'
    · assumption
    · rw [hc] at ho'
      cases ho'
  · -- the current mode lost its flag
    rw [heq, switchMode_not_found (by rw [findMode_congr (keys_set hm _)]; exact hfind)] at ho'
    obtain ⟨hmodes, hindex, -⟩ := resizeWindow_eq ho'
    have hnew : o'.modes[o.currentMode.toNat]? = some { m with flags := m.flags.clear .current } := by
      rw [hmodes]
      exact List.getElem?_set_self (List.getElem?_eq_some_iff.1 hm).1
    have := ((h'.marked .current).has_iff _ _ hnew).2 (by rw [hindex]; exact hcast)
    simp at this

theorem testFlag_fakeModeFlags (g : ModeFlag) : fakeModeFlags.testFlag g = true := by
  cases g <;> decide

theorem addFakeMode_eq {window : QWindow ρ} (hw : o.window = some window)
    (hf : o.sizeFollowsWindow = true) :
    o.addFakeMode = ({ o with modes := [] } : Output ρ).addMode window.size fakeModeFlags
      window.screenRefreshRate := by
  unfold addFakeMode
  rw [hw, hf]

/-- The flag of the fake mode cannot be taken from a mode that is gone. -/
theorem addMode_nil_eq_none (flag : ModeFlag) (hflags : ∀ g, flags.testFlag g = true)
    (hmodes : o.modes = []) (hflag : o.index flag ≠ -1) : o.addMode size flags refreshRate = none := by
  have hfault : ∀ (o : Output ρ) (g : ModeFlag), o.modes = [] → o.index g ≠ -1 →
      o.takeFlag g flags = none := by
    intro o g hmodes hg
    unfold takeFlag clearFlag
    rw [if_pos ⟨hg, hflags g⟩, hmodes]
    unfold qAt
    split <;> rfl
  unfold addMode
  by_cases hc : o.index .current = -1
  · have hskip : o.takeFlag .current flags = some o := if_neg fun h => h.1 hc
    have hp : o.index .preferred ≠ -1 := by
      cases flag with
      | current => exact absurd hc hflag
      | preferred => exact hflag
    rw [hskip, Option.bind_eq_bind, Option.bind_some, hfault o _ hmodes hp]
    rfl
  · rw [hfault o _ hmodes hc]
    rfl

theorem consistent_initialized (o : Output ρ) (b : Bool) :
    Consistent { o with initialized := b } ↔ Consistent o := by
  have hindex : ∀ g, ({ o with initialized := b } : Output ρ).index g = o.index g := by
    intro g
    cases g <;> rfl
  constructor
  · exact fun h => ⟨h.distinct, fun g => hindex g ▸ h.marked g⟩
  · exact fun h => ⟨h.distinct, fun g => (hindex g).symm ▸ h.marked g⟩

theorem initializeOutput_keeps (h : Consistent o) (hok : OpOk o .initializeOutput) :
    ∃ o', o.initializeOutput = some o' ∧ Consistent o' := by
  have hfake : ∃ o', o.addFakeMode = some o' ∧ Consistent o' := by
    by_cases hw : ∃ window, o.window = some window ∧ o.sizeFollowsWindow = true
    · obtain ⟨window, hw, hf⟩ := hw
      obtain ⟨hindex, hrate⟩ := hok window hw hf
      rw [addFakeMode_eq hw hf]
      refine addMode_keeps ⟨List.Pairwise.nil, fun g => ?_⟩ fun _ _ => hrate
      rw [index_withModes, hindex g]
      exact Marked.nil
    · refine ⟨o, ?_, h⟩
      unfold addFakeMode
      split
      · next window hw' hf => exact absurd ⟨window, hw', hf⟩ hw
      · rfl
  obtain ⟨o', ho', h'⟩ := hfake
  exact ⟨_, by rw [initializeOutput, ho']; rfl, (consistent_initialized o' true).2 h'⟩

theorem opOk_initializeOutput (ho' : o.initializeOutput = some o') (h' : Consistent o') :
    OpOk o .initializeOutput := by
  intro window hw hf
  obtain ⟨o₁, ho₁, rfl⟩ := Option.map_eq_some_iff.1 ho'
  have h₁ := (consistent_initialized o₁ true).1 h'
  rw [addFakeMode_eq hw hf] at ho₁
  have hindex : ∀ g, o.index g = -1 := by
    intro g
    by_contra hg
    rw [addMode_nil_eq_none g testFlag_fakeModeFlags rfl (by rwa [index_withModes])] at ho₁
    cases ho₁
  refine ⟨hindex, ?_⟩
  have hempty : Consistent ({ o with modes := [] } : Output ρ) := by
    refine ⟨List.Pairwise.nil, fun g => ?_⟩
    rw [index_withModes, hindex g]
    exact Marked.nil
  exact opOk_addMode hempty ho₁ h₁ .current (testFlag_fakeModeFlags .current)

theorem kept_of_opOk (h : Consistent o) {op : Op ρ} (hok : OpOk o op) :
    ∃ o', o.step op = some o' ∧ Kept o op o' := by
  cases op with
  | initializeOutput =>
    obtain ⟨o', ho', h'⟩ := initializeOutput_keeps h hok
    exact ⟨o', ho', h', False.elim⟩
  | addMode size flags refreshRate =>
    obtain ⟨o', ho', h'⟩ := addMode_keeps h hok
    exact ⟨o', ho', h', False.elim⟩
  | setCurrentMode size refreshRate =>
    obtain ⟨o', ho', h', hsame⟩ := setCurrentMode_keeps h hok
    exact ⟨o', ho', h', fun hu => by rw [hsame hu]; exact ⟨rfl, rfl⟩⟩
  | setCurrentModeId modeId =>
    show ∃ o', o.setCurrentModeId modeId = some o' ∧ _
    unfold setCurrentModeId
    split
    · exact ⟨o, rfl, h, fun _ => ⟨rfl, rfl⟩⟩
    next hne =>
    split
    · exact ⟨o, rfl, h, fun _ => ⟨rfl, rfl⟩⟩
    next hrange =>
    have hlt : modeId.toNat < o.modes.length := by omega
    have hat : qAt o.modes modeId = some o.modes[modeId.toNat] := qAt_of_lt (by omega) hlt
    rw [hat, Option.bind_eq_bind, Option.bind_some]
    obtain ⟨o', ho', h', -⟩ := setCurrentMode_keeps h (hok hne _ hat)
    exact ⟨o', ho', h', fun hu => absurd hu (by simp only [NamesUnknown]; omega)⟩

theorem opOk_of_kept (h : Consistent o) {op : Op ρ} (ho' : o.step op = some o')
    (hk : Kept o op o') : OpOk o op := by
  cases op with
  | initializeOutput => exact opOk_initializeOutput ho' hk.consistent
  | addMode size flags refreshRate => exact opOk_addMode h ho' hk.consistent
  | setCurrentMode size refreshRate => exact canSwitch_of_consistent h ho' hk.consistent
  | setCurrentModeId modeId =>
    intro hne m hm
    have hrange : ¬ (modeId < 0 ∨ modeId ≥ o.modes.length) := by
      unfold qAt at hm
      split at hm
      · have := (List.getElem?_eq_some_iff.1 hm).1
        omega
      · cases hm
    replace ho' : o.setCurrentModeId modeId = some o' := ho'
    unfold setCurrentModeId at ho'
    rw [if_neg hne, if_neg hrange, hm, Option.bind_eq_bind, Option.bind_some] at ho'
    exact canSwitch_of_consistent h ho' hk.consistent

end

/-! ## Runs -/

theorem consistent_init (window : Option (QWindow ρ)) (sizeFollowsWindow : Bool) :
    Consistent (init window sizeFollowsWindow) :=
  ⟨List.Pairwise.nil, fun g => by cases g <;> exact Marked.nil⟩

/-- **The modes stay consistent, and unknown modes change nothing, in the runs
whose calls all meet `OpOk` and in no others.** -/
theorem modes_kept_iff (window : Option (QWindow ρ)) (sizeFollowsWindow : Bool) (ops : List (Op ρ)) :
    Run.Along step Kept (init window sizeFollowsWindow) ops ↔
      Run.Meets step OpOk (init window sizeFollowsWindow) ops := by
  apply Run.along_iff_meets (I := Consistent) _ _ _ ops _ (consistent_init window sizeFollowsWindow)
  · exact fun o op h hok => kept_of_opOk h hok
  · exact fun o op o' _ _ hk => hk.consistent
  · exact fun o op o' h ho' hk => opOk_of_kept h ho' hk

end Output

end

/-- The current mode is to be replaced by one the output does not have: it is
still the one `currentMode` names, and no longer has the flag. -/
theorem Output.modes_not_kept :
    ¬ Run.Along Output.step Output.Kept (Output.init none false : Output Nat)
      [.addMode ⟨800, 600⟩ 1 60, .setCurrentMode ⟨1024, 768⟩ 60] := by
  rintro ⟨_, ⟨⟩, -, _, ⟨⟩, hk, -⟩
  exact absurd ((hk.consistent.marked .current).has_iff 0 _ rfl) (by decide)

end GreenIsland.Server

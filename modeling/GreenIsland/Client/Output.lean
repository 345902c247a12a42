import Mathlib.Data.Rat.Defs
import Mathlib.Data.List.Basic
import GreenIsland.Lib.Run
import GreenIsland.Qt.Basic
import GreenIsland.Qt.ModeFlags

/-! The modes of an output on the client's side (`Output`).

`output_mode` receives one mode at a time.  A mode that is known already gets
the new flags; an unknown one is appended, and `currentMode` becomes an iterator
to it if it is the current one.

An append invalidates every iterator into the vector.  Here a vector counts its
appends, an iterator remembers the count it was made at, and reading through an
iterator that an append has outdated is a fault.

`size`, `geometry` and `refreshRate` are meant to be those of the last event
with the current flag (`Shows`).  They are exactly when each event meets
`EventOk` (`current_mode_shown_iff`): an event with an unknown mode has to be
current, since it outdates `currentMode`, and one with a known mode may be
current only if `currentMode` names it already, since it is not moved. -/

namespace GreenIsland.Client

/-! ## Model -/

structure QPoint where
  x : Int
  y : Int
deriving DecidableEq

structure QRect where
  topLeft : QPoint
  size : QSize
deriving DecidableEq

/-- `QSize()` -/
def invalidSize : QSize := ⟨-1, -1⟩

/-- `QRect()` -/
def nullRect : QRect := ⟨⟨0, 0⟩, ⟨0, 0⟩⟩

/-- A `wl_output.mode` event. -/
structure ModeEvent where
  flags : ModeFlags
  width : Int
  height : Int
  refresh : Int
deriving DecidableEq

/-- The refresh rate is a whole number of mHz divided by 1000: two of them are
the same `qreal` when they are the same number. -/
structure Mode where
  size : QSize
  refreshRate : ℚ
  flags : ModeFlags
deriving DecidableEq

/-- The mode that an event announces. -/
def ModeEvent.mode (event : ModeEvent) : Mode where
  size := ⟨event.width, event.height⟩
  refreshRate := (event.refresh : ℚ) / 1000
  flags := event.flags

/-- The comparison of `output_mode`. -/
def Mode.sameAs (m mode : Mode) : Bool := m.size == mode.size && m.refreshRate == mode.refreshRate

/-- A position in a vector, made when the vector had had `epoch` appends. -/
structure Iterator where
  epoch : Nat
  index : Nat
deriving DecidableEq

structure Output where
  position : QPoint
  modes : List Mode
  /-- how often `modes` was appended to -/
  epoch : Nat
  currentMode : Iterator
deriving DecidableEq

namespace Output

/-- The constructor: `currentMode` is `modes.end()`. -/
def init (position : QPoint) : Output where
  position := position
  modes := []
  epoch := 0
  currentMode := ⟨0, 0⟩

/-- `modes.end()` -/
def modesEnd (o : Output) : Iterator := ⟨o.epoch, o.modes.length⟩

def outputMode (o : Output) (event : ModeEvent) : Output :=
  let mode := event.mode
  -- update flags if the mode is already present
  let modes := o.modes.map fun m => if m.sameAs mode then { m with flags := mode.flags } else m
  if o.modes.any (·.sameAs mode) then { o with modes := modes }
  else
    let o := { o with modes := modes ++ [mode], epoch := o.epoch + 1 }
    if mode.flags.testFlag .current then { o with currentMode := ⟨o.epoch, modes.length⟩ } else o

/-- Reading through `currentMode`; the inner `none` is `modes.end()`. -/
def readCurrent (o : Output) : Option (Option Mode) :=
  if o.currentMode = o.modesEnd then some none
  else if o.currentMode.epoch = o.epoch then o.modes[o.currentMode.index]?.map some
  else none

def size (o : Output) : Option QSize :=
  o.readCurrent.map fun mode => mode.elim invalidSize Mode.size

def geometry (o : Output) : Option QRect :=
  o.readCurrent.map fun mode => mode.elim nullRect fun mode => ⟨o.position, mode.size⟩

def refreshRate (o : Output) : Option ℚ :=
  o.readCurrent.map fun mode => mode.elim 0 Mode.refreshRate

end Output

/-! ## The last current mode -/

/-- An output, and the last event that carried the current flag. -/
structure Announced where
  output : Output
  last : Option ModeEvent

namespace Announced

def init (position : QPoint) : Announced := ⟨Output.init position, none⟩

def step (s : Announced) (event : ModeEvent) : Option Announced :=
  some ⟨s.output.outputMode event, if event.flags.testFlag .current then some event else s.last⟩

/-- The accessors do not fault and give the mode of the last current event. -/
structure Shows (s : Announced) : Prop where
  size : s.output.size = some (s.last.elim invalidSize (·.mode.size))
  geometry : s.output.geometry =
    some (s.last.elim nullRect fun event => ⟨s.output.position, event.mode.size⟩)
  refreshRate : s.output.refreshRate = some (s.last.elim 0 (·.mode.refreshRate))

/-- The event leaves `currentMode` on the current mode. -/
def EventOk (s : Announced) (event : ModeEvent) : Prop :=
  if s.output.modes.any (·.sameAs event.mode) then
    event.flags.testFlag .current = true →
      ∃ m, s.output.modes[s.output.currentMode.index]? = some m ∧ m.sameAs event.mode = true
  else event.flags.testFlag .current = true

/-- `currentMode` is up to date and names the mode of the last current event. -/
structure Inv (s : Announced) : Prop where
  fresh : s.output.currentMode.epoch = s.output.epoch
  unset : s.last = none → s.output.modes = [] ∧ s.output.currentMode.index = 0
  current : ∀ event, s.last = some event →
    ∃ m, s.output.modes[s.output.currentMode.index]? = some m ∧ m.sameAs event.mode = true

theorem inv_init (position : QPoint) : Inv (init position) :=
  ⟨rfl, fun _ => ⟨rfl, rfl⟩, fun _ h => by cases h⟩

end Announced

/-! ## One event -/

theorem Mode.sameAs_iff {m mode : Mode} :
    m.sameAs mode = true ↔ m.size = mode.size ∧ m.refreshRate = mode.refreshRate := by
  simp [Mode.sameAs]

namespace Output

variable {o : Output} {event : ModeEvent}

theorem outputMode_known (h : o.modes.any (·.sameAs event.mode) = true) :
    o.outputMode event = { o with
      modes := o.modes.map fun m =>
        if m.sameAs event.mode then { m with flags := event.mode.flags } else m } :=
  if_pos h

theorem outputMode_unknown (h : ¬ o.modes.any (·.sameAs event.mode) = true) :
    o.outputMode event = { o with
      modes := o.modes ++ [event.mode]
      epoch := o.epoch + 1
      currentMode := if event.flags.testFlag .current then ⟨o.epoch + 1, o.modes.length⟩
        else o.currentMode } := by
  have hmap : (o.modes.map fun m =>
      if m.sameAs event.mode then { m with flags := event.mode.flags } else m) = o.modes := by
    rw [List.map_congr_left (g := id), List.map_id]
    intro m hm
    refine if_neg fun hsame => h ?_
    exact List.any_eq_true.2 ⟨m, hm, hsame⟩
  unfold outputMode
  simp only [if_neg h, hmap]
  show (if event.flags.testFlag .current = true then _ else _) = _
  split <;> rfl

/-- A position keeps its size and rate when flags are updated. -/
theorem getElem?_updated {m : Mode} {i : Nat} (mode : Mode) (flags : ModeFlags)
    (h : o.modes[i]? = some m) :
    ∃ m', (o.modes.map fun m => if m.sameAs mode then { m with flags := flags } else m)[i]? = some m' ∧
      m'.size = m.size ∧ m'.refreshRate = m.refreshRate := by
  refine ⟨if m.sameAs mode then { m with flags := flags } else m, ?_, ?_⟩
  · rw [List.getElem?_map, h]
    rfl
  · split <;> exact ⟨rfl, rfl⟩

theorem readCurrent_of_fresh {m : Mode} (hepoch : o.currentMode.epoch = o.epoch)
    (hm : o.modes[o.currentMode.index]? = some m) : o.readCurrent = some (some m) := by
  have hlt := (List.getElem?_eq_some_iff.1 hm).1
  have hne : o.currentMode ≠ o.modesEnd := by
    intro h
    rw [h] at hlt
    exact lt_irrefl _ hlt
  unfold readCurrent
  rw [if_neg hne, if_pos hepoch, hm]
  rfl

/-- An outdated iterator is not `end()`, and nothing can be read through it. -/
theorem readCurrent_of_outdated (h : o.currentMode.epoch ≠ o.epoch) : o.readCurrent = none := by
  have hne : o.currentMode ≠ o.modesEnd := by
    intro heq
    exact h (by rw [heq]; rfl)
  unfold readCurrent
  rw [if_neg hne, if_neg h]

end Output

namespace Announced

variable {s s' : Announced} {event : ModeEvent}

theorem Inv.shows (h : Inv s) : Shows s := by
  cases hlast : s.last with
  | none =>
    obtain ⟨hmodes, hindex⟩ := h.unset hlast
    have hend : s.output.currentMode = s.output.modesEnd := by
      rw [Output.modesEnd, hmodes, ← h.fresh, List.length_nil, ← hindex]
    have hread : s.output.readCurrent = some none := if_pos hend
    constructor <;> simp [Output.size, Output.geometry, Output.refreshRate, hread, hlast]
  | some event =>
    obtain ⟨m, hm, hsame⟩ := h.current event hlast
    obtain ⟨hsize, hrate⟩ := Mode.sameAs_iff.1 hsame
    have hread := Output.readCurrent_of_fresh h.fresh hm
    constructor <;>
      simp [Output.size, Output.geometry, Output.refreshRate, hread, hlast, hsize, hrate]

theorem Inv.step (h : Inv s) (hok : EventOk s event) (hs : s.step event = some s') :
    Inv s' := by
  obtain rfl := Option.some.inj hs
  unfold EventOk at hok
  split at hok
  · next hknown =>
    simp only [Output.outputMode_known hknown]
    have hkept : ∀ event' : ModeEvent, (∃ m, s.output.modes[s.output.currentMode.index]? = some m ∧
          m.sameAs event'.mode = true) →
        ∃ m, (s.output.modes.map fun m => if m.sameAs event.mode then
            { m with flags := event.mode.flags } else m)[s.output.currentMode.index]? = some m ∧
          m.sameAs event'.mode = true := by
      rintro event' ⟨m, hm, hsame⟩
      obtain ⟨m', hm', hsize, hrate⟩ := Output.getElem?_updated event.mode event.mode.flags hm
      exact ⟨m', hm', by rw [Mode.sameAs_iff] at hsame ⊢; rwa [hsize, hrate]⟩
    refine ⟨h.fresh, fun hlast => ?_, fun event' hlast => ?_⟩
    · split at hlast
      · cases hlast
      · obtain ⟨hmodes, hindex⟩ := h.unset hlast
        rw [hmodes] at hknown
        cases hknown
    · split at hlast
      · next hcur =>
        obtain rfl := Option.some.inj hlast
        exact hkept _ (hok hcur)
      · exact hkept _ (h.current event' hlast)
  · next hunknown =>
    simp only [Output.outputMode_unknown hunknown, if_pos hok]
    refine ⟨rfl, fun hlast => (by cases hlast), fun event' hlast => ?_⟩
    obtain rfl := Option.some.inj hlast
    exact ⟨event.mode, List.getElem?_concat_length, Mode.sameAs_iff.2 ⟨rfl, rfl⟩⟩

/-- Whatever shows the right mode met its condition. -/
theorem eventOk_of_shows (h : Inv s) (hs : s.step event = some s') (hshows : Shows s') :
    EventOk s event := by
  obtain rfl := Option.some.inj hs
  have hsize := hshows.size
  have hrate := hshows.refreshRate
  unfold EventOk
  split
  · next hknown =>
    intro hcur
    cases hlast : s.last with
    | none =>
      rw [(h.unset hlast).1] at hknown
      cases hknown
    | some event' =>
      obtain ⟨m, hm, -⟩ := h.current event' hlast
      obtain ⟨m', hm', hsize', hrate'⟩ :=
        Output.getElem?_updated event.mode event.mode.flags hm
      have hread : (s.output.outputMode event).readCurrent = some (some m') := by
        rw [Output.outputMode_known hknown]
        refine Output.readCurrent_of_fresh ?_ ?_
        · exact h.fresh
        · exact hm'
      simp only [Output.size, hread, Option.map_some, if_pos hcur, Option.elim_some] at hsize
      simp only [Output.refreshRate, hread, Option.map_some, if_pos hcur, Option.elim_some] at hrate
      refine ⟨m, hm, Mode.sameAs_iff.2 ⟨?_, ?_⟩⟩
      · rw [← hsize']
        exact Option.some.inj hsize
      · rw [← hrate']
        exact Option.some.inj hrate
  · next hunknown =>
    -- a mode that is appended and not current outdates the iterator
    by_contra hcur
    have hread : (s.output.outputMode event).readCurrent = none := by
      apply Output.readCurrent_of_outdated
      rw [Output.outputMode_unknown hunknown, if_neg hcur, h.fresh]
      exact Nat.ne_of_lt (Nat.lt_succ_self _)
    simp only [Output.size, hread, Option.map_none] at hsize
    cases hsize

/-! ## Runs -/

/-- **The accessors show the mode of the last current event, after every event,
in the runs whose events all meet `EventOk` and in no others.** -/
theorem current_mode_shown_iff (position : QPoint) (events : List ModeEvent) :
    Run.Always step Shows (init position) events ↔ Run.Meets step EventOk (init position) events := by
  have hinit := inv_init position
  apply Run.always_iff_meets (I := Inv) _ _ _ events _ hinit.shows hinit
  · exact fun s event h hok => ⟨_, rfl, (h.step hok rfl).shows⟩
  · exact fun s event s' h hs hshows => h.step (eventOk_of_shows h hs hshows) hs
  · exact fun s event s' h hs hshows => eventOk_of_shows h hs hshows

/-- The output switches back to a mode it announced before: `currentMode` stays
on the other one. -/
theorem current_mode_not_shown :
    ¬ Run.Always step Shows (init ⟨0, 0⟩)
      [⟨1, 800, 600, 60000⟩, ⟨1, 1024, 768, 60000⟩, ⟨1, 800, 600, 60000⟩] := by
  rintro ⟨-, _, ⟨⟩, -, _, ⟨⟩, -, _, ⟨⟩, h, -⟩
  exact absurd h.size (by decide +kernel)

end Announced

end GreenIsland.Client

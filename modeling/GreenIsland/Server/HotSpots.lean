import GreenIsland.Lib.Run
import GreenIsland.Qt.Geometry

/-! Hot spots of an output (`WindowFilter` of quickoutput.cpp).

The filter looks at the mouse moves in the window of an output.  A pointer that is in
a corner for the second time within the push time triggers the hot spot of that
corner, unless the last one was triggered less than the threshold ago.

Two things go wrong.  The position of a move is relative to the window, and it is
compared with the geometry of the output, which is relative to the virtual desktop;
and the comparisons bound the position on one side only.  Times are what a timer
says that starts anew with each window, while the time of the last hot spot is kept
from the timer before: where the new timer says less than that, the unsigned
difference wraps around.

`hot_spots_ok_iff` says in which runs hot spots are triggered in the right places and
not too often.  The condition compares the place of a move with the geometry along
each axis (`AxisOk`), and its time with that of the last hot spot and of the last
window change (`TooEarly`).  With an output at the origin and a pointer within its
window the place is right (`placeOk_of_origin`), and with a single window the time is
(`not_tooEarly_of_le`). -/

namespace GreenIsland.Server

/-! ## Model -/

inductive HotSpot
  | topLeftHotSpot
  | topRightHotSpot
  | bottomLeftHotSpot
  | bottomRightHotSpot
deriving DecidableEq, Repr

/-- What the filter reads of a `QuickOutput`. -/
structure HotSpotOutput where
  geometry : QRect
  hotSpotSize : QSize
  hotSpotThreshold : UInt64
  hotSpotPushTime : UInt64
deriving DecidableEq, Repr

/-- `Win` are the windows. -/
structure WindowFilter (Win : Type) where
  quickWindow : Option Win
  /-- when `timer` was started -/
  timer : Nat
  hotSpotLastTime : UInt64
  hotSpotEntered : UInt64
deriving DecidableEq, Repr

inductive FilteredEvent
  | mouseMove (localPos : QPointF)
  | other
deriving DecidableEq, Repr

namespace WindowFilter

variable {Win : Type}

def init : WindowFilter Win := ⟨none, 0, 0, 0⟩

/-- The slot of `windowChanged`; `now` is the time in milliseconds. -/
def windowChanged (f : WindowFilter Win) (now : Nat) (window : Option Win) : WindowFilter Win :=
  let f := { f with quickWindow := none }
  match window with
  | some window => { f with quickWindow := some window, timer := now }
  | none => f

/-- `timer.elapsed()`, as it enters the subtractions. -/
def time (f : WindowFilter Win) (now : Nat) : UInt64 := UInt64.ofNat (now - f.timer)

/-- Which hot spot was triggered. -/
def hotSpotAt (r : QRect) (size : QSize) (pt : QPoint) : Option HotSpot :=
  let w := size.width
  let h := size.height
  if pt.x ≤ r.left + w ∧ pt.y ≤ r.top + h then some .topLeftHotSpot
  else if pt.x ≥ r.right - w ∧ pt.y ≤ r.top + h then some .topRightHotSpot
  else if pt.x ≤ r.left + w ∧ pt.y ≥ r.bottom - h then some .bottomLeftHotSpot
  else if pt.x ≥ r.right - w ∧ pt.y ≥ r.bottom - h then some .bottomRightHotSpot
  else none

section
variable [DecidableEq Win]

def eventFilter (o : HotSpotOutput) (f : WindowFilter Win) (now : Nat) (object : Win)
    (event : FilteredEvent) : WindowFilter Win × Option HotSpot :=
  if f.quickWindow ≠ some object then (f, none)
  else
    match event with
    | .other => (f, none)
    | .mouseMove localPos =>
      let pt := localPos.toPoint
      let time := f.time now
      if time - f.hotSpotLastTime ≥ o.hotSpotThreshold then
        match hotSpotAt o.geometry o.hotSpotSize pt with
        | none => ({ f with hotSpotEntered := 0 }, none)
        | some hotSpot =>
          if f.hotSpotEntered = 0 then ({ f with hotSpotEntered := time }, none)
          else if time - f.hotSpotEntered < o.hotSpotPushTime then
            ({ f with hotSpotLastTime := time }, some hotSpot)
          else (f, none)
      else (f, none)

end

end WindowFilter

/-! ## Runs -/

inductive HotSpotInput (Win : Type)
  | windowChanged (window : Option Win)
  | event (object : Win) (event : FilteredEvent)
deriving DecidableEq, Repr

/-- The filter, the time in milliseconds, and the hot spots that were triggered with
their times. -/
structure HotSpots (Win : Type) where
  filter : WindowFilter Win
  now : Nat
  triggered : List (HotSpot × Nat)
deriving DecidableEq, Repr

namespace HotSpots

open WindowFilter

variable {Win : Type}

def init : HotSpots Win := ⟨WindowFilter.init, 0, []⟩

section
variable [DecidableEq Win]

/-- An input, some time after the one before; times are nonnegative numbers of a
`qint64`. -/
def step (o : HotSpotOutput) (s : HotSpots Win) (op : Nat × HotSpotInput Win) : HotSpots Win :=
  let now := s.now + op.1
  if now < 2 ^ 63 then
    match op.2 with
    | .windowChanged window => { s with filter := s.filter.windowChanged now window, now := now }
    | .event object event =>
      let filtered := s.filter.eventFilter o now object event
      { filter := filtered.1
        now := now
        triggered := s.triggered ++ filtered.2.toList.map (·, now) }
  else s

end

/-! ## What is to hold -/

/-- The pointer is in the corner, `size` away from the edges at most. -/
def InHotSpot (r : QRect) (size : QSize) (p : QPoint) : HotSpot → Prop
  | .topLeftHotSpot =>
    (r.left ≤ p.x ∧ p.x ≤ r.left + size.width) ∧ (r.top ≤ p.y ∧ p.y ≤ r.top + size.height)
  | .topRightHotSpot =>
    (r.right - size.width ≤ p.x ∧ p.x ≤ r.right) ∧ (r.top ≤ p.y ∧ p.y ≤ r.top + size.height)
  | .bottomLeftHotSpot =>
    (r.left ≤ p.x ∧ p.x ≤ r.left + size.width) ∧ (r.bottom - size.height ≤ p.y ∧ p.y ≤ r.bottom)
  | .bottomRightHotSpot =>
    (r.right - size.width ≤ p.x ∧ p.x ≤ r.right) ∧ (r.bottom - size.height ≤ p.y ∧ p.y ≤ r.bottom)

instance (r : QRect) (size : QSize) (p : QPoint) (h : HotSpot) : Decidable (InHotSpot r size p h) := by
  cases h <;> unfold InHotSpot <;> infer_instance

/-- Where a position in the window of the output is in the virtual desktop. -/
def onDesktop (r : QRect) (pt : QPoint) : QPoint := ⟨r.left + pt.x, r.top + pt.y⟩

/-- **What is owed.**  A hot spot that an input triggers is one that the pointer is in,
and it comes at least the threshold after the one before. -/
def Right (o : HotSpotOutput) (s : HotSpots Win) (op : Nat × HotSpotInput Win)
    (s' : HotSpots Win) : Prop :=
  ∀ new, s'.triggered = s.triggered ++ new → ∀ h ∈ new,
    (∃ object localPos, op.2 = .event object (.mouseMove localPos) ∧
      InHotSpot o.geometry o.hotSpotSize (onDesktop o.geometry localPos.toPoint) h.1) ∧
    ∀ last ∈ s.triggered.getLast?, last.2 + o.hotSpotThreshold.toNat ≤ h.2

/-- Along an axis of the virtual desktop on which the output goes from `lo` to `hi`, the
coordinate `p` of a move is taken for one near an edge. -/
def Near (lo hi d p : Int) : Prop := p ≤ lo + d ∨ hi - d ≤ p

/-- It is near that edge of the window, in which the output goes from 0 to `hi - lo`. -/
structure AxisOk (lo hi d p : Int) : Prop where
  low : p ≤ lo + d → 0 ≤ p ∧ p ≤ d
  high : lo + d < p → hi - d ≤ p → hi - lo - d ≤ p ∧ p ≤ hi - lo

/-- A position in the window is taken for one near an edge of either axis. -/
def NearCorner (o : HotSpotOutput) (pt : QPoint) : Prop :=
  Near o.geometry.left o.geometry.right o.hotSpotSize.width pt.x ∧
    Near o.geometry.top o.geometry.bottom o.hotSpotSize.height pt.y

/-- It is near those edges of the window. -/
def PlaceOk (o : HotSpotOutput) (pt : QPoint) : Prop :=
  AxisOk o.geometry.left o.geometry.right o.hotSpotSize.width pt.x ∧
    AxisOk o.geometry.top o.geometry.bottom o.hotSpotSize.height pt.y

/-- A move in the filter's window.  It has seen the pointer in a corner less than the
push time ago, and the threshold has passed since the last hot spot; both are
differences of unsigned numbers, which may wrap around. -/
structure Armed (o : HotSpotOutput) (f : WindowFilter Win) (elapsed : Nat) (object : Win) : Prop where
  window : f.quickWindow = some object
  entered : f.hotSpotEntered ≠ 0
  pushed : if f.hotSpotEntered.toNat ≤ elapsed
    then elapsed < f.hotSpotEntered.toNat + o.hotSpotPushTime.toNat
    else elapsed + 2 ^ 64 < f.hotSpotEntered.toNat + o.hotSpotPushTime.toNat
  due : if f.hotSpotLastTime.toNat ≤ elapsed
    then f.hotSpotLastTime.toNat + o.hotSpotThreshold.toNat ≤ elapsed
    else f.hotSpotLastTime.toNat + o.hotSpotThreshold.toNat ≤ elapsed + 2 ^ 64

/-- The timer was started again after the last hot spot, so that it says less than it did
then, and the threshold has not passed since. -/
def TooEarly (o : HotSpotOutput) (s : HotSpots Win) (now : Nat) : Prop :=
  now - s.filter.timer < s.filter.hotSpotLastTime.toNat ∧
    ∃ last ∈ s.triggered.getLast?, now < last.2 + o.hotSpotThreshold.toNat

/-- **The condition.**  For moves that find the filter armed, and are taken for moves near
an edge of either axis. -/
def OpOk (o : HotSpotOutput) (s : HotSpots Win) (op : Nat × HotSpotInput Win) : Prop :=
  s.now + op.1 < 2 ^ 63 → ∀ object localPos, op.2 = .event object (.mouseMove localPos) →
    Armed o s.filter (s.now + op.1 - s.filter.timer) object → NearCorner o localPos.toPoint →
      PlaceOk o localPos.toPoint ∧ ¬ TooEarly o s (s.now + op.1)

/-! ## Places -/

/-- What is taken for a corner is taken for near an edge of either axis. -/
theorem hotSpotAt_ne_none_iff (o : HotSpotOutput) (pt : QPoint) :
    hotSpotAt o.geometry o.hotSpotSize pt ≠ none ↔ NearCorner o pt := by
  unfold hotSpotAt NearCorner Near
  dsimp only
  split
  · next h => exact iff_of_true (Option.some_ne_none _) (by omega)
  · split
    · next h => exact iff_of_true (Option.some_ne_none _) (by omega)
    · split
      · next h => exact iff_of_true (Option.some_ne_none _) (by omega)
      · split
        · next h => exact iff_of_true (Option.some_ne_none _) (by omega)
        · next h₁ h₂ h₃ h₄ => exact iff_of_false (not_not.2 rfl) (by omega)

/-- The pointer is in the corner that it is taken to be in if it is near the edges. -/
theorem inHotSpot_iff {o : HotSpotOutput} {pt : QPoint} {h : HotSpot}
    (hspot : hotSpotAt o.geometry o.hotSpotSize pt = some h) :
    InHotSpot o.geometry o.hotSpotSize (onDesktop o.geometry pt) h ↔ PlaceOk o pt := by
  have haxis : ∀ lo hi d p : Int, AxisOk lo hi d p ↔ (p ≤ lo + d → 0 ≤ p ∧ p ≤ d) ∧
      (lo + d < p → hi - d ≤ p → hi - lo - d ≤ p ∧ p ≤ hi - lo) :=
    fun _ _ _ _ => ⟨fun hok => ⟨hok.low, hok.high⟩, fun hok => ⟨hok.1, hok.2⟩⟩
  unfold PlaceOk
  rw [haxis, haxis]
  unfold hotSpotAt at hspot
  dsimp only at hspot
  split at hspot
  · next hcorner =>
    obtain rfl := Option.some.inj hspot
    simp only [InHotSpot, onDesktop]
    omega
  · split at hspot
    · next hcorner =>
      obtain rfl := Option.some.inj hspot
      simp only [InHotSpot, onDesktop]
      omega
    · split at hspot
      · next hcorner =>
        obtain rfl := Option.some.inj hspot
        simp only [InHotSpot, onDesktop]
        omega
      · split at hspot
        · next hcorner =>
          obtain rfl := Option.some.inj hspot
          simp only [InHotSpot, onDesktop]
          omega
        · cases hspot

/-- **At the origin.**  A pointer within the window is near the edges that it is taken to
be near. -/
theorem placeOk_of_origin {o : HotSpotOutput} {pt : QPoint} (hleft : o.geometry.left = 0)
    (htop : o.geometry.top = 0) (hx : 0 ≤ pt.x ∧ pt.x ≤ o.geometry.right)
    (hy : 0 ≤ pt.y ∧ pt.y ≤ o.geometry.bottom) : PlaceOk o pt := by
  refine ⟨⟨?_, ?_⟩, ?_, ?_⟩ <;> omega

/-! ## The filter -/

/-- The tests of the filter, but for that of the corner. -/
def Triggers (o : HotSpotOutput) (f : WindowFilter Win) (now : Nat) (object : Win) : Prop :=
  f.quickWindow = some object ∧ f.time now - f.hotSpotLastTime ≥ o.hotSpotThreshold ∧
    f.hotSpotEntered ≠ 0 ∧ f.time now - f.hotSpotEntered < o.hotSpotPushTime

section
variable [DecidableEq Win] (o : HotSpotOutput) (f : WindowFilter Win) (now : Nat) (object : Win)

/-- **When a hot spot is triggered.** -/
theorem eventFilter_triggers (event : FilteredEvent) (h : HotSpot) :
    (f.eventFilter o now object event).2 = some h ↔
      ∃ localPos, event = .mouseMove localPos ∧ Triggers o f now object ∧
        hotSpotAt o.geometry o.hotSpotSize localPos.toPoint = some h := by
  unfold eventFilter Triggers
  split
  · next hother =>
    refine iff_of_false (by simp) ?_
    rintro ⟨localPos, -, ⟨hwindow, -⟩, -⟩
    exact hother hwindow
  · next hwindow =>
    cases event with
    | other => simp
    | mouseMove localPos =>
      dsimp only
      split
      · next hdue =>
        cases hspot : hotSpotAt o.geometry o.hotSpotSize localPos.toPoint with
        | none => simp [hspot]
        | some spot =>
          dsimp only
          split
          · next hentered => simp [hentered]
          · next hentered =>
            split
            · next hpush => simp_all
            · next hpush => simp_all
      · next hdue => simp [hdue]

/-- The timer goes on, and the last time is that of the last hot spot. -/
theorem eventFilter_times (event : FilteredEvent) :
    (f.eventFilter o now object event).1.timer = f.timer ∧
      (f.eventFilter o now object event).1.hotSpotLastTime =
        if (f.eventFilter o now object event).2.isSome then f.time now else f.hotSpotLastTime := by
  unfold eventFilter
  split
  · exact ⟨rfl, rfl⟩
  · cases event with
    | other => exact ⟨rfl, rfl⟩
    | mouseMove localPos =>
      dsimp only
      split
      · split
        · exact ⟨rfl, rfl⟩
        · split
          · exact ⟨rfl, rfl⟩
          · split
            · exact ⟨rfl, rfl⟩
            · exact ⟨rfl, rfl⟩
      · exact ⟨rfl, rfl⟩

end

/-! ## Times -/

/-- The last hot spot is not later than the timer can tell. -/
structure Inv (s : HotSpots Win) : Prop where
  timer_le : s.filter.timer ≤ s.now
  last_le : ∀ last ∈ s.triggered.getLast?,
    last.2 ≤ s.filter.timer + s.filter.hotSpotLastTime.toNat

theorem inv_init : Inv (init : HotSpots Win) := ⟨Nat.le_refl 0, fun _ h => by cases h⟩

theorem toNat_time {f : WindowFilter Win} {now : Nat} (hnow : now < 2 ^ 63) :
    (f.time now).toNat = now - f.timer := by
  have hlt : now - f.timer < 2 ^ 64 := by omega
  exact Nat.mod_eq_of_lt hlt

/-- An unsigned difference. -/
theorem toNat_sub (a b : UInt64) : (a - b).toNat =
    if b.toNat ≤ a.toNat then a.toNat - b.toNat else a.toNat + 2 ^ 64 - b.toNat := by
  rw [UInt64.toNat_sub]
  have ha := a.toNat_lt
  have hb := b.toNat_lt
  split <;> omega

/-- The filter is armed when its tests say so. -/
theorem triggers_iff {o : HotSpotOutput} {f : WindowFilter Win} {now : Nat}
    {object : Win} (hnow : now < 2 ^ 63) :
    Triggers o f now object ↔ Armed o f (now - f.timer) object := by
  have htime := toNat_time (f := f) hnow
  have hdue : f.time now - f.hotSpotLastTime ≥ o.hotSpotThreshold ↔
      if f.hotSpotLastTime.toNat ≤ now - f.timer
      then f.hotSpotLastTime.toNat + o.hotSpotThreshold.toNat ≤ now - f.timer
      else f.hotSpotLastTime.toNat + o.hotSpotThreshold.toNat ≤ now - f.timer + 2 ^ 64 := by
    rw [ge_iff_le, UInt64.le_iff_toNat_le, toNat_sub, htime]
    have hlast := f.hotSpotLastTime.toNat_lt
    split <;> omega
  have hpushed : f.time now - f.hotSpotEntered < o.hotSpotPushTime ↔
      if f.hotSpotEntered.toNat ≤ now - f.timer
      then now - f.timer < f.hotSpotEntered.toNat + o.hotSpotPushTime.toNat
      else now - f.timer + 2 ^ 64 < f.hotSpotEntered.toNat + o.hotSpotPushTime.toNat := by
    rw [UInt64.lt_iff_toNat_lt, toNat_sub, htime]
    have hentered := f.hotSpotEntered.toNat_lt
    split <;> omega
  unfold Triggers
  rw [hdue, hpushed]
  exact ⟨fun ⟨h₁, h₂, h₃, h₄⟩ => ⟨h₁, h₃, h₄, h₂⟩, fun ⟨h₁, h₃, h₄, h₂⟩ => ⟨h₁, h₂, h₃, h₄⟩⟩

/-- Without a window change since the last hot spot, nothing comes too early. -/
theorem not_tooEarly_of_le {s : HotSpots Win} {o : HotSpotOutput} {now : Nat}
    (hle : s.filter.hotSpotLastTime.toNat ≤ now - s.filter.timer) : ¬ TooEarly o s now :=
  fun hearly => absurd hle (Nat.not_le.2 hearly.1)

/-- **The difference does not wrap around** unless the timer was started again: so an armed
filter triggers hot spots that are apart, if they do not come too early. -/
theorem Inv.not_tooEarly_iff {s : HotSpots Win} (h : Inv s) {o : HotSpotOutput} {d : Nat}
    {object : Win} (harmed : Armed o s.filter (s.now + d - s.filter.timer) object) :
    ¬ TooEarly o s (s.now + d) ↔
      ∀ last ∈ s.triggered.getLast?, last.2 + o.hotSpotThreshold.toNat ≤ s.now + d := by
  constructor
  · intro hnot last hlast
    by_contra hearly
    have hdue := harmed.due
    split at hdue
    · next hle =>
      have hbound := h.last_le last hlast
      have htimer := h.timer_le
      omega
    · next hlt => exact hnot ⟨Nat.not_le.1 hlt, last, hlast, Nat.not_le.1 hearly⟩
  · rintro hapart ⟨-, last, hlast, hearly⟩
    exact absurd (hapart last hlast) (Nat.not_le.2 hearly)

section
variable [DecidableEq Win] {o : HotSpotOutput} {s : HotSpots Win}

theorem Inv.step (h : Inv s) (op : Nat × HotSpotInput Win) : Inv (s.step o op) := by
  obtain ⟨d, input⟩ := op
  unfold HotSpots.step
  dsimp only
  split
  · next hnow =>
    have htimer := h.timer_le
    cases input with
    | windowChanged window =>
      cases window with
      | none => exact ⟨Nat.le_trans htimer (Nat.le_add_right _ _), h.last_le⟩
      | some window =>
        refine ⟨Nat.le_refl _, fun last hlast => ?_⟩
        have hbound := h.last_le last hlast
        show last.2 ≤ s.now + d + s.filter.hotSpotLastTime.toNat
        omega
    | event object event =>
      obtain ⟨htimer', hlast'⟩ := eventFilter_times o s.filter (s.now + d) object event
      constructor
      · show (s.filter.eventFilter o (s.now + d) object event).1.timer ≤ s.now + d
        rw [htimer']
        exact Nat.le_trans htimer (Nat.le_add_right _ _)
      · dsimp only
        rw [htimer', hlast']
        cases (s.filter.eventFilter o (s.now + d) object event).2 with
        | none =>
          rw [Option.toList_none, List.map_nil, List.append_nil]
          exact h.last_le
        | some spot =>
          intro last hlast
          rw [Option.toList_some, List.map_singleton, List.getLast?_concat] at hlast
          obtain rfl := Option.some.inj hlast
          show s.now + d ≤ s.filter.timer + (s.filter.time (s.now + d)).toNat
          rw [toNat_time hnow]
          omega
  · exact h

omit [DecidableEq Win] in
/-- What is owed for the hot spots that were added. -/
theorem right_iff {op : Nat × HotSpotInput Win} {s' : HotSpots Win} {new : List (HotSpot × Nat)}
    (hnew : s'.triggered = s.triggered ++ new) :
    Right o s op s' ↔ ∀ h ∈ new,
      (∃ object localPos, op.2 = .event object (.mouseMove localPos) ∧
        InHotSpot o.geometry o.hotSpotSize (onDesktop o.geometry localPos.toPoint) h.1) ∧
      ∀ last ∈ s.triggered.getLast?, last.2 + o.hotSpotThreshold.toNat ≤ h.2 := by
  constructor
  · exact fun h => h new hnew
  · intro h new' hnew'
    obtain rfl := List.append_cancel_left (hnew'.symm.trans hnew)
    exact h

/-- A move, or another event in a window. -/
theorem right_event_iff (h : Inv s) {d : Nat} (hnow : s.now + d < 2 ^ 63) (object : Win)
    (event : FilteredEvent) :
    Right o s (d, .event object event) (s.step o (d, .event object event)) ↔
      OpOk o s (d, .event object event) := by
  have hstep : (s.step o (d, .event object event)).triggered = s.triggered ++
      (s.filter.eventFilter o (s.now + d) object event).2.toList.map (·, s.now + d) := by
    unfold HotSpots.step
    dsimp only
    rw [if_pos hnow]
  have htriggers := eventFilter_triggers o s.filter (s.now + d) object event
  rw [right_iff hstep]
  cases hspot : (s.filter.eventFilter o (s.now + d) object event).2 with
  | none =>
    refine iff_of_true (fun _ hmem => by cases hmem) ?_
    rintro - object' localPos hinput harmed hcorner
    obtain ⟨rfl, rfl⟩ := HotSpotInput.event.inj hinput
    obtain ⟨spot, hspot'⟩ :=
      Option.ne_none_iff_exists'.1 ((hotSpotAt_ne_none_iff o _).2 hcorner)
    have hsome := (htriggers spot).2 ⟨localPos, rfl, (triggers_iff hnow).2 harmed, hspot'⟩
    rw [hspot] at hsome
    cases hsome
  | some spot =>
    obtain ⟨localPos, rfl, htests, hcorner⟩ := (htriggers spot).1 hspot
    have harmed := (triggers_iff hnow).1 htests
    have hplace := inHotSpot_iff hcorner
    have htime := h.not_tooEarly_iff harmed
    rw [Option.toList_some, List.map_singleton, List.forall_mem_singleton]
    constructor
    · rintro ⟨⟨_, _, hinput, hin⟩, hapart⟩ - _ _ hinput' - -
      obtain ⟨rfl, hmove⟩ := HotSpotInput.event.inj hinput
      obtain rfl := FilteredEvent.mouseMove.inj hmove
      obtain ⟨rfl, hmove'⟩ := HotSpotInput.event.inj hinput'
      obtain rfl := FilteredEvent.mouseMove.inj hmove'
      exact ⟨hplace.1 hin, htime.2 hapart⟩
    · intro hok
      have hsome : hotSpotAt o.geometry o.hotSpotSize localPos.toPoint ≠ none := by
        rw [hcorner]
        exact Option.some_ne_none spot
      have hnear := (hotSpotAt_ne_none_iff o _).1 hsome
      obtain ⟨hin, hlate⟩ := hok hnow object localPos rfl harmed hnear
      exact ⟨⟨object, localPos, rfl, hplace.2 hin⟩, htime.1 hlate⟩

/-- **One step.** -/
theorem right_step_iff (h : Inv s) (op : Nat × HotSpotInput Win) :
    Right o s op (s.step o op) ↔ OpOk o s op := by
  obtain ⟨d, input⟩ := op
  by_cases hnow : s.now + d < 2 ^ 63
  · cases input with
    | windowChanged window =>
      have hstep : (s.step o (d, .windowChanged window)).triggered = s.triggered ++ [] := by
        unfold HotSpots.step
        dsimp only
        rw [if_pos hnow, List.append_nil]
      rw [right_iff hstep]
      exact iff_of_true (fun _ hmem => by cases hmem) fun _ object localPos hinput => by cases hinput
    | event object event => exact right_event_iff h hnow object event
  · have hstep : (s.step o (d, input)).triggered = s.triggered ++ [] := by
      unfold HotSpots.step
      dsimp only
      rw [if_neg hnow, List.append_nil]
    rw [right_iff hstep]
    exact iff_of_true (fun _ hmem => by cases hmem) fun hlt => absurd hlt hnow

/-- **When hot spots are triggered right.**  In the runs in which every move that
triggers one meets the condition. -/
theorem hot_spots_ok_iff (o : HotSpotOutput) (ops : List (Nat × HotSpotInput Win)) :
    Run.Along (fun s op => some (step o s op)) (Right o) (init : HotSpots Win) ops ↔
      Run.Meets (fun s op => some (step o s op)) (OpOk o) init ops :=
  Run.along_iff_of_decides (I := Inv)
    (fun _ op h => Run.decides_total (right_step_iff h op) fun _ => h.step op) ops init inv_init

/-- An output to the right of and below another, with the default settings. -/
def lowerRight : HotSpotOutput := ⟨⟨⟨1920, 1080⟩, ⟨1920, 1080⟩⟩, ⟨5, 5⟩, 1000, 50⟩

/-- Two moves in the middle of it trigger a hot spot. -/
theorem hot_spots_ok_fails :
    ¬ Run.Along (fun s op => some (step lowerRight s op)) (Right lowerRight) (init : HotSpots Nat)
      [(0, .windowChanged (some 0)), (1000, .event 0 (.mouseMove ⟨960, 540⟩)),
        (10, .event 0 (.mouseMove ⟨961, 540⟩))] := by
  rintro ⟨s₁, hs₁, -, s₂, hs₂, -, s₃, hs₃, hright, -⟩
  obtain rfl := Option.some.inj hs₁
  obtain rfl := Option.some.inj hs₂
  obtain rfl := Option.some.inj hs₃
  obtain ⟨⟨_, _, hinput, hin⟩, -⟩ :=
    hright [(.topLeftHotSpot, 1010)] (by decide +kernel) _ (List.mem_singleton_self _)
  obtain ⟨-, hmove⟩ := HotSpotInput.event.inj hinput
  obtain rfl := FilteredEvent.mouseMove.inj hmove
  exact absurd hin (by decide +kernel)

/-- With a new window between, the corner of an output at the origin is triggered twice
within 40 milliseconds. -/
example :
    ([(0, .windowChanged (some 0)), (5000, .event 0 (.mouseMove ⟨2, 2⟩)),
      (10, .event 0 (.mouseMove ⟨1, 1⟩)), (10, .windowChanged (some 1)),
      (10, .event 1 (.mouseMove ⟨100, 100⟩)), (10, .event 1 (.mouseMove ⟨1, 1⟩)),
      (10, .event 1 (.mouseMove ⟨2, 1⟩))].foldl
      (step ⟨⟨⟨0, 0⟩, ⟨1920, 1080⟩⟩, ⟨5, 5⟩, 1000, 50⟩) (init : HotSpots Nat)).triggered =
    [(.topLeftHotSpot, 5010), (.topLeftHotSpot, 5050)] := by
  decide +kernel

end

end HotSpots

end GreenIsland.Server

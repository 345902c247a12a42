import Mathlib.Logic.Function.Basic
import GreenIsland.Lib.Keyed
import GreenIsland.Lib.Run

/-! Touch screens (`LibInputTouch`).

For each device there is a list of touch points, which the handlers of down,
motion and up edit and the handler of a frame hands to Qt; an up that leaves only
released points does so at once.  A point remembers which touch down made it.

Beside the code's list stand the contacts themselves (`Contact`), as the events
tell of them: where each one is, where the last report showed it, whether it was
lifted.  From this follows what a report has to contain (`ReportOk`): every
contact once, pressed the first time, then moved if it is elsewhere than in the
report before, stationary if not, and released in the end; and nothing else.

Along a run all reports are right if and only if each one is made in a state that
meets `OpOk` (`reports_ok_iff`): no contact ended or stood still before its first
report, the last motion of any other changed its position exactly if it is
elsewhere now, and no contact was cancelled or put down on a slot whose release
was still to be reported.  The handlers do not clear the list when contacts are
cancelled, and the state of a point that moved stays so until a motion repeats
its position. -/

namespace GreenIsland.Platform

/-! ## Model -/

inductive TouchPointState
  | pressed
  | moved
  | stationary
  | released
deriving DecidableEq, Repr

structure TouchPoint (Pos : Type) where
  id : Int
  state : TouchPointState
  /-- the centre of its area -/
  pos : Pos
  /-- the touch down that made it -/
  contact : Nat
deriving DecidableEq, Repr

inductive TouchSignal (Pos : Type)
  | touchEvent (touchPoints : List (TouchPoint Pos))
  | touchCancel (touchPoints : List (TouchPoint Pos))
deriving DecidableEq, Repr

/-- `State`, of one device. -/
structure TouchState (Pos : Type) where
  /-- there is a `QTouchDevice` -/
  touchDevice : Bool
  touchPoints : List (TouchPoint Pos)

inductive TouchEvent (Pos : Type)
  | registerDevice
  | down (slot : Int) (pos : Pos)
  | motion (slot : Int) (pos : Pos)
  | up (slot : Int)
  | cancel
  | frame

namespace TouchState

variable {Pos : Type}

def touchPointAt (s : TouchState Pos) (slot : Int) : Option (TouchPoint Pos) :=
  Keyed.find TouchPoint.id (max 0 slot) s.touchPoints

/-- Writes through the pointer that `touchPointAt` returned. -/
def edit (s : TouchState Pos) (slot : Int) (f : TouchPoint Pos → TouchPoint Pos) : TouchState Pos :=
  { s with touchPoints := Keyed.modify TouchPoint.id (max 0 slot) f s.touchPoints }

/-- What becomes of a point that was reported; `none` if it is removed. -/
def framed (tp : TouchPoint Pos) : Option (TouchPoint Pos) :=
  match tp.state with
  | .released => none
  | .pressed => some { tp with state := .stationary }
  | _ => some tp

def handleTouchFrame (s : TouchState Pos) : TouchState Pos × List (TouchSignal Pos) :=
  if s.touchDevice = false then (s, [])
  else if s.touchPoints.isEmpty then (s, [])
  else ({ s with touchPoints := s.touchPoints.filterMap framed }, [.touchEvent s.touchPoints])

def release (tp : TouchPoint Pos) : TouchPoint Pos := { tp with state := .released }

def handleTouchUp (s : TouchState Pos) (slot : Int) : TouchState Pos × List (TouchSignal Pos) :=
  match s.touchPointAt slot with
  | some _ =>
    let s := s.edit slot release
    if ∀ tp ∈ s.touchPoints, tp.state = .released then s.handleTouchFrame else (s, [])
  | none => (s, [])

/-- `contact` is the number of this event. -/
def handleTouchDown (s : TouchState Pos) (slot : Int) (pos : Pos) (contact : Nat) :
    TouchState Pos × List (TouchSignal Pos) :=
  match s.touchPointAt slot with
  | some _ => (s, [])
  | none => ({ s with touchPoints := s.touchPoints ++ [⟨max 0 slot, .pressed, pos, contact⟩] }, [])

section
variable [DecidableEq Pos]

def move (pos : Pos) (tp : TouchPoint Pos) : TouchPoint Pos :=
  if tp.pos ≠ pos then
    { tp with pos := pos, state := if tp.state ≠ .pressed then .moved else tp.state }
  else { tp with state := .stationary }

def handleTouchMotion (s : TouchState Pos) (slot : Int) (pos : Pos) :
    TouchState Pos × List (TouchSignal Pos) :=
  match s.touchPointAt slot with
  | some _ => (s.edit slot (move pos), [])
  | none => (s, [])

def handleTouchCancel (s : TouchState Pos) : TouchState Pos × List (TouchSignal Pos) :=
  if s.touchDevice then (s, [.touchCancel s.touchPoints]) else (s, [])

def registerDevice (s : TouchState Pos) : TouchState Pos := { s with touchDevice := true }

def handle (s : TouchState Pos) (contact : Nat) :
    TouchEvent Pos → TouchState Pos × List (TouchSignal Pos)
  | .registerDevice => (s.registerDevice, [])
  | .down slot pos => s.handleTouchDown slot pos contact
  | .motion slot pos => s.handleTouchMotion slot pos
  | .up slot => s.handleTouchUp slot
  | .cancel => s.handleTouchCancel
  | .frame => s.handleTouchFrame

end

end TouchState

/-! ## The contacts -/

/-- A contact that was not reported as released yet. -/
structure Contact (Pos : Type) where
  /-- the number of its touch down -/
  serial : Nat
  id : Int
  pos : Pos
  /-- where it was in the last report, if there was one with it -/
  shown : Option Pos
  isUp : Bool
  /-- a motion repeated its position before the first report -/
  stood : Bool
  /-- its last motion since the first report changed its position -/
  moved : Bool
deriving DecidableEq, Repr

namespace Contact

variable {Pos : Type} [DecidableEq Pos]

/-- It touches the slot. -/
def On (c : Contact Pos) (slot : Int) : Prop := c.id = max 0 slot ∧ c.isUp = false

instance (c : Contact Pos) (slot : Int) : Decidable (c.On slot) :=
  inferInstanceAs (Decidable (_ ∧ _))

def motion (c : Contact Pos) (pos : Pos) : Contact Pos :=
  if c.pos ≠ pos then { c with pos := pos, moved := true }
  else { c with moved := false, stood := c.stood || c.shown.isNone }

def lift (c : Contact Pos) : Contact Pos := { c with isUp := true }

/-- After a report. -/
def settled (c : Contact Pos) : Option (Contact Pos) :=
  if c.isUp then none
  else some { c with shown := some c.pos, moved := c.shown.isSome && c.moved }

/-- How it has to be reported. -/
def due (c : Contact Pos) : TouchPoint Pos where
  id := c.id
  pos := c.pos
  contact := c.serial
  state :=
    match c.shown with
    | none => .pressed
    | some pos => if c.isUp then .released else if c.pos ≠ pos then .moved else .stationary

/-- **When a contact is reported right.** -/
def Fine (c : Contact Pos) : Prop :=
  match c.shown with
  | none => c.isUp = false ∧ c.stood = false
  | some pos => c.isUp = false → (c.moved = true ↔ c.pos ≠ pos)

instance (c : Contact Pos) : Decidable c.Fine := by
  unfold Fine
  cases c.shown <;> infer_instance

/-- The contacts after an event. -/
def after (contacts : List (Contact Pos)) (serial : Nat) : TouchEvent Pos → List (Contact Pos)
  | .down slot pos => contacts ++ [⟨serial, max 0 slot, pos, none, false, false, false⟩]
  | .motion slot pos => contacts.map fun c => if c.On slot then c.motion pos else c
  | .up slot => contacts.map fun c => if c.On slot then c.lift else c
  | .cancel => []
  | .registerDevice => contacts
  | .frame => contacts

/-- What libinput delivers: a slot that is touched is not touched again, and only
such a slot moves or is lifted. -/
def Deliverable (contacts : List (Contact Pos)) : TouchEvent Pos → Prop
  | .down slot _ => ∀ c ∈ contacts, ¬ c.On slot
  | .motion slot _ => ∃ c ∈ contacts, c.On slot
  | .up slot => ∃ c ∈ contacts, c.On slot
  | _ => True

instance (contacts : List (Contact Pos)) (e : TouchEvent Pos) : Decidable (Deliverable contacts e) := by
  cases e <;> unfold Deliverable <;> infer_instance

/-- The event cancels contacts, or it puts one down where the release of another is
still to be reported. -/
def losing (contacts : List (Contact Pos)) : TouchEvent Pos → Bool
  | .down slot _ => contacts.any fun c => c.id = max 0 slot
  | .cancel => !contacts.isEmpty
  | _ => false

end Contact

/-- One device with what was reported of it and what happened on it. -/
structure TouchScreen (Pos : Type) where
  state : TouchState Pos
  signals : List (TouchSignal Pos)
  contacts : List (Contact Pos)
  /-- the number of events -/
  events : Nat
  /-- a losing event happened -/
  lost : Bool

namespace TouchScreen

variable {Pos : Type} [DecidableEq Pos]

def init : TouchScreen Pos := ⟨⟨false, []⟩, [], [], 0, false⟩

def isReport : TouchSignal Pos → Bool
  | .touchEvent _ => true
  | .touchCancel _ => false

def step (t : TouchScreen Pos) (e : TouchEvent Pos) : TouchScreen Pos :=
  if Contact.Deliverable t.contacts e then
    let handled := t.state.handle t.events e
    let contacts := Contact.after t.contacts t.events e
    { state := handled.1
      signals := t.signals ++ handled.2
      contacts := if handled.2.any isReport then contacts.filterMap Contact.settled else contacts
      events := t.events + 1
      lost := t.lost || Contact.losing t.contacts e }
  else t

end TouchScreen

/-- `LibInputTouch`, with the devices by name. -/
def LibInputTouch (Dev Pos : Type) : Type := Dev → TouchScreen Pos

namespace LibInputTouch

variable {Dev Pos : Type} [DecidableEq Dev] [DecidableEq Pos]

def init : LibInputTouch Dev Pos := fun _ => TouchScreen.init

/-- An event of a device. -/
def step (t : LibInputTouch Dev Pos) (op : Dev × TouchEvent Pos) : LibInputTouch Dev Pos :=
  Function.update t op.1 ((t op.1).step op.2)

end LibInputTouch

/-! ## What is to be reported -/

namespace TouchScreen

variable {Pos : Type}

section
variable [DecidableEq Pos]

/-- A report of the contacts. -/
structure ReportOk (contacts : List (Contact Pos)) (points : List (TouchPoint Pos)) : Prop where
  nodup : (points.map TouchPoint.id).Nodup
  sound : ∀ tp ∈ points, ∃ c ∈ contacts, tp = c.due
  complete : ∀ c ∈ contacts, c.due ∈ points

/-- What a step owes: the reports in it are right, and a frame with contacts in it
is reported. -/
def Reported (t : TouchScreen Pos) (e : TouchEvent Pos) (t' : TouchScreen Pos) : Prop :=
  ∃ new, t'.signals = t.signals ++ new ∧
    (∀ points, .touchEvent points ∈ new → ReportOk (Contact.after t.contacts t.events e) points) ∧
    (e = .frame → t.state.touchDevice = true → t.contacts ≠ [] → ∃ points, .touchEvent points ∈ new)

/-- The event makes a report. -/
def Reporting (t : TouchScreen Pos) : TouchEvent Pos → Prop
  | .frame => t.state.touchDevice = true ∧ t.state.touchPoints ≠ []
  | .up slot => (∃ c ∈ t.contacts, c.On slot) ∧ t.state.touchDevice = true ∧
      max 0 slot ∈ t.state.touchPoints.map TouchPoint.id ∧
      ∀ tp ∈ t.state.touchPoints, tp.id ≠ max 0 slot → tp.state = .released
  | _ => False

/-- **When a report is right.** -/
def OpOk (t : TouchScreen Pos) (e : TouchEvent Pos) : Prop :=
  t.Reporting e → t.lost = false ∧ ∀ c ∈ Contact.after t.contacts t.events e, c.Fine

end

/-! ## Points of contacts -/

/-- The point of a contact, as the code has it. -/
def point (c : Contact Pos) : TouchPoint Pos where
  id := c.id
  pos := c.pos
  contact := c.serial
  state :=
    if c.isUp then .released
    else if c.shown = none ∧ c.stood = false then .pressed
    else if c.moved then .moved
    else .stationary

theorem point_lift (c : Contact Pos) : point c.lift = TouchState.release (point c) := by
  simp [point, Contact.lift, TouchState.release]

/-- A report changes the point of a contact that was reported right as it changes
the contact. -/
theorem framed_point (c : Contact Pos) (hfine : c.Fine) :
    TouchState.framed (point c) = c.settled.map point := by
  rcases c with ⟨serial, id, pos, shown, isUp, stood, moved⟩
  rcases shown with _ | shown
  · obtain ⟨rfl, rfl⟩ : isUp = false ∧ stood = false := hfine
    rfl
  · cases isUp <;> cases moved <;> rfl

section
variable [DecidableEq Pos]

theorem point_eq_due_iff (c : Contact Pos) : point c = c.due ↔ c.Fine := by
  rcases c with ⟨serial, id, pos, shown, isUp, stood, moved⟩
  rcases shown with _ | shown
  · cases isUp <;> cases stood <;> cases moved <;> simp [point, Contact.due, Contact.Fine]
  · by_cases hpos : pos = shown
    · cases isUp <;> cases moved <;> simp [point, Contact.due, Contact.Fine, hpos]
    · cases isUp <;> cases moved <;> simp [point, Contact.due, Contact.Fine, hpos]

theorem point_motion (c : Contact Pos) (pos : Pos) (hdown : c.isUp = false) :
    point (c.motion pos) = TouchState.move pos (point c) := by
  rcases c with ⟨serial, id, pos', shown, isUp, stood, moved⟩
  obtain rfl : isUp = false := hdown
  by_cases hpos : pos' = pos
  · cases shown <;> cases stood <;> simp [point, Contact.motion, TouchState.move, hpos]
  · cases shown <;> cases stood <;> cases moved <;>
      simp [point, Contact.motion, TouchState.move, hpos]

end

/-! ## The invariant -/

section
variable {t : TouchScreen Pos}

/-- The points are those of the contacts. -/
def Matched (contacts : List (Contact Pos)) (points : List (TouchPoint Pos)) : Prop :=
  ∀ n, n ∈ points.map TouchPoint.contact ↔ n ∈ contacts.map Contact.serial

structure Inv (t : TouchScreen Pos) : Prop where
  nodup : (t.state.touchPoints.map TouchPoint.id).Nodup
  points_lt : ∀ n ∈ t.state.touchPoints.map TouchPoint.contact, n < t.events
  contacts_lt : ∀ n ∈ t.contacts.map Contact.serial, n < t.events
  tracked : t.lost = false → t.state.touchPoints = t.contacts.map point
  astray : t.lost = true → t.state.touchPoints ≠ [] ∧ ¬ Matched t.contacts t.state.touchPoints

theorem inv_init : Inv (init : TouchScreen Pos) where
  nodup := List.nodup_nil
  points_lt _ h := by cases h
  contacts_lt _ h := by cases h
  tracked _ := rfl
  astray h := by cases h

theorem Inv.mem_points_iff (h : Inv t) (hlost : t.lost = false) (k : Int) :
    k ∈ t.state.touchPoints.map TouchPoint.id ↔ ∃ c ∈ t.contacts, c.id = k := by
  rw [h.tracked hlost, List.map_map, List.mem_map]
  exact Iff.rfl

/-- The contact that touches a slot is the only one with the id of its point. -/
theorem modify_points {contacts : List (Contact Pos)} {slot : Int}
    {f : TouchPoint Pos → TouchPoint Pos} {g : Contact Pos → Contact Pos}
    (hnodup : ((contacts.map point).map TouchPoint.id).Nodup) (hon : ∃ c ∈ contacts, c.On slot)
    (hpoint : ∀ c, c.On slot → point (g c) = f (point c)) :
    Keyed.modify TouchPoint.id (max 0 slot) f (contacts.map point) =
      (contacts.map fun c => if c.On slot then g c else c).map point := by
  obtain ⟨c₀, hc₀, hid₀, hdown⟩ := hon
  rw [Keyed.modify_eq_map hnodup, List.map_map, List.map_map]
  rw [List.map_map] at hnodup
  refine List.map_congr_left fun c hc => ?_
  show (if c.id = max 0 slot then f (point c) else point c) = point (if c.On slot then g c else c)
  by_cases hc' : c.id = max 0 slot
  · obtain rfl : c = c₀ := List.inj_on_of_nodup_map hnodup hc hc₀ (hc'.trans hid₀.symm)
    have honc : c.On slot := ⟨hid₀, hdown⟩
    rw [if_pos hc', if_pos honc, hpoint c honc]
  · rw [if_neg hc', if_neg fun honc => hc' honc.1]

/-- Points and contacts are changed in the same way, wherever something touches
the slot. -/
theorem Inv.edited (h : Inv t) {slot : Int} {f : TouchPoint Pos → TouchPoint Pos}
    {g : Contact Pos → Contact Pos} (hon : ∃ c ∈ t.contacts, c.On slot)
    (hid : ∀ tp, (f tp).id = tp.id) (hcontact : ∀ tp, (f tp).contact = tp.contact)
    (hserial : ∀ c, (g c).serial = c.serial) (hpoint : ∀ c, c.On slot → point (g c) = f (point c))
    (signals : List (TouchSignal Pos)) :
    Inv ⟨t.state.edit slot f, signals, t.contacts.map fun c => if c.On slot then g c else c,
      t.events + 1, t.lost⟩ := by
  have hids : (t.state.edit slot f).touchPoints.map TouchPoint.id =
      t.state.touchPoints.map TouchPoint.id := Keyed.map_modify hid
  have hmade : (t.state.edit slot f).touchPoints.map TouchPoint.contact =
      t.state.touchPoints.map TouchPoint.contact := Keyed.map_modify hcontact
  have hserials : (t.contacts.map fun c => if c.On slot then g c else c).map Contact.serial =
      t.contacts.map Contact.serial := by
    rw [List.map_map]
    refine List.map_congr_left fun c _ => ?_
    show (if c.On slot then g c else c).serial = c.serial
    split
    · exact hserial c
    · rfl
  refine ⟨?_, ?_, ?_, fun hlost => ?_, fun hlost => ?_⟩
  · rw [hids]
    exact h.nodup
  · rw [hmade]
    exact fun n hn => Nat.lt_succ_of_lt (h.points_lt n hn)
  · rw [hserials]
    exact fun n hn => Nat.lt_succ_of_lt (h.contacts_lt n hn)
  · have hnodup := h.nodup
    show Keyed.modify TouchPoint.id (max 0 slot) f t.state.touchPoints = _
    rw [h.tracked hlost] at hnodup ⊢
    exact modify_points hnodup hon hpoint
  · obtain ⟨hne, hmatched⟩ := h.astray hlost
    refine ⟨fun hnil => hne ?_, fun hnew => hmatched fun n => ?_⟩
    · have hlength := congrArg List.length hids
      rw [hnil, List.map_nil, List.length_map] at hlength
      exact List.eq_nil_of_length_eq_zero hlength.symm
    · have hn := hnew n
      rwa [hmade, hserials] at hn

/-- A touch down whose slot has a point: the contact gets none. -/
theorem Inv.ignored (h : Inv t) {c : Contact Pos} (hserial : c.serial = t.events)
    (hid : c.id ∈ t.state.touchPoints.map TouchPoint.id) (signals : List (TouchSignal Pos)) :
    Inv ⟨t.state, signals, t.contacts ++ [c], t.events + 1, true⟩ := by
  refine ⟨h.nodup, fun n hn => Nat.lt_succ_of_lt (h.points_lt n hn), fun n hn => ?_, by rintro ⟨⟩,
    fun _ => ?_⟩
  · rw [List.map_append, List.mem_append, List.map_singleton, List.mem_singleton] at hn
    rcases hn with hn | rfl
    · exact Nat.lt_succ_of_lt (h.contacts_lt n hn)
    · rw [hserial]
      exact Nat.lt_succ_self _
  · refine ⟨fun hnil => ?_, fun hmatched => ?_⟩
    · rw [hnil] at hid
      cases hid
    · have hmem := (hmatched c.serial).2 (by simp)
      have hlt := h.points_lt _ hmem
      omega

/-- A touch down whose slot has none. -/
theorem Inv.added (h : Inv t) {c : Contact Pos} (hserial : c.serial = t.events)
    (hid : c.id ∉ t.state.touchPoints.map TouchPoint.id) (signals : List (TouchSignal Pos)) :
    Inv ⟨⟨t.state.touchDevice, t.state.touchPoints ++ [point c]⟩, signals, t.contacts ++ [c],
      t.events + 1, t.lost⟩ := by
  refine ⟨?_, fun n hn => ?_, fun n hn => ?_, fun hlost => ?_, fun hlost => ?_⟩
  · rw [List.map_append, List.map_singleton, ← List.concat_eq_append]
    exact h.nodup.concat hid
  · rw [List.map_append, List.mem_append, List.map_singleton, List.mem_singleton] at hn
    rcases hn with hn | rfl
    · exact Nat.lt_succ_of_lt (h.points_lt n hn)
    · show c.serial < t.events + 1
      omega
  · rw [List.map_append, List.mem_append, List.map_singleton, List.mem_singleton] at hn
    rcases hn with hn | rfl
    · exact Nat.lt_succ_of_lt (h.contacts_lt n hn)
    · show c.serial < t.events + 1
      omega
  · show t.state.touchPoints ++ [point c] = _
    rw [h.tracked hlost, List.map_append, List.map_singleton]
  · obtain ⟨-, hmatched⟩ := h.astray hlost
    have hne : t.state.touchPoints ++ [point c] ≠ [] :=
      List.append_ne_nil_of_right_ne_nil _ (List.cons_ne_nil _ _)
    refine ⟨hne, fun hnew => hmatched fun n => ?_⟩
    -- the new number is neither an old point's nor an old contact's
    have hn := hnew n
    simp only [List.map_append, List.mem_append, List.map_singleton, List.mem_singleton] at hn
    constructor
    · intro hpoint
      have hlt := h.points_lt n hpoint
      exact (hn.1 (Or.inl hpoint)).resolve_right (by omega)
    · intro hcontact
      have hlt := h.contacts_lt n hcontact
      have hne : n ≠ (point c).contact := by
        show n ≠ c.serial
        omega
      exact (hn.2 (Or.inl hcontact)).resolve_right hne

theorem Inv.cancelled (h : Inv t) (signals : List (TouchSignal Pos)) :
    Inv ⟨t.state, signals, [], t.events + 1, t.lost || !t.contacts.isEmpty⟩ := by
  refine ⟨h.nodup, fun n hn => Nat.lt_succ_of_lt (h.points_lt n hn), by rintro n ⟨⟩, fun hlost => ?_,
    fun hlost => ?_⟩
  · obtain ⟨hlost, hempty⟩ := Bool.or_eq_false_iff.1 hlost
    have hnil : t.contacts = [] := by simpa using hempty
    show t.state.touchPoints = _
    rw [h.tracked hlost, hnil, List.map_nil]
  · have hne : t.state.touchPoints ≠ [] := by
      rcases Bool.eq_false_or_eq_true t.lost with hbefore | hbefore
      · exact (h.astray hbefore).1
      · rw [h.tracked hbefore]
        rw [Bool.or_eq_true, hbefore] at hlost
        simpa using hlost
    refine ⟨hne, fun hmatched => ?_⟩
    obtain ⟨tp, htp⟩ := List.exists_mem_of_ne_nil _ hne
    exact absurd ((hmatched tp.contact).1 (List.mem_map_of_mem htp)) List.not_mem_nil

/-! ## Reports -/

/-- The device after a report. -/
def reporting (t : TouchScreen Pos) : TouchScreen Pos where
  state := { t.state with touchPoints := t.state.touchPoints.filterMap TouchState.framed }
  signals := t.signals ++ [.touchEvent t.state.touchPoints]
  contacts := t.contacts.filterMap Contact.settled
  events := t.events
  lost := t.lost

theorem map_filterMap_sublist {α β : Type} {f : α → Option α} {g : α → β}
    (h : ∀ x y, f x = some y → g y = g x) (l : List α) :
    List.Sublist ((l.filterMap f).map g) (l.map g) := by
  induction l with
  | nil => exact List.Sublist.slnil
  | cons x xs ih =>
    cases hf : f x with
    | none =>
      rw [List.filterMap_cons_none hf, List.map_cons]
      exact ih.cons _
    | some y =>
      rw [List.filterMap_cons_some hf, List.map_cons, List.map_cons, h x y hf]
      exact ih.cons_cons _

theorem Inv.reporting (h : Inv t) (hlost : t.lost = false) (hfine : ∀ c ∈ t.contacts, c.Fine) :
    Inv t.reporting := by
  have hframed : ∀ tp tp' : TouchPoint Pos, TouchState.framed tp = some tp' →
      tp'.id = tp.id ∧ tp'.contact = tp.contact := by
    rintro tp tp' htp
    unfold TouchState.framed at htp
    split at htp
    · cases htp
    all_goals
      obtain rfl := Option.some.inj htp
      exact ⟨rfl, rfl⟩
  have hsettled : ∀ c c' : Contact Pos, c.settled = some c' → c'.serial = c.serial := by
    intro c c' hc
    unfold Contact.settled at hc
    split at hc
    · cases hc
    · obtain rfl := Option.some.inj hc
      rfl
  have hids := map_filterMap_sublist (fun x y hxy => (hframed x y hxy).1) t.state.touchPoints
  have hmade := map_filterMap_sublist (fun x y hxy => (hframed x y hxy).2) t.state.touchPoints
  have hserials := map_filterMap_sublist hsettled t.contacts
  refine ⟨h.nodup.sublist hids, fun n hn => h.points_lt n (hmade.subset hn),
    fun n hn => h.contacts_lt n (hserials.subset hn), fun _ => ?_, fun hlost' => ?_⟩
  · show t.state.touchPoints.filterMap TouchState.framed = _
    rw [h.tracked hlost, List.filterMap_map]
    show _ = (t.contacts.filterMap Contact.settled).map point
    rw [List.map_filterMap]
    exact List.filterMap_congr fun c hc => framed_point c (hfine c hc)
  · rw [show t.lost = true from hlost'] at hlost
    cases hlost

theorem handleTouchFrame_of_points {s : TouchState Pos} (hdevice : s.touchDevice = true)
    (hpoints : s.touchPoints ≠ []) :
    s.handleTouchFrame = ({ s with touchPoints := s.touchPoints.filterMap TouchState.framed },
      [.touchEvent s.touchPoints]) := by
  unfold TouchState.handleTouchFrame
  rw [if_neg (by simp [hdevice]), if_neg (by simpa using hpoints)]

theorem handleTouchFrame_of_none {s : TouchState Pos}
    (hnone : ¬ (s.touchDevice = true ∧ s.touchPoints ≠ [])) : s.handleTouchFrame = (s, []) := by
  unfold TouchState.handleTouchFrame
  split
  · rfl
  · next hdevice =>
    split
    · rfl
    · next hpoints =>
      refine absurd ⟨by simpa using hdevice, by simpa using hpoints⟩ hnone

/-- A point that is not there is not written to. -/
theorem edit_of_none {s : TouchState Pos} {slot : Int} {f : TouchPoint Pos → TouchPoint Pos}
    (hnone : Keyed.find TouchPoint.id (max 0 slot) s.touchPoints = none) : s.edit slot f = s := by
  unfold TouchState.edit
  rw [Keyed.modify_eq_self (Keyed.find_eq_none.1 hnone)]

/-- All points are released after an up. -/
theorem released_iff (h : Inv t) (slot : Int) :
    (∀ tp ∈ (t.state.edit slot TouchState.release).touchPoints, tp.state = .released) ↔
      ∀ tp ∈ t.state.touchPoints, tp.id ≠ max 0 slot → tp.state = .released := by
  show (∀ tp ∈ Keyed.modify TouchPoint.id (max 0 slot) TouchState.release t.state.touchPoints, _) ↔ _
  rw [Keyed.modify_eq_map h.nodup, List.forall_mem_map]
  refine forall₂_congr fun tp _ => ?_
  split
  · next hid => exact iff_of_true rfl fun hne => absurd hid hne
  · next hid => exact ⟨fun hreleased _ => hreleased, fun hreleased => hreleased hid⟩

end

/-! ## One step -/

section
variable [DecidableEq Pos] {t : TouchScreen Pos} {e : TouchEvent Pos}

theorem ReportOk.matched {contacts : List (Contact Pos)} {points : List (TouchPoint Pos)}
    (h : ReportOk contacts points) : Matched contacts points := by
  intro n
  rw [List.mem_map, List.mem_map]
  constructor
  · rintro ⟨tp, htp, rfl⟩
    obtain ⟨c, hc, rfl⟩ := h.sound tp htp
    exact ⟨c, hc, rfl⟩
  · rintro ⟨c, hc, rfl⟩
    exact ⟨c.due, h.complete c hc, rfl⟩

/-- **When the list is a report of the contacts.** -/
theorem Inv.reportOk_iff (h : Inv t) :
    ReportOk t.contacts t.state.touchPoints ↔ t.lost = false ∧ ∀ c ∈ t.contacts, c.Fine := by
  constructor
  · intro hreport
    have hlost : t.lost = false := by
      rw [← Bool.not_eq_true]
      exact fun hlost => (h.astray hlost).2 hreport.matched
    refine ⟨hlost, fun c hc => (point_eq_due_iff c).1 ?_⟩
    have hpoint : point c ∈ t.state.touchPoints := by
      rw [h.tracked hlost]
      exact List.mem_map_of_mem hc
    exact List.inj_on_of_nodup_map h.nodup hpoint (hreport.complete c hc) rfl
  · rintro ⟨hlost, hfine⟩
    have hdue : t.state.touchPoints = t.contacts.map Contact.due := by
      rw [h.tracked hlost]
      exact List.map_congr_left fun c hc => (point_eq_due_iff c).2 (hfine c hc)
    refine ⟨h.nodup, fun tp htp => ?_, fun c hc => ?_⟩
    · rw [hdue] at htp
      obtain ⟨c, hc, rfl⟩ := List.mem_map.1 htp
      exact ⟨c, hc, rfl⟩
    · rw [hdue]
      exact List.mem_map_of_mem hc

/-- The list of points before a report that the event makes. -/
def noted (s : TouchState Pos) (contact : Nat) : TouchEvent Pos → TouchState Pos
  | .registerDevice => s.registerDevice
  | .down slot pos => (s.handleTouchDown slot pos contact).1
  | .motion slot pos => s.edit slot (TouchState.move pos)
  | .up slot => s.edit slot TouchState.release
  | .cancel => s
  | .frame => s

/-- The device before a report that the event makes. -/
def noting (t : TouchScreen Pos) (e : TouchEvent Pos) (new : List (TouchSignal Pos)) :
    TouchScreen Pos where
  state := noted t.state t.events e
  signals := t.signals ++ new
  contacts := Contact.after t.contacts t.events e
  events := t.events + 1
  lost := t.lost || Contact.losing t.contacts e

omit [DecidableEq Pos] in
/-- Whether a contact gets lost can be seen at the points. -/
theorem Inv.losing_down (h : Inv t) (slot : Int) (pos : Pos) :
    (t.lost || Contact.losing t.contacts (.down slot pos)) =
      (t.lost || decide (max 0 slot ∈ t.state.touchPoints.map TouchPoint.id)) := by
  cases hlost : t.lost with
  | true => rfl
  | false =>
    rw [Bool.false_or, Bool.false_or, Bool.eq_iff_iff, decide_eq_true_eq, h.mem_points_iff hlost]
    simp [Contact.losing]

omit [DecidableEq Pos] in
theorem Inv.down (h : Inv t) (slot : Int) (pos : Pos) (signals : List (TouchSignal Pos)) :
    Inv ⟨(t.state.handleTouchDown slot pos t.events).1, signals,
      t.contacts ++ [⟨t.events, max 0 slot, pos, none, false, false, false⟩], t.events + 1,
      t.lost || Contact.losing t.contacts (.down slot pos)⟩ := by
  let c : Contact Pos := ⟨t.events, max 0 slot, pos, none, false, false, false⟩
  rw [h.losing_down slot pos]
  unfold TouchState.handleTouchDown TouchState.touchPointAt
  cases hfind : Keyed.find TouchPoint.id (max 0 slot) t.state.touchPoints with
  | none =>
    have hid := Keyed.find_eq_none.1 hfind
    rw [decide_eq_false hid, Bool.or_false]
    exact h.added (c := c) rfl hid _
  | some tp =>
    have hid : max 0 slot ∈ t.state.touchPoints.map TouchPoint.id := by
      by_contra hid
      rw [Keyed.find_eq_none.2 hid] at hfind
      cases hfind
    rw [decide_eq_true hid, Bool.or_true]
    exact h.ignored (c := c) rfl hid _

/-- **Every event keeps the invariant**, as far as it makes no report. -/
theorem Inv.noting (h : Inv t) (hdeliverable : Contact.Deliverable t.contacts e)
    (new : List (TouchSignal Pos)) : Inv (t.noting e new) := by
  have hlater : ∀ signals, Inv ⟨t.state, signals, t.contacts, t.events + 1, t.lost⟩ := fun _ =>
    ⟨h.nodup, fun n hn => Nat.lt_succ_of_lt (h.points_lt n hn),
      fun n hn => Nat.lt_succ_of_lt (h.contacts_lt n hn), h.tracked, h.astray⟩
  cases e with
  | registerDevice =>
    have hkeep := hlater (t.signals ++ new)
    rw [← Bool.or_false t.lost] at hkeep
    exact ⟨hkeep.nodup, hkeep.points_lt, hkeep.contacts_lt, hkeep.tracked, hkeep.astray⟩
  | frame =>
    have hkeep := hlater (t.signals ++ new)
    rwa [← Bool.or_false t.lost] at hkeep
  | motion slot pos =>
    have hedited := h.edited hdeliverable (f := TouchState.move pos) (g := fun c => c.motion pos)
      (fun tp => by unfold TouchState.move; split <;> rfl)
      (fun tp => by unfold TouchState.move; split <;> rfl)
      (fun c => by unfold Contact.motion; split <;> rfl)
      (fun c hc => point_motion c pos hc.2) (t.signals ++ new)
    rwa [← Bool.or_false t.lost] at hedited
  | up slot =>
    have hedited := h.edited hdeliverable (f := TouchState.release) (g := Contact.lift)
      (fun _ => rfl) (fun _ => rfl) (fun _ => rfl) (fun c _ => point_lift c) (t.signals ++ new)
    rwa [← Bool.or_false t.lost] at hedited
  | cancel => exact h.cancelled _
  | down slot pos => exact h.down slot pos _

/-- What the handler does, in a step that makes a report. -/
theorem handle_of_reporting (h : Inv t) (hreporting : t.Reporting e) :
    t.state.handle t.events e =
      ({ noted t.state t.events e with
          touchPoints := (noted t.state t.events e).touchPoints.filterMap TouchState.framed },
        [.touchEvent (noted t.state t.events e).touchPoints]) := by
  cases e with
  | frame => exact handleTouchFrame_of_points hreporting.1 hreporting.2
  | up slot =>
    obtain ⟨-, hdevice, hid, hothers⟩ := hreporting
    show t.state.handleTouchUp slot = _
    unfold TouchState.handleTouchUp TouchState.touchPointAt
    cases hfind : Keyed.find TouchPoint.id (max 0 slot) t.state.touchPoints with
    | none => exact absurd hid (Keyed.find_eq_none.1 hfind)
    | some tp =>
      refine (if_pos ((released_iff h slot).2 hothers)).trans ?_
      refine handleTouchFrame_of_points hdevice fun hnil => ?_
      have hids : (t.state.edit slot TouchState.release).touchPoints.map TouchPoint.id =
          t.state.touchPoints.map TouchPoint.id := Keyed.map_modify fun _ => rfl
      rw [hnil] at hids
      rw [← hids] at hid
      cases hid
  | _ => exact hreporting.elim

omit [DecidableEq Pos] in
/-- An up that leaves a contact makes no report. -/
theorem handleTouchUp_of_not_reporting (h : Inv t) {slot : Int}
    (hdeliverable : Contact.Deliverable t.contacts (.up slot)) (hquiet : ¬ t.Reporting (.up slot)) :
    t.state.handleTouchUp slot = (t.state.edit slot TouchState.release, []) := by
  unfold TouchState.handleTouchUp TouchState.touchPointAt
  cases hfind : Keyed.find TouchPoint.id (max 0 slot) t.state.touchPoints with
  | none =>
    show (t.state, []) = (_, [])
    rw [edit_of_none hfind]
  | some tp =>
    show (if _ then _ else _) = _
    split
    · next hreleased =>
      refine handleTouchFrame_of_none fun hframe => hquiet ⟨hdeliverable, hframe.1, ?_, ?_⟩
      · by_contra hid
        rw [Keyed.find_eq_none.2 hid] at hfind
        cases hfind
      · exact (released_iff h slot).1 hreleased
    · rfl

/-- And in one that makes none. -/
theorem handle_of_not_reporting (h : Inv t) (hdeliverable : Contact.Deliverable t.contacts e)
    (hquiet : ¬ t.Reporting e) :
    ∃ new, t.state.handle t.events e = (noted t.state t.events e, new) ∧
      ∀ points, .touchEvent points ∉ new := by
  cases e with
  | registerDevice => exact ⟨[], rfl, fun _ => List.not_mem_nil⟩
  | frame => exact ⟨[], handleTouchFrame_of_none hquiet, fun _ => List.not_mem_nil⟩
  | down slot pos =>
    refine ⟨[], ?_, fun _ => List.not_mem_nil⟩
    show t.state.handleTouchDown slot pos t.events = ((t.state.handleTouchDown slot pos t.events).1, [])
    unfold TouchState.handleTouchDown
    cases t.state.touchPointAt slot <;> rfl
  | motion slot pos =>
    refine ⟨[], ?_, fun _ => List.not_mem_nil⟩
    show t.state.handleTouchMotion slot pos = (t.state.edit slot _, [])
    unfold TouchState.handleTouchMotion TouchState.touchPointAt
    cases hfind : Keyed.find TouchPoint.id (max 0 slot) t.state.touchPoints with
    | none =>
      show (t.state, []) = (_, [])
      rw [edit_of_none hfind]
    | some tp => rfl
  | cancel =>
    show ∃ new, t.state.handleTouchCancel = (t.state, new) ∧ _
    unfold TouchState.handleTouchCancel
    split
    · exact ⟨_, rfl, by simp⟩
    · exact ⟨_, rfl, fun _ => List.not_mem_nil⟩
  | up slot =>
    refine ⟨[], ?_, fun _ => List.not_mem_nil⟩
    exact handleTouchUp_of_not_reporting h hdeliverable hquiet

/-- An event that makes a report. -/
theorem step_decides_reporting (h : Inv t) (hdeliverable : Contact.Deliverable t.contacts e)
    (hreporting : t.Reporting e) :
    (Reported t e (t.step e) ↔ t.OpOk e) ∧ (t.OpOk e → Inv (t.step e)) := by
  have hnot : (t.lost || Contact.losing t.contacts e) = t.lost := by
    cases e with
    | frame => exact Bool.or_false _
    | up slot => exact Bool.or_false _
    | _ => exact hreporting.elim
  have hnoting := h.noting hdeliverable []
  have hstep : t.step e = (t.noting e []).reporting := by
    unfold step
    rw [if_pos hdeliverable, handle_of_reporting h hreporting]
    simp [TouchScreen.reporting, TouchScreen.noting, isReport]
  rw [hstep]
  have hreport := hnoting.reportOk_iff
  rw [show (t.noting e []).lost = t.lost from hnot] at hreport
  have hsignals : (t.noting e []).reporting.signals =
      t.signals ++ [.touchEvent (t.noting e []).state.touchPoints] := by
    simp [TouchScreen.reporting, TouchScreen.noting]
  refine ⟨?_, fun hok => ?_⟩
  · constructor
    · rintro ⟨new, hnew, hreports, -⟩ -
      rw [hsignals] at hnew
      obtain rfl := List.append_cancel_left hnew
      exact hreport.1 (hreports _ (List.mem_singleton_self _))
    · intro hok
      refine ⟨_, hsignals, fun points hpoints => ?_, fun _ _ _ => ⟨_, List.mem_singleton_self _⟩⟩
      rw [List.mem_singleton] at hpoints
      cases hpoints
      exact hreport.2 (hok hreporting)
  · obtain ⟨hlost, hfine⟩ := hok hreporting
    exact hnoting.reporting (hnot.trans hlost) hfine

/-- One that makes none. -/
theorem step_decides_quiet (h : Inv t) (hdeliverable : Contact.Deliverable t.contacts e)
    (hquiet : ¬ t.Reporting e) :
    (Reported t e (t.step e) ↔ t.OpOk e) ∧ (t.OpOk e → Inv (t.step e)) := by
  obtain ⟨new, hhandle, hsilent⟩ := handle_of_not_reporting h hdeliverable hquiet
  have hany : new.any isReport = false := by
    rw [List.any_eq_false]
    intro signal hsignal
    cases signal with
    | touchEvent points => exact absurd hsignal (hsilent points)
    | touchCancel points => exact Bool.false_ne_true
  have hstep : t.step e = t.noting e new := by
    unfold step
    rw [if_pos hdeliverable, hhandle]
    simp [TouchScreen.noting, hany]
  rw [hstep]
  refine ⟨iff_of_true ?_ fun hr => absurd hr hquiet, fun _ => h.noting hdeliverable new⟩
  refine ⟨new, rfl, fun points hpoints => absurd hpoints (hsilent points), ?_⟩
  rintro rfl hdevice hcontacts
  refine absurd ⟨hdevice, fun hnil => ?_⟩ hquiet
  rcases Bool.eq_false_or_eq_true t.lost with hlost | hlost
  · exact (h.astray hlost).1 hnil
  · rw [h.tracked hlost] at hnil
    exact hcontacts (List.map_eq_nil_iff.1 hnil)

/-- **One step.** -/
theorem step_decides (h : Inv t) (e : TouchEvent Pos) :
    (Reported t e (t.step e) ↔ t.OpOk e) ∧ (t.OpOk e → Inv (t.step e)) := by
  by_cases hdeliverable : Contact.Deliverable t.contacts e
  · by_cases hreporting : t.Reporting e
    · exact step_decides_reporting h hdeliverable hreporting
    · exact step_decides_quiet h hdeliverable hreporting
  · have hstep : t.step e = t := if_neg hdeliverable
    rw [hstep]
    refine ⟨iff_of_true ⟨[], (List.append_nil _).symm, by rintro _ ⟨⟩, ?_⟩ fun hreporting => ?_,
      fun _ => h⟩
    · rintro rfl
      exact absurd trivial hdeliverable
    · cases e with
      | frame => exact absurd trivial hdeliverable
      | up slot => exact absurd hreporting.1 hdeliverable
      | _ => exact hreporting.elim

end

end TouchScreen

/-! ## Results -/

namespace LibInputTouch

variable {Dev Pos : Type} [DecidableEq Dev] [DecidableEq Pos]

/-- **Touch screens over whole runs.**  On all devices every report is right if and
only if it is made in a state that meets `OpOk`. -/
theorem reports_ok_iff (ops : List (Dev × TouchEvent Pos)) :
    Run.Along (fun t op => some (step t op))
        (fun t op t' => TouchScreen.Reported (t op.1) op.2 (t' op.1)) init ops ↔
      Run.Meets (fun t op => some (step t op)) (fun t op => TouchScreen.OpOk (t op.1) op.2) init
        ops := by
  refine Run.along_iff_of_decides (I := fun t => ∀ dev, TouchScreen.Inv (t dev)) ?_ ops init
    fun _ => TouchScreen.inv_init
  rintro t ⟨dev, e⟩ h
  obtain ⟨hreported, hkeep⟩ := TouchScreen.step_decides (h dev) e
  have hself : step t (dev, e) dev = (t dev).step e := Function.update_self ..
  refine Run.decides_total ?_ fun hok dev' => ?_
  · show TouchScreen.Reported (t dev) e (step t (dev, e) dev) ↔ _
    rw [hself]
    exact hreported
  · by_cases hdev : dev' = dev
    · subst hdev
      rw [hself]
      exact hkeep hok
    · have hother : step t (dev, e) dev' = t dev' := Function.update_of_ne hdev ..
      rw [hother]
      exact h dev'

/-- Two fingers, moved one after the other: the first is reported as moved again. -/
theorem reported_moved_again :
    ¬ Run.Along (fun t op => some (step t op))
      (fun t op t' => TouchScreen.Reported (t op.1) op.2 (t' op.1))
      (init : LibInputTouch Nat (Int × Int))
      [(0, .registerDevice), (0, .down 0 (10, 10)), (0, .down 1 (90, 90)), (0, .frame),
        (0, .motion 0 (11, 10)), (0, .frame), (0, .motion 1 (91, 90)), (0, .frame)] := by
  rintro ⟨s₁, h₁, -, s₂, h₂, -, s₃, h₃, -, s₄, h₄, -, s₅, h₅, -, s₆, h₆, -, s₇, h₇, -, s₈, h₈,
    ⟨new, hnew, hreports, -⟩, -⟩
  obtain rfl := Option.some.inj h₁
  obtain rfl := Option.some.inj h₂
  obtain rfl := Option.some.inj h₃
  obtain rfl := Option.some.inj h₄
  obtain rfl := Option.some.inj h₅
  obtain rfl := Option.some.inj h₆
  obtain rfl := Option.some.inj h₇
  obtain rfl := Option.some.inj h₈
  have hlast : new = [.touchEvent [⟨0, .moved, (11, 10), 1⟩, ⟨1, .moved, (91, 90), 2⟩]] :=
    List.append_cancel_left (hnew.symm.trans rfl)
  subst hlast
  have hsound := (hreports _ (List.mem_singleton_self _)).sound ⟨0, .moved, (11, 10), 1⟩ (by decide)
  exact absurd hsound (by decide)

end LibInputTouch

end GreenIsland.Platform

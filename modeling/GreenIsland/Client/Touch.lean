import Mathlib.Data.Rat.Defs
import Mathlib.Tactic.Push
import GreenIsland.Lib.Edge
import GreenIsland.Lib.Keyed
import GreenIsland.Lib.Run
import GreenIsland.Qt.Geometry

/-! Touch sequences on the client's side (`Touch`).

The compositor's events tell of contacts; `Touch` keeps a point for each contact
of the current sequence, also after it was lifted, and announces when a sequence
starts (the first contact), is finished (no point is down any more) and is
cancelled.

What the announcements should say (`Consistent`): started and ended sequences
alternate, a sequence is active while some point is down, and the points that are
down are the compositor's contacts.  `consistent_iff` says that this holds along a
run exactly if the compositor never cancels: `touch_cancel` ends the sequence and
leaves its points down.  For a lift that is still on its way such a point is found,
and ends a sequence that was cancelled before.  `alternates_iff` says which cancels
the announcements alone survive. -/

namespace GreenIsland.Client

/-! ## Model -/

/-- The compositor's fixed-point numbers have 8 fractional bits. -/
def wlFixedToDouble (f : Int) : ℚ := (f : ℚ) / 256

structure TouchPoint where
  id : Int
  upSerial : Nat
  downSerial : Nat
  surface : Option Nat
  positions : List QPointF
  timestamps : List Nat
  down : Bool
deriving DecidableEq

structure Touch where
  active : Bool
  points : List TouchPoint
deriving DecidableEq

inductive TouchSignal
  | sequenceStarted (tp : TouchPoint)
  | sequenceCanceled
  | sequenceFinished
  | frameFinished
  | pointAdded (tp : TouchPoint)
  | pointRemoved (tp : TouchPoint)
  | pointMoved (tp : TouchPoint)
deriving DecidableEq

/-- The events of `wl_touch`. -/
inductive TouchEvent
  | down (serial time : Nat) (surface : Option Nat) (id x y : Int)
  | up (serial time : Nat) (id : Int)
  | motion (time : Nat) (id x y : Int)
  | frame
  | cancel
deriving DecidableEq

namespace TouchPoint

/-- What `getPressedPoint` looks at. -/
def key (tp : TouchPoint) : Int × Bool := (tp.id, tp.down)

def lift (serial time : Nat) (tp : TouchPoint) : TouchPoint :=
  { tp with upSerial := serial, timestamps := tp.timestamps ++ [time], down := false }

def move (time : Nat) (position : QPointF) (tp : TouchPoint) : TouchPoint :=
  { tp with positions := tp.positions ++ [position], timestamps := tp.timestamps ++ [time] }

end TouchPoint

namespace Touch

def init : Touch := ⟨false, []⟩

def getPressedPoint (s : Touch) (id : Int) : Option TouchPoint :=
  Keyed.find TouchPoint.key (id, true) s.points

/-- Writes through the pointer that `getPressedPoint` returned. -/
def edit (s : Touch) (id : Int) (f : TouchPoint → TouchPoint) : Touch :=
  { s with points := Keyed.modify TouchPoint.key (id, true) f s.points }

def touchDown (s : Touch) (serial time : Nat) (surface : Option Nat) (id x y : Int) :
    Touch × List TouchSignal :=
  let tp : TouchPoint :=
    { id := id
      upSerial := 0
      downSerial := serial
      surface := surface
      positions := [⟨wlFixedToDouble x, wlFixedToDouble y⟩]
      timestamps := [time]
      down := true }
  if s.active then ({ s with points := s.points ++ [tp] }, [.pointAdded tp])
  else ({ points := [tp], active := true }, [.sequenceStarted tp])

def touchUp (s : Touch) (serial time : Nat) (id : Int) : Touch × List TouchSignal :=
  match s.getPressedPoint id with
  | none => (s, [])
  | some tp =>
    let s := s.edit id (TouchPoint.lift serial time)
    -- the sequence is finished when no touch point is down
    if s.points.any TouchPoint.down then (s, [.pointRemoved (tp.lift serial time)])
    else ({ s with active := false }, [.pointRemoved (tp.lift serial time), .sequenceFinished])

def touchMotion (s : Touch) (time : Nat) (id x y : Int) : Touch × List TouchSignal :=
  match s.getPressedPoint id with
  | none => (s, [])
  | some tp =>
    let position : QPointF := ⟨wlFixedToDouble x, wlFixedToDouble y⟩
    (s.edit id (TouchPoint.move time position), [.pointMoved (tp.move time position)])

def touchFrame (s : Touch) : Touch × List TouchSignal := (s, [.frameFinished])

def touchCancel (s : Touch) : Touch × List TouchSignal :=
  ({ s with active := false }, [.sequenceCanceled])

def handle (s : Touch) : TouchEvent → Touch × List TouchSignal
  | .down serial time surface id x y => s.touchDown serial time surface id x y
  | .up serial time id => s.touchUp serial time id
  | .motion time id x y => s.touchMotion time id x y
  | .frame => s.touchFrame
  | .cancel => s.touchCancel

end Touch

/-! ## Contacts and sequences -/

/-- The ids on the compositor's side: a contact starts with its down event and ends
with its up event, or when all of them are cancelled. -/
def contactsAfter (contacts : List Int) : TouchEvent → List Int
  | .down _ _ _ id _ _ => contacts ++ [id]
  | .up _ _ id => contacts.erase id
  | .motion _ _ _ _ => contacts
  | .frame => contacts
  | .cancel => []

/-- A sequence starts, or ends. -/
def TouchSignal.boundary : TouchSignal → Option Bool
  | .sequenceStarted _ => some true
  | .sequenceFinished => some false
  | .sequenceCanceled => some false
  | _ => none

structure TouchSession where
  touch : Touch
  contacts : List Int
  /-- the starts and ends that were announced -/
  sequences : List Bool
deriving DecidableEq

namespace TouchSession

def init : TouchSession := ⟨Touch.init, [], []⟩

def step (s : TouchSession) (e : TouchEvent) : TouchSession :=
  let (touch, signals) := s.touch.handle e
  { touch := touch
    contacts := contactsAfter s.contacts e
    sequences := s.sequences ++ signals.filterMap TouchSignal.boundary }

end TouchSession

/-- The ids of the points that are down. -/
def Touch.pressed (s : Touch) : List Int := (s.points.filter TouchPoint.down).map TouchPoint.id

/-- What the announcements and the points should say. -/
structure TouchSession.Consistent (s : TouchSession) : Prop where
  alternate : Edge.Follows s.touch.active s.sequences
  active_iff : s.touch.active = true ↔ ∃ tp ∈ s.touch.points, tp.down = true
  pressed_eq : s.touch.pressed = s.contacts

/-! ## The points that are down -/

namespace Touch

theorem pressed_eq_filterMap (l : List TouchPoint) :
    (l.filter TouchPoint.down).map TouchPoint.id =
      (l.map TouchPoint.key).filterMap fun k => if k.2 then some k.1 else none := by
  induction l with
  | nil => rfl
  | cons tp l ih =>
    cases hdown : tp.down with
    | true => simp [TouchPoint.key, hdown, ih]
    | false => simp [TouchPoint.key, hdown, ih]

theorem mem_pressed {s : Touch} {id : Int} :
    id ∈ s.pressed ↔ (id, true) ∈ s.points.map TouchPoint.key := by
  unfold pressed
  simp only [List.mem_map, List.mem_filter, TouchPoint.key, Prod.mk.injEq]
  constructor
  · rintro ⟨tp, ⟨hmem, hdown⟩, hid⟩
    exact ⟨tp, hmem, hid, hdown⟩
  · rintro ⟨tp, hmem, hid, hdown⟩
    exact ⟨tp, ⟨hmem, hdown⟩, hid⟩

theorem getPressedPoint_eq_none {s : Touch} {id : Int} :
    s.getPressedPoint id = none ↔ id ∉ s.pressed := by
  unfold getPressedPoint
  rw [Keyed.find_eq_none, mem_pressed]

/-- Some point is down. -/
theorem any_down {s : Touch} : (s.points.any TouchPoint.down = true) ↔ s.pressed ≠ [] := by
  unfold pressed
  rw [ne_eq, List.map_eq_nil_iff, List.filter_eq_nil_iff, List.any_eq_true]
  push Not
  rfl

/-- An edit that neither moves the point to another contact nor lifts it. -/
theorem pressed_edit {s : Touch} {id : Int} {f : TouchPoint → TouchPoint}
    (hf : ∀ tp, (f tp).key = tp.key) : (s.edit id f).pressed = s.pressed := by
  unfold pressed edit
  rw [pressed_eq_filterMap, pressed_eq_filterMap, Keyed.map_modify hf]

/-- The first point of the contact that is down is lifted. -/
theorem pressed_lift (s : Touch) (id : Int) (serial time : Nat) :
    (s.edit id (TouchPoint.lift serial time)).pressed = s.pressed.erase id := by
  unfold pressed edit
  induction s.points with
  | nil => rfl
  | cons tp points ih =>
    simp only [Keyed.modify_cons]
    by_cases hkey : tp.key = (id, true)
    · obtain ⟨rfl, hdown⟩ := Prod.mk.inj hkey
      rw [if_pos hkey, List.filter_cons_of_pos hdown, List.map_cons, List.erase_cons_head,
        List.filter_cons_of_neg (by simp [TouchPoint.lift])]
    · rw [if_neg hkey]
      cases hdown : tp.down with
      | true =>
        have hne : tp.id ≠ id := fun h => hkey (Prod.ext h hdown)
        rw [List.filter_cons_of_pos hdown, List.filter_cons_of_pos hdown, List.map_cons,
          List.map_cons, List.erase_cons_tail (by simpa using hne), ih]
      | false =>
        rw [List.filter_cons_of_neg (by simp [hdown]), List.filter_cons_of_neg (by simp [hdown]), ih]

end Touch

/-! ## What one event does -/

namespace Touch

variable {s : Touch}

/-- Of a contact without a point nothing is told. -/
theorem touchUp_of_not_mem {id : Int} (hid : id ∉ s.pressed) (serial time : Nat) :
    s.touchUp serial time id = (s, []) := by
  unfold touchUp
  rw [getPressedPoint_eq_none.2 hid]

theorem exists_getPressedPoint {id : Int} (hid : id ∈ s.pressed) :
    ∃ tp, s.getPressedPoint id = some tp ∧ tp.id = id ∧ tp.down = true := by
  obtain ⟨tp, htp⟩ := Option.ne_none_iff_exists'.1 (mt getPressedPoint_eq_none.1 (not_not_intro hid))
  have hkey : tp.key = (id, true) := Keyed.key_of_find htp
  obtain ⟨rfl, hdown⟩ := Prod.mk.inj hkey
  exact ⟨tp, htp, rfl, hdown⟩

theorem touchUp_of_mem {id : Int} (hid : id ∈ s.pressed) (serial time : Nat) :
    ∃ tp : TouchPoint, tp.id = id ∧ s.touchUp serial time id =
      if s.pressed.erase id ≠ [] then (s.edit id (TouchPoint.lift serial time), [.pointRemoved tp])
      else ({ s.edit id (TouchPoint.lift serial time) with active := false },
        [.pointRemoved tp, .sequenceFinished]) := by
  obtain ⟨tp, htp, hid, -⟩ := exists_getPressedPoint hid
  refine ⟨tp.lift serial time, hid, ?_⟩
  simp only [touchUp, htp, any_down, pressed_lift]

theorem touchMotion_of_not_mem {id : Int} (hid : id ∉ s.pressed) (time : Nat) (x y : Int) :
    s.touchMotion time id x y = (s, []) := by
  unfold touchMotion
  rw [getPressedPoint_eq_none.2 hid]

/-- A motion only edits the point that it moves. -/
theorem touchMotion_of_mem {id : Int} (hid : id ∈ s.pressed) (time : Nat) (x y : Int) :
    ∃ position, ∃ tp : TouchPoint, tp.id = id ∧ tp.down = true ∧ s.touchMotion time id x y =
      (s.edit id (TouchPoint.move time position), [.pointMoved tp]) := by
  obtain ⟨tp, htp, hid, hdown⟩ := exists_getPressedPoint hid
  let position : QPointF := ⟨wlFixedToDouble x, wlFixedToDouble y⟩
  exact ⟨position, tp.move time position, hid, hdown, by simp only [touchMotion, htp, position]⟩

/-- A motion leaves the sequence and the points that are down as they are. -/
theorem touchMotion_same (time : Nat) (id x y : Int) :
    (s.touchMotion time id x y).1.active = s.active ∧
      (s.touchMotion time id x y).1.pressed = s.pressed ∧
        (s.touchMotion time id x y).2.filterMap TouchSignal.boundary = [] := by
  by_cases hid : id ∈ s.pressed
  · obtain ⟨position, tp, -, -, hmotion⟩ := touchMotion_of_mem hid time x y
    rw [hmotion]
    exact ⟨rfl, pressed_edit fun _ => rfl, rfl⟩
  · rw [touchMotion_of_not_mem hid]
    exact ⟨rfl, rfl, rfl⟩

/-- The point of a contact that is put down is announced. -/
theorem touchDown_signals (serial time : Nat) (surface : Option Nat) (id x y : Int) :
    ∃ tp : TouchPoint, tp.id = id ∧ tp.down = true ∧
      ((s.touchDown serial time surface id x y).2 = [.pointAdded tp] ∨
        (s.touchDown serial time surface id x y).2 = [.sequenceStarted tp]) := by
  unfold touchDown
  split
  · exact ⟨_, rfl, rfl, Or.inl rfl⟩
  · exact ⟨_, rfl, rfl, Or.inr rfl⟩

/-- What ends a sequence: the lift of the last point that is down, and a cancel. -/
def Ends (s : Touch) : TouchEvent → Prop
  | .up _ _ id => id ∈ s.pressed ∧ s.pressed.erase id = []
  | .cancel => True
  | _ => False

theorem ends {e : TouchEvent} (h : s.Ends e) :
    (s.handle e).1.active = false ∧ (s.handle e).2.filterMap TouchSignal.boundary = [false] := by
  cases e with
  | up serial time id =>
    obtain ⟨tp, -, hup⟩ := touchUp_of_mem h.1 serial time
    rw [if_neg (not_not_intro h.2)] at hup
    rw [handle, hup]
    exact ⟨rfl, rfl⟩
  | cancel => exact ⟨rfl, rfl⟩
  | down serial time surface id x y => exact h.elim
  | motion time id x y => exact h.elim
  | frame => exact h.elim

/-- Any other event announces the edges. -/
theorem boundary_of_not_ends {e : TouchEvent} (h : ¬ s.Ends e) :
    (s.handle e).2.filterMap TouchSignal.boundary = Edge.edge s.active (s.handle e).1.active := by
  have hsame : [] = Edge.edge s.active s.active := by rw [Edge.edge, if_pos rfl]
  cases e with
  | down serial time surface id x y =>
    cases hactive : s.active with
    | true => simp [handle, touchDown, hactive, TouchSignal.boundary, Edge.edge]
    | false => simp [handle, touchDown, hactive, TouchSignal.boundary, Edge.edge]
  | up serial time id =>
    by_cases hid : id ∈ s.pressed
    · obtain ⟨tp, -, hup⟩ := touchUp_of_mem hid serial time
      rw [if_pos fun hlast => h ⟨hid, hlast⟩] at hup
      rw [handle, hup]
      exact hsame
    · rw [handle, touchUp_of_not_mem hid]
      exact hsame
  | motion time id x y =>
    obtain ⟨hactive, -, hboundary⟩ := touchMotion_same (s := s) time id x y
    rw [handle, hactive, hboundary]
    exact hsame
  | frame => exact hsame
  | cancel => exact absurd trivial h

/-- Some point is down exactly while a sequence is active. -/
def ActiveIff (s : Touch) : Prop := s.active = true ↔ s.pressed ≠ []

/-- The points follow the contacts. -/
theorem pressed_handle (h : s.ActiveIff) {e : TouchEvent} (he : e ≠ .cancel) :
    (s.handle e).1.pressed = contactsAfter s.pressed e := by
  cases e with
  | down serial time surface id x y =>
    cases hactive : s.active with
    | true => simp [handle, touchDown, hactive, pressed, contactsAfter]
    | false =>
      -- whatever points are left over are dropped
      have hnone : s.pressed = [] := by
        by_contra hne
        rw [h.2 hne] at hactive
        cases hactive
      rw [hnone]
      simp [handle, touchDown, hactive, pressed, contactsAfter]
  | up serial time id =>
    have hpressed := s.pressed_lift id serial time
    by_cases hid : id ∈ s.pressed
    · obtain ⟨tp, -, hup⟩ := touchUp_of_mem hid serial time
      rw [handle, hup]
      split
      · exact hpressed
      · exact hpressed
    · rw [handle, touchUp_of_not_mem hid, contactsAfter, List.erase_of_not_mem hid]
  | motion time id x y => exact (touchMotion_same time id x y).2.1
  | frame => rfl
  | cancel => exact absurd rfl he

theorem activeIff_handle (h : s.ActiveIff) {e : TouchEvent} (he : e ≠ .cancel) :
    (s.handle e).1.ActiveIff := by
  unfold ActiveIff
  rw [pressed_handle h he]
  cases e with
  | down serial time surface id x y =>
    cases hactive : s.active with
    | true => simp [handle, touchDown, hactive, contactsAfter]
    | false => simp [handle, touchDown, hactive, contactsAfter]
  | up serial time id =>
    by_cases hid : id ∈ s.pressed
    · obtain ⟨tp, -, hup⟩ := touchUp_of_mem hid serial time
      rw [handle, hup, contactsAfter]
      split
      · next hrest => exact iff_of_true (h.2 (List.ne_nil_of_mem hid)) hrest
      · next hlast => exact iff_of_false Bool.false_ne_true hlast
    · rw [handle, touchUp_of_not_mem hid, contactsAfter, List.erase_of_not_mem hid]
      exact h
  | motion time id x y =>
    rw [handle, (touchMotion_same time id x y).1, contactsAfter]
    exact h
  | frame => exact h
  | cancel => exact absurd rfl he

end Touch

/-! ## Runs -/

namespace TouchSession

/-- The announcements of an event alternate with those before exactly if no
sequence is ended that is not active. -/
theorem step_follows_iff {s : TouchSession} (h : Edge.Follows s.touch.active s.sequences)
    (e : TouchEvent) :
    Edge.Follows (s.step e).touch.active (s.step e).sequences ↔
      (s.touch.Ends e → s.touch.active = true) := by
  have hactive : (s.step e).touch.active = (s.touch.handle e).1.active := rfl
  have hsequences : (s.step e).sequences =
      s.sequences ++ (s.touch.handle e).2.filterMap TouchSignal.boundary := rfl
  rw [hactive, hsequences]
  by_cases hends : s.touch.Ends e
  · rw [(Touch.ends hends).1, (Touch.ends hends).2, h.append_false_iff]
    exact ⟨fun h _ => h, fun h => h hends⟩
  · rw [Touch.boundary_of_not_ends hends]
    exact iff_of_true (h.append_edge _) fun hnot => absurd hnot hends

/-- **Announcements.**  They alternate along a run exactly if each cancel, and each
lift of the last point that is down, comes in an active sequence. -/
theorem alternates_iff (es : List TouchEvent) :
    Run.Always (fun s e => some (step s e)) (fun s => Edge.Follows s.touch.active s.sequences) init es ↔
      Run.Meets (fun s e => some (step s e)) (fun s e => s.touch.Ends e → s.touch.active = true)
        init es :=
  Run.always_iff_of_decides
    (fun _ e h => Run.decides_total (step_follows_iff h e) (step_follows_iff h e).2)
    es init Edge.follows_nil Edge.follows_nil

namespace Consistent

theorem activeIff {s : TouchSession} (h : s.Consistent) : s.touch.ActiveIff := by
  unfold Touch.ActiveIff
  rw [h.active_iff, ← Touch.any_down, List.any_eq_true]

theorem init : TouchSession.init.Consistent where
  alternate := Edge.follows_nil
  active_iff := by simp [TouchSession.init, Touch.init]
  pressed_eq := rfl

/-- The other events keep what should be said. -/
theorem step {s : TouchSession} (h : s.Consistent) {e : TouchEvent} (he : e ≠ .cancel) :
    (s.step e).Consistent where
  alternate := by
    refine (step_follows_iff h.alternate e).2 fun hends => h.activeIff.2 ?_
    cases e with
    | up serial time id => exact List.ne_nil_of_mem hends.1
    | cancel => exact absurd rfl he
    | down serial time surface id x y => exact hends.elim
    | motion time id x y => exact hends.elim
    | frame => exact hends.elim
  active_iff := by
    rw [← List.any_eq_true, Touch.any_down]
    exact Touch.activeIff_handle h.activeIff he
  pressed_eq := by
    rw [TouchSession.step, ← h.pressed_eq]
    exact Touch.pressed_handle h.activeIff he

/-- A cancel never does: an active sequence leaves its points down, and one that is
not active is ended once more. -/
theorem not_cancel {s : TouchSession} (h : s.Consistent) : ¬ (s.step .cancel).Consistent := by
  intro hcancel
  have hactive : s.touch.active = true :=
    (step_follows_iff h.alternate .cancel).1 hcancel.alternate trivial
  have hnone : s.touch.pressed = [] := hcancel.pressed_eq
  exact h.activeIff.1 hactive hnone

end Consistent

/-- **Touch sequences.**  Started and ended sequences alternate, a sequence is active
exactly while a point is down, and the points that are down are the compositor's
contacts, in every state of a run, if and only if nothing is cancelled. -/
theorem consistent_iff (es : List TouchEvent) :
    Run.Always (fun s e => some (step s e)) Consistent init es ↔ ∀ e ∈ es, e ≠ .cancel := by
  have hmeets : Run.Meets (fun s e => some (step s e)) (fun _ e => e ≠ .cancel) init es ↔
      ∀ e ∈ es, e ≠ .cancel :=
    Run.meets_iff_forall (fun s e hI he => ⟨_, rfl, hI.step he⟩) es init Consistent.init
  refine Iff.trans (Run.always_iff_of_decides ?_ es init Consistent.init Consistent.init) hmeets
  intro s e hI
  refine Run.decides_total ⟨?_, hI.step⟩ hI.step
  rintro hnext rfl
  exact hI.not_cancel hnext

/-- Points that are down when nothing is, and a sequence that ends twice. -/
theorem cancelled_then_lifted :
    ¬ Run.Always (fun s e => some (step s e)) Consistent init
      [.down 1 10 (some 3) 0 256 256, .cancel, .up 2 20 0] := by
  rintro ⟨-, s₁, hs₁, -, s₂, hs₂, h₂, -⟩
  obtain rfl := Option.some.inj hs₁
  obtain rfl := Option.some.inj hs₂
  have hpressed := h₂.pressed_eq
  revert hpressed
  decide

end TouchSession

end GreenIsland.Client

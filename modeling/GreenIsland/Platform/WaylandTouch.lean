import GreenIsland.Client.Touch

/-! The touch points of a nested session (`EglFSWaylandInput`).

The platform plugin keeps a list of touch points of its own, which its slots edit
as the signals of the client's `Touch` come in, and hands it to Qt each time.

The list should have the ids of the contacts, and a motion should change only the
positions of the point that moved (`Mirrors`).  `mirrors_iff` says in which runs it
does: `touchPointMoved` removes the point and then reads the entry that took its
place, so a motion of a contact is right only where the next entry happens to have
the same id; and `touchSequenceCanceled` does not clear the list, so a cancel has to
come when nothing is down. -/

namespace GreenIsland.Platform

/-! ## Model -/

/-- What the plugin fills in of a `QWindowSystemInterface::TouchPoint`. -/
structure QpaTouchPoint where
  id : Int
  pressure : ℚ
  rawPositions : List QPointF
deriving DecidableEq

inductive QpaTouch
  | touchEvent (touchPoints : List QpaTouchPoint)
  | touchCancelEvent
deriving DecidableEq

/-- The part of `EglFSWaylandInput` that is about touch. -/
structure WaylandTouch where
  touchPoints : List QpaTouchPoint
  /-- what was handed to Qt -/
  handled : List QpaTouch
deriving DecidableEq

def QpaTouchPoint.ofPoint (p : Client.TouchPoint) : QpaTouchPoint where
  id := p.id
  pressure := if p.down then 0 else 1
  rawPositions := p.positions

namespace WaylandTouch

def init : WaylandTouch := ⟨[], []⟩

def handleTouchEvent (s : WaylandTouch) : WaylandTouch :=
  { s with handled := s.handled ++ [.touchEvent s.touchPoints] }

def append (s : WaylandTouch) (tp : QpaTouchPoint) : WaylandTouch :=
  { s with touchPoints := s.touchPoints ++ [tp] }

def removeAt (s : WaylandTouch) (i : Nat) : WaylandTouch :=
  { s with touchPoints := s.touchPoints.eraseIdx i }

/-- Where the loops over `m_touchPoints` stop. -/
def indexOf (s : WaylandTouch) (id : Int) : Option Nat := s.touchPoints.findIdx? fun tp => tp.id = id

def touchSequenceStarted (s : WaylandTouch) (p : Client.TouchPoint) : WaylandTouch :=
  (s.append (.ofPoint p)).handleTouchEvent

def touchSequenceFinished (s : WaylandTouch) : WaylandTouch :=
  { s with touchPoints := [] }.handleTouchEvent

def touchSequenceCanceled (s : WaylandTouch) : WaylandTouch :=
  { s with handled := s.handled ++ [.touchCancelEvent] }

def touchPointAdded (s : WaylandTouch) (p : Client.TouchPoint) : WaylandTouch :=
  (s.append (.ofPoint p)).handleTouchEvent

def touchPointRemoved (s : WaylandTouch) (p : Client.TouchPoint) : WaylandTouch :=
  match s.indexOf p.id with
  | some i => (s.removeAt i).handleTouchEvent
  | none => s.handleTouchEvent

/-- The entry is read after it was removed; `none` if there is none at its place. -/
def touchPointMoved (s : WaylandTouch) (p : Client.TouchPoint) : Option WaylandTouch :=
  match s.indexOf p.id with
  | some i => do
    let s := s.removeAt i
    let tp ← s.touchPoints[i]?
    let tp := { tp with pressure := if p.down then 0 else 1, rawPositions := p.positions }
    return (s.append tp).handleTouchEvent
  | none => some s.handleTouchEvent

/-- The connections made by `touchAdded`. -/
def receive (s : WaylandTouch) : Client.TouchSignal → Option WaylandTouch
  | .sequenceStarted p => some (s.touchSequenceStarted p)
  | .sequenceFinished => some s.touchSequenceFinished
  | .sequenceCanceled => some s.touchSequenceCanceled
  | .pointAdded p => some (s.touchPointAdded p)
  | .pointRemoved p => some (s.touchPointRemoved p)
  | .pointMoved p => s.touchPointMoved p
  | .frameFinished => some s

end WaylandTouch

/-- The seat's `Touch`, the plugin, and the compositor's contacts. -/
structure NestedTouch where
  touch : Client.Touch
  input : WaylandTouch
  contacts : List Int
deriving DecidableEq

namespace NestedTouch

def init : NestedTouch := ⟨Client.Touch.init, WaylandTouch.init, []⟩

def step (s : NestedTouch) (e : Client.TouchEvent) : Option NestedTouch :=
  let (touch, signals) := s.touch.handle e
  (signals.foldlM WaylandTouch.receive s.input).map fun input =>
    { touch := touch, input := input, contacts := Client.contactsAfter s.contacts e }

end NestedTouch

/-! ## What the list should be -/

def WaylandTouch.ids (s : WaylandTouch) : List Int := s.touchPoints.map QpaTouchPoint.id

/-- The positions of one point of `l` with this id were changed. -/
def OnlyMoves (id : Int) (l l' : List QpaTouchPoint) : Prop :=
  ∃ l₁ p l₂ positions, l = l₁ ++ p :: l₂ ∧ p.id = id ∧
    l'.Perm ({ p with rawPositions := positions } :: (l₁ ++ l₂))

/-- The first entry with this id is followed by another one. -/
def NextToo (id : Int) (ids : List Int) : Prop := (ids.dropWhile (· ≠ id)).tail.head? = some id

instance (id : Int) (ids : List Int) : Decidable (NextToo id ids) :=
  inferInstanceAs (Decidable (_ = some id))

namespace NestedTouch

/-- After an event the list has the ids of the contacts, and a motion changed only
the positions of the point that moved. -/
def Mirrors (s : NestedTouch) (e : Client.TouchEvent) (s' : NestedTouch) : Prop :=
  s'.input.ids.Perm s'.contacts ∧
  match e with
  | .motion _ id _ _ =>
    if id ∈ s.contacts then OnlyMoves id s.input.touchPoints s'.input.touchPoints
    else s'.input.touchPoints = s.input.touchPoints
  | _ => True

/-- What an event must meet for the list to be right after it. -/
def OpOk (s : NestedTouch) : Client.TouchEvent → Prop
  | .motion _ id _ _ => id ∈ s.contacts → NextToo id s.input.ids
  | .cancel => s.contacts = []
  | _ => True

/-- What the events keep that meet it. -/
structure Inv (s : NestedTouch) : Prop where
  activeIff : s.touch.ActiveIff
  pressed_eq : s.touch.pressed = s.contacts
  ids_perm : s.input.ids.Perm s.contacts
  pressure_eq : ∀ tp ∈ s.input.touchPoints, tp.pressure = 0

end NestedTouch

/-! ## What the slots do -/

namespace WaylandTouch

variable {s : WaylandTouch} {p : Client.TouchPoint}

theorem pressure_append (hs : ∀ tp ∈ s.touchPoints, tp.pressure = 0) (hdown : p.down = true) :
    ∀ tp ∈ (s.append (.ofPoint p)).touchPoints, tp.pressure = 0 := by
  intro tp htp
  rcases List.mem_append.1 htp with htp | htp
  · exact hs tp htp
  · obtain rfl := List.mem_singleton.1 htp
    simp [QpaTouchPoint.ofPoint, hdown]

theorem touchPoints_touchPointRemoved :
    (s.touchPointRemoved p).touchPoints = s.touchPoints.eraseP fun tp => tp.id = p.id := by
  rw [List.eraseP_eq_eraseIdx]
  unfold touchPointRemoved indexOf
  split
  · next h => rw [h]; rfl
  · next h => rw [h]; rfl

theorem ids_touchPointRemoved : (s.touchPointRemoved p).ids = s.ids.erase p.id := by
  unfold ids
  rw [touchPoints_touchPointRemoved, List.erase_eq_eraseP, List.eraseP_map]
  congr 2
  funext tp
  exact (decide_eq_decide.2 eq_comm).trans (Bool.beq_eq_decide_eq p.id tp.id).symm

/-- The entry that the loops stop at. -/
theorem exists_split {id : Int} (hid : id ∈ s.ids) :
    ∃ l₁ q l₂, s.touchPoints = l₁ ++ q :: l₂ ∧ q.id = id ∧ ∀ tp ∈ l₁, tp.id ≠ id := by
  obtain ⟨tp, htp, hid⟩ := List.mem_map.1 hid
  obtain ⟨q, l₁, l₂, hl₁, hq, hsplit, -⟩ :=
    List.exists_of_eraseP (p := fun tp => decide (tp.id = id)) htp (decide_eq_true hid)
  exact ⟨l₁, q, l₂, hsplit, of_decide_eq_true hq, fun x hx hxid => hl₁ x hx (decide_eq_true hxid)⟩

section
variable {l₁ l₂ : List QpaTouchPoint} {q : QpaTouchPoint}

/-- A motion removes its point, and puts its positions into a copy of the next one. -/
theorem touchPointMoved_eq (hs : s.touchPoints = l₁ ++ q :: l₂) (hq : q.id = p.id)
    (hl₁ : ∀ tp ∈ l₁, tp.id ≠ p.id) :
    s.touchPointMoved p = l₂.head?.map fun tp =>
      ({ s with touchPoints := l₁ ++ l₂ ++ [{ tp with
        pressure := if p.down then 0 else 1, rawPositions := p.positions }] } :
          WaylandTouch).handleTouchEvent := by
  have hindex : s.indexOf p.id = some l₁.length := by
    unfold indexOf
    rw [hs, List.findIdx?_append, List.findIdx?_eq_none_iff.2 (by simpa using hl₁),
      List.findIdx?_cons, if_pos (decide_eq_true hq)]
    simp
  unfold touchPointMoved removeAt append
  rw [hindex]
  simp only [hs, List.eraseIdx_append_of_length_le (Nat.le_refl _), Nat.sub_self,
    List.eraseIdx_cons_zero, List.getElem?_append_right (Nat.le_refl _), List.head?_eq_getElem?]
  cases l₂[0]? with
  | none => rfl
  | some tp => rfl

theorem nextToo_iff {id : Int} (hs : s.touchPoints = l₁ ++ q :: l₂) (hq : q.id = id)
    (hl₁ : ∀ tp ∈ l₁, tp.id ≠ id) : NextToo id s.ids ↔ l₂.head?.map QpaTouchPoint.id = some id := by
  unfold NextToo ids
  rw [hs, List.map_append, List.dropWhile_append_of_pos, List.map_cons,
    List.dropWhile_cons_of_neg (by simpa using hq), List.tail_cons, List.head?_map]
  intro i hi
  obtain ⟨tp, htp, rfl⟩ := List.mem_map.1 hi
  exact decide_eq_true (hl₁ tp htp)

end

end WaylandTouch

/-! ## What one event does -/

namespace NestedTouch

variable {s : NestedTouch}

theorem step_down (s : NestedTouch) (serial time : Nat) (surface : Option Nat) (id x y : Int) :
    ∃ p : Client.TouchPoint, p.id = id ∧ p.down = true ∧
      s.step (.down serial time surface id x y) =
        some ⟨(s.touch.touchDown serial time surface id x y).1, s.input.touchPointAdded p,
          s.contacts ++ [id]⟩ := by
  obtain ⟨p, hid, hdown, hsignals⟩ := s.touch.touchDown_signals serial time surface id x y
  refine ⟨p, hid, hdown, ?_⟩
  unfold step Client.Touch.handle
  rcases hsignals with hsignals | hsignals
  · simp only [hsignals]
    rfl
  · simp only [hsignals]
    rfl

theorem step_up_of_mem {id : Int} (hid : id ∈ s.touch.pressed) (serial time : Nat) :
    ∃ p : Client.TouchPoint, p.id = id ∧ s.step (.up serial time id) =
      some ⟨(s.touch.touchUp serial time id).1,
        if s.touch.pressed.erase id ≠ [] then s.input.touchPointRemoved p
        else (s.input.touchPointRemoved p).touchSequenceFinished,
        s.contacts.erase id⟩ := by
  obtain ⟨p, hp, hup⟩ := Client.Touch.touchUp_of_mem hid serial time
  refine ⟨p, hp, ?_⟩
  unfold step Client.Touch.handle
  by_cases hlast : s.touch.pressed.erase id ≠ []
  · rw [if_pos hlast] at hup ⊢
    simp only [hup]
    rfl
  · rw [if_neg hlast] at hup ⊢
    simp only [hup]
    rfl

theorem step_up_of_not_mem {id : Int} (hid : id ∉ s.touch.pressed) (serial time : Nat) :
    s.step (.up serial time id) = some { s with contacts := s.contacts.erase id } := by
  unfold step Client.Touch.handle
  simp only [Client.Touch.touchUp_of_not_mem hid]
  rfl

theorem step_motion_of_mem {id : Int} (hid : id ∈ s.touch.pressed) (time : Nat) (x y : Int) :
    ∃ p : Client.TouchPoint, p.id = id ∧ p.down = true ∧ s.step (.motion time id x y) =
      (s.input.touchPointMoved p).map fun input =>
        ⟨(s.touch.touchMotion time id x y).1, input, s.contacts⟩ := by
  obtain ⟨position, p, hp, hdown, hmotion⟩ := Client.Touch.touchMotion_of_mem hid time x y
  refine ⟨p, hp, hdown, ?_⟩
  unfold step Client.Touch.handle
  simp only [hmotion, List.foldlM_cons, List.foldlM_nil]
  cases h : s.input.touchPointMoved p with
  | none => simp [WaylandTouch.receive, h, Client.contactsAfter]
  | some input => simp [WaylandTouch.receive, h, Client.contactsAfter]

theorem step_motion_of_not_mem {id : Int} (hid : id ∉ s.touch.pressed) (time : Nat) (x y : Int) :
    s.step (.motion time id x y) = some s := by
  unfold step Client.Touch.handle
  simp only [Client.Touch.touchMotion_of_not_mem hid]
  rfl

/-- In place of the entry of `id` another one is appended. -/
theorem perm_contacts_iff (h : s.Inv) {l₁ l₂ : List QpaTouchPoint} {q : QpaTouchPoint} {id : Int}
    (hs : s.input.touchPoints = l₁ ++ q :: l₂) (hq : q.id = id) (r : QpaTouchPoint) :
    ((l₁ ++ l₂ ++ [r]).map QpaTouchPoint.id).Perm s.contacts ↔ r.id = id := by
  have hbefore : s.input.ids.Perm ((l₁ ++ l₂).map QpaTouchPoint.id ++ [id]) := by
    unfold WaylandTouch.ids
    rw [hs, ← hq, ← List.map_singleton, ← List.map_append]
    exact (List.perm_middle.trans (List.perm_append_singleton q _).symm).map _
  rw [← (hbefore.symm.trans h.ids_perm).congr_right, List.map_append, List.map_singleton,
    List.perm_append_left_iff, List.singleton_perm_singleton]

/-- What is left to show of an event that cancels nothing. -/
theorem Inv.next (h : s.Inv) (e : Client.TouchEvent) (he : e ≠ .cancel) (input : WaylandTouch)
    (hids : input.ids.Perm (Client.contactsAfter s.contacts e))
    (hpressure : ∀ tp ∈ input.touchPoints, tp.pressure = 0) :
    Inv ⟨(s.touch.handle e).1, input, Client.contactsAfter s.contacts e⟩ where
  activeIff := Client.Touch.activeIff_handle h.activeIff he
  pressed_eq := (Client.Touch.pressed_handle h.activeIff he).trans (by rw [h.pressed_eq])
  ids_perm := hids
  pressure_eq := hpressure

abbrev Decides : NestedTouch → Client.TouchEvent → Prop := Run.Decides step Mirrors OpOk Inv

theorem decides_down (h : s.Inv) (serial time : Nat) (surface : Option Nat) (id x y : Int) :
    Decides s (.down serial time surface id x y) := by
  obtain ⟨p, rfl, hdown, hstep⟩ := s.step_down serial time surface id x y
  have hids : (s.input.touchPointAdded p).ids.Perm (s.contacts ++ [p.id]) := by
    unfold WaylandTouch.touchPointAdded WaylandTouch.append WaylandTouch.handleTouchEvent
      WaylandTouch.ids
    rw [List.map_append]
    exact h.ids_perm.append_right _
  exact Run.decides_good hstep ⟨hids, trivial⟩ trivial
    (h.next (.down serial time surface p.id x y) nofun _ hids
      (WaylandTouch.pressure_append h.pressure_eq hdown))

theorem decides_up (h : s.Inv) (serial time : Nat) (id : Int) : Decides s (.up serial time id) := by
  by_cases hid : id ∈ s.touch.pressed
  · obtain ⟨p, rfl, hstep⟩ := step_up_of_mem hid serial time
    have hids : (s.input.touchPointRemoved p).ids.Perm (s.contacts.erase p.id) := by
      rw [WaylandTouch.ids_touchPointRemoved]
      exact h.ids_perm.erase _
    have hpressure : ∀ tp ∈ (s.input.touchPointRemoved p).touchPoints, tp.pressure = 0 := by
      rw [WaylandTouch.touchPoints_touchPointRemoved]
      exact fun tp htp => h.pressure_eq tp (List.mem_of_mem_eraseP htp)
    by_cases hlast : s.touch.pressed.erase p.id ≠ []
    · rw [if_pos hlast] at hstep
      exact Run.decides_good hstep ⟨hids, trivial⟩ trivial
        (h.next (.up serial time p.id) nofun _ hids hpressure)
    · -- the last contact of the sequence
      rw [if_neg hlast] at hstep
      have hnone : s.contacts.erase p.id = [] := h.pressed_eq ▸ not_not.1 hlast
      have hids :
          (s.input.touchPointRemoved p).touchSequenceFinished.ids.Perm (s.contacts.erase p.id) := by
        rw [hnone]
        exact List.Perm.refl []
      exact Run.decides_good hstep ⟨hids, trivial⟩ trivial
        (h.next (.up serial time p.id) nofun _ hids fun tp htp => absurd htp List.not_mem_nil)
  · have hstep := step_up_of_not_mem hid serial time
    have hcontacts : s.contacts.erase id = s.contacts := List.erase_of_not_mem (h.pressed_eq ▸ hid)
    rw [hcontacts] at hstep
    exact Run.decides_good hstep ⟨h.ids_perm, trivial⟩ trivial h

theorem decides_motion (h : s.Inv) (time : Nat) (id x y : Int) : Decides s (.motion time id x y) := by
  by_cases hid : id ∈ s.touch.pressed
  · have hcontact : id ∈ s.contacts := h.pressed_eq ▸ hid
    obtain ⟨p, rfl, hdown, hstep⟩ := step_motion_of_mem hid time x y
    obtain ⟨l₁, q, l₂, hsplit, hq, hl₁⟩ := s.input.exists_split (h.ids_perm.mem_iff.2 hcontact)
    rw [WaylandTouch.touchPointMoved_eq hsplit hq hl₁] at hstep
    have hnext := WaylandTouch.nextToo_iff hsplit hq hl₁
    cases l₂ with
    | nil =>
      refine Or.inl ⟨hstep, fun hok => ?_⟩
      cases hnext.1 (hok hcontact)
    | cons tp l₂ =>
      rw [List.head?_cons, Option.map_some, Option.map_some] at hstep
      rw [List.head?_cons, Option.map_some, Option.some.injEq] at hnext
      rw [if_pos hdown] at hstep
      have hids := perm_contacts_iff h hsplit hq ⟨tp.id, 0, p.positions⟩
      by_cases htp : tp.id = p.id
      · -- the copy happens to have the right id
        refine Run.decides_good hstep ⟨hids.2 htp, ?_⟩ (fun _ => hnext.2 htp)
          (h.next (.motion time p.id x y) nofun _ (hids.2 htp) ?_)
        · show if p.id ∈ s.contacts then _ else _
          have hpressure : q.pressure = 0 := h.pressure_eq q (hsplit ▸ List.mem_append_cons_self)
          rw [if_pos hcontact, htp, ← hq, ← hpressure]
          exact ⟨l₁, q, tp :: l₂, p.positions, hsplit, rfl, List.perm_append_singleton _ _⟩
        · intro r hr
          rcases List.mem_append.1 hr with hr | hr
          · refine h.pressure_eq r ?_
            rw [hsplit]
            simp only [List.mem_append, List.mem_cons] at hr ⊢
            tauto
          · rw [List.mem_singleton.1 hr]
      · exact Run.decides_bad hstep (fun hmirrors => htp (hids.1 hmirrors.1))
          fun hok => htp (hnext.1 (hok hcontact))
  · have hcontact : id ∉ s.contacts := h.pressed_eq ▸ hid
    refine Run.decides_good (step_motion_of_not_mem hid time x y) ⟨h.ids_perm, ?_⟩
      (fun hmem => absurd hmem hcontact) h
    show if id ∈ s.contacts then _ else _
    rw [if_neg hcontact]

theorem decides_frame (h : s.Inv) : Decides s .frame :=
  Run.decides_good rfl ⟨h.ids_perm, trivial⟩ trivial h

theorem decides_cancel (h : s.Inv) : Decides s .cancel := by
  by_cases hnone : s.contacts = []
  · have hids : s.input.ids.Perm [] := hnone ▸ h.ids_perm
    have hpressed : s.touch.pressed = [] := h.pressed_eq.trans hnone
    refine Run.decides_good rfl ⟨hids, trivial⟩ hnone ⟨?_, hpressed, hids, h.pressure_eq⟩
    exact iff_of_false Bool.false_ne_true (not_not_intro hpressed)
  · refine Run.decides_bad rfl (fun hmirrors => hnone ?_) hnone
    have hids : s.input.ids.Perm [] := hmirrors.1
    exact (h.ids_perm.symm.trans hids).eq_nil

theorem decides (s : NestedTouch) (e : Client.TouchEvent) (h : s.Inv) : Decides s e := by
  cases e with
  | down serial time surface id x y => exact decides_down h serial time surface id x y
  | up serial time id => exact decides_up h serial time id
  | motion time id x y => exact decides_motion h time id x y
  | frame => exact decides_frame h
  | cancel => exact decides_cancel h

/-! ## Runs -/

theorem inv_init : init.Inv where
  activeIff := iff_of_false Bool.false_ne_true (not_not_intro rfl)
  pressed_eq := rfl
  ids_perm := List.Perm.refl []
  pressure_eq := fun _ htp => absurd htp List.not_mem_nil

/-- **The plugin's touch points.**  Along a run the list always has the ids of the
contacts, motions change positions only, and no entry is read that is not there, if
and only if a motion never concerns a contact whose entry is not followed by one of
the same id, and a cancel comes when nothing is down. -/
theorem mirrors_iff (es : List Client.TouchEvent) :
    Run.Along step Mirrors init es ↔ Run.Meets step OpOk init es :=
  Run.along_iff_of_decides decides es init inv_init

/-- Two contacts: a motion of the first makes it vanish, and doubles the second. -/
theorem moved_away :
    ¬ Run.Along step Mirrors init
      [.down 1 10 (some 3) 0 256 256, .down 2 11 (some 3) 1 512 512, .motion 12 0 300 300] := by
  rintro ⟨s₁, hs₁, -, s₂, hs₂, -, s₃, hs₃, ⟨hids, -⟩, -⟩
  obtain rfl := Option.some.inj hs₁
  obtain rfl := Option.some.inj hs₂
  obtain rfl := Option.some.inj hs₃
  revert hids
  decide

/-- The motion of a single contact reads behind the end of the list. -/
theorem moved_alone :
    ¬ Run.Along step Mirrors init [.down 1 10 (some 3) 0 256 256, .motion 12 0 300 300] := by
  rintro ⟨s₁, hs₁, -, s₂, hs₂, -, -⟩
  obtain rfl := Option.some.inj hs₁
  cases hs₂

end NestedTouch

end GreenIsland.Platform

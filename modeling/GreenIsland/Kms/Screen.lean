import GreenIsland.Kms.Device
import GreenIsland.Lib.Custody

/-! Scan-out buffers of a KMS screen (`EglFSKmsScreen`).

A flip locks the front buffer of the surface and queues it.  When the page flip
event of the kernel is read the buffer object that was shown before is released
to the surface.  Destroying and resizing the surface destroys the buffer
objects; after a switch of the VT the interrupt handler calls `flipFinished` by
hand.

Every buffer object that is locked is to be given back once, a released one to
the surface that it comes from, and none while the CRTC scans it out (`Buffers`).
This holds in every state of a run in which (`Ok`)

* a flip that locks a buffer object finds none that waits, gets a framebuffer for
  it, and its page flip is not refused after the CRTC was set to it,
* the handler resumes painting, and the surface is destroyed or resized, only when
  no flip is under way and the CRTC does not scan the current buffer object out;
  the surface is resized only when a mode change is pending

(`buffers_given_back`).  Without these `flipFinished` is called once by hand and
once by the event, which then releases the buffer object on the screen
(`buffers_not_given_back`).

The kernel keeps one page flip that waits for the vertical blank and refuses
another one; setting the CRTC completes it.  Its event may be read at any time
after that. -/

namespace GreenIsland.Kms

/-! ## Model -/

/-- A buffer object, from when it is locked to when it is given back. -/
structure Bo where
  lock : Nat
  /-- the surface that it was locked from -/
  surface : Nat
deriving DecidableEq

inductive Back
  | released (surface : Nat)
  | destroyed
deriving DecidableEq

structure Return where
  bo : Bo
  back : Back
  /-- the CRTC scanned it out -/
  scanned : Bool
deriving DecidableEq

inductive PowerState
  | on
  | standby
  | suspend
  | off
deriving DecidableEq

structure Screen where
  output : Output
  modeSet : Bool
  /-- there is a saved CRTC -/
  savedCrtc : Bool
  /-- the connector has a DPMS property -/
  dpmsProp : Bool
  /-- `m_gbm_surface`; surfaces are numbered as they are created -/
  surface : Option Nat
  boCurrent : Option Bo
  boNext : Option Bo
  suspended : Bool
  pendingMode : Int
  powerState : PowerState
  /-- `m_active` of the interrupt handler -/
  active : Bool
  /-- the buffer object that the CRTC scans out, `none` if it is not one of these -/
  scanout : Option Bo
  /-- the page flip that waits for the vertical blank -/
  queued : Option Bo
  /-- completed page flips whose event was not read -/
  events : Nat
  /-- the number of surfaces that were created -/
  surfaces : Nat
  /-- what was locked and what was given back, oldest first -/
  locked : List Bo
  returned : List Return
deriving DecidableEq

/-- What GBM and DRM answer during a flip. -/
structure FlipAnswers where
  /-- the surface has a front buffer -/
  front : Bool
  /-- the buffer object has a framebuffer or one is added -/
  addFb : Bool
  setCrtc : Bool
  pageFlip : Bool

namespace Screen

def init (output : Output) (savedCrtc dpmsProp : Bool) : Screen where
  output := output
  modeSet := false
  savedCrtc := savedCrtc
  dpmsProp := dpmsProp
  surface := none
  boCurrent := none
  boNext := none
  suspended := false
  pendingMode := -1
  powerState := .on
  active := true
  scanout := none
  queued := none
  events := 0
  surfaces := 0
  locked := []
  returned := []

/-- The vertical blank: a page flip that waits is completed. -/
def vblank (s : Screen) : Screen :=
  match s.queued with
  | none => s
  | some bo => { s with scanout := some bo, queued := none, events := s.events + 1 }

/-- `drmModeSetCrtc` -/
def setCrtc (s : Screen) (bo : Option Bo) : Screen := { s.vblank with scanout := bo }

/-- `gbm_surface_release_buffer` to the surface of the screen. -/
def releaseBuffer (s : Screen) (bo : Bo) : Option Screen :=
  s.surface.map fun n =>
    { s with returned := s.returned ++ [⟨bo, .released n, decide (s.scanout = some bo)⟩] }

/-- `gbm_bo_destroy`; its framebuffer is removed, which turns off a CRTC that
scans it out. -/
def destroyBuffer (s : Screen) (bo : Bo) : Screen :=
  { s with
    scanout := if s.scanout = some bo then none else s.scanout
    returned := s.returned ++ [⟨bo, .destroyed, decide (s.scanout = some bo)⟩] }

/-- `geometry()`: the mode of the output, which has to be in range. -/
def geometry (s : Screen) : Option ModeInfo := qAt s.output.modes s.output.mode

def createSurface (s : Screen) (created : Bool) : Option Screen :=
  match s.surface with
  | some _ => some s
  | none =>
    s.geometry.map fun _ =>
      if created then { s with surface := some s.surfaces, surfaces := s.surfaces + 1 } else s

def destroyCurrent (s : Screen) : Screen :=
  match s.boCurrent with
  | none => s
  | some bo => { s.destroyBuffer bo with boCurrent := none }

def destroyNext (s : Screen) : Screen :=
  match s.boNext with
  | none => s
  | some bo => { s.destroyBuffer bo with boNext := none }

def destroySurface (s : Screen) : Screen := { s.destroyCurrent.destroyNext with surface := none }

def setPowerState (s : Screen) (state : PowerState) : Screen :=
  if s.dpmsProp then { s with powerState := state } else s

/-- The mode is set with the buffer object, unless it is set. -/
def setMode (s : Screen) (bo : Bo) (k : FlipAnswers) : Option Screen :=
  if s.modeSet then some s
  else
    s.geometry.map fun _ =>
      if k.setCrtc then { s.setCrtc (some bo) with modeSet := true }.setPowerState .on else s

/-- The page flip; a buffer object that is refused is released. -/
def pageFlip (s : Screen) (bo : Bo) (k : FlipAnswers) : Option Screen :=
  if s.queued = none ∧ k.pageFlip then some { s with queued := some bo }
  else (s.releaseBuffer bo).map fun s => { s with boNext := none }

/-- The screen after the front buffer is locked. -/
def lockFront (s : Screen) (bo : Bo) : Screen :=
  { s with boNext := some bo, locked := s.locked ++ [bo] }

/-- `flip`; the framebuffer of the buffer object is used without a check. -/
def flip (s : Screen) (k : FlipAnswers) : Option Screen :=
  match s.surface with
  | none => some s
  | some n =>
    if s.powerState ≠ .on then some s
    else if s.suspended then some s
    else if ¬ k.front then some { s with boNext := none }
    else if ¬ k.addFb then none
    else
      let bo : Bo := ⟨s.locked.length, n⟩
      ((s.lockFront bo).setMode bo k).bind fun s => s.pageFlip bo k

/-- The current buffer object is released. -/
def releaseCurrent (s : Screen) : Option Screen :=
  match s.boCurrent with
  | none => some s
  | some bo => s.releaseBuffer bo

def flipFinished (s : Screen) : Option Screen :=
  s.releaseCurrent.map fun s => { s with boCurrent := s.boNext, boNext := none }

/-- The event of a completed page flip is read. -/
def pageFlipHandler (s : Screen) : Option Screen :=
  if s.events = 0 then some s else { s with events := s.events - 1 }.flipFinished

def suspend (s : Screen) : Screen := { s with suspended := true }

def resume (s : Screen) : Screen := { s with suspended := false }

/-- `restoreMode`; what DRM answers is not looked at. -/
def restoreMode (s : Screen) (restored : Bool) : Screen :=
  if s.modeSet && s.savedCrtc then
    { (if restored then s.setCrtc none else s) with modeSet := false }
  else s

/-- `EglFSKmsInterruptHandler::activeChanged` -/
def activeChanged (s : Screen) (active : Bool) (k : FlipAnswers) (restored : Bool) : Option Screen :=
  if active then
    if s.active then some s
    else { s with active := true }.flipFinished.bind fun s => s.resume.flip k
  else some ({ s with active := false }.suspend.restoreMode restored)

/-- The pending mode becomes the mode of the output. -/
def takePendingMode (s : Screen) : Screen :=
  { s with
    output.mode := s.pendingMode
    pendingMode := -1
    modeSet := false }

def resizeSurface (s : Screen) (created : Bool) : Option Screen :=
  s.takePendingMode.destroySurface.createSurface created

def setCurrentMode (s : Screen) (modeId : Int) : Screen :=
  if modeId < 0 ∨ modeId ≥ s.output.modes.length then s
  else if s.pendingMode ≥ 0 then s
  else { s with pendingMode := modeId }

inductive Op
  | createSurface (created : Bool)
  | destroySurface
  | resizeSurface (created : Bool)
  | flip (k : FlipAnswers)
  | vblank
  | pageFlipEvent
  | activeChanged (active : Bool) (k : FlipAnswers) (restored : Bool)
  | restoreVideoMode (restored : Bool)
  | setPowerState (state : PowerState)
  | setCurrentMode (modeId : Int)

def step (s : Screen) : Op → Option Screen
  | .createSurface created => s.createSurface created
  | .destroySurface => some s.destroySurface
  | .resizeSurface created => s.resizeSurface created
  | .flip k => s.flip k
  | .vblank => some s.vblank
  | .pageFlipEvent => s.pageFlipHandler
  | .activeChanged active k restored => s.activeChanged active k restored
  | .restoreVideoMode restored => some (s.restoreMode restored)
  | .setPowerState state => some (s.setPowerState state)
  | .setCurrentMode modeId => some (s.setCurrentMode modeId)

/-! ## Buffer objects given back -/

/-- What the screen has to give back. -/
def held (s : Screen) : List Bo := s.boCurrent.toList ++ s.boNext.toList

/-- Every buffer object that was locked is held, or was given back once; a released
one to its surface, and none while it was scanned out. -/
structure Buffers (s : Screen) : Prop where
  once : ∀ bo ∈ s.locked, (s.returned.map Return.bo).count bo + s.held.count bo = 1
  surface : ∀ r ∈ s.returned, ∀ n, r.back = .released n → n = r.bo.surface
  scanned : ∀ r ∈ s.returned, r.scanned = false

/-- No flip is under way and the CRTC does not scan the current buffer object out. -/
structure Idle (s : Screen) : Prop where
  next : s.boNext = none
  shown : ∀ bo, s.boCurrent = some bo → s.scanout ≠ some bo

/-- A flip that locks a buffer object finds none that waits, gets a framebuffer for
it and is not refused after the CRTC was set. -/
def FlipOk (s : Screen) (k : FlipAnswers) : Prop :=
  s.surface ≠ none → s.powerState = .on → s.suspended = false →
    s.boNext = none ∧ (k.front = true →
      k.addFb = true ∧ (s.modeSet = false → k.setCrtc = true → k.pageFlip = true))

def Ok (s : Screen) : Op → Prop
  | .flip k => s.FlipOk k
  | .activeChanged active k _ =>
    active = true → s.active = false → s.Idle ∧ { s with suspended := false }.FlipOk k
  | .destroySurface => s.Idle
  | .resizeSurface _ => 0 ≤ s.pendingMode ∧ s.Idle
  | _ => True

/-! ## The ledger -/

end Screen

def Return.Good (r : Return) : Prop :=
  r.scanned = false ∧ ∀ n, r.back = .released n → n = r.bo.surface

/-- What is locked, given back and held, and the surface that the latter comes from. -/
structure Ledger (locked : List Bo) (returned : List Return) (held : List Bo)
    (surface : Option Nat) : Prop where
  custody : Custody locked (returned.map Return.bo) held
  fresh : ∀ bo ∈ locked, bo.lock < locked.length
  surface : ∀ bo ∈ held, surface = some bo.surface
  good : ∀ r ∈ returned, r.Good

namespace Ledger

variable {locked held held' : List Bo} {returned : List Return} {surface : Option Nat} {bo : Bo}

theorem giveBack (h : Ledger locked returned held surface) {r : Return} (hr : r.Good)
    (hheld : held.Perm (r.bo :: held')) : Ledger locked (returned ++ [r]) held' surface := by
  refine ⟨?_, h.fresh, fun bo hbo => ?_, fun r' hr' => ?_⟩
  · rw [List.map_append, List.map_singleton]
    exact (h.custody.perm_held hheld).giveBack
  · exact h.surface bo (hheld.mem_iff.2 (List.mem_cons_of_mem _ hbo))
  · rcases List.mem_append.1 hr' with hr' | hr'
    · exact h.good r' hr'
    · rwa [List.mem_singleton.1 hr']

/-- The number of a lock is a new one. -/
theorem not_mem (h : Ledger locked returned held surface) {n : Nat} :
    (⟨locked.length, n⟩ : Bo) ∉ locked :=
  fun hmem => Nat.lt_irrefl _ (h.fresh _ hmem)

theorem take {n : Nat} (h : Ledger locked returned held (some n)) :
    Ledger (locked ++ [⟨locked.length, n⟩]) returned (held ++ [⟨locked.length, n⟩]) (some n) := by
  refine ⟨h.custody.take h.not_mem, fun bo hbo => ?_, fun bo hbo => ?_, h.good⟩
  · rw [List.length_append, List.length_singleton]
    rcases List.mem_append.1 hbo with hbo | hbo
    · exact Nat.lt_succ_of_lt (h.fresh bo hbo)
    · rw [List.mem_singleton.1 hbo]
      exact Nat.lt_succ_self _
  · rcases List.mem_append.1 hbo with hbo | hbo
    · exact h.surface bo hbo
    · rw [List.mem_singleton.1 hbo]

/-- While nothing is held the surface may change. -/
theorem resurface (h : Ledger locked returned [] surface) (surface' : Option Nat) :
    Ledger locked returned [] surface' :=
  ⟨h.custody, h.fresh, fun _ hbo => absurd hbo List.not_mem_nil, h.good⟩

end Ledger

namespace Screen

variable {s : Screen} {k : FlipAnswers} {bo : Bo}

/-! ## The flip that is under way -/

/-- A buffer object waits exactly while one flip is under way, and once that is
completed the current buffer object is not scanned out any more. -/
structure Flips (s : Screen) : Prop where
  scanout : ∀ bo, s.scanout = some bo → bo ∈ s.held
  idle : s.boNext = none → s.queued = none ∧ s.events = 0
  flipping : ∀ bo, s.boNext = some bo →
    s.queued = some bo ∧ s.events = 0 ∨
      s.queued = none ∧ s.events = 1 ∧ ∀ c, s.boCurrent = some c → s.scanout ≠ some c

structure Inv (s : Screen) : Prop where
  ledger : Ledger s.locked s.returned s.held s.surface
  flips : s.Flips
  mode : s.geometry ≠ none
  pending : s.pendingMode < s.output.modes.length

theorem Inv.buffers (h : Inv s) : s.Buffers where
  once := fun _ hbo => h.ledger.custody.once hbo
  surface := fun r hr => (h.ledger.good r hr).2
  scanned := fun r hr => (h.ledger.good r hr).1

theorem inv_init {output : Output} (savedCrtc dpmsProp : Bool)
    (hmode : qAt output.modes output.mode ≠ none) : Inv (init output savedCrtc dpmsProp) where
  ledger := ⟨.nil, by simp [init], by simp [init, held], by simp [init]⟩
  flips := ⟨by simp [init], fun _ => ⟨rfl, rfl⟩, by simp [init]⟩
  mode := hmode
  pending := by
    show (-1 : Int) < output.modes.length
    omega

/-- What waits is not the current buffer object. -/
theorem Inv.next_ne (h : Inv s) {c : Bo} (hc : s.boCurrent = some c) (hn : s.boNext = some bo) :
    bo ≠ c := by
  have hnodup := h.ledger.custody.nodup_held
  rw [held, hc, hn] at hnodup
  intro hbo
  simp [hbo] at hnodup

theorem Inv.vblank (h : Inv s) : Inv s.vblank := by
  unfold Screen.vblank
  split
  · exact h
  next bo hq =>
    have hn : s.boNext = some bo := by
      cases hnext : s.boNext with
      | none =>
        rw [(h.flips.idle hnext).1] at hq
        cases hq
      | some b =>
        rcases h.flips.flipping b hnext with ⟨hqueued, -⟩ | ⟨hqueued, -⟩
        · exact hqueued.symm.trans hq
        · rw [hqueued] at hq
          cases hq
    have hevents : s.events = 0 := by
      rcases h.flips.flipping bo hn with ⟨-, hevents⟩ | ⟨hqueued, -⟩
      · exact hevents
      · rw [hqueued] at hq
        cases hq
    refine ⟨h.ledger, ⟨?_, ?_, ?_⟩, h.mode, h.pending⟩
    · rintro _ ⟨⟩
      simp [held, hn]
    · intro hnone
      rw [hn] at hnone
      cases hnone
    · intro b hb
      refine .inr ⟨rfl, by simp [hevents], fun c hc hscan => ?_⟩
      exact h.next_ne hc hn (Option.some.inj hscan)

/-- The CRTC is set to something else. -/
theorem Inv.dark (h : Inv s) : Inv { s with scanout := none } := by
  refine ⟨h.ledger, ⟨fun _ hbo => absurd hbo.symm (Option.some_ne_none _), h.flips.idle, ?_⟩, h.mode,
    h.pending⟩
  intro bo hbo
  rcases h.flips.flipping bo hbo with hq | ⟨hq, hevents, -⟩
  · exact .inl hq
  · exact .inr ⟨hq, hevents, fun _ _ => (Option.some_ne_none _).symm⟩

theorem Inv.restoreMode (h : Inv s) (restored : Bool) : Inv (s.restoreMode restored) := by
  have hclear : ∀ {t : Screen}, Inv t → Inv { t with modeSet := false } := fun ht =>
    ⟨ht.ledger, ⟨ht.flips.scanout, ht.flips.idle, ht.flips.flipping⟩, ht.mode, ht.pending⟩
  unfold Screen.restoreMode
  split
  · cases restored with
    | false => exact hclear h
    | true => exact hclear h.vblank.dark
  · exact h

/-- A release to the surface that the buffer object comes from. -/
theorem releaseBuffer_eq (hsurface : s.surface = some bo.surface) (hscan : s.scanout ≠ some bo) :
    s.releaseBuffer bo =
      some { s with returned := s.returned ++ [⟨bo, .released bo.surface, false⟩] } := by
  unfold releaseBuffer
  rw [hsurface, Option.map_some, decide_eq_false hscan]

/-- **`flipFinished`.**  The current buffer object is given back when the CRTC does
not scan it out, and the one that waits becomes the current one. -/
theorem flipFinished_spec (h : Ledger s.locked s.returned s.held s.surface)
    (hshown : ∀ c, s.boCurrent = some c → s.scanout ≠ some c) :
    ∃ returned, s.flipFinished =
        some { s with returned := returned, boCurrent := s.boNext, boNext := none } ∧
      Ledger s.locked returned s.boNext.toList s.surface := by
  unfold flipFinished releaseCurrent
  cases hc : s.boCurrent with
  | none =>
    refine ⟨s.returned, rfl, ?_⟩
    rwa [held, hc] at h
  | some c =>
    rw [held, hc] at h
    have hsurface := h.surface c List.mem_cons_self
    refine ⟨s.returned ++ [⟨c, .released c.surface, false⟩], ?_, ?_⟩
    · show (s.releaseBuffer c).map _ = _
      rw [releaseBuffer_eq hsurface (hshown c hc), Option.map_some]
    · refine h.giveBack ⟨rfl, ?_⟩ (List.Perm.refl _)
      rintro _ ⟨⟩
      rfl

theorem inv_pageFlipHandler (h : Inv s) : ∃ s', s.pageFlipHandler = some s' ∧ Inv s' := by
  unfold pageFlipHandler
  split
  · exact ⟨s, rfl, h⟩
  next hevents =>
    obtain ⟨bo, hn⟩ := Option.ne_none_iff_exists'.1 fun hn => hevents (h.flips.idle hn).2
    rcases h.flips.flipping bo hn with ⟨-, hzero⟩ | ⟨hq, hone, hshown⟩
    · exact absurd hzero hevents
    obtain ⟨returned, heq, hledger⟩ := flipFinished_spec (s := { s with events := s.events - 1 })
      h.ledger hshown
    refine ⟨_, heq, ⟨?_, ⟨?_, ?_, ?_⟩, h.mode, h.pending⟩⟩
    · show Ledger s.locked returned (s.boNext.toList ++ []) s.surface
      rwa [List.append_nil]
    · intro b hb
      have hmem := h.flips.scanout b hb
      rw [held, List.mem_append, Option.mem_toList] at hmem
      show b ∈ s.boNext.toList ++ []
      rw [List.append_nil]
      exact hmem.resolve_left fun hcurrent => hshown b hcurrent hb
    · intro _
      refine ⟨hq, ?_⟩
      show s.events - 1 = 0
      omega
    · rintro _ ⟨⟩

/-! ## A flip -/

/-- A buffer object is locked and its page flip is not queued yet. -/
structure Locked (s : Screen) (bo : Bo) : Prop where
  ledger : Ledger s.locked s.returned s.held s.surface
  next : s.boNext = some bo
  scanout : ∀ b, s.scanout = some b → b ∈ s.held
  queued : s.queued = none
  events : s.events = 0
  mode : s.geometry ≠ none
  pending : s.pendingMode < s.output.modes.length

/-- The new buffer object is not the one on the screen. -/
theorem lockFront_spec (h : Inv s) (hn : s.boNext = none) {n : Nat} (hsurface : s.surface = some n) :
    (s.lockFront ⟨s.locked.length, n⟩).Locked ⟨s.locked.length, n⟩ ∧
      s.scanout ≠ some ⟨s.locked.length, n⟩ := by
  have hheld : s.held = s.boCurrent.toList := by
    rw [held, hn]
    exact List.append_nil _
  refine ⟨⟨?_, rfl, ?_, (h.flips.idle hn).1, (h.flips.idle hn).2, h.mode, h.pending⟩, ?_⟩
  · show Ledger (s.locked ++ _) s.returned (s.boCurrent.toList ++ _) s.surface
    have hledger := h.ledger
    rw [hheld, hsurface] at hledger
    rw [hsurface]
    exact hledger.take
  · intro b hb
    have hmem := h.flips.scanout b hb
    rw [hheld] at hmem
    exact List.mem_append_left _ hmem
  · intro hscan
    exact h.ledger.not_mem (h.ledger.custody.mem_taken (h.flips.scanout _ hscan))

theorem setMode_spec (hmode : s.geometry ≠ none) (hq : s.queued = none) (bo : Bo)
    (k : FlipAnswers) :
    ∃ m o p, s.setMode bo k = some { s with modeSet := m, scanout := o, powerState := p } ∧
      (o = s.scanout ∨ o = some bo ∧ s.modeSet = false ∧ k.setCrtc = true) := by
  unfold setMode
  split
  · exact ⟨s.modeSet, s.scanout, s.powerState, rfl, .inl rfl⟩
  next hset =>
    obtain ⟨mode, hm⟩ := Option.ne_none_iff_exists'.1 hmode
    have hvblank : s.vblank = s := by
      unfold Screen.vblank
      rw [hq]
    rw [hm, Option.map_some]
    split
    next hcrtc =>
      refine ⟨true, some bo, if s.dpmsProp then .on else s.powerState, ?_,
        .inr ⟨rfl, Bool.eq_false_iff.2 hset, hcrtc⟩⟩
      rw [setCrtc, hvblank]
      unfold setPowerState
      split <;> rfl
    · exact ⟨s.modeSet, s.scanout, s.powerState, rfl, .inl rfl⟩

/-- The page flip is queued, or the buffer object is released while it is not
scanned out. -/
theorem inv_pageFlip (h : s.Locked bo) (hrefused : s.scanout = some bo → k.pageFlip = true) :
    ∃ s', s.pageFlip bo k = some s' ∧ Inv s' := by
  have hledger := h.ledger
  rw [held, h.next] at hledger
  unfold pageFlip
  split
  · refine ⟨_, rfl, ⟨h.ledger, ⟨h.scanout, ?_, ?_⟩, h.mode, h.pending⟩⟩
    · intro hnone
      exact absurd (h.next.symm.trans hnone) (Option.some_ne_none bo)
    · intro b hb
      exact .inl ⟨h.next.symm.trans hb, h.events⟩
  next hnot =>
    have hscan : s.scanout ≠ some bo := fun hscan => hnot ⟨h.queued, hrefused hscan⟩
    have hsurface := hledger.surface bo (List.mem_append_right _ List.mem_cons_self)
    rw [releaseBuffer_eq hsurface hscan]
    refine ⟨_, rfl, ⟨?_, ⟨?_, fun _ => ⟨h.queued, h.events⟩, ?_⟩, h.mode, h.pending⟩⟩
    · show Ledger s.locked _ (s.boCurrent.toList ++ []) s.surface
      refine hledger.giveBack ⟨rfl, ?_⟩ ?_
      · rintro _ ⟨⟩
        rfl
      · rw [List.append_nil]
        exact List.perm_append_comm
    · intro b hb
      have hmem := h.scanout b hb
      rw [held, h.next, List.mem_append] at hmem
      show b ∈ s.boCurrent.toList ++ []
      rw [List.append_nil]
      refine hmem.resolve_right fun hbo => hscan ?_
      rw [← List.mem_singleton.1 hbo]
      exact hb
    · rintro _ ⟨⟩

/-- **A flip.** -/
theorem inv_flip (h : Inv s) (hok : s.FlipOk k) : ∃ s', s.flip k = some s' ∧ Inv s' := by
  unfold flip
  split
  · exact ⟨s, rfl, h⟩
  next n hsurface =>
    have hsome : s.surface ≠ none := hsurface ▸ Option.some_ne_none n
    split_ifs with hpower hsuspended hfront hfb
    · exact ⟨s, rfl, h⟩
    · exact ⟨s, rfl, h⟩
    · obtain ⟨hn, hgood⟩ := hok hsome (not_not.1 hpower) (Bool.eq_false_iff.2 hsuspended)
      obtain ⟨hlocked, hnew⟩ := lockFront_spec h hn hsurface
      obtain ⟨m, o, p, heq, hscan⟩ := setMode_spec hlocked.mode hlocked.queued
        ⟨s.locked.length, n⟩ k
      show ∃ s', Option.bind _ _ = some s' ∧ _
      rw [heq, Option.bind_some]
      refine inv_pageFlip ⟨hlocked.ledger, hlocked.next, ?_, hlocked.queued, hlocked.events,
        hlocked.mode, hlocked.pending⟩ ?_
      · intro b hb
        rcases hscan with rfl | ⟨rfl, -⟩
        · exact hlocked.scanout b hb
        · obtain rfl := Option.some.inj hb
          exact List.mem_append_right _ List.mem_cons_self
      · intro hshown
        rcases hscan with rfl | ⟨-, hset, hcrtc⟩
        · exact absurd hshown hnew
        · exact (hgood hfront).2 hset hcrtc
    · exact absurd ((hok hsome (not_not.1 hpower) (Bool.eq_false_iff.2 hsuspended)).2 hfront).1 hfb
    · obtain ⟨hn, -⟩ := hok hsome (not_not.1 hpower) (Bool.eq_false_iff.2 hsuspended)
      have hsame : { s with boNext := none } = s := by rw [← hn]
      exact ⟨_, rfl, hsame ▸ h⟩

/-! ## The surface and the VT -/

theorem inv_createSurface (h : Inv s) (created : Bool) :
    ∃ s', s.createSurface created = some s' ∧ Inv s' := by
  unfold createSurface
  split
  · exact ⟨s, rfl, h⟩
  next hsurface =>
    obtain ⟨mode, hm⟩ := Option.ne_none_iff_exists'.1 h.mode
    rw [hm, Option.map_some]
    refine ⟨_, rfl, ?_⟩
    split
    · have hheld : s.held = [] := by
        refine List.eq_nil_iff_forall_not_mem.2 fun bo hbo => ?_
        have hbo' := h.ledger.surface bo hbo
        rw [hsurface] at hbo'
        cases hbo'
      have hledger := h.ledger
      rw [hheld] at hledger
      refine ⟨?_, ⟨h.flips.scanout, h.flips.idle, h.flips.flipping⟩, h.mode, h.pending⟩
      show Ledger s.locked s.returned s.held _
      rw [hheld]
      exact hledger.resurface _
    · exact h

/-- While no flip is under way nothing else of the screen can be on the CRTC. -/
theorem Inv.scanout_eq_none (h : Inv s) (hidle : s.Idle) : s.scanout = none := by
  by_contra hscan
  obtain ⟨bo, hbo⟩ := Option.ne_none_iff_exists'.1 hscan
  have hmem := h.flips.scanout bo hbo
  rw [held, hidle.next, List.mem_append, Option.mem_toList] at hmem
  exact hidle.shown bo (hmem.resolve_right List.not_mem_nil) hbo

theorem destroyBuffer_eq (hscan : s.scanout ≠ some bo) :
    s.destroyBuffer bo = { s with returned := s.returned ++ [⟨bo, .destroyed, false⟩] } := by
  unfold destroyBuffer
  rw [decide_eq_false hscan, if_neg hscan]

/-- The current buffer object is destroyed while it is not scanned out. -/
theorem destroyCurrent_spec (h : Ledger s.locked s.returned s.held s.surface)
    (hshown : ∀ c, s.boCurrent = some c → s.scanout ≠ some c) :
    ∃ returned, s.destroyCurrent = { s with returned := returned, boCurrent := none } ∧
      Ledger s.locked returned s.boNext.toList s.surface := by
  unfold destroyCurrent
  cases hc : s.boCurrent with
  | none =>
    have hsame : { s with boCurrent := none } = s := by rw [← hc]
    refine ⟨s.returned, hsame.symm, ?_⟩
    rwa [held, hc] at h
  | some c =>
    rw [held, hc] at h
    refine ⟨s.returned ++ [⟨c, .destroyed, false⟩], ?_, h.giveBack ⟨rfl, ?_⟩ (List.Perm.refl _)⟩
    · show { s.destroyBuffer c with boCurrent := none } = _
      rw [destroyBuffer_eq (hshown c hc)]
    · rintro _ ⟨⟩

theorem inv_destroySurface (h : Inv s) (hidle : s.Idle) : Inv s.destroySurface := by
  obtain ⟨returned, heq, hledger⟩ := destroyCurrent_spec h.ledger hidle.shown
  have hnext : s.destroyCurrent.destroyNext = s.destroyCurrent := by
    unfold destroyNext
    rw [heq, hidle.next]
  unfold destroySurface
  rw [hnext, heq]
  rw [hidle.next] at hledger
  refine ⟨?_, ⟨?_, h.flips.idle, ?_⟩, h.mode, h.pending⟩
  · show Ledger s.locked returned ([] ++ s.boNext.toList) none
    rw [hidle.next]
    exact hledger.resurface none
  · intro b hb
    exact absurd ((h.scanout_eq_none hidle).symm.trans hb) (Option.some_ne_none b).symm
  · intro b hb
    exact absurd (hidle.next.symm.trans hb) (Option.some_ne_none b).symm

theorem inv_resizeSurface (h : Inv s) (hpending : 0 ≤ s.pendingMode) (hidle : s.Idle)
    (created : Bool) : ∃ s', s.resizeSurface created = some s' ∧ Inv s' := by
  have htaken : Inv s.takePendingMode := by
    refine ⟨h.ledger, ?_, qAt_ne_none_iff.2 ⟨hpending, h.pending⟩, ?_⟩
    · exact ⟨h.flips.scanout, h.flips.idle, h.flips.flipping⟩
    · show (-1 : Int) < s.output.modes.length
      omega
  exact inv_createSurface (inv_destroySurface htaken ⟨hidle.next, hidle.shown⟩) created

theorem inv_setPowerState (h : Inv s) (state : PowerState) : Inv (s.setPowerState state) := by
  unfold setPowerState
  split
  · exact ⟨h.ledger, ⟨h.flips.scanout, h.flips.idle, h.flips.flipping⟩, h.mode, h.pending⟩
  · exact h

theorem inv_setCurrentMode (h : Inv s) (modeId : Int) : Inv (s.setCurrentMode modeId) := by
  unfold setCurrentMode
  split_ifs with hrange
  · exact h
  · exact h
  · refine ⟨h.ledger, ⟨h.flips.scanout, h.flips.idle, h.flips.flipping⟩, h.mode, ?_⟩
    show modeId < s.output.modes.length
    omega

/-- **A VT switch.**  Painting resumes when no flip is under way and the current
buffer object is not scanned out. -/
theorem inv_activeChanged (h : Inv s) (active : Bool) (restored : Bool)
    (hok : Ok s (.activeChanged active k restored)) :
    ∃ s', s.activeChanged active k restored = some s' ∧ Inv s' := by
  unfold activeChanged
  split_ifs with hactive hwas
  · exact ⟨s, rfl, h⟩
  · obtain ⟨hidle, hflip⟩ := hok hactive (Bool.eq_false_iff.2 hwas)
    obtain ⟨returned, heq, hledger⟩ := flipFinished_spec (s := { s with active := true })
      h.ledger hidle.shown
    rw [heq, Option.bind_some]
    refine inv_flip ⟨?_, ⟨?_, fun _ => h.flips.idle hidle.next, ?_⟩, h.mode, h.pending⟩ ?_
    · show Ledger s.locked returned (s.boNext.toList ++ []) s.surface
      rwa [List.append_nil]
    · intro b hb
      exact absurd ((h.scanout_eq_none hidle).symm.trans hb) (Option.some_ne_none b).symm
    · rintro _ ⟨⟩
    · intro hsurface hpower hsuspended
      exact ⟨rfl, (hflip hsurface hpower hsuspended).2⟩
  · have hstopped : Inv { s with active := false }.suspend :=
      ⟨h.ledger, ⟨h.flips.scanout, h.flips.idle, h.flips.flipping⟩, h.mode, h.pending⟩
    exact ⟨_, rfl, hstopped.restoreMode restored⟩

/-! ## Runs -/

/-- **A step.** -/
theorem inv_step (h : Inv s) (op : Op) (hok : Ok s op) : ∃ s', step s op = some s' ∧ Inv s' := by
  cases op with
  | createSurface created => exact inv_createSurface h created
  | destroySurface => exact ⟨_, rfl, inv_destroySurface h hok⟩
  | resizeSurface created => exact inv_resizeSurface h hok.1 hok.2 created
  | flip k => exact inv_flip h hok
  | vblank => exact ⟨_, rfl, h.vblank⟩
  | pageFlipEvent => exact inv_pageFlipHandler h
  | activeChanged active k restored => exact inv_activeChanged h active restored hok
  | restoreVideoMode restored => exact ⟨_, rfl, h.restoreMode restored⟩
  | setPowerState state => exact ⟨_, rfl, inv_setPowerState h state⟩
  | setCurrentMode modeId => exact ⟨_, rfl, inv_setCurrentMode h modeId⟩

/-- **Scan-out buffers.**  In every run whose calls meet their conditions every buffer
object is given back once, to its surface and not while it is scanned out. -/
theorem buffers_given_back (output : Output) (savedCrtc dpmsProp : Bool)
    (hmode : qAt output.modes output.mode ≠ none) (ops : List Op)
    (hok : Run.Meets step Ok (init output savedCrtc dpmsProp) ops) :
    Run.Always step Buffers (init output savedCrtc dpmsProp) ops := by
  have hinit := inv_init savedCrtc dpmsProp hmode
  refine ⟨hinit.buffers, Run.along_of_meets (I := Inv) ?_ ops _ hinit hok⟩
  intro s op h hop
  obtain ⟨s', hs, hinv⟩ := inv_step h op hop
  exact ⟨s', hs, hinv.buffers, hinv⟩

/-! ## A VT switch while a flip is under way -/

def svgaOutput : Output := ⟨"HDMI1", 70, 33, 0, -1, [Device.svga]⟩

/-- Everything succeeds. -/
def allOk : FlipAnswers := ⟨true, true, true, true⟩

/-- Two flips, then a VT switch that restores the saved mode. -/
theorem buffers_given_back_switch :
    Run.Always step Buffers (init svgaOutput true true)
      [.createSurface true, .flip allOk, .vblank, .pageFlipEvent, .flip allOk, .vblank,
        .pageFlipEvent, .activeChanged false allOk true, .activeChanged true allOk true] := by
  refine buffers_given_back svgaOutput true true (by decide) _ ?_
  refine ⟨trivial, ?_⟩
  rintro _ ⟨⟩
  refine ⟨fun _ _ _ => by decide, ?_⟩
  rintro _ ⟨⟩
  refine ⟨trivial, ?_⟩
  rintro _ ⟨⟩
  refine ⟨trivial, ?_⟩
  rintro _ ⟨⟩
  refine ⟨fun _ _ _ => by decide, ?_⟩
  rintro _ ⟨⟩
  refine ⟨trivial, ?_⟩
  rintro _ ⟨⟩
  refine ⟨trivial, ?_⟩
  rintro _ ⟨⟩
  refine ⟨fun hactive => absurd hactive (by decide), ?_⟩
  rintro _ ⟨⟩
  refine ⟨fun _ _ => ⟨⟨rfl, fun bo _ => (Option.some_ne_none bo).symm⟩, fun _ _ _ => by decide⟩,
    fun _ _ => trivial⟩

/-- The VT is switched away and back while the event of a flip was not read: the
event of the next flip releases the buffer object on the screen. -/
theorem buffers_not_given_back :
    ¬ ∀ (output : Output) (savedCrtc dpmsProp : Bool) (ops : List Op),
      qAt output.modes output.mode ≠ none →
        Run.Each step (fun _ _ s' => s'.Buffers) (init output savedCrtc dpmsProp) ops := by
  intro h
  have hrun := h svgaOutput true true
    [.createSurface true, .flip allOk, .vblank, .activeChanged false allOk true,
      .activeChanged true allOk true, .pageFlipEvent, .vblank, .flip allOk, .pageFlipEvent]
    (by decide)
  obtain ⟨-, hrun⟩ := hrun _ rfl
  obtain ⟨-, hrun⟩ := hrun _ rfl
  obtain ⟨-, hrun⟩ := hrun _ rfl
  obtain ⟨-, hrun⟩ := hrun _ rfl
  obtain ⟨-, hrun⟩ := hrun _ rfl
  obtain ⟨-, hrun⟩ := hrun _ rfl
  obtain ⟨-, hrun⟩ := hrun _ rfl
  obtain ⟨-, hrun⟩ := hrun _ rfl
  obtain ⟨hbuffers, -⟩ := hrun _ rfl
  have hscanned := hbuffers.scanned ⟨⟨1, 0⟩, .released 0, true⟩ (by decide)
  cases hscanned

end Screen

end GreenIsland.Kms

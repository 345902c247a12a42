import GreenIsland.Server.Screencaster

/-! The end of a screencast (`screencast_destroy`, `Screencast::event`).

When the client destroys a screencast, the screencast is marked, its requests are
removed, and `deleteLater` posts it a `DeferredDelete` event; answers may be in the
queue before that one.  What is owed from then on (`TornDown`): nothing is sent,
the protocol resource is not used, no request is entered, and the screencast is
deleted by the event that was posted for that.

`event` passes on only what arrives while the screencast is valid, so it handles
`DeferredDelete` like an answer that is dropped, and after that it flushes the
client of the resource.  All the rest is kept, so what is owed holds exactly as long
as no event is delivered to a destroyed screencast (`torn_down_iff`). -/

namespace GreenIsland.Server

/-! ## Model -/

/-- Screencasts with their ends. -/
structure ScreencastTeardown where
  screencaster : Screencaster
  /-- the messages up to the moment when the client destroyed the screencast, if it has -/
  destroyed : CastId → Option (List Msg)
  /-- the protocol resource was used after that -/
  touched : CastId → Bool
  /-- the screencast was deleted -/
  deleted : CastId → Bool

namespace ScreencastTeardown

open Screencaster

def init (window : CastId → QQuickWindow) : ScreencastTeardown :=
  ⟨Screencaster.init window, fun _ => none, fun _ => false, fun _ => false⟩

/-- `QObject::event` for `DeferredDelete`: the destructor runs, and takes what is
left in the queue for the screencast with it. -/
def runDelete (t : ScreencastTeardown) (c : CastId) : ScreencastTeardown :=
  let s := t.screencaster.removeRequest (some (t.screencaster.casts c).window) c
  { t with
    screencaster := { s with queue := s.queue.filter fun e => !(e.1 == c) }
    deleted := Function.update t.deleted c true }

/-- `wl_client_flush(d->resource()->client())` -/
def flush (t : ScreencastTeardown) (c : CastId) : ScreencastTeardown :=
  if (t.destroyed c).isSome then { t with touched := Function.update t.touched c true } else t

/-- `Screencast::event`, for the next event of the queue. -/
def event (t : ScreencastTeardown) : ScreencastTeardown :=
  match t.screencaster.queue with
  | [] => t
  | (c, event) :: _ =>
    let delivered := { t with screencaster := t.screencaster.deliver }
    if (t.screencaster.casts c).valid ∧ event = .deferredDelete then delivered.runDelete c
    else delivered.flush c

def destroy (t : ScreencastTeardown) (c : CastId) : ScreencastTeardown :=
  { t with
    screencaster := t.screencaster.destroy c
    destroyed := Function.update t.destroyed c (some (t.screencaster.log c)) }

/-- A client has no requests for a screencast that it destroyed. -/
def Deliverable (t : ScreencastTeardown) : Op → Prop
  | .record c .. => t.destroyed c = none
  | .destroy c => t.destroyed c = none
  | _ => True

instance (t : ScreencastTeardown) (op : Op) : Decidable (t.Deliverable op) := by
  cases op <;> unfold Deliverable <;> infer_instance

def handle (t : ScreencastTeardown) : Op → ScreencastTeardown
  | .deliver => t.event
  | .destroy c => t.destroy c
  | op => { t with screencaster := t.screencaster.step op }

def step (t : ScreencastTeardown) (op : Op) : ScreencastTeardown :=
  if t.Deliverable op then t.handle op else t

/-! ## What is owed -/

/-- The messages to the client. -/
def isSent : Msg → Bool
  | .frame .. | .failed .. | .cancelled _ => true
  | _ => false

/-- What is owed for a screencast that was destroyed when `log` was its log. -/
structure Ended (t : ScreencastTeardown) (c : CastId) (log : List Msg) : Prop where
  silent : (t.screencaster.log c).filter isSent = log.filter isSent
  untouched : t.touched c = false
  unrequested : ∀ w, (w, c) ∉ t.screencaster.requests
  deleted : (c, .deferredDelete) ∈ t.screencaster.queue ∨ t.deleted c = true

def TornDown (t : ScreencastTeardown) : Prop :=
  ∀ c log, t.destroyed c = some log → t.Ended c log

/-- **The steps after which that is so.** -/
def OpOk (t : ScreencastTeardown) : Op → Prop
  | .deliver => ∀ e ∈ t.screencaster.queue.head?, t.destroyed e.1 = none
  | _ => True

structure Inv (t : ScreencastTeardown) : Prop where
  valid : ∀ c, (t.screencaster.casts c).valid = true ↔ t.destroyed c = none
  /-- only destroyed screencasts are to be deleted -/
  doomed : ∀ c, (c, .deferredDelete) ∈ t.screencaster.queue → t.destroyed c ≠ none
  untouched : ∀ c, t.destroyed c = none → t.touched c = false
  silent : ∀ c log, t.destroyed c = some log →
    (t.screencaster.log c).filter isSent = log.filter isSent
  unrequested : ∀ c, t.destroyed c ≠ none → ∀ w, (w, c) ∉ t.screencaster.requests

theorem inv_init (window : CastId → QQuickWindow) : Inv (init window) where
  valid _ := iff_of_true rfl rfl
  doomed _ h := by cases h
  untouched _ _ := rfl
  silent _ _ h := by cases h
  unrequested _ h := absurd rfl h

/-! ## One operation of the screencaster -/

/-- The step does not destroy `c`. -/
structure Keeps (c : CastId) (s s' : Screencaster) : Prop where
  valid : (s'.casts c).valid = (s.casts c).valid
  pending : (c, .deferredDelete) ∈ s'.queue → (c, .deferredDelete) ∈ s.queue

/-- Nor does it send anything to `c` or enter a request of it. -/
structure Spares (c : CastId) (s s' : Screencaster) : Prop extends Keeps c s s' where
  sent : (s'.log c).filter isSent = (s.log c).filter isSent
  requests : ∀ w, (w, c) ∈ s'.requests → (w, c) ∈ s.requests

section
variable {s s' s'' : Screencaster} {c d : CastId}

theorem Keeps.refl (c : CastId) (s : Screencaster) : Keeps c s s := ⟨rfl, id⟩

theorem Keeps.trans (h : Keeps c s s') (h' : Keeps c s' s'') : Keeps c s s'' :=
  ⟨h'.valid.trans h.valid, fun hc => h.pending (h'.pending hc)⟩

theorem Spares.refl (c : CastId) (s : Screencaster) : Spares c s s :=
  ⟨Keeps.refl c s, rfl, fun _ h => h⟩

theorem Spares.trans (h : Spares c s s') (h' : Spares c s' s'') : Spares c s s'' :=
  ⟨h.toKeeps.trans h'.toKeeps, h'.sent.trans h.sent, fun w hw => h.requests w (h'.requests w hw)⟩

theorem keeps_send (d : CastId) (msg : Msg) : Keeps c s (s.send d msg) := ⟨rfl, id⟩

theorem spares_send (h : c ≠ d) (msg : Msg) : Spares c s (s.send d msg) :=
  ⟨keeps_send d msg, by rw [log_send_of_ne _ h], fun _ h => h⟩

/-- A message of the compositor's own is not sent. -/
theorem spares_copied (d : CastId) (b : BufferId) : Spares c s (s.send d (.copied b)) := by
  by_cases h : c = d
  · subst h
    refine ⟨keeps_send c _, ?_, fun _ h => h⟩
    rw [log_send_self, List.filter_append]
    exact List.append_nil _
  · exact spares_send h _

theorem spares_setCast {cast : Screencast} (h : c = d → cast.valid = (s.casts d).valid) :
    Spares c s (s.setCast d cast) := by
  refine ⟨⟨?_, id⟩, rfl, fun _ h => h⟩
  by_cases hd : c = d
  · subst hd
    rw [casts_setCast_self, h rfl]
  · rw [casts_setCast_of_ne _ hd]

theorem spares_forgetBuffer (d : CastId) : Spares c s (s.forgetBuffer d) :=
  spares_setCast fun hd => hd ▸ rfl

theorem spares_postEvent {event : QEvent} (h : c = d → event ≠ .deferredDelete) :
    Spares c s (s.postEvent d event) := by
  refine ⟨⟨rfl, fun hmem => ?_⟩, rfl, fun _ h => h⟩
  refine (List.mem_append.1 hmem).resolve_right fun hmem => ?_
  obtain ⟨hd, hevent⟩ := Prod.mk.inj (List.mem_singleton.1 hmem)
  exact h hd hevent.symm

theorem spares_removeRequest (window : Option QQuickWindow) (d : CastId) :
    Spares c s (s.removeRequest window d) := by
  cases window with
  | none => exact ⟨⟨rfl, id⟩, rfl, fun _ h => (List.mem_filter.1 h).1⟩
  | some w => exact ⟨⟨rfl, id⟩, rfl, fun _ h => (List.mem_filter.1 h).1⟩

theorem spares_addRequest (h : c ≠ d) (window : QQuickWindow) : Spares c s (s.addRequest window d) := by
  refine ⟨⟨rfl, id⟩, rfl, fun w hw => ?_⟩
  rcases List.mem_cons.1 hw with hw | hw
  · exact absurd (Prod.mk.inj hw).2 h
  · exact hw

theorem spares_cancelPrevious (h : c ≠ d) : Spares c s (s.cancelPrevious d) := by
  unfold cancelPrevious
  split
  · exact spares_send h _
  · exact Spares.refl c s

theorem spares_record (h : c ≠ d) (br : BufferId) (shm : Option ShmLayout) (geometry : QSize) :
    Spares c s (s.record d br shm geometry) := by
  have hprevious := (spares_send h (.record br)).trans (spares_cancelPrevious (s := s.send d _) h)
  unfold Screencaster.record
  simp only []
  split
  · exact (hprevious.trans (spares_setCast fun hd => absurd hd h)).trans (spares_send h _)
  · exact (hprevious.trans (spares_setCast fun hd => absurd hd h)).trans (spares_addRequest h _)

theorem keeps_record (br : BufferId) (shm : Option ShmLayout) (geometry : QSize) :
    Keeps c s (s.record c br shm geometry) := by
  have hprevious : Keeps c s ((s.send c (.record br)).cancelPrevious c) := by
    unfold cancelPrevious
    split
    · exact (keeps_send c _).trans (keeps_send c _)
    · exact keeps_send c _
  have hset : ∀ cast : Screencast,
      cast.valid = (((s.send c (.record br)).cancelPrevious c).casts c).valid →
      Keeps c s (((s.send c (.record br)).cancelPrevious c).setCast c cast) := fun _ hvalid =>
    hprevious.trans (spares_setCast fun _ => hvalid).toKeeps
  unfold Screencaster.record
  simp only []
  split
  · refine (hset _ ?_).trans (keeps_send c _)
    rfl
  · refine (hset _ ?_).trans ⟨rfl, id⟩
    rfl

theorem spares_frameRecording (buffer : ShmBuffer) (time : UInt32) (image : Int) :
    Spares c s (s.frameRecording d buffer time image) := by
  unfold frameRecording
  split
  · exact Spares.refl c s
  · split
    · exact spares_postEvent fun _ h => by cases h
    · exact (spares_copied d _).trans (spares_postEvent fun _ h => by cases h)

/-- A grab posts answers and sends nothing. -/
theorem spares_recordFrame (window : QQuickWindow) (time : UInt32) (image : Int) :
    Spares c s (s.recordFrame window time image) := by
  have hloop : ∀ (casts : List CastId) (s : Screencaster),
      Spares c s (casts.foldl (satisfyRequest window time image) s) := by
    intro casts
    induction casts with
    | nil => exact Spares.refl c
    | cons d casts ih =>
      intro s
      have hremove : Spares c s (s.removeRequest (some window) d) := spares_removeRequest _ d
      refine Spares.trans ?_ (ih _)
      unfold satisfyRequest
      simp only []
      split
      · exact hremove
      · exact hremove.trans (spares_frameRecording _ time image)
  unfold Screencaster.recordFrame
  split
  · exact Spares.refl c s
  · exact hloop _ s

theorem spares_bufferDestroyed (b : BufferId) : Spares c s (s.bufferDestroyed b) := by
  refine ⟨⟨?_, id⟩, ?_, fun _ h => h⟩
  · unfold bufferDestroyed
    simp only []
    split <;> rfl
  · exact (List.filter_append _ _).trans (List.append_nil _)

theorem spares_destroy (h : c ≠ d) : Spares c s (s.destroy d) :=
  ((spares_setCast fun hd => absurd hd h).trans (spares_removeRequest none d)).trans
    (spares_postEvent fun hd => absurd hd h)

theorem requests_deliver (s : Screencaster) : s.deliver.requests = s.requests := by
  unfold Screencaster.deliver
  split
  · rfl
  next d event queue hq =>
  simp only []
  split
  · cases event <;> rfl
  · rfl

theorem keeps_deliver : Keeps c s s.deliver := by
  unfold Screencaster.deliver
  split
  · exact Keeps.refl c s
  next d event queue hq =>
  simp only []
  have hpop : Keeps c s { s with queue := queue } :=
    ⟨rfl, fun hc => hq ▸ List.mem_cons_of_mem _ hc⟩
  have hforget : ∀ s', Keeps c s s' → Keeps c s (s'.forgetBuffer d) := fun s' h =>
    h.trans (spares_forgetBuffer d).toKeeps
  split
  · cases event with
    | success time => exact hforget _ (hpop.trans (keeps_send d _))
    | failed error => exact hforget _ (hpop.trans (keeps_send d _))
    | deferredDelete => exact hpop
  · exact hforget _ hpop

/-- Nothing is sent to a screencast that is not valid. -/
theorem spares_deliver (h : (s.casts c).valid = false) : Spares c s s.deliver := by
  refine ⟨keeps_deliver, ?_, ?_⟩
  · unfold Screencaster.deliver
    split
    · rfl
    next d event queue hq =>
    simp only []
    split
    · next hvalid =>
      have hne : c ≠ d := by
        rintro rfl
        exact Bool.false_ne_true (h.symm.trans hvalid)
      cases event with
      | deferredDelete => rfl
      | success time => exact (spares_send (s := { s with queue := queue }) hne _).sent
      | failed error => exact (spares_send (s := { s with queue := queue }) hne _).sent
    · rfl
  · intro w hw
    rwa [requests_deliver] at hw

theorem queue_deliver {e : CastId × QEvent} {queue : List (CastId × QEvent)}
    (hq : s.queue = e :: queue) : s.deliver.queue = queue := by
  obtain ⟨d, event⟩ := e
  unfold Screencaster.deliver
  rw [hq]
  simp only []
  split
  · cases event <;> rfl
  · rfl

theorem queue_record (d : CastId) (br : BufferId) (shm : Option ShmLayout) (geometry : QSize) :
    (s.record d br shm geometry).queue = s.queue := by
  have hprevious : ((s.send d (.record br)).cancelPrevious d).queue = s.queue := by
    unfold cancelPrevious
    split <;> rfl
  unfold Screencaster.record
  simp only []
  split
  · exact hprevious
  · exact hprevious

end

/-! ## One step -/

section
variable {t : ScreencastTeardown}

/-- A step that destroys nothing and does not end the life of a screencast. -/
theorem Inv.of_keeps (h : Inv t) {s' : Screencaster}
    (hkeeps : ∀ c, t.destroyed c = none → Keeps c t.screencaster s')
    (hspares : ∀ c, t.destroyed c ≠ none → Spares c t.screencaster s') :
    Inv { t with screencaster := s' } where
  valid c := by
    by_cases hc : t.destroyed c = none
    · exact (congrArg (· = true) (hkeeps c hc).valid).to_iff.trans (h.valid c)
    · exact (congrArg (· = true) (hspares c hc).valid).to_iff.trans (h.valid c)
  doomed c hmem hc := h.doomed c ((hkeeps c hc).pending hmem) hc
  untouched := h.untouched
  silent c log hc := by
    have hne : t.destroyed c ≠ none := hc ▸ Option.some_ne_none log
    exact (hspares c hne).sent.trans (h.silent c log hc)
  unrequested c hc w hw := h.unrequested c hc w ((hspares c hc).requests w hw)

theorem destroyed_destroy_self (t : ScreencastTeardown) (c : CastId) :
    (t.destroy c).destroyed c = some (t.screencaster.log c) := Function.update_self ..

theorem destroyed_destroy_of_ne (t : ScreencastTeardown) {c d : CastId} (h : c ≠ d) :
    (t.destroy d).destroyed c = t.destroyed c := Function.update_of_ne h ..

theorem valid_destroy (t : ScreencastTeardown) (c : CastId) :
    ((t.destroy c).screencaster.casts c).valid = false :=
  congrArg Screencast.valid (casts_setCast_self ..)

theorem Inv.destroy (h : Inv t) (d : CastId) : Inv (t.destroy d) where
  valid c := by
    by_cases hc : c = d
    · subst hc
      rw [valid_destroy, destroyed_destroy_self]
      exact iff_of_false Bool.false_ne_true (Option.some_ne_none _)
    · rw [destroyed_destroy_of_ne t hc]
      exact (congrArg (· = true) (spares_destroy hc).valid).to_iff.trans (h.valid c)
  doomed c hmem := by
    by_cases hc : c = d
    · subst hc
      rw [destroyed_destroy_self]
      exact Option.some_ne_none _
    · rw [destroyed_destroy_of_ne t hc]
      exact h.doomed c ((spares_destroy hc).pending hmem)
  untouched c hnone := by
    by_cases hc : c = d
    · subst hc
      rw [destroyed_destroy_self] at hnone
      cases hnone
    · rw [destroyed_destroy_of_ne t hc] at hnone
      exact h.untouched c hnone
  silent c log hlog := by
    by_cases hc : c = d
    · subst hc
      rw [destroyed_destroy_self] at hlog
      cases hlog
      rfl
    · rw [destroyed_destroy_of_ne t hc] at hlog
      exact (spares_destroy hc).sent.trans (h.silent c log hlog)
  unrequested c hne w hw := by
    by_cases hc : c = d
    · subst hc
      obtain ⟨-, hne⟩ := List.mem_filter.1 hw
      simp at hne
    · rw [destroyed_destroy_of_ne t hc] at hne
      exact h.unrequested c hne w ((spares_destroy hc).requests w hw)

theorem Inv.flush (h : Inv t) (d : CastId) : Inv (t.flush d) := by
  unfold ScreencastTeardown.flush
  split
  · next hd =>
    refine ⟨h.valid, h.doomed, fun c hc => ?_, h.silent, h.unrequested⟩
    have hne : c ≠ d := by
      rintro rfl
      rw [hc] at hd
      cases hd
    exact (Function.update_of_ne hne ..).trans (h.untouched c hc)
  · exact h

/-- The event of a valid screencast is an answer. -/
theorem Inv.event_eq (h : Inv t) {c : CastId} {event : QEvent} {queue : List (CastId × QEvent)}
    (hq : t.screencaster.queue = (c, event) :: queue) :
    t.event = ({ t with screencaster := t.screencaster.deliver } : ScreencastTeardown).flush c := by
  unfold ScreencastTeardown.event
  rw [hq]
  simp only []
  refine if_neg fun ⟨hvalid, hevent⟩ => ?_
  subst hevent
  exact h.doomed c (hq ▸ List.mem_cons_self) ((h.valid c).1 hvalid)

theorem Inv.event (h : Inv t) : Inv t.event := by
  cases hq : t.screencaster.queue with
  | nil =>
    unfold ScreencastTeardown.event
    rw [hq]
    exact h
  | cons e queue =>
    rw [h.event_eq hq]
    refine (h.of_keeps (fun c _ => keeps_deliver) fun c hc => spares_deliver ?_).flush e.1
    exact Bool.eq_false_iff.2 fun hvalid => hc ((h.valid c).1 hvalid)

theorem Inv.step (h : Inv t) (op : Op) : Inv (t.step op) := by
  unfold ScreencastTeardown.step
  split
  · next hdeliverable =>
    cases op with
    | record d br shm geometry =>
      have hne : ∀ c, t.destroyed c ≠ none → c ≠ d := by
        rintro c hc rfl
        exact hc hdeliverable
      refine h.of_keeps (fun c _ => ?_) fun c hc => spares_record (hne c hc) br shm geometry
      by_cases hc : c = d
      · subst hc
        exact keeps_record br shm geometry
      · exact (spares_record hc br shm geometry).toKeeps
    | recordFrame w time image =>
      exact h.of_keeps (fun c _ => (spares_recordFrame w time image).toKeeps)
        fun c _ => spares_recordFrame w time image
    | deliver => exact h.event
    | bufferDestroyed b =>
      exact h.of_keeps (fun c _ => (spares_bufferDestroyed b).toKeeps)
        fun c _ => spares_bufferDestroyed b
    | destroy d => exact h.destroy d
  · exact h

/-- Whatever happens, a destroyed screencast is sent nothing and enters no request. -/
theorem Inv.quiet (h : Inv t) {c : CastId} {log : List Msg} (hc : t.destroyed c = some log) :
    (t.screencaster.log c).filter isSent = log.filter isSent ∧
      ∀ w, (w, c) ∉ t.screencaster.requests :=
  ⟨h.silent c log hc, h.unrequested c (hc ▸ Option.some_ne_none log)⟩

/-- Of what is owed only the deletion can be lost by a step that uses no resource. -/
theorem TornDown.of_queue (h : t.TornDown) {s' : Screencaster}
    (hI : Inv { t with screencaster := s' })
    (hqueue : ∀ c, t.destroyed c ≠ none → (c, .deferredDelete) ∈ t.screencaster.queue →
      (c, .deferredDelete) ∈ s'.queue) :
    TornDown { t with screencaster := s' } := by
  intro c log hc
  have hended := h c log hc
  refine ⟨hI.silent c log hc, hended.untouched, (hI.quiet hc).2, ?_⟩
  exact hended.deleted.imp_left (hqueue c (hc ▸ Option.some_ne_none log))

theorem TornDown.destroy (h : t.TornDown) (hI : Inv t) {d : CastId} (hd : t.destroyed d = none) :
    (t.destroy d).TornDown := by
  intro c log hlog
  have hI' := hI.destroy d
  refine ⟨hI'.silent c log hlog, ?_, (hI'.quiet hlog).2, ?_⟩
  · by_cases hc : c = d
    · exact hI.untouched c (hc ▸ hd)
    · rw [destroyed_destroy_of_ne t hc] at hlog
      exact (h c log hlog).untouched
  · by_cases hc : c = d
    · exact Or.inl (List.mem_append_right _ (hc ▸ List.mem_singleton_self _))
    · rw [destroyed_destroy_of_ne t hc] at hlog
      exact (h c log hlog).deleted.imp_left (List.mem_append_left _)

/-- An event for a destroyed screencast uses its resource. -/
theorem touched_event (hI : Inv t) {e : CastId × QEvent} {queue : List (CastId × QEvent)}
    (hq : t.screencaster.queue = e :: queue) (he : t.destroyed e.1 ≠ none) :
    ¬ t.event.TornDown := by
  obtain ⟨log, hlog⟩ := Option.ne_none_iff_exists'.1 he
  have hsome : (t.destroyed e.1).isSome = true := by rw [hlog]; rfl
  intro h
  rw [hI.event_eq hq, ScreencastTeardown.flush, if_pos hsome] at h
  have htouched : Function.update t.touched e.1 true e.1 = false := (h e.1 log hlog).untouched
  rw [Function.update_self] at htouched
  cases htouched

theorem tornDown_event (h : t.TornDown) (hI : Inv t) : t.event.TornDown ↔ t.OpOk .deliver := by
  cases hq : t.screencaster.queue with
  | nil =>
    refine iff_of_true ?_ ?_
    · unfold ScreencastTeardown.event
      rw [hq]
      exact h
    · show ∀ e ∈ t.screencaster.queue.head?, _
      rw [hq]
      nofun
  | cons e queue =>
    have hok : t.OpOk .deliver ↔ t.destroyed e.1 = none := by
      show (∀ e ∈ t.screencaster.queue.head?, t.destroyed e.1 = none) ↔ _
      rw [hq]
      simp
    rw [hok]
    by_cases he : t.destroyed e.1 = none
    · refine iff_of_true ?_ he
      have hI' := hI.event
      rw [hI.event_eq hq, ScreencastTeardown.flush, if_neg (by rw [he]; exact Bool.false_ne_true)]
        at hI' ⊢
      refine h.of_queue hI' fun c hc hmem => ?_
      rw [queue_deliver hq]
      rw [hq] at hmem
      refine (List.mem_cons.1 hmem).resolve_left fun heq => hc ?_
      rwa [← heq] at he
    · exact iff_of_false (touched_event hI hq he) he

theorem decides_step (h : Inv t ∧ t.TornDown) (op : Op) :
    Run.Decides (fun t op => some (step t op)) (fun _ _ t' => t'.TornDown) OpOk
      (fun t => Inv t ∧ t.TornDown) t op := by
  obtain ⟨hI, htorn⟩ := h
  have hI' := hI.step op
  suffices hiff : (t.step op).TornDown ↔ t.OpOk op from
    Run.decides_total hiff fun hok => ⟨hI', hiff.2 hok⟩
  unfold ScreencastTeardown.step at hI' ⊢
  split at hI'
  · next hdeliverable =>
    rw [if_pos hdeliverable]
    cases op with
    | record d br shm geometry =>
      refine iff_of_true (htorn.of_queue hI' fun c _ hmem => ?_) trivial
      rw [← queue_record d br shm geometry] at hmem
      exact hmem
    | recordFrame w time image =>
      refine iff_of_true (htorn.of_queue hI' fun c _ hmem => ?_) trivial
      show (c, .deferredDelete) ∈ (t.screencaster.recordFrame w time image).queue
      rw [queue_recordFrame]
      exact List.mem_append_left _ hmem
    | deliver => exact tornDown_event htorn hI
    | bufferDestroyed b => exact iff_of_true (htorn.of_queue hI' fun c _ hmem => hmem) trivial
    | destroy d => exact iff_of_true (htorn.destroy hI hdeliverable) trivial
  · next hnot =>
    rw [if_neg hnot]
    refine iff_of_true htorn ?_
    cases op <;> first | trivial | exact absurd trivial hnot

end

/-! ## Runs -/

/-- In every run, a destroyed screencast is sent nothing and enters no request. -/
theorem quiet_after_destroy (window : CastId → QQuickWindow) (ops : List Op) :
    Run.Always (fun t op => some (step t op))
      (fun t => ∀ c log, t.destroyed c = some log →
        (t.screencaster.log c).filter isSent = log.filter isSent ∧
          ∀ w, (w, c) ∉ t.screencaster.requests)
      (init window) ops := by
  refine Run.always_of_inv (I := Inv) ?_ ?_ ops _ (inv_init window)
  · exact fun t op hI => ⟨_, rfl, hI.step op⟩
  · exact fun t hI c log hc => hI.quiet hc

/-- **What is owed after a destroy holds in exactly the runs in which no event is
delivered to a destroyed screencast.** -/
theorem torn_down_iff (window : CastId → QQuickWindow) (ops : List Op) :
    Run.Always (fun t op => some (step t op)) TornDown (init window) ops ↔
      Run.Meets (fun t op => some (step t op)) OpOk (init window) ops := by
  have htorn : (init window).TornDown := fun c log h => by cases h
  exact Run.always_iff_of_decides (fun t op h => decides_step h op) ops _ htorn
    ⟨inv_init window, htorn⟩

/-- The event that should delete the screencast is delivered: the screencast is not
deleted, and the resource is used. -/
theorem not_deleted :
    ¬ Run.Always (fun t op => some (step t op)) TornDown (init fun _ => 0)
      [.destroy 0, .deliver] := by
  rintro ⟨-, _, ⟨⟩, -, _, ⟨⟩, h, -⟩
  have hended := h 0 [] rfl
  rcases hended.deleted with hqueue | hdeleted
  · cases hqueue
  · cases hdeleted

end ScreencastTeardown

end GreenIsland.Server

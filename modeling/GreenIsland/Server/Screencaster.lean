import Mathlib.Data.List.Basic
import Mathlib.Logic.Function.Basic
import GreenIsland.Lib.Run
import GreenIsland.Qt.Basic

/-! Requests and answers of the screen recorder (`Screencaster`, `Screencast`).

A client asks a screencast to `record` the next frame of a window into a buffer.
The screencast remembers the buffer and enters the window's requests;
`recordFrame` grabs the window for each of them, copies the image and posts the
answer to the event queue; when the event is delivered the answer is sent, with
whatever buffer the screencast remembers by then.

Requests, grabs and deliveries interleave freely, and the log of a screencast
says what its client can tell: `outstanding` matches every answer with the
oldest unanswered request for the buffer it names, and is `none` as soon as an
answer has no such request, or a frame none whose buffer an image was copied to
since.  It stays `some` in every run where (`OpOk`)

* no buffer is recorded to while an answer of its screencast is in the queue,
* no screencast that remembers a buffer is entered twice when its window is
  grabbed,
* no buffer is destroyed while the answer that names it is in the queue

(`screencast_answered`).  Without these the remembered buffer is no longer the
one the answer is about (`screencast_not_answered`).

A call runs to its end before the next one; that the grab runs in the rendering
thread is not modelled. -/

namespace GreenIsland.Server

abbrev CastId := Nat
abbrev BufferId := Nat
abbrev QQuickWindow := Nat

/-! ## Model -/

/-- `WL_SHM_FORMAT_XRGB8888` -/
def screencasterFormat : UInt32 := 1

/-- The error `bad_buffer` of the protocol. -/
def badBuffer : Int := 0

/-- What a shared memory buffer looks like. -/
structure ShmLayout where
  width : Int
  height : Int
  stride : Int
  format : UInt32
deriving DecidableEq

/-- What `wl_shm` lets a client make. -/
structure WlShmLayout extends ShmLayout where
  width_pos : 0 < width
  height_pos : 0 < height
  width_le : width ≤ stride
  bytes_fit : height * stride < 2 ^ 31
deriving DecidableEq

/-- How many bytes the buffer has. -/
def WlShmLayout.bytes (b : WlShmLayout) : Int := b.height * b.stride

/-- `wl_shm_buffer`, the shared memory of a `wl_buffer` resource. -/
structure ShmBuffer extends ShmLayout where
  resource : BufferId
deriving DecidableEq

/-- `wl_shm_buffer_get`; `shm` is `none` for a buffer that is not in shared memory. -/
def wlShmBufferGet (br : BufferId) (shm : Option ShmLayout) : Option ShmBuffer :=
  shm.map fun layout => { layout with resource := br }

structure Screencast where
  valid : Bool
  window : QQuickWindow
  bufferResource : Option BufferId
  buffer : Option ShmBuffer
deriving DecidableEq

/-- The events posted to a screencast. -/
inductive QEvent
  | success (time : UInt32)
  | failed (error : Int)
  | deferredDelete
deriving DecidableEq

def QEvent.isAnswer : QEvent → Bool
  | .deferredDelete => false
  | _ => true

/-- What happens between a screencast and its client; `none` is a null buffer. -/
inductive Msg
  | record (b : BufferId)
  | copied (b : BufferId)
  | frame (b : Option BufferId) (time : UInt32)
  | failed (error : Int) (b : Option BufferId)
  | cancelled (b : BufferId)
  | bufferDestroyed (b : BufferId)
deriving DecidableEq

structure Screencaster where
  casts : CastId → Screencast
  /-- the multi-hash, most recently inserted first -/
  requests : List (QQuickWindow × CastId)
  /-- the event queue, oldest first -/
  queue : List (CastId × QEvent)
  log : CastId → List Msg

namespace Screencaster

/-- Screencasts of the given windows that nobody has used. -/
def init (window : CastId → QQuickWindow) : Screencaster where
  casts c := ⟨true, window c, none, none⟩
  requests := []
  queue := []
  log _ := []

def setCast (s : Screencaster) (c : CastId) (cast : Screencast) : Screencaster :=
  { s with casts := Function.update s.casts c cast }

def send (s : Screencaster) (c : CastId) (msg : Msg) : Screencaster :=
  { s with log := Function.update s.log c (s.log c ++ [msg]) }

def postEvent (s : Screencaster) (c : CastId) (event : QEvent) : Screencaster :=
  { s with queue := s.queue ++ [(c, event)] }

def addRequest (s : Screencaster) (window : QQuickWindow) (c : CastId) : Screencaster :=
  { s with requests := (window, c) :: s.requests }

/-- All requests of the screencast: those of the window, or of every window. -/
def removeRequest (s : Screencaster) (window : Option QQuickWindow) (c : CastId) : Screencaster :=
  match window with
  | some w => { s with requests := s.requests.filter fun r => !(r.1 == w && r.2 == c) }
  | none => { s with requests := s.requests.filter fun r => !(r.2 == c) }

/-- `requests.values(window)` -/
def values (s : Screencaster) (window : QQuickWindow) : List CastId :=
  (s.requests.filter fun r => r.1 == window).map Prod.snd

/-- `image` is the grabbed image's byte count. -/
def frameRecording (s : Screencaster) (c : CastId) (buffer : ShmBuffer) (time : UInt32)
    (image : Int) : Screencaster :=
  if !(s.casts c).valid then s
  else if image ≠ buffer.stride * buffer.height then s.postEvent c (.failed badBuffer)
  else (s.send c (.copied buffer.resource)).postEvent c (.success time)

/-- The body of `recordFrame`'s loop. -/
def satisfyRequest (window : QQuickWindow) (time : UInt32) (image : Int) (s : Screencaster)
    (c : CastId) : Screencaster :=
  let s := s.removeRequest (some window) c
  match (s.casts c).buffer with
  | none => s
  | some buffer => s.frameRecording c buffer time image

def recordFrame (s : Screencaster) (window : QQuickWindow) (time : UInt32) (image : Int) :
    Screencaster :=
  if s.requests = [] then s
  else (s.values window).foldl (satisfyRequest window time image) s

/-- `screencast_record`'s checks of the buffer. -/
def verify (buffer : ShmBuffer) (geometry : QSize) : Bool :=
  !(buffer.width < geometry.width || buffer.height < geometry.height) &&
    buffer.stride == qint32 (buffer.width * 4) && buffer.format == screencasterFormat

/-- A screencast that still remembers a buffer received a record request before:
that one is cancelled. -/
def cancelPrevious (s : Screencaster) (c : CastId) : Screencaster :=
  match (s.casts c).bufferResource with
  | some old => s.send c (.cancelled old)
  | none => s

/-- `screencast_record`; `geometry` is the output's size. -/
def record (s : Screencaster) (c : CastId) (br : BufferId) (shm : Option ShmLayout)
    (geometry : QSize) : Screencaster :=
  let s := (s.send c (.record br)).cancelPrevious c
  match (wlShmBufferGet br shm).filter (verify · geometry) with
  | none =>
    (s.setCast c { s.casts c with bufferResource := none, buffer := none }).send c
      (.failed badBuffer (some br))
  | some buffer =>
    (s.setCast c { s.casts c with bufferResource := some br, buffer := some buffer }).addRequest
      (s.casts c).window c

/-- `screencast_destroy` -/
def destroy (s : Screencaster) (c : CastId) : Screencaster :=
  ((s.setCast c { s.casts c with valid := false }).removeRequest none c).postEvent c .deferredDelete

/-- The buffer is forgotten once an event was handled. -/
def forgetBuffer (s : Screencaster) (c : CastId) : Screencaster :=
  s.setCast c { s.casts c with bufferResource := none, buffer := none }

/-- `Screencast::event`, for the next event of the queue.  An event that the
screencast leaves to its base class changes nothing here: the only one that is
posted, `deferredDelete`, comes after `valid` was cleared. -/
def deliver (s : Screencaster) : Screencaster :=
  match s.queue with
  | [] => s
  | (c, event) :: queue =>
    let s := { s with queue := queue }
    if (s.casts c).valid then
      match event with
      | .success time => (s.send c (.frame (s.casts c).bufferResource time)).forgetBuffer c
      | .failed error => (s.send c (.failed error (s.casts c).bufferResource)).forgetBuffer c
      | .deferredDelete => s
    else s.forgetBuffer c

/-- The destroy listeners of a buffer run in every screencast that remembers it. -/
def bufferDestroyed (s : Screencaster) (b : BufferId) : Screencaster where
  casts c :=
    if (s.casts c).bufferResource = some b then
      { s.casts c with bufferResource := none, buffer := none }
    else s.casts c
  requests := s.requests
  queue := s.queue
  log c := s.log c ++ [.bufferDestroyed b]

inductive Op
  | record (c : CastId) (br : BufferId) (shm : Option ShmLayout) (geometry : QSize)
  | recordFrame (window : QQuickWindow) (time : UInt32) (image : Int)
  | deliver
  | bufferDestroyed (b : BufferId)
  | destroy (c : CastId)

def step (s : Screencaster) : Op → Screencaster
  | .record c br shm geometry => s.record c br shm geometry
  | .recordFrame window time image => s.recordFrame window time image
  | .deliver => s.deliver
  | .bufferDestroyed b => s.bufferDestroyed b
  | .destroy c => s.destroy c

end Screencaster

/-! ## Answers and the requests they answer -/

/-- A request that is not answered yet. -/
structure Request where
  buffer : BufferId
  /-- an image was copied to the buffer since the request -/
  copied : Bool
deriving DecidableEq

/-- The oldest request that satisfies `p` is answered; `none` if there is none. -/
def answer (p : Request → Bool) (open_ : List Request) : Option (List Request) :=
  if open_.any p then some (open_.eraseP p) else none

/-- The unanswered requests after one more message; `none` when the message is
an answer that answers none of them.  A request whose buffer is destroyed needs
no answer any more. -/
def account (open_ : List Request) : Msg → Option (List Request)
  | .record b => some (open_ ++ [⟨b, false⟩])
  | .copied b => some (open_.map fun r => if r.buffer = b then { r with copied := true } else r)
  | .frame (some b) _ => answer (fun r => r.buffer == b && r.copied) open_
  | .failed _ (some b) => answer (fun r => r.buffer == b) open_
  | .cancelled b => answer (fun r => r.buffer == b) open_
  | .frame none _ => none
  | .failed _ none => none
  | .bufferDestroyed b => some (open_.filter fun r => !(r.buffer == b))

/-- The unanswered requests of a screencast. -/
def outstanding (log : List Msg) : Option (List Request) := log.foldlM account []

theorem outstanding_append {log : List Msg} {open_ : List Request}
    (h : outstanding log = some open_) (msg : Msg) :
    outstanding (log ++ [msg]) = account open_ msg := by
  unfold outstanding at h ⊢
  rw [List.foldlM_append, h]
  cases hc : account open_ msg <;> simp [hc]

namespace Screencaster

/-- Every answer that a living screencast has sent was an answer to a request. -/
def Answered (s : Screencaster) : Prop :=
  ∀ c, (s.casts c).valid = true → ∃ open_, outstanding (s.log c) = some open_

/-- The answers of a screencast that wait in the queue. -/
def answers (s : Screencaster) (c : CastId) : List QEvent :=
  (s.queue.filter fun e => e.1 == c && e.2.isAnswer).map Prod.snd

/-- When the buffer a screencast remembers stays the one its answer is about. -/
def OpOk (s : Screencaster) : Op → Prop
  | .record c .. => (s.casts c).valid = true → s.answers c = []
  | .recordFrame window .. => ∀ c, (s.casts c).valid = true → (s.casts c).buffer ≠ none →
      (s.values window).count c ≤ 1
  | .bufferDestroyed b => ∀ c, (s.casts c).valid = true → (s.casts c).bufferResource = some b →
      s.answers c = []
  | _ => True

/-! ## The life of a request -/

/-- Where a screencast is between a request and its answer. -/
inductive Phase
  | idle
  /-- entered in the requests -/
  | waiting (buffer : ShmBuffer)
  /-- an image was copied, its answer is in the queue -/
  | recorded (buffer : ShmBuffer) (time : UInt32)
  /-- no image was copied, that answer is in the queue -/
  | refused (buffer : ShmBuffer) (error : Int)

def Phase.buffer : Phase → Option ShmBuffer
  | .idle => none
  | .waiting b | .recorded b _ | .refused b _ => some b

def Phase.answers : Phase → List QEvent
  | .idle | .waiting _ => []
  | .recorded _ time => [.success time]
  | .refused _ error => [.failed error]

def Phase.outstanding : Phase → List Request
  | .idle => []
  | .waiting b | .refused b _ => [⟨b.resource, false⟩]
  | .recorded b _ => [⟨b.resource, true⟩]

/-- The screencast's data, its answers in the queue and its client's requests
are those of the phase. -/
structure InPhase (s : Screencaster) (c : CastId) (p : Phase) : Prop where
  buffer : (s.casts c).buffer = p.buffer
  bufferResource : (s.casts c).bufferResource = p.buffer.map ShmBuffer.resource
  answers : s.answers c = p.answers
  outstanding : outstanding (s.log c) = some p.outstanding
  /-- what is in the queue is no longer in the requests -/
  unrequested : p.answers ≠ [] → ∀ w, (w, c) ∉ s.requests

structure Inv (s : Screencaster) : Prop where
  /-- requests are entered under the screencast's window -/
  window : ∀ w c, (w, c) ∈ s.requests → w = (s.casts c).window
  phase : ∀ c, (s.casts c).valid = true → ∃ p, InPhase s c p

theorem inv_init (window : CastId → QQuickWindow) : Inv (init window) where
  window w c h := by cases h
  phase c _ := ⟨.idle, rfl, rfl, rfl, rfl, fun h => absurd rfl h⟩

theorem Inv.answered {s : Screencaster} (h : Inv s) : Answered s := fun c hc =>
  (h.phase c hc).elim fun _ hp => ⟨_, hp.outstanding⟩

section
variable {s s' : Screencaster} {c : CastId} {p : Phase}

/-- A screencast that a step leaves alone keeps its phase. -/
theorem InPhase.frame (h : InPhase s c p) (hcast : s'.casts c = s.casts c)
    (hanswers : s'.answers c = s.answers c) (hlog : s'.log c = s.log c)
    (hrequests : ∀ w, (w, c) ∈ s'.requests → (w, c) ∈ s.requests) : InPhase s' c p where
  buffer := by rw [hcast, h.buffer]
  bufferResource := by rw [hcast, h.bufferResource]
  answers := by rw [hanswers, h.answers]
  outstanding := by rw [hlog, h.outstanding]
  unrequested hp w hw := h.unrequested hp w (hrequests w hw)

/-- The step from `s` to `s'` is about the screencast `c` alone. -/
structure Only (c : CastId) (s s' : Screencaster) : Prop where
  window : (s'.casts c).window = (s.casts c).window
  requests : ∀ w d, (w, d) ∈ s'.requests →
    (w, d) ∈ s.requests ∨ d = c ∧ w = (s.casts c).window
  casts : ∀ d, d ≠ c → s'.casts d = s.casts d
  answers : ∀ d, d ≠ c → s'.answers d = s.answers d
  log : ∀ d, d ≠ c → s'.log d = s.log d

/-- Such a step has to leave `c` in a phase, and the others stay in theirs. -/
theorem Only.inv (ho : Only c s s') (h : Inv s)
    (hphase : (s'.casts c).valid = true → ∃ p, InPhase s' c p) : Inv s' where
  window w d hw := by
    have hwindow : (s'.casts d).window = (s.casts d).window := by
      by_cases hd : d = c
      · rw [hd, ho.window]
      · rw [ho.casts d hd]
    rw [hwindow]
    rcases ho.requests w d hw with hw | ⟨rfl, rfl⟩
    · exact h.window w d hw
    · rfl
  phase d hd := by
    by_cases hdc : d = c
    · subst hdc; exact hphase hd
    · rw [ho.casts d hdc] at hd
      obtain ⟨p, hp⟩ := h.phase d hd
      refine ⟨p, hp.frame (ho.casts d hdc) (ho.answers d hdc) (ho.log d hdc) fun w hw => ?_⟩
      exact (ho.requests w d hw).resolve_right fun hw => hdc hw.1

theorem answers_postEvent (s : Screencaster) (c d : CastId) (event : QEvent) :
    (s.postEvent c event).answers d =
      s.answers d ++ if c = d ∧ event.isAnswer = true then [event] else [] := by
  unfold answers postEvent
  rw [List.filter_append, List.map_append]
  congr 1
  by_cases h : c = d <;> cases hev : event.isAnswer <;> simp [h, hev]

theorem answers_cons (s : Screencaster) (c d : CastId) (event : QEvent)
    (queue : List (CastId × QEvent)) (h : s.queue = (c, event) :: queue) :
    s.answers d =
      (if c = d ∧ event.isAnswer = true then [event] else []) ++
        answers { s with queue := queue } d := by
  unfold answers
  rw [h]
  by_cases h : c = d <;> cases hev : event.isAnswer <;> simp [h, hev]

/-! ## One operation -/

@[simp] theorem casts_send (s : Screencaster) (c : CastId) (msg : Msg) :
    (s.send c msg).casts = s.casts := rfl

@[simp] theorem log_send_self (s : Screencaster) (c : CastId) (msg : Msg) :
    (s.send c msg).log c = s.log c ++ [msg] := Function.update_self ..

theorem log_send_of_ne (s : Screencaster) {c d : CastId} (h : d ≠ c) (msg : Msg) :
    (s.send c msg).log d = s.log d := Function.update_of_ne h _ _

@[simp] theorem casts_setCast_self (s : Screencaster) (c : CastId) (cast : Screencast) :
    (s.setCast c cast).casts c = cast := Function.update_self ..

@[simp] theorem log_setCast (s : Screencaster) (c : CastId) (cast : Screencast) :
    (s.setCast c cast).log = s.log := rfl

theorem casts_setCast_of_ne (s : Screencaster) {c d : CastId} (h : d ≠ c) (cast : Screencast) :
    (s.setCast c cast).casts d = s.casts d := Function.update_of_ne h _ _

theorem Only.refl (s : Screencaster) (c : CastId) : Only c s s where
  window := rfl
  requests _ _ hw := Or.inl hw
  casts _ _ := rfl
  answers _ _ := rfl
  log _ _ := rfl

theorem Only.trans {s'' : Screencaster} (h : Only c s s') (h' : Only c s' s'') : Only c s s'' where
  window := h'.window.trans h.window
  requests w d hw := by
    rcases h'.requests w d hw with hw | hw
    · exact h.requests w d hw
    · exact Or.inr (by rwa [h.window] at hw)
  casts d hd := (h'.casts d hd).trans (h.casts d hd)
  answers d hd := (h'.answers d hd).trans (h.answers d hd)
  log d hd := (h'.log d hd).trans (h.log d hd)

theorem only_send (s : Screencaster) (c : CastId) (msg : Msg) : Only c s (s.send c msg) where
  window := rfl
  requests _ _ hw := Or.inl hw
  casts _ _ := rfl
  answers _ _ := rfl
  log _ hd := log_send_of_ne _ hd _

theorem only_setCast (s : Screencaster) (cast : Screencast)
    (hw : cast.window = (s.casts c).window) : Only c s (s.setCast c cast) where
  window := by rw [casts_setCast_self, hw]
  requests _ _ hw := Or.inl hw
  casts d hd := casts_setCast_of_ne _ hd _
  answers _ _ := rfl
  log _ _ := rfl

theorem only_forgetBuffer (s : Screencaster) (c : CastId) : Only c s (s.forgetBuffer c) :=
  only_setCast s _ rfl

theorem only_addRequest (s : Screencaster) (c : CastId) :
    Only c s (s.addRequest (s.casts c).window c) where
  window := rfl
  requests w d hw := by
    rcases List.mem_cons.1 hw with hw | hw
    · obtain ⟨rfl, rfl⟩ := Prod.mk.inj hw
      exact Or.inr ⟨rfl, rfl⟩
    · exact Or.inl hw
  casts _ _ := rfl
  answers _ _ := rfl
  log _ _ := rfl

theorem only_dequeue {event : QEvent} {queue : List (CastId × QEvent)}
    (hq : s.queue = (c, event) :: queue) : Only c s { s with queue := queue } where
  window := rfl
  requests _ _ hw := Or.inl hw
  casts _ _ := rfl
  answers d hd := by
    rw [answers_cons s c d event queue hq, if_neg fun h => hd h.1.symm]
    rfl
  log _ _ := rfl

theorem only_cancelPrevious (s : Screencaster) (c : CastId) : Only c s (s.cancelPrevious c) := by
  unfold cancelPrevious
  split
  · exact only_send s c _
  · exact Only.refl s c

@[simp] theorem casts_cancelPrevious (s : Screencaster) (c : CastId) :
    (s.cancelPrevious c).casts = s.casts := by
  unfold cancelPrevious
  split <;> rfl

@[simp] theorem answers_cancelPrevious (s : Screencaster) (c : CastId) :
    (s.cancelPrevious c).answers = s.answers := by
  unfold cancelPrevious
  split <;> rfl

/-- Only the new request is left after the previous one was cancelled. -/
theorem outstanding_cancelPrevious (h : InPhase s c p) (hp : p.answers = []) (br : BufferId) :
    outstanding (((s.send c (.record br)).cancelPrevious c).log c) = some [⟨br, false⟩] := by
  have hrecord : outstanding ((s.send c (.record br)).log c) =
      some (p.outstanding ++ [⟨br, false⟩]) := by
    rw [log_send_self, outstanding_append h.outstanding]
    rfl
  have hresource : ((s.send c (.record br)).casts c).bufferResource =
      p.buffer.map ShmBuffer.resource := h.bufferResource
  unfold cancelPrevious
  rw [hresource]
  cases p with
  | idle => exact hrecord
  | waiting b =>
    simp only [Phase.buffer, Option.map_some, log_send_self] at hrecord ⊢
    rw [outstanding_append hrecord]
    simp [account, answer, Phase.outstanding]
  | recorded b time => cases hp
  | refused b error => cases hp

/-- The client has its request in and the previous one is cancelled. -/
theorem only_requested (s : Screencaster) (c : CastId) (br : BufferId) :
    Only c s ((s.send c (.record br)).cancelPrevious c) :=
  (only_send s c _).trans (only_cancelPrevious _ c)

/-- A buffer that is refused at once. -/
theorem inPhase_refused {br : BufferId} {cast : Screencast} (hbuffer : cast.buffer = none)
    (hresource : cast.bufferResource = none) (hanswers : s.answers c = [])
    (hopen : outstanding (s.log c) = some [⟨br, false⟩]) :
    InPhase ((s.setCast c cast).send c (.failed badBuffer (some br))) c .idle where
  buffer := by
    rw [casts_send, casts_setCast_self]
    exact hbuffer
  bufferResource := by
    rw [casts_send, casts_setCast_self]
    exact hresource
  answers := hanswers
  outstanding := by
    rw [log_send_self, log_setCast, outstanding_append hopen]
    simp [account, answer, Phase.outstanding]
  unrequested hp := absurd rfl hp

/-- A buffer that is remembered until the window is grabbed. -/
theorem inPhase_entered {buffer : ShmBuffer} {cast : Screencast} {w : QQuickWindow}
    (hbuffer : cast.buffer = some buffer) (hresource : cast.bufferResource = some buffer.resource)
    (hanswers : s.answers c = []) (hopen : outstanding (s.log c) = some [⟨buffer.resource, false⟩]) :
    InPhase ((s.setCast c cast).addRequest w c) c (.waiting buffer) where
  buffer := by
    show ((s.setCast c cast).casts c).buffer = _
    rw [casts_setCast_self]
    exact hbuffer
  bufferResource := by
    show ((s.setCast c cast).casts c).bufferResource = _
    rw [casts_setCast_self]
    exact hresource
  answers := hanswers
  outstanding := hopen
  unrequested hp := absurd rfl hp

theorem inv_record (h : Inv s) {br : BufferId} {shm : Option ShmLayout} {geometry : QSize}
    (hok : OpOk s (.record c br shm geometry)) : Inv (s.record c br shm geometry) := by
  have ho := only_requested s c br
  have hvalid : ((s.send c (.record br)).cancelPrevious c).casts = s.casts :=
    casts_cancelPrevious _ _
  have hanswers : (s.casts c).valid = true →
      ((s.send c (.record br)).cancelPrevious c).answers c = [] := fun hc =>
    (congrFun (answers_cancelPrevious _ _) c).trans (hok hc)
  have hopen : (s.casts c).valid = true →
      outstanding (((s.send c (.record br)).cancelPrevious c).log c) = some [⟨br, false⟩] := by
    intro hc
    obtain ⟨p, hp⟩ := h.phase c hc
    exact outstanding_cancelPrevious hp (hp.answers.symm.trans (hok hc)) br
  unfold record
  simp only []
  split
  · refine ((ho.trans (only_forgetBuffer _ c)).trans (only_send _ c _)).inv h fun hc => ⟨.idle, ?_⟩
    rw [casts_send, forgetBuffer, casts_setCast_self, hvalid] at hc
    exact inPhase_refused rfl rfl (hanswers hc) (hopen hc)
  next buffer hbuffer =>
    have hresource : buffer.resource = br := by
      obtain ⟨hget, -⟩ := Option.filter_eq_some_iff.1 hbuffer
      obtain ⟨layout, -, rfl⟩ := Option.map_eq_some_iff.1 hget
      rfl
    subst hresource
    set s₁ := (s.send c (.record buffer.resource)).cancelPrevious c with hs₁
    set cast : Screencast :=
      { s₁.casts c with bufferResource := some buffer.resource, buffer := some buffer } with hcast
    have hset : Only c s₁ (s₁.setCast c cast) := only_setCast s₁ cast rfl
    have hadd := only_addRequest (s₁.setCast c cast) c
    rw [hset.window] at hadd
    refine ((ho.trans hset).trans hadd).inv h fun hc => ⟨.waiting buffer, ?_⟩
    have hself : ((s₁.setCast c cast).addRequest (s₁.casts c).window c).casts c = cast :=
      casts_setCast_self ..
    rw [hself, hcast, hvalid] at hc
    exact inPhase_entered rfl rfl (hanswers hc) (hopen hc)

/-- Sending the last answer that is due ends the phase. -/
theorem inPhase_answered {open_ : List Request} {msg : Msg} (hanswers : s.answers c = [])
    (hout : outstanding (s.log c) = some open_) (hmsg : account open_ msg = some []) :
    InPhase ((s.send c msg).forgetBuffer c) c .idle where
  buffer := by rw [forgetBuffer, casts_setCast_self]; rfl
  bufferResource := by rw [forgetBuffer, casts_setCast_self]; rfl
  answers := hanswers
  outstanding := by
    rw [forgetBuffer, log_setCast, log_send_self, outstanding_append hout]
    exact hmsg
  unrequested hp := absurd rfl hp

theorem inv_deliver (h : Inv s) : Inv s.deliver := by
  unfold deliver
  split
  · exact h
  next c event queue hq =>
  simp only []
  have ho := only_dequeue hq
  have hqueue := answers_cons s c c event queue hq
  set s₁ : Screencaster := { s with queue := queue } with hs₁
  split
  · next hvalid =>
    obtain ⟨p, hp⟩ := h.phase c hvalid
    rw [hp.answers] at hqueue
    -- the answer that is due ends the phase
    have hended : ∀ msg, s₁.answers c = [] → account p.outstanding msg = some [] →
        Inv ((s₁.send c msg).forgetBuffer c) := fun msg hnil hmsg =>
      ((ho.trans (only_send s₁ c msg)).trans (only_forgetBuffer _ c)).inv h
        fun _ => ⟨.idle, inPhase_answered hnil hp.outstanding hmsg⟩
    cases event with
    | deferredDelete =>
      refine ho.inv h fun _ => ⟨p, hp.buffer, hp.bufferResource, ?_, hp.outstanding, hp.unrequested⟩
      simpa [QEvent.isAnswer] using hqueue.symm
    | success time =>
      -- the event is the answer of the phase, so an image was copied
      obtain ⟨b, rfl, hnil⟩ : ∃ b, p = .recorded b time ∧ s₁.answers c = [] := by
        cases p <;> simp_all [Phase.answers, QEvent.isAnswer]
      have hresource : (s₁.casts c).bufferResource = some b.resource := hp.bufferResource
      refine hended _ hnil ?_
      rw [hresource]
      simp [account, answer, Phase.outstanding]
    | failed error =>
      obtain ⟨b, rfl, hnil⟩ : ∃ b, p = .refused b error ∧ s₁.answers c = [] := by
        cases p <;> simp_all [Phase.answers, QEvent.isAnswer]
      have hresource : (s₁.casts c).bufferResource = some b.resource := hp.bufferResource
      refine hended _ hnil ?_
      rw [hresource]
      simp [account, answer, Phase.outstanding]
  · next hvalid =>
    refine (ho.trans (only_forgetBuffer _ c)).inv h fun hc => ?_
    rw [forgetBuffer, casts_setCast_self] at hc
    exact absurd hc hvalid

theorem inv_destroy (h : Inv s) (c : CastId) : Inv (s.destroy c) := by
  have hcast : (s.destroy c).casts c = { s.casts c with valid := false } := casts_setCast_self ..
  have ho : Only c s (s.destroy c) := {
    window := by rw [hcast]
    requests := fun w d hw => Or.inl (List.mem_filter.1 hw).1
    casts := fun d hd => casts_setCast_of_ne _ hd _
    answers := fun d hd => by
      unfold destroy
      rw [answers_postEvent, if_neg fun hc => hd hc.1.symm, List.append_nil]
      rfl
    log := fun _ _ => rfl }
  refine ho.inv h fun hc => ?_
  rw [hcast] at hc
  cases hc

theorem inv_bufferDestroyed (h : Inv s) {b : BufferId} (hok : OpOk s (.bufferDestroyed b)) :
    Inv (s.bufferDestroyed b) where
  window w c hw := by
    have hwindow : ((s.bufferDestroyed b).casts c).window = (s.casts c).window := by
      unfold bufferDestroyed
      simp only []
      split <;> rfl
    rw [hwindow]
    exact h.window w c hw
  phase c hc := by
    have hvalid : (s.casts c).valid = true := by
      revert hc
      unfold bufferDestroyed
      simp only []
      split <;> exact id
    obtain ⟨p, hp⟩ := h.phase c hvalid
    have hlog : outstanding ((s.bufferDestroyed b).log c) =
        some (p.outstanding.filter fun r => !(r.buffer == b)) :=
      outstanding_append hp.outstanding _
    by_cases hb : (s.casts c).bufferResource = some b
    · have hcast : (s.bufferDestroyed b).casts c =
          { s.casts c with bufferResource := none, buffer := none } := if_pos hb
      have hnil : p.answers = [] := hp.answers.symm.trans (hok c hvalid hb)
      rw [hp.bufferResource] at hb
      refine ⟨.idle, by rw [hcast]; rfl, by rw [hcast]; rfl, hp.answers.trans hnil, ?_,
        fun h => absurd rfl h⟩
      rw [hlog]
      cases p <;> simp_all [Phase.outstanding, Phase.answers, Phase.buffer]
    · have hcast : (s.bufferDestroyed b).casts c = s.casts c := if_neg hb
      refine ⟨p, by rw [hcast, hp.buffer], by rw [hcast, hp.bufferResource], hp.answers, ?_,
        hp.unrequested⟩
      rw [hlog]
      rw [hp.bufferResource] at hb
      cases p <;> simp_all [Phase.outstanding, Phase.buffer]

/-! ## The loop of `recordFrame` -/

section
variable (w : QQuickWindow) (time : UInt32) (image : Int)

@[simp] theorem casts_satisfyRequest (s : Screencaster) (c : CastId) :
    (satisfyRequest w time image s c).casts = s.casts := by
  unfold satisfyRequest frameRecording
  simp only []
  split
  · rfl
  · split
    · rfl
    · split <;> rfl

/-- What is posted for a screencast when its window was grabbed. -/
def reply (s : Screencaster) (time : UInt32) (image : Int) (c : CastId) :
    Option (CastId × QEvent) :=
  match (s.casts c).buffer with
  | none => none
  | some buffer =>
    if (s.casts c).valid = false then none
    else if image ≠ buffer.stride * buffer.height then some (c, .failed badBuffer)
    else some (c, .success time)

theorem queue_satisfyRequest (s : Screencaster) (c : CastId) :
    (satisfyRequest w time image s c).queue = s.queue ++ (s.reply time image c).toList := by
  have hcasts : (s.removeRequest (some w) c).casts = s.casts := rfl
  unfold satisfyRequest frameRecording reply
  simp only [hcasts]
  cases (s.casts c).buffer with
  | none => exact (List.append_nil _).symm
  | some buffer =>
    cases (s.casts c).valid with
    | false => exact (List.append_nil _).symm
    | true =>
      by_cases hbytes : image = buffer.stride * buffer.height
      · simp [hbytes, postEvent, send, removeRequest]
      · simp [hbytes, postEvent, removeRequest]

theorem foldl_satisfyRequest : ∀ (casts : List CastId) (s : Screencaster),
    (casts.foldl (satisfyRequest w time image) s).casts = s.casts ∧
      (casts.foldl (satisfyRequest w time image) s).queue =
        s.queue ++ casts.filterMap (s.reply time image) := by
  intro casts
  induction casts with
  | nil => exact fun s => ⟨rfl, (List.append_nil _).symm⟩
  | cons c casts ih =>
    intro s
    obtain ⟨hcasts, hqueue⟩ := ih (satisfyRequest w time image s c)
    rw [casts_satisfyRequest] at hcasts
    have hreply : (satisfyRequest w time image s c).reply time image = s.reply time image := by
      unfold reply
      rw [casts_satisfyRequest]
    rw [hreply, queue_satisfyRequest, List.append_assoc] at hqueue
    refine ⟨hcasts, hqueue.trans (congrArg (s.queue ++ ·) ?_)⟩
    rw [List.filterMap_cons]
    cases s.reply time image c <;> rfl

theorem casts_recordFrame (s : Screencaster) : (s.recordFrame w time image).casts = s.casts := by
  unfold recordFrame
  split
  · rfl
  · exact (foldl_satisfyRequest w time image _ s).1

/-- A grab posts one answer for each buffer that waits, and nothing else. -/
theorem queue_recordFrame (s : Screencaster) : (s.recordFrame w time image).queue =
    s.queue ++ (s.values w).filterMap (s.reply time image) := by
  unfold recordFrame
  split
  · next hnil =>
    rw [values, hnil]
    exact (List.append_nil _).symm
  · exact (foldl_satisfyRequest w time image _ s).2

theorem requests_satisfyRequest (s : Screencaster) (c : CastId) :
    (satisfyRequest w time image s c).requests = (s.removeRequest (some w) c).requests := by
  unfold satisfyRequest frameRecording
  simp only []
  split
  · rfl
  · split
    · rfl
    · split <;> rfl

theorem only_satisfyRequest (s : Screencaster) (c : CastId) :
    Only c s (satisfyRequest w time image s c) where
  window := by rw [casts_satisfyRequest]
  requests v d hv := by
    rw [requests_satisfyRequest] at hv
    exact Or.inl (List.mem_filter.1 hv).1
  casts d _ := by rw [casts_satisfyRequest]
  answers d hd := by
    have hne : ∀ event : QEvent, ¬ (c = d ∧ event.isAnswer = true) := fun _ h => hd h.1.symm
    unfold satisfyRequest frameRecording
    simp only []
    split
    · rfl
    · split
      · rfl
      · split
        · rw [answers_postEvent, if_neg (hne _), List.append_nil]
          rfl
        · rw [answers_postEvent, if_neg (hne _), List.append_nil]
          rfl
  log d hd := by
    unfold satisfyRequest frameRecording
    simp only []
    split
    · rfl
    · split
      · rfl
      · split
        · rfl
        · exact log_send_of_ne _ hd _

/-- A waiting screencast is answered one way or the other. -/
theorem inPhase_satisfyRequest {b : ShmBuffer} (hvalid : (s.casts c).valid = true)
    (h : InPhase s c (.waiting b)) (hgone : ∀ v, (v, c) ∉ (s.removeRequest (some w) c).requests) :
    ∃ p, InPhase (satisfyRequest w time image s c) c p := by
  have hbuffer : ((s.removeRequest (some w) c).casts c).buffer = some b := h.buffer
  unfold satisfyRequest frameRecording
  simp only [hbuffer]
  have hvalid' : (!((s.removeRequest (some w) c).casts c).valid) = false := by
    rw [show ((s.removeRequest (some w) c).casts c).valid = true from hvalid]
    rfl
  rw [hvalid', if_neg Bool.false_ne_true]
  have hnil : (s.removeRequest (some w) c).answers c = [] := h.answers
  split
  · refine ⟨.refused b badBuffer, h.buffer, h.bufferResource, ?_, h.outstanding, fun _ => hgone⟩
    rw [answers_postEvent, hnil]
    simp [QEvent.isAnswer, Phase.answers]
  · refine ⟨.recorded b time, h.buffer, h.bufferResource, ?_, ?_, fun _ => hgone⟩
    · rw [answers_postEvent]
      show s.answers c ++ _ = _
      rw [h.answers]
      simp [QEvent.isAnswer, Phase.answers]
    · show outstanding (((s.removeRequest (some w) c).send c _).log c) = _
      rw [log_send_self]
      show outstanding (s.log c ++ _) = _
      rw [outstanding_append h.outstanding]
      simp [account, Phase.outstanding]

/-- The loop invariant, for the requests that are left. -/
structure Grabbing (s : Screencaster) (casts : List CastId) : Prop where
  inv : Inv s
  window : ∀ c ∈ casts, w = (s.casts c).window
  once : ∀ c, (s.casts c).valid = true → (s.casts c).buffer ≠ none →
    casts.count c ≤ 1 ∧ (c ∈ casts → s.answers c = [])

theorem Grabbing.satisfyRequest {casts : List CastId} (h : Grabbing w s (c :: casts)) :
    Grabbing w (satisfyRequest w time image s c) casts where
  inv := by
    refine (only_satisfyRequest w time image s c).inv h.inv fun hc => ?_
    rw [casts_satisfyRequest] at hc
    obtain ⟨p, hp⟩ := h.inv.phase c hc
    have hgone : ∀ v, (v, c) ∉ (s.removeRequest (some w) c).requests := by
      intro v hv
      obtain ⟨hmem, hne⟩ := List.mem_filter.1 hv
      rw [h.inv.window v c hmem, ← h.window c List.mem_cons_self] at hne
      simp at hne
    have hanswers : ∀ b, p.buffer = some b → p.answers = [] := by
      intro b hbuffer
      rw [← hp.answers]
      refine (h.once c hc ?_).2 List.mem_cons_self
      rw [hp.buffer, hbuffer]
      exact Option.some_ne_none b
    cases p with
    | idle =>
      have hnone : ((s.removeRequest (some w) c).casts c).buffer = none := hp.buffer
      unfold Screencaster.satisfyRequest
      simp only [hnone]
      exact ⟨.idle, hp.buffer, hp.bufferResource, hp.answers, hp.outstanding, fun h => absurd rfl h⟩
    | waiting b => exact inPhase_satisfyRequest w time image hc hp hgone
    | recorded b t =>
      have hnil := hanswers b rfl
      cases hnil
    | refused b e =>
      have hnil := hanswers b rfl
      cases hnil
  window d hd := by
    rw [casts_satisfyRequest]
    exact h.window d (List.mem_cons_of_mem _ hd)
  once d hd hbuffer := by
    rw [casts_satisfyRequest] at hd hbuffer
    obtain ⟨hcount, hnil⟩ := h.once d hd hbuffer
    rw [List.count_cons] at hcount
    by_cases hdc : d = c
    · subst hdc
      have hzero : casts.count d = 0 := by simp at hcount; simpa using hcount
      exact ⟨by omega, fun hmem => absurd hmem (List.count_eq_zero.1 hzero)⟩
    · refine ⟨by omega, fun hmem => ?_⟩
      rw [(only_satisfyRequest w time image s c).answers d hdc]
      exact hnil (List.mem_cons_of_mem _ hmem)

theorem Grabbing.foldl {casts : List CastId} (h : Grabbing w s casts) :
    Inv (casts.foldl (Screencaster.satisfyRequest w time image) s) := by
  induction casts generalizing s with
  | nil => exact h.inv
  | cons c casts ih => exact ih (h.satisfyRequest w time image)

theorem mem_values (s : Screencaster) (c : CastId) : c ∈ s.values w ↔ (w, c) ∈ s.requests := by
  simp [values]

theorem inv_recordFrame (h : Inv s) (hok : OpOk s (.recordFrame w time image)) :
    Inv (s.recordFrame w time image) := by
  unfold recordFrame
  split
  · exact h
  · apply Grabbing.foldl
    refine ⟨h, fun c hc => h.window w c ((mem_values w s c).1 hc), fun c hc hbuffer => ?_⟩
    refine ⟨hok c hc hbuffer, fun hmem => ?_⟩
    obtain ⟨p, hp⟩ := h.phase c hc
    by_contra hne
    rw [hp.answers] at hne
    exact hp.unrequested hne w ((mem_values w s c).1 hmem)

end

theorem inv_step (h : Inv s) {op : Op} (hok : OpOk s op) : Inv (s.step op) := by
  cases op with
  | record c br shm geometry => exact inv_record h hok
  | recordFrame w time image => exact inv_recordFrame w time image h hok
  | deliver => exact inv_deliver h
  | bufferDestroyed b => exact inv_bufferDestroyed h hok
  | destroy c => exact inv_destroy h c

end

/-! ## Runs -/

/-- **In the runs whose operations all meet `OpOk` every answer answers a request
for the buffer it names, and a frame one whose buffer holds an image.** -/
theorem screencast_answered (window : CastId → QQuickWindow) (ops : List Op)
    (h : Run.Meets (fun s op => some (step s op)) OpOk (init window) ops) :
    Run.Always (fun s op => some (step s op)) Answered (init window) ops := by
  refine ⟨(inv_init window).answered, ?_⟩
  refine Run.along_of_meets (I := Inv) (fun s op hI hok => ?_) ops _ (inv_init window) h
  exact ⟨_, rfl, (inv_step hI hok).answered, inv_step hI hok⟩

/-- A 2 by 1 buffer of the right kind. -/
def sampleShm : ShmLayout := ⟨2, 1, 8, screencasterFormat⟩

/-- Two frames, one after the other, the second one with a new buffer. -/
theorem screencast_answered_twice :
    Run.Always (fun s op => some (step s op)) Answered (init fun _ => 0)
      [.record 0 1 (some sampleShm) ⟨2, 1⟩, .recordFrame 0 5 8, .deliver,
        .record 0 2 (some sampleShm) ⟨2, 1⟩, .recordFrame 0 6 8, .deliver] := by
  apply screencast_answered
  refine ⟨fun _ => by decide, ?_⟩
  rintro _ ⟨⟩
  refine ⟨fun c _ _ => List.count_le_length, ?_⟩
  rintro _ ⟨⟩
  refine ⟨trivial, ?_⟩
  rintro _ ⟨⟩
  refine ⟨fun _ => by decide, ?_⟩
  rintro _ ⟨⟩
  refine ⟨fun c _ _ => List.count_le_length, ?_⟩
  rintro _ ⟨⟩
  exact ⟨trivial, fun _ _ => trivial⟩

/-- A second buffer is recorded to before the first one's frame is sent: the
frame names the second buffer, to which nothing was copied. -/
theorem screencast_not_answered :
    ¬ Run.Always (fun s op => some (step s op)) Answered (init fun _ => 0)
      [.record 0 1 (some sampleShm) ⟨2, 1⟩, .recordFrame 0 5 8,
        .record 0 2 (some sampleShm) ⟨2, 1⟩, .deliver] := by
  rintro ⟨-, _, ⟨⟩, -, _, ⟨⟩, -, _, ⟨⟩, -, _, ⟨⟩, h, -⟩
  obtain ⟨open_, hopen⟩ := h 0 (by decide)
  exact Option.some_ne_none open_ (hopen.symm.trans (by decide))

end Screencaster

end GreenIsland.Server

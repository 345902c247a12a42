import GreenIsland.Lib.Run
import GreenIsland.Server.Screencaster

/-! The two tests of a screencast's buffer.

`screencast_record` compares the buffer's width, height and stride with the output's
geometry; `frameRecording` compares the buffer's bytes with those of the image that was
grabbed, which has the size the output has by then, and copies them one after the other.
The two should accept the same buffers, an accepted buffer should not be refused at the
grab, and the rows of the image should be as far apart as those of the buffer (`Agrees`).

An accepted buffer may be larger than the output, so that the bytes differ; it has as
many bytes as the image only if it has as many rows, each with as many bytes
(`byteCount_eq_iff_of_large`).  A buffer with as many bytes may be refused.  And the
output's size may change while a buffer waits.  `agrees_iff` says in which runs none
of this happens. -/

namespace GreenIsland.Server

/-! ## Model -/

/-- The size of an output; there is an image of this size. -/
structure OutputSize where
  width : Nat
  height : Nat
  bytes_lt : 4 * width * height < 2 ^ 31
deriving DecidableEq

namespace OutputSize

def toQSize (size : OutputSize) : QSize := ⟨size.width, size.height⟩

/-- `QImage::byteCount` of a 32-bit image of this size -/
def byteCount (size : OutputSize) : Int := 4 * size.width * size.height

end OutputSize

/-- The screencaster, and the size of the output that each window fills. -/
structure ScreencastAdmission where
  screencaster : Screencaster
  size : QQuickWindow → OutputSize

/-- What happens; the window's image is grabbed when a frame is recorded. -/
inductive AdmissionOp
  | record (c : CastId) (br : BufferId) (shm : Option WlShmLayout)
  | recordFrame (window : QQuickWindow) (time : UInt32)
  | deliver
  | bufferDestroyed (b : BufferId)
  | destroy (c : CastId)
  | resize (window : QQuickWindow) (size : OutputSize)

namespace ScreencastAdmission

def init (window : CastId → QQuickWindow) (size : QQuickWindow → OutputSize) :
    ScreencastAdmission := ⟨Screencaster.init window, size⟩

/-- The size of the screencast's output. -/
def sizeOf (s : ScreencastAdmission) (c : CastId) : OutputSize :=
  s.size (s.screencaster.casts c).window

def step (s : ScreencastAdmission) : AdmissionOp → ScreencastAdmission
  | .record c br shm => { s with
      screencaster := s.screencaster.record c br (shm.map WlShmLayout.toShmLayout)
        (s.sizeOf c).toQSize }
  | .recordFrame window time => { s with
      screencaster := s.screencaster.recordFrame window time (s.size window).byteCount }
  | .deliver => { s with screencaster := s.screencaster.deliver }
  | .bufferDestroyed b => { s with screencaster := s.screencaster.bufferDestroyed b }
  | .destroy c => { s with screencaster := s.screencaster.destroy c }
  | .resize window size => { s with size := Function.update s.size window size }

/-- The buffer waits for the window's next frame. -/
def Pending (s : ScreencastAdmission) (window : QQuickWindow) (c : CastId) (b : ShmBuffer) : Prop :=
  c ∈ s.screencaster.values window ∧ (s.screencaster.casts c).valid = true ∧
    (s.screencaster.casts c).buffer = some b

/-- What a call has posted. -/
def posted (s s' : ScreencastAdmission) : List (CastId × QEvent) :=
  s'.screencaster.queue.drop s.screencaster.queue.length

/-- A buffer of the right format is accepted just if it has the image's bytes; at a grab
no buffer is refused, and the rows of the image land at the buffer's stride. -/
def Agrees (s : ScreencastAdmission) (op : AdmissionOp) (s' : ScreencastAdmission) : Prop :=
  match op with
  | .record c _ (some b) => b.format = screencasterFormat →
      ((s'.screencaster.casts c).buffer.isSome = true ↔ (s.sizeOf c).byteCount = b.bytes)
  | .recordFrame window _ => (∀ c error, (c, .failed error) ∉ s.posted s') ∧
      ∀ c b, s.Pending window c b → 4 * ((s.size window).width : Int) = b.stride
  | _ => True

/-- The buffer's rows are the image's. -/
def Exact (b : ShmLayout) (size : OutputSize) : Prop :=
  b.stride = 4 * size.width ∧ b.height = size.height

/-- The buffer is at least as large as the output, and its rows follow each other. -/
def Large (b : ShmLayout) (size : OutputSize) : Prop :=
  size.width ≤ b.width ∧ size.height ≤ b.height ∧ b.stride = qint32 (4 * b.width)

instance (b : ShmLayout) (size : OutputSize) : Decidable (Large b size) :=
  inferInstanceAs (Decidable (_ ∧ _ ∧ _))

/-- What a call must meet for this. -/
def OpOk (s : ScreencastAdmission) : AdmissionOp → Prop
  | .record c _ (some b) => b.format = screencasterFormat →
      if Large b.toShmLayout (s.sizeOf c) then Exact b.toShmLayout (s.sizeOf c)
      else b.stride * b.height ≠ 4 * (s.sizeOf c).width * (s.sizeOf c).height
  | .recordFrame window _ => ∀ c b, s.Pending window c b → Exact b.toShmLayout (s.size window)
  | _ => True

/-- What all calls keep: a buffer that is remembered has rows. -/
def Inv (s : ScreencastAdmission) : Prop :=
  ∀ c b, (s.screencaster.casts c).buffer = some b → 0 < b.stride

end ScreencastAdmission

/-! ## Bytes and rows -/

/-- Of two products with smaller factors on one side, neither factor is smaller. -/
theorem mul_eq_mul_iff_of_le {a g s h : Int} (hg₀ : 0 ≤ g) (has : a ≤ s) (hgh : g ≤ h) (hs : 0 < s)
    (hh : 0 < h) : a * g = h * s ↔ s = a ∧ h = g := by
  constructor
  · intro heq
    have hle : a * g ≤ s * g := Int.mul_le_mul_of_nonneg_right has hg₀
    have hheight : h = g := by
      by_contra hne
      have hlt : s * g < s * h := Int.mul_lt_mul_of_pos_left (by omega) hs
      have hcomm : h * s = s * h := Int.mul_comm h s
      omega
    subst hheight
    rw [Int.mul_comm a h] at heq
    exact ⟨(Int.eq_of_mul_eq_mul_left (Int.ne_of_gt hh) heq).symm, rfl⟩
  · rintro ⟨rfl, rfl⟩
    exact Int.mul_comm _ _

/-- The stride that is computed is exact, or the buffer has one row. -/
theorem stride_of_verified {b : WlShmLayout} (h : b.stride = qint32 (b.width * 4)) :
    b.stride = 4 * b.width ∨ b.height = 1 := by
  have hpos := b.width_pos
  have hle := b.width_le
  have hheight := b.height_pos
  have hfit := b.bytes_fit
  by_cases hexact : b.width * 4 < 2 ^ 31
  · rw [qint32_of_fits ⟨by omega, hexact⟩] at h
    omega
  · -- `qint32` took 2³² away at least once, so a row is longer than 2³⁰ bytes
    refine Or.inr ?_
    by_contra hne
    have hbound := (fits_qint32 (b.width * 4)).2
    have hlong : 2 ^ 30 < b.stride := by
      rw [← h] at hbound
      unfold qint32 at h
      rw [Int.bmod_def] at h
      split at h <;> omega
    have htwo : 2 * b.stride ≤ b.height * b.stride :=
      Int.mul_le_mul_of_nonneg_right (by omega) (by omega)
    omega

/-- The test of a buffer of the right format -/
theorem verify_iff {b : ShmLayout} (hformat : b.format = screencasterFormat) (br : BufferId)
    (size : OutputSize) :
    Screencaster.verify ⟨b, br⟩ size.toQSize = true ↔ ScreencastAdmission.Large b size := by
  unfold Screencaster.verify OutputSize.toQSize ScreencastAdmission.Large
  simp only [Bool.and_eq_true, Bool.not_eq_true', Bool.or_eq_false_iff, decide_eq_false_iff_not,
    beq_iff_eq, hformat, and_true, Int.not_lt, Int.mul_comm 4, and_assoc]

/-- **A large buffer has the image's bytes only if it has the image's rows.** -/
theorem byteCount_eq_iff_of_large {b : WlShmLayout} {size : OutputSize}
    (h : ScreencastAdmission.Large b.toShmLayout size) :
    size.byteCount = b.bytes ↔ ScreencastAdmission.Exact b.toShmLayout size := by
  obtain ⟨hwidth, hheight, hstride⟩ := h
  rw [Int.mul_comm] at hstride
  have hpos := b.width_pos
  have hrow := b.width_le
  have hrows := b.height_pos
  unfold OutputSize.byteCount WlShmLayout.bytes ScreencastAdmission.Exact
  rcases stride_of_verified hstride with hexact | hone
  · exact mul_eq_mul_iff_of_le (by omega) (by omega) (by omega) (by omega) hrows
  · -- one row: the image has one as well, or no bytes at all
    rw [hone] at hheight ⊢
    obtain hzero | hheight : size.height = 0 ∨ size.height = 1 := by omega
    · rw [hzero]
      exact iff_of_false (by omega) fun hrows => by omega
    · rw [hheight]
      omega

/-! ## The buffers that are remembered -/

namespace Screencaster

variable (s : Screencaster)

theorem buffer_record (c : CastId) (br : BufferId) (shm : Option ShmLayout) (geometry : QSize) :
    ((s.record c br shm geometry).casts c).buffer =
      (wlShmBufferGet br shm).filter (verify · geometry) := by
  unfold record
  simp only []
  split
  next hnone => rw [casts_send, casts_setCast_self, hnone]
  next buffer hsome =>
    rw [hsome]
    exact congrArg Screencast.buffer (casts_setCast_self ..)

theorem casts_record_of_ne {c d : CastId} (h : d ≠ c) (br : BufferId) (shm : Option ShmLayout)
    (geometry : QSize) : (s.record c br shm geometry).casts d = s.casts d := by
  have hprevious : ((s.send c (.record br)).cancelPrevious c).casts = s.casts :=
    casts_cancelPrevious _ _
  unfold record
  simp only []
  split
  · rw [casts_send, casts_setCast_of_ne _ h, hprevious]
  · exact (casts_setCast_of_ne _ h _).trans (congrFun hprevious d)

variable {s}

theorem buffer_forgetBuffer {c d : CastId} {b : ShmBuffer}
    (h : ((s.forgetBuffer d).casts c).buffer = some b) : (s.casts c).buffer = some b := by
  unfold forgetBuffer at h
  by_cases hc : c = d
  · subst hc
    rw [casts_setCast_self] at h
    cases h
  · rwa [casts_setCast_of_ne _ hc] at h

theorem buffer_deliver {c : CastId} {b : ShmBuffer} (h : (s.deliver.casts c).buffer = some b) :
    (s.casts c).buffer = some b := by
  unfold deliver at h
  split at h
  · exact h
  next d event queue hq =>
    simp only [] at h
    split at h
    · cases event with
      | success time => exact buffer_forgetBuffer h
      | failed error => exact buffer_forgetBuffer h
      | deferredDelete => exact h
    · exact buffer_forgetBuffer h

theorem buffer_bufferDestroyed {c : CastId} {br : BufferId} {b : ShmBuffer}
    (h : ((s.bufferDestroyed br).casts c).buffer = some b) : (s.casts c).buffer = some b := by
  unfold bufferDestroyed at h
  simp only [] at h
  split at h
  · cases h
  · exact h

theorem buffer_destroy {c d : CastId} {b : ShmBuffer}
    (h : ((s.destroy d).casts c).buffer = some b) : (s.casts c).buffer = some b := by
  have hcasts : (s.destroy d).casts c =
      (s.setCast d { s.casts d with valid := false }).casts c := rfl
  rw [hcasts] at h
  by_cases hc : c = d
  · subst hc
    rw [casts_setCast_self] at h
    exact h
  · rwa [casts_setCast_of_ne _ hc] at h

end Screencaster

/-! ## One call -/

namespace ScreencastAdmission

variable {s : ScreencastAdmission}

/-- What is accepted is the buffer that was passed. -/
theorem buffer_record_iff (c : CastId) (br : BufferId) (b : WlShmLayout) :
    ((s.step (.record c br (some b))).screencaster.casts c).buffer.isSome = true ↔
      Screencaster.verify ⟨b.toShmLayout, br⟩ (s.sizeOf c).toQSize = true := by
  show ((s.screencaster.record c br (some b.toShmLayout) _).casts c).buffer.isSome = true ↔ _
  rw [Screencaster.buffer_record]
  show (Option.filter _ (some _)).isSome = true ↔ _
  rw [Option.filter_some]
  split <;> simp_all

theorem Inv.step (h : s.Inv) (op : AdmissionOp) : (s.step op).Inv := by
  cases op with
  | record c br shm =>
    intro d b hb
    by_cases hd : d = c
    · subst hd
      obtain ⟨hget, -⟩ := Option.filter_eq_some_iff.1 ((Screencaster.buffer_record ..).symm.trans hb)
      obtain ⟨layout, hlayout, rfl⟩ := Option.map_eq_some_iff.1 hget
      obtain ⟨b, -, rfl⟩ := Option.map_eq_some_iff.1 hlayout
      exact Int.lt_of_lt_of_le b.width_pos b.width_le
    · refine h d b ?_
      rw [← Screencaster.casts_record_of_ne _ hd]
      exact hb
  | recordFrame window time =>
    intro c b hb
    refine h c b ?_
    rw [← Screencaster.casts_recordFrame]
    exact hb
  | deliver => exact fun c b hb => h c b (Screencaster.buffer_deliver hb)
  | bufferDestroyed br => exact fun c b hb => h c b (Screencaster.buffer_bufferDestroyed hb)
  | destroy c => exact fun c b hb => h c b (Screencaster.buffer_destroy hb)
  | resize window size => exact h

theorem agrees_record_iff (c : CastId) (br : BufferId) (b : WlShmLayout) :
    s.Agrees (.record c br (some b)) (s.step (.record c br (some b))) ↔
      s.OpOk (.record c br (some b)) := by
  refine imp_congr_right fun hformat => ?_
  rw [buffer_record_iff, verify_iff hformat]
  split
  · next hlarge =>
    rw [← byteCount_eq_iff_of_large hlarge]
    exact iff_true_left hlarge
  · next hlarge =>
    refine (iff_false_left hlarge).trans (not_congr ?_)
    unfold OutputSize.byteCount WlShmLayout.bytes
    rw [Int.mul_comm b.stride]
    exact eq_comm

theorem posted_recordFrame (window : QQuickWindow) (time : UInt32) :
    s.posted (s.step (.recordFrame window time)) =
      (s.screencaster.values window).filterMap
        (s.screencaster.reply time (s.size window).byteCount) := by
  show List.drop _ (s.screencaster.recordFrame window time _).queue = _
  rw [Screencaster.queue_recordFrame]
  exact List.drop_left

/-- No buffer is refused just if each has the image's bytes. -/
theorem not_failed_iff (window : QQuickWindow) (time : UInt32) :
    (∀ c error, (c, .failed error) ∉ s.posted (s.step (.recordFrame window time))) ↔
      ∀ c b, s.Pending window c b → (s.size window).byteCount = b.stride * b.height := by
  rw [posted_recordFrame]
  constructor
  · rintro hposted c b ⟨hmem, hvalid, hbuffer⟩
    by_contra hbytes
    refine hposted c badBuffer (List.mem_filterMap.2 ⟨c, hmem, ?_⟩)
    unfold Screencaster.reply
    rw [hbuffer]
    show (if _ then _ else if _ then _ else _) = _
    rw [hvalid, if_neg Bool.noConfusion, if_pos hbytes]
  · intro hpending c error hmem
    obtain ⟨d, hd, hreply⟩ := List.mem_filterMap.1 hmem
    unfold Screencaster.reply at hreply
    split at hreply
    · cases hreply
    next b hbuffer =>
      split_ifs at hreply with hvalid hbytes
      · exact hbytes (hpending d b ⟨hd, eq_true_of_ne_false hvalid, hbuffer⟩)
      · cases hreply

theorem agrees_recordFrame_iff (h : s.Inv) (window : QQuickWindow) (time : UInt32) :
    s.Agrees (.recordFrame window time) (s.step (.recordFrame window time)) ↔
      s.OpOk (.recordFrame window time) := by
  refine (and_congr_left' (not_failed_iff window time)).trans ?_
  constructor
  · rintro ⟨hbytes, hrows⟩ c b hb
    have hbytes := hbytes c b hb
    unfold OutputSize.byteCount at hbytes
    rw [hrows c b hb] at hbytes
    exact ⟨(hrows c b hb).symm, (Int.eq_of_mul_eq_mul_left (Int.ne_of_gt (h c b hb.2.2)) hbytes).symm⟩
  · intro hexact
    refine ⟨fun c b hb => ?_, fun c b hb => (hexact c b hb).1.symm⟩
    obtain ⟨hstride, hheight⟩ := hexact c b hb
    rw [hstride, hheight]
    rfl

theorem agrees_iff_opOk (h : s.Inv) (op : AdmissionOp) : s.Agrees op (s.step op) ↔ s.OpOk op := by
  cases op with
  | record c br shm =>
    cases shm with
    | none => exact Iff.rfl
    | some b => exact agrees_record_iff c br b
  | recordFrame window time => exact agrees_recordFrame_iff h window time
  | deliver => exact Iff.rfl
  | bufferDestroyed b => exact Iff.rfl
  | destroy c => exact Iff.rfl
  | resize window size => exact Iff.rfl

/-! ## Results -/

theorem inv_init (window : CastId → QQuickWindow) (size : QQuickWindow → OutputSize) :
    (init window size).Inv := nofun

/-- **The two tests.**  They accept the same buffers, no accepted buffer is refused at a
grab and the rows land at the buffer's stride, along exactly the runs whose calls meet
`OpOk`: a buffer as large as the output has the image's rows, another one not the image's
bytes, and the buffers that wait have the rows of the image that is grabbed. -/
theorem agrees_iff (window : CastId → QQuickWindow) (size : QQuickWindow → OutputSize)
    (ops : List AdmissionOp) :
    Run.Along (fun s op => some (step s op)) Agrees (init window size) ops ↔
      Run.Meets (fun s op => some (step s op)) OpOk (init window size) ops :=
  Run.along_iff_of_decides
    (fun _ op h => Run.decides_total (agrees_iff_opOk h op) fun _ => h.step op) ops _
    (inv_init window size)

/-- A buffer that is larger than the output is accepted, and refused at the grab. -/
theorem larger_refused :
    ¬ Run.Along (fun s op => some (step s op)) Agrees
      (init (fun _ => 0) fun _ => ⟨1, 1, by decide⟩)
      [.record 0 1 (some ⟨⟨2, 1, 8, screencasterFormat⟩, by decide, by decide, by decide, by decide⟩),
        .recordFrame 0 5] := by
  rintro ⟨s₁, hs₁, -, s₂, hs₂, ⟨hposted, -⟩, -⟩
  obtain rfl := Option.some.inj hs₁
  obtain rfl := Option.some.inj hs₂
  exact hposted 0 badBuffer (by decide)

end ScreencastAdmission

end GreenIsland.Server

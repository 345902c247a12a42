import Mathlib.Data.Int.ConditionallyCompleteOrder
import Mathlib.Data.List.Induction
import Mathlib.Order.ConditionallyCompleteLattice.Indexed
import GreenIsland.Lib.Layout
import GreenIsland.Lib.Run
import GreenIsland.Qt.Basic

/-! The shared memory pool of the client library (`ShmPool`, `Buffer`).

A pool maps a file and hands out buffers, each a byte range of the mapping.
`reuseBuffer` returns a released buffer that is not used and fits the request
exactly; when there is none it grows the pool if needed and places a new buffer
at `offset`.  It answers with an iterator into `buffers`, the null pointer when
a system call or the compositor refuses.

Two results.

* When nothing is refused and the sizes fit their 32-bit fields
  (`Call.Fits`), every reachable pool is `NoAliasing`: the buffers occupy
  pairwise disjoint ranges of the mapping below `offset`, each has the size,
  stride and format it was asked for with, and no buffer is handed out again
  before its holder released it (`pool_no_aliasing`).
* When something is refused, the callers of `reuseBuffer` compare its iterator
  with `end()`, never with null: the call dereferences a null pointer
  (`call_failureAtomic_iff`).

The bytes themselves are not modelled; `copy` faults when it would write outside
of the mapping. -/

namespace GreenIsland.Client

open Layout

/-! ## Model -/

/-- `wl_shm_format(INT_MIN)`: there is no such format. -/
def invalidFormat : UInt32 := 0x80000000

/-- The `wl_shm` format of each `QImage::Format`. -/
def formats : List UInt32 :=
  [invalidFormat, invalidFormat, invalidFormat, invalidFormat, 1, 0, 0, 0x36314752, invalidFormat,
    invalidFormat, invalidFormat, 0x35315258, invalidFormat, 0x34324752, 0x32315258, 0x32315241,
    0x34324258, 0x34324241, 0x34324241, 0x30334258, 0x30335241, 0x30335258, 0x30335241, 0x20203843,
    0x20203843]

/-- `ShmFormats::fromQt`. -/
def fromQt (format : Nat) : UInt32 := formats[format]?.getD invalidFormat

structure Buffer where
  size : QSize
  stride : Int
  offset : Int
  format : UInt32
  released : Bool
  used : Bool
deriving DecidableEq

/-- Which of the calls to the kernel and the compositor succeed. -/
structure Answers where
  ftruncate : Bool
  mmap : Bool
  createBuffer : Bool
deriving DecidableEq

/-- The fields of `ShmPoolPrivate`; `data` is the length of the mapping it points
to, `none` for the null pointer. -/
structure ShmPool where
  data : Option Int
  size : Int
  offset : Int
  buffers : List Buffer
  /-- size of the pool on the compositor's side -/
  remoteSize : Int
deriving DecidableEq

structure QImage where
  isNull : Bool
  size : QSize
  bytesPerLine : Int
  format : Nat

/-- A call of `createBuffer` (raw form and `QImage` form) or `findBuffer`. -/
inductive Call
  | createBuffer (size : QSize) (stride : UInt32) (source : Bool) (format : UInt32)
  | createBufferFromImage (image : QImage)
  | findBuffer (size : QSize) (stride : UInt32) (format : UInt32)

/-- The bytes a buffer takes. -/
def Buffer.bytes (b : Buffer) : Int := qint32 (b.size.height * b.stride)

/-- The buffer can be handed out for this request. -/
def Buffer.isFree (b : Buffer) (size : QSize) (stride : Int) (format : UInt32) : Bool :=
  b.released && !b.used && b.size == size && b.stride == stride && b.format == format

namespace ShmPool

/-- The pool after a successful `createPool`. -/
def createPool (createSize : Int) : ShmPool where
  data := some createSize
  size := qint32 createSize
  offset := 0
  buffers := []
  remoteSize := qint32 createSize

def setReleased (p : ShmPool) (i : Nat) (released : Bool) : ShmPool :=
  { p with buffers := p.buffers.modify i fun b => { b with released := released } }

def setUsed (p : ShmPool) (i : Nat) (used : Bool) : ShmPool :=
  { p with buffers := p.buffers.modify i fun b => { b with used := used } }

/-- The pool is resized on the compositor's side, then unmapped and mapped again. -/
def resizePool (p : ShmPool) (k : Answers) (newSize : Int) : ShmPool × Bool :=
  if !k.ftruncate then (p, false)
  else
    let p := { p with remoteSize := qint32 newSize }
    if !k.mmap then ({ p with data := none }, false)
    else ({ p with data := some newSize, size := qint32 newSize }, true)

/-- A new buffer at the end of the list; its index is the iterator. -/
def appendBuffer (p : ShmPool) (k : Answers) (size : QSize) (stride : Int) (format : UInt32)
    (bytesCount : Int) : ShmPool × Option Nat :=
  if !k.createBuffer then (p, none)
  else
    ({ p with
        offset := qint32 (p.offset + bytesCount)
        buffers := p.buffers ++ [⟨size, stride, p.offset, format, false, false⟩] },
      some p.buffers.length)

/-- The iterator is the index of a buffer, `none` for the null pointer. -/
def reuseBuffer (p : ShmPool) (k : Answers) (size : QSize) (stride : Int) (format : UInt32) :
    ShmPool × Option Nat :=
  match p.buffers.findIdx? (·.isFree size stride format) with
  | some i => (p.setReleased i false, some i)
  | none =>
    let bytesCount := qint32 (size.height * stride)
    if p.size < qint32 (p.offset + bytesCount) then
      match p.resizePool k (qint32 (bytesCount + p.size)) with
      | (p, false) => (p, none)
      | (p, true) => p.appendBuffer k size stride format bytesCount
    else p.appendBuffer k size stride format bytesCount

/-- `Buffer::copy`: whether the bytes it writes lie in the mapping. -/
def copy (p : ShmPool) (i : Nat) : Bool :=
  match p.data, p.buffers[i]? with
  | some length, some b => 0 ≤ b.offset && 0 ≤ b.bytes && b.offset + b.bytes ≤ length
  | _, _ => false

/-- What the three callers do with the iterator: compare it with `end()`, copy
`source` if there is one, return the buffer it points to.  The outer `none` is a
fault: a null iterator is dereferenced, or `copy` leaves the mapping. -/
def provide (p : ShmPool) (k : Answers) (size : QSize) (stride : Int) (source : Bool)
    (format : UInt32) : Option (ShmPool × Option Nat) :=
  let (p, it) := p.reuseBuffer k size stride format
  if it = some p.buffers.length then some (p, none)
  else
    match it with
    | none => none
    | some i => if source && !p.copy i then none else some (p, some i)

def createBuffer (p : ShmPool) (k : Answers) (size : QSize) (stride : UInt32) (source : Bool)
    (format : UInt32) : Option (ShmPool × Option Nat) :=
  if size.isEmpty then some (p, none)
  else p.provide k size (qint32 stride.toNat) source format

def createBufferFromImage (p : ShmPool) (k : Answers) (image : QImage) :
    Option (ShmPool × Option Nat) :=
  if image.isNull then some (p, none)
  else p.provide k image.size (qint32 image.bytesPerLine) true (fromQt image.format)

def findBuffer (p : ShmPool) (k : Answers) (size : QSize) (stride : UInt32) (format : UInt32) :
    Option (ShmPool × Option Nat) :=
  p.provide k size (qint32 stride.toNat) false format

def call (p : ShmPool) (k : Answers) : Call → Option (ShmPool × Option Nat)
  | .createBuffer size stride source format => p.createBuffer k size stride source format
  | .createBufferFromImage image => p.createBufferFromImage k image
  | .findBuffer size stride format => p.findBuffer k size stride format

end ShmPool

/-! ## Calls, as one request -/

namespace Call

/-- The call is answered with a null buffer before the pool is looked at. -/
def refused : Call → Bool
  | .createBuffer size .. => size.isEmpty
  | .createBufferFromImage image => image.isNull
  | .findBuffer .. => false

def size : Call → QSize
  | .createBuffer size .. => size
  | .createBufferFromImage image => image.size
  | .findBuffer size .. => size

def stride : Call → Int
  | .createBuffer _ stride .. => stride.toNat
  | .createBufferFromImage image => image.bytesPerLine
  | .findBuffer _ stride _ => stride.toNat

def format : Call → UInt32
  | .createBuffer _ _ _ format => format
  | .createBufferFromImage image => fromQt image.format
  | .findBuffer _ _ format => format

def source : Call → Bool
  | .createBuffer _ _ source _ => source
  | .createBufferFromImage _ => true
  | .findBuffer .. => false

/-- Stride and height are not negative, and the products and sums that
`reuseBuffer` computes with them in the pool `p` are 32-bit values. -/
structure Fits (p : ShmPool) (c : Call) : Prop where
  height : 0 ≤ c.size.height
  stride : 0 ≤ c.stride ∧ FitsInt32 c.stride
  bytes : FitsInt32 (c.size.height * c.stride)
  offset : FitsInt32 (p.offset + c.size.height * c.stride)
  grown : FitsInt32 (c.size.height * c.stride + p.size)

end Call

theorem ShmPool.call_eq (p : ShmPool) (k : Answers) (c : Call) :
    p.call k c =
      if c.refused then some (p, none)
      else p.provide k c.size (qint32 c.stride) c.source c.format := by
  cases c <;> rfl

/-! ## Sessions: a pool and the history of its buffers -/

inductive Event
  | returned (i : Nat) (c : Call)
  | setReleased (i : Nat) (released : Bool)
  | setUsed (i : Nat) (used : Bool)

/-- A pool with what happened to its buffers so far, oldest first. -/
structure Session where
  pool : ShmPool
  log : List Event

inductive Op
  | call (c : Call) (k : Answers)
  | setReleased (i : Nat) (released : Bool)
  | setUsed (i : Nat) (used : Bool)
  | resizePool (newSize : Int) (k : Answers)

namespace Session

def init (createSize : Int) : Session := ⟨ShmPool.createPool createSize, []⟩

def record (log : List Event) (c : Call) : Option Nat → List Event
  | some i => log ++ [.returned i c]
  | none => log

/-- The flags of a buffer are set by whoever holds it, so only those of buffers
that exist. -/
def step (s : Session) : Op → Option Session
  | .call c k => (s.pool.call k c).map fun r => ⟨r.1, record s.log c r.2⟩
  | .setReleased i b =>
    if i < s.pool.buffers.length then some ⟨s.pool.setReleased i b, s.log ++ [.setReleased i b]⟩
    else some s
  | .setUsed i b =>
    if i < s.pool.buffers.length then some ⟨s.pool.setUsed i b, s.log ++ [.setUsed i b]⟩
    else some s
  | .resizePool newSize k => some ⟨(s.pool.resizePool k newSize).1, s.log⟩

end Session

/-- The buffer was marked released, and not handed out since. -/
def releasedAt (i : Nat) (log : List Event) : Bool :=
  log.foldl (fun r e =>
    match e with
    | .returned j _ => if j = i then false else r
    | .setReleased j b => if j = i then b else r
    | .setUsed _ _ => r) false

/-- The buffer is marked used. -/
def usedAt (i : Nat) (log : List Event) : Bool :=
  log.foldl (fun u e =>
    match e with
    | .setUsed j b => if j = i then b else u
    | _ => u) false

/-- The bytes of the mapping that belong to a buffer. -/
def Buffer.range (b : Buffer) : Set Int := Set.Ico b.offset (b.offset + b.stride * b.size.height)

/-- No two holders share a byte. -/
structure NoAliasing (s : Session) : Prop where
  /-- the current mapping holds the pool -/
  mapped : ∃ length, s.pool.data = some length ∧ s.pool.size ≤ length
  offset_le : s.pool.offset ≤ s.pool.size
  bounds : ∀ b ∈ s.pool.buffers,
    0 ≤ b.offset ∧ b.offset + b.stride * b.size.height ≤ s.pool.offset
  disjoint : s.pool.buffers.Pairwise fun a b => Disjoint a.range b.range
  /-- a returned buffer is what was asked for -/
  requested : ∀ i c, .returned i c ∈ s.log →
    ∃ b, s.pool.buffers[i]? = some b ∧ b.size = c.size ∧ b.stride = c.stride ∧ b.format = c.format
  /-- between two returns of a buffer it was released, and it is not used when
  it is returned again -/
  exclusive : ∀ i c c' l₁ l₂ l₃, s.log = l₁ ++ .returned i c :: (l₂ ++ .returned i c' :: l₃) →
    .setReleased i true ∈ l₂ ∧ usedAt i (l₁ ++ .returned i c :: l₂) = false

/-- The sizes fit and no call to the kernel or the compositor fails. -/
def Op.Fits (s : Session) : Op → Prop
  | .call c k => c.Fits s.pool ∧ k = ⟨true, true, true⟩
  | .resizePool newSize k => s.pool.size ≤ newSize ∧ FitsInt32 newSize ∧ k = ⟨true, true, true⟩
  | _ => True

/-! ## The logs of a buffer's flags -/

theorem releasedAt_append (i : Nat) (log : List Event) (e : Event) :
    releasedAt i (log ++ [e]) =
      match e with
      | .returned j _ => if j = i then false else releasedAt i log
      | .setReleased j b => if j = i then b else releasedAt i log
      | .setUsed _ _ => releasedAt i log := by
  unfold releasedAt
  rw [List.foldl_append]
  cases e <;> rfl

theorem usedAt_append (i : Nat) (log : List Event) (e : Event) :
    usedAt i (log ++ [e]) =
      match e with
      | .setUsed j b => if j = i then b else usedAt i log
      | _ => usedAt i log := by
  unfold usedAt
  rw [List.foldl_append]
  cases e <;> rfl

/-- A buffer that is marked released after it was handed out was released in between. -/
theorem setReleased_mem_of_releasedAt (i : Nat) (c : Call) (l₁ l₂ : List Event)
    (h : releasedAt i (l₁ ++ .returned i c :: l₂) = true) : .setReleased i true ∈ l₂ := by
  induction l₂ using List.reverseRecOn with
  | nil => rw [releasedAt_append] at h; simp at h
  | append_singleton l₂ e ih =>
    rw [← List.cons_append, ← List.append_assoc, releasedAt_append] at h
    rw [List.mem_append]
    cases e with
    | returned j c' =>
      simp only at h
      split at h
      · cases h
      · exact Or.inl (ih h)
    | setReleased j b =>
      simp only at h
      split at h
      · next hj => subst hj h; exact Or.inr (by simp)
      · exact Or.inl (ih h)
    | setUsed j b => exact Or.inl (ih h)

/-- A buffer that was handed out before is handed out again only while it is
marked released and not used. -/
def Guarded (log : List Event) : Prop :=
  ∀ i c' l l₃, log = l ++ .returned i c' :: l₃ → (∃ c, .returned i c ∈ l) →
    releasedAt i l = true ∧ usedAt i l = false

theorem Guarded.snoc {log : List Event} (h : Guarded log) (e : Event)
    (he : ∀ i c', e = .returned i c' → (∃ c, .returned i c ∈ log) →
      releasedAt i log = true ∧ usedAt i log = false) : Guarded (log ++ [e]) := by
  intro i c' l l₃ hsplit hold
  rcases List.eq_nil_or_concat l₃ with rfl | ⟨l₃', e', rfl⟩
  · obtain ⟨rfl, he'⟩ := List.append_inj' hsplit rfl
    exact he i c' (List.cons.inj he').1 hold
  · rw [List.concat_eq_append, ← List.cons_append, ← List.append_assoc] at hsplit
    exact h i c' l l₃' (List.append_inj' hsplit rfl).1 hold

/-! ## The invariant -/

/-- The interval a buffer takes. -/
def Buffer.span (b : Buffer) : Int × Int := (b.offset, b.offset + b.stride * b.size.height)

structure Inv (s : Session) : Prop where
  mapped : s.pool.data = some s.pool.size
  fits : FitsInt32 s.pool.size
  offset_le : s.pool.offset ≤ s.pool.size
  stacked : Stacked 0 (s.pool.buffers.map Buffer.span) s.pool.offset
  requested : ∀ i c, .returned i c ∈ s.log →
    ∃ b, s.pool.buffers[i]? = some b ∧ b.size = c.size ∧ b.stride = c.stride ∧ b.format = c.format
  flags : ∀ i b, s.pool.buffers[i]? = some b →
    b.released = releasedAt i s.log ∧ b.used = usedAt i s.log
  absent : ∀ i, s.pool.buffers.length ≤ i → releasedAt i s.log = false ∧ usedAt i s.log = false
  guarded : Guarded s.log

theorem Inv.noAliasing {s : Session} (h : Inv s) : NoAliasing s where
  mapped := ⟨_, h.mapped, le_rfl⟩
  offset_le := h.offset_le
  bounds b hb := by
    obtain ⟨h1, -, h2⟩ := h.stacked.bounds b.span (List.mem_map_of_mem hb)
    exact ⟨h1, h2⟩
  disjoint := by
    have hd := h.stacked.pairwise_disjoint
    rw [List.pairwise_map] at hd
    exact hd
  requested := h.requested
  exclusive i c c' l₁ l₂ l₃ hlog := by
    obtain ⟨hrel, hused⟩ := h.guarded i c' (l₁ ++ .returned i c :: l₂) l₃ (by simp [hlog]) ⟨c, by simp⟩
    exact ⟨setReleased_mem_of_releasedAt i c l₁ l₂ hrel, hused⟩

theorem inv_init {createSize : Int} (h0 : 0 ≤ createSize) (hfits : FitsInt32 createSize) :
    Inv (Session.init createSize) := by
  have hsize : (Session.init createSize).pool.size = createSize := qint32_of_fits hfits
  refine ⟨by rw [hsize]; rfl, by rwa [hsize], by rw [hsize]; exact h0, le_refl (0 : Int), ?_, ?_,
    fun i _ => ⟨rfl, rfl⟩, ?_⟩
  · intro i c hc; cases hc
  · intro i b hb; cases hb
  · intro i c' l l₃ hsplit; simp [Session.init] at hsplit

/-! ## One call -/

theorem map_modify {α β : Type} (g : α → β) (f : α → α) (hf : ∀ a, g (f a) = g a) (l : List α)
    (i : Nat) : (l.modify i f).map g = l.map g := by
  apply List.ext_getElem?
  intro j
  simp only [List.getElem?_map, List.getElem?_modify]
  cases l[j]? with
  | none => rfl
  | some a => by_cases h : i = j <;> simp [h, hf]

/-- `resizePool` when nothing fails. -/
theorem resizePool_eq (p : ShmPool) {newSize : Int} (h : FitsInt32 newSize) :
    p.resizePool ⟨true, true, true⟩ newSize =
      ({ p with data := some newSize, size := newSize, remoteSize := newSize }, true) := by
  simp [ShmPool.resizePool, qint32_of_fits h]

/-- What a successful request gives: a free buffer that fits, no longer released,
or a new buffer at the end of the pool. -/
inductive Handed (p : ShmPool) (c : Call) : ShmPool → Nat → Prop
  | reused (i : Nat) (b : Buffer) (hb : p.buffers[i]? = some b)
      (hfree : b.isFree c.size c.stride c.format = true) : Handed p c (p.setReleased i false) i
  | appended (p' : ShmPool) (hsize : p.size ≤ p'.size) (hfits : FitsInt32 p'.size)
      (hdata : p'.data = some p'.size) (hoffset : p'.offset = p.offset + c.size.height * c.stride)
      (hle : p'.offset ≤ p'.size)
      (hbuffers : p'.buffers =
        p.buffers ++ [⟨c.size, c.stride, p.offset, c.format, false, false⟩]) :
      Handed p c p' p.buffers.length

theorem reuseBuffer_handed {s : Session} (h : Inv s) {c : Call} (hc : c.Fits s.pool) :
    ∃ p' i, s.pool.reuseBuffer ⟨true, true, true⟩ c.size c.stride c.format = (p', some i) ∧
      Handed s.pool c p' i := by
  unfold ShmPool.reuseBuffer
  split
  · next i hi =>
    obtain ⟨hlt, hfree, -⟩ := List.findIdx?_eq_some_iff_getElem.1 hi
    exact ⟨_, i, rfl, .reused i _ (List.getElem?_eq_getElem hlt) hfree⟩
  · simp only [qint32_of_fits hc.bytes, qint32_of_fits hc.offset, qint32_of_fits hc.grown]
    have hnonneg : 0 ≤ c.size.height * c.stride := Int.mul_nonneg hc.height hc.stride.1
    have hle := h.offset_le
    split
    · rw [resizePool_eq _ hc.grown]
      refine ⟨_, _, rfl, .appended _ ?_ hc.grown rfl (qint32_of_fits hc.offset) ?_ rfl⟩
      · show s.pool.size ≤ c.size.height * c.stride + s.pool.size
        omega
      · show qint32 (s.pool.offset + c.size.height * c.stride) ≤ c.size.height * c.stride + s.pool.size
        rw [qint32_of_fits hc.offset]
        omega
    · next hlt =>
      refine ⟨_, _, rfl, .appended _ le_rfl h.fits h.mapped (qint32_of_fits hc.offset) ?_ rfl⟩
      show qint32 (s.pool.offset + c.size.height * c.stride) ≤ s.pool.size
      rw [qint32_of_fits hc.offset]
      omega

/-- A flag of a buffer changes, and nothing else. -/
theorem Inv.modify {s : Session} (h : Inv s) (i : Nat) (f : Buffer → Buffer) (log' : List Event)
    (hspan : ∀ b, (f b).span = b.span)
    (hkeep : ∀ b, (f b).size = b.size ∧ (f b).stride = b.stride ∧ (f b).format = b.format)
    (hlog : ∀ j c, .returned j c ∈ log' →
      ∃ b, s.pool.buffers[j]? = some b ∧ b.size = c.size ∧ b.stride = c.stride ∧ b.format = c.format)
    (hflags : ∀ b, s.pool.buffers[i]? = some b →
      (f b).released = releasedAt i log' ∧ (f b).used = usedAt i log')
    (hother : ∀ j, j ≠ i → releasedAt j log' = releasedAt j s.log ∧ usedAt j log' = usedAt j s.log)
    (hi : i < s.pool.buffers.length) (hguarded : Guarded log') :
    Inv ⟨{ s.pool with buffers := s.pool.buffers.modify i f }, log'⟩ where
  mapped := h.mapped
  fits := h.fits
  offset_le := h.offset_le
  stacked := by rw [map_modify _ _ hspan]; exact h.stacked
  requested j c hj := by
    obtain ⟨b, hb, hreq⟩ := hlog j c hj
    simp only [List.getElem?_modify, hb]
    by_cases hij : i = j
    · obtain ⟨h1, h2, h3⟩ := hkeep b
      exact ⟨f b, by simp [hij], by rw [h1, h2, h3]; exact hreq⟩
    · exact ⟨b, by simp [hij], hreq⟩
  flags j b hb := by
    simp only [List.getElem?_modify] at hb
    cases hbj : s.pool.buffers[j]? with
    | none => simp [hbj] at hb
    | some b₀ =>
      rw [hbj] at hb
      by_cases hij : i = j
      · subst hij
        simp only [if_pos, Option.map_eq_map, Option.map_some, Option.some.injEq] at hb
        rw [← hb]
        exact hflags b₀ hbj
      · simp only [if_neg hij, id_map', Option.some.injEq] at hb
        obtain ⟨h1, h2⟩ := hother j (Ne.symm hij)
        rw [h1, h2, ← hb]
        exact h.flags j b₀ hbj
  absent j hj := by
    have hj' : s.pool.buffers.length ≤ j := by simpa using hj
    obtain ⟨h1, h2⟩ := hother j (by omega)
    rw [h1, h2]
    exact h.absent j hj'
  guarded := hguarded

/-- An event about buffer `i` leaves the flags of the others alone. -/
theorem flagsAt_append_other {i j : Nat} (hij : j ≠ i) (log : List Event) (e : Event)
    (he : (∃ c, e = .returned i c) ∨ (∃ b, e = .setReleased i b) ∨ ∃ b, e = .setUsed i b) :
    releasedAt j (log ++ [e]) = releasedAt j log ∧ usedAt j (log ++ [e]) = usedAt j log := by
  rw [releasedAt_append, usedAt_append]
  rcases he with ⟨c, rfl⟩ | ⟨b, rfl⟩ | ⟨b, rfl⟩ <;> simp [Ne.symm hij]

theorem inv_setReleased {s : Session} (h : Inv s) {i : Nat} (hi : i < s.pool.buffers.length)
    (r : Bool) : Inv ⟨s.pool.setReleased i r, s.log ++ [.setReleased i r]⟩ := by
  refine h.modify i _ _ (fun _ => rfl) (fun _ => ⟨rfl, rfl, rfl⟩) ?_ ?_ ?_ hi ?_
  · intro j c hj
    exact h.requested j c (by simpa using hj)
  · intro b hb
    rw [releasedAt_append, usedAt_append]
    exact ⟨by simp, (h.flags i b hb).2⟩
  · intro j hj
    exact flagsAt_append_other hj _ _ (Or.inr (Or.inl ⟨r, rfl⟩))
  · exact h.guarded.snoc _ (by rintro _ _ ⟨⟩)

theorem inv_setUsed {s : Session} (h : Inv s) {i : Nat} (hi : i < s.pool.buffers.length)
    (u : Bool) : Inv ⟨s.pool.setUsed i u, s.log ++ [.setUsed i u]⟩ := by
  refine h.modify i _ _ (fun _ => rfl) (fun _ => ⟨rfl, rfl, rfl⟩) ?_ ?_ ?_ hi ?_
  · intro j c hj
    exact h.requested j c (by simpa using hj)
  · intro b hb
    rw [releasedAt_append, usedAt_append]
    exact ⟨(h.flags i b hb).1, by simp⟩
  · intro j hj
    exact flagsAt_append_other hj _ _ (Or.inr (Or.inr ⟨u, rfl⟩))
  · exact h.guarded.snoc _ (by rintro _ _ ⟨⟩)

theorem isFree_iff (b : Buffer) (size : QSize) (stride : Int) (format : UInt32) :
    b.isFree size stride format = true ↔
      b.released = true ∧ b.used = false ∧ b.size = size ∧ b.stride = stride ∧ b.format = format := by
  simp [Buffer.isFree, and_assoc]

/-- A free buffer is handed out again. -/
theorem inv_reused {s : Session} (h : Inv s) {c : Call} {i : Nat} {b : Buffer}
    (hb : s.pool.buffers[i]? = some b) (hfree : b.isFree c.size c.stride c.format = true) :
    Inv ⟨s.pool.setReleased i false, s.log ++ [.returned i c]⟩ := by
  obtain ⟨hrel, hused, hreq⟩ := (isFree_iff _ _ _ _).1 hfree
  obtain ⟨hi, -⟩ := List.getElem?_eq_some_iff.1 hb
  refine h.modify i _ _ (fun _ => rfl) (fun _ => ⟨rfl, rfl, rfl⟩) ?_ ?_ ?_ hi ?_
  · intro j c' hj
    rcases List.mem_append.1 hj with hj | hj
    · exact h.requested j c' hj
    · obtain ⟨rfl, rfl⟩ : j = i ∧ c' = c := by simpa using hj
      exact ⟨b, hb, hreq⟩
  · intro b' hb'
    rw [releasedAt_append, usedAt_append]
    exact ⟨by simp, (h.flags i b' hb').2⟩
  · intro j hj
    exact flagsAt_append_other hj _ _ (Or.inl ⟨c, rfl⟩)
  · refine h.guarded.snoc _ ?_
    rintro j c' ⟨⟩ -
    obtain ⟨h1, h2⟩ := h.flags _ b hb
    exact ⟨h1 ▸ hrel, h2 ▸ hused⟩

/-- What was handed out is in the pool. -/
theorem Inv.lt_length {s : Session} (h : Inv s) {j : Nat} {c : Call} (hj : .returned j c ∈ s.log) :
    j < s.pool.buffers.length := by
  obtain ⟨b, hb, -⟩ := h.requested j c hj
  exact (List.getElem?_eq_some_iff.1 hb).1

/-- A new buffer is handed out: it lies behind the others, and nothing is on record
about it. -/
theorem inv_appended {s : Session} (h : Inv s) {c : Call} (hc : c.Fits s.pool) {p' : ShmPool}
    (hfits : FitsInt32 p'.size) (hdata : p'.data = some p'.size)
    (hoffset : p'.offset = s.pool.offset + c.size.height * c.stride) (hle : p'.offset ≤ p'.size)
    (hbuffers : p'.buffers =
      s.pool.buffers ++ [⟨c.size, c.stride, s.pool.offset, c.format, false, false⟩]) :
    Inv ⟨p', s.log ++ [.returned s.pool.buffers.length c]⟩ := by
  refine ⟨hdata, hfits, hle, ?_, ?_, ?_, ?_, ?_⟩
  · have hs := h.stacked.snoc (show s.pool.offset ≤ s.pool.offset + c.stride * c.size.height by
      have := Int.mul_nonneg hc.stride.1 hc.height
      omega)
    rw [hbuffers, hoffset, List.map_append, Int.mul_comm c.size.height]
    exact hs
  · intro j c' hj
    rw [hbuffers]
    rcases List.mem_append.1 hj with hj | hj
    · rw [List.getElem?_append_left (h.lt_length hj)]
      exact h.requested j c' hj
    · obtain ⟨rfl, rfl⟩ : j = s.pool.buffers.length ∧ c' = c := by simpa using hj
      exact ⟨⟨c'.size, c'.stride, s.pool.offset, c'.format, false, false⟩, by simp, rfl, rfl, rfl⟩
  · intro j b hb
    rw [hbuffers] at hb
    by_cases hj : j < s.pool.buffers.length
    · rw [List.getElem?_append_left hj] at hb
      obtain ⟨h1, h2⟩ := flagsAt_append_other (Nat.ne_of_lt hj) s.log _ (Or.inl ⟨c, rfl⟩)
      rw [h1, h2]
      exact h.flags j b hb
    · rw [List.getElem?_append_right (Nat.le_of_not_lt hj), List.getElem?_singleton] at hb
      split at hb
      swap
      · cases hb
      obtain rfl := Option.some.inj hb
      obtain rfl : j = s.pool.buffers.length := by omega
      rw [releasedAt_append, usedAt_append]
      exact ⟨by simp, (h.absent _ le_rfl).2.symm⟩
  · intro j hj
    have hj' : s.pool.buffers.length + 1 ≤ j := by
      rw [hbuffers] at hj
      simpa using hj
    obtain ⟨h1, h2⟩ := flagsAt_append_other (show j ≠ s.pool.buffers.length by omega) s.log _
      (Or.inl ⟨c, rfl⟩)
    rw [h1, h2]
    exact h.absent j (by omega)
  · refine h.guarded.snoc _ ?_
    rintro j c' ⟨⟩ ⟨c'', hmem⟩
    exact absurd (h.lt_length hmem) (by omega)

/-- A request that is granted keeps the invariant. -/
theorem inv_handed {s : Session} (h : Inv s) {c : Call} (hc : c.Fits s.pool) {p' : ShmPool} {i : Nat}
    (hp : Handed s.pool c p' i) : Inv ⟨p', s.log ++ [.returned i c]⟩ := by
  cases hp with
  | reused i b hb hfree => exact inv_reused h hb hfree
  | appended p' hsize hfits hdata hoffset hle hbuffers =>
    exact inv_appended h hc hfits hdata hoffset hle hbuffers

/-- A request that fits is granted. -/
theorem provide_handed {s : Session} (h : Inv s) {c : Call} (hc : c.Fits s.pool) :
    ∃ p' i, s.pool.provide ⟨true, true, true⟩ c.size c.stride c.source c.format = some (p', some i) ∧
      Inv ⟨p', s.log ++ [.returned i c]⟩ := by
  obtain ⟨p', i, hreuse, hp⟩ := reuseBuffer_handed h hc
  have hinv := inv_handed h hc hp
  refine ⟨p', i, ?_, hinv⟩
  obtain ⟨b, hb, hsize, hstride, -⟩ := hinv.requested i c (by simp)
  have hi : i < p'.buffers.length := (List.getElem?_eq_some_iff.1 hb).1
  have hbytes : b.bytes = c.size.height * c.stride := by
    rw [Buffer.bytes, hsize, hstride, qint32_of_fits hc.bytes]
  -- `copy` stays in the mapping: the buffer lies below `offset`
  have hcopy : p'.copy i = true := by
    obtain ⟨h1, -, h2⟩ := hinv.stacked.bounds b.span (List.mem_map_of_mem (List.mem_of_getElem? hb))
    have hle := hinv.offset_le
    have hnonneg := Int.mul_nonneg hc.height hc.stride.1
    simp only [Buffer.span, hsize, hstride] at h1 h2
    rw [Int.mul_comm c.stride] at h2
    unfold ShmPool.copy
    have hdata : p'.data = some p'.size := hinv.mapped
    simp only [hdata, hb, hbytes, Bool.and_eq_true, decide_eq_true_eq]
    simp only at hle h2
    omega
  unfold ShmPool.provide
  rw [hreuse]
  simp only []
  rw [if_neg (by simp; omega), hcopy]
  simp

theorem inv_step {s : Session} (h : Inv s) {op : Op} (hop : op.Fits s) :
    ∃ s', s.step op = some s' ∧ Inv s' := by
  cases op with
  | call c k =>
    obtain ⟨hc, rfl⟩ := hop
    simp only [Session.step, ShmPool.call_eq, qint32_of_fits hc.stride.2]
    split
    · exact ⟨s, rfl, h⟩
    · obtain ⟨p', i, hp, hinv⟩ := provide_handed h hc
      exact ⟨_, by rw [hp]; rfl, hinv⟩
  | setReleased i b =>
    simp only [Session.step]
    split
    · next hi => exact ⟨_, rfl, inv_setReleased h hi b⟩
    · exact ⟨s, rfl, h⟩
  | setUsed i b =>
    simp only [Session.step]
    split
    · next hi => exact ⟨_, rfl, inv_setUsed h hi b⟩
    · exact ⟨s, rfl, h⟩
  | resizePool newSize k =>
    obtain ⟨hle, hfits, rfl⟩ := hop
    refine ⟨_, rfl, ?_⟩
    rw [resizePool_eq _ hfits]
    exact ⟨rfl, hfits, h.offset_le.trans hle, h.stacked, h.requested, h.flags, h.absent, h.guarded⟩

/-- **No two holders share a byte**, in every state a pool reaches when the sizes
fit and no call to the kernel or the compositor fails. -/
theorem pool_no_aliasing (createSize : Int) (h0 : 0 ≤ createSize) (hfits : FitsInt32 createSize)
    (ops : List Op)
    (hops : Run.Meets Session.step (fun s op => op.Fits s) (Session.init createSize) ops) :
    Run.Always Session.step NoAliasing (Session.init createSize) ops := by
  have hinit := inv_init h0 hfits
  refine ⟨hinit.noAliasing, Run.along_of_meets (I := Inv) ?_ ops _ hinit hops⟩
  intro s op h hop
  obtain ⟨s', hs, h'⟩ := inv_step h hop
  exact ⟨s', hs, h'.noAliasing, h'⟩

/-- A pool of 1024 bytes that lends a 16×16 buffer, gets it back and lends it again. -/
theorem pool_no_aliasing_reuse :
    Run.Always Session.step NoAliasing (Session.init 1024)
      [.call (.findBuffer ⟨16, 16⟩ 64 0) ⟨true, true, true⟩, .setReleased 0 true,
        .call (.createBuffer ⟨16, 16⟩ 64 true 0) ⟨true, true, true⟩] := by
  refine pool_no_aliasing 1024 (by decide) (by decide) _ ?_
  refine ⟨⟨⟨by decide, by decide, by decide, by decide, by decide⟩, rfl⟩, ?_⟩
  rintro _ ⟨⟩
  refine ⟨trivial, ?_⟩
  rintro _ ⟨⟩
  refine ⟨⟨⟨by decide, by decide, by decide, by decide, by decide⟩, rfl⟩, ?_⟩
  rintro _ ⟨⟩
  trivial

/-! ## When a call fails -/

/-- The bytes that the request asks for, as `reuseBuffer` computes them. -/
def Call.bytesCount (c : Call) : Int := qint32 (c.size.height * qint32 c.stride)

/-- The pool is too small for a new buffer. -/
def Call.grows (c : Call) (p : ShmPool) : Prop := p.size < qint32 (p.offset + c.bytesCount)

instance (c : Call) (p : ShmPool) : Decidable (c.grows p) := inferInstanceAs (Decidable (_ < _))

/-- A step of the request is refused: no buffer can be reused, and the kernel
does not grow the pool, or the compositor does not create the buffer. -/
def StepFails (p : ShmPool) (k : Answers) (c : Call) : Prop :=
  c.refused = false ∧ p.buffers.findIdx? (·.isFree c.size (qint32 c.stride) c.format) = none ∧
    (c.grows p ∧ (k.ftruncate = false ∨ k.mmap = false) ∨ k.createBuffer = false)

instance (p : ShmPool) (k : Answers) (c : Call) : Decidable (StepFails p k c) :=
  inferInstanceAs (Decidable (_ ∧ _))

/-- `data` maps the pool, and every buffer lies in the mapping. -/
def Usable (p : ShmPool) : Prop :=
  ∃ length, p.data = some length ∧ p.size ≤ length ∧
    ∀ b ∈ p.buffers, 0 ≤ b.offset ∧ b.offset + b.stride * b.size.height ≤ length

/-- A call one of whose steps fails returns a null buffer and leaves the pool
usable, with the offset and the buffers it had. -/
def FailureAtomic (p : ShmPool) (k : Answers) (c : Call) : Prop :=
  StepFails p k c → ∃ p', p.call k c = some (p', none) ∧ Usable p' ∧ p'.offset = p.offset ∧
    p'.buffers = p.buffers

/-- `reuseBuffer` when no buffer can be reused. -/
theorem reuseBuffer_new {p : ShmPool} {k : Answers} {c : Call}
    (hnone : p.buffers.findIdx? (·.isFree c.size (qint32 c.stride) c.format) = none) :
    p.reuseBuffer k c.size (qint32 c.stride) c.format =
      if c.grows p then
        match p.resizePool k (qint32 (c.bytesCount + p.size)) with
        | (p, false) => (p, none)
        | (p, true) => p.appendBuffer k c.size (qint32 c.stride) c.format c.bytesCount
      else p.appendBuffer k c.size (qint32 c.stride) c.format c.bytesCount := by
  unfold ShmPool.reuseBuffer
  rw [hnone]
  rfl

/-- A failing step makes `reuseBuffer` return the null pointer. -/
theorem reuseBuffer_of_stepFails {p : ShmPool} {k : Answers} {c : Call} (h : StepFails p k c) :
    (p.reuseBuffer k c.size (qint32 c.stride) c.format).2 = none := by
  obtain ⟨-, hnone, hfail⟩ := h
  rw [reuseBuffer_new hnone]
  rcases hfail with ⟨hgrow, hk | hk⟩ | hk
  · simp [hgrow, ShmPool.resizePool, hk]
  · rw [if_pos hgrow]
    cases hf : k.ftruncate <;> simp [ShmPool.resizePool, hk, hf]
  · have happend : ∀ q : ShmPool,
        (q.appendBuffer k c.size (qint32 c.stride) c.format c.bytesCount).2 = none := by
      intro q; simp [ShmPool.appendBuffer, hk]
    split
    · split
      · rfl
      · exact happend _
    · exact happend _

/-- When the file has grown but cannot be mapped again, the old mapping is gone. -/
theorem reuseBuffer_unmapped {p : ShmPool} {k : Answers} {c : Call} (h : StepFails p k c)
    (hgrow : c.grows p) (hf : k.ftruncate = true) (hm : k.mmap = false) :
    ¬ Usable (p.reuseBuffer k c.size (qint32 c.stride) c.format).1 := by
  rw [reuseBuffer_new h.2.1, if_pos hgrow]
  rintro ⟨length, hdata, -⟩
  simp [ShmPool.resizePool, hf, hm] at hdata

/-- **A failing step is never answered with a null buffer**: whatever the state of
the pool, the caller dereferences the null pointer that `reuseBuffer` returned.
The calls that leave the pool as it was are those in which no step fails. -/
theorem call_failureAtomic_iff (p : ShmPool) (k : Answers) (c : Call) :
    FailureAtomic p k c ↔ ¬ StepFails p k c := by
  refine ⟨fun hatomic hfail => ?_, fun h hfail => absurd hfail h⟩
  obtain ⟨p', hcall, -⟩ := hatomic hfail
  rw [ShmPool.call_eq, if_neg (by simp [hfail.1])] at hcall
  have hnull := reuseBuffer_of_stepFails hfail
  unfold ShmPool.provide at hcall
  generalize p.reuseBuffer k c.size (qint32 c.stride) c.format = r at hnull hcall
  obtain ⟨p₁, it⟩ := r
  obtain rfl : it = none := hnull
  simp at hcall

/-- The compositor refuses the first buffer of a fresh pool. -/
theorem createBuffer_not_failureAtomic :
    ¬ FailureAtomic (ShmPool.createPool 1024) ⟨true, true, false⟩
        (.createBuffer ⟨16, 16⟩ 64 false 0) := by
  intro h
  obtain ⟨p', hcall, -⟩ := h (by decide)
  cases hcall

end GreenIsland.Client

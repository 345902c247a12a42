import Mathlib.Data.List.Find
import Mathlib.Data.List.Nodup
import Mathlib.Data.List.Range
import Mathlib.Logic.Function.Basic
import GreenIsland.Lib.Run

/-! The buffers of a client's screencast (`Screencast`, `ScreencastHandler`).

A setup event makes six buffers, and `recordFrame` passes the first one that is not
busy to `record`, or remembers that it is starving.  The compositor answers with
`frame`, `failed` or `cancelled`.  A frame is posted to the handler, whose thread
marks the buffer as not busy, records again when starving, and emits `frameRecorded`.

What is owed (`Accounted`): a buffer is recorded to only while nobody uses it, a
buffer is busy only while somebody does, and no buffer is free while recording is
starving.  It is kept by exactly the events that meet `OpOk` (`accounted_iff`): the
buffer next in turn is not one whose frame is still to be emitted or being emitted,
no frame is taken from the queue while recording is starving, and no request is
answered by `failed`, which frees no buffer, or by `cancelled`, which looks for the
buffer among those that are null.

The handler's thread runs from one emission to the next without a break; a read of
`busy` in the middle of that is not modelled. -/

namespace GreenIsland.Client

/-! ## Model -/

structure ScreencastBuffer where
  /-- `buffer` is a null pointer -/
  isNull : Bool
  busy : Bool
deriving DecidableEq

/-- A screencast and what is under way between it, its handler and the compositor.
Buffers go by their place in `buffers`. -/
structure Screencast where
  /-- `shmPool` is not a null pointer -/
  shmPool : Bool
  /-- the length of `buffers` -/
  count : Nat
  buffers : Nat → ScreencastBuffer
  starving : Bool
  /-- the frame events posted to the handler, oldest first -/
  queue : List Nat
  /-- the buffer that the handler emits `frameRecorded` for -/
  emitting : Option Nat
  /-- the buffers passed to `record` and not answered yet, oldest first -/
  unanswered : List Nat

/-- What the calls of a setup return. -/
structure SetupAnswers where
  /-- the format is one of the compositor's -/
  supported : Bool
  createPool : Bool
  /-- the announced size is not empty -/
  sized : Bool
  /-- what a buffer takes can be had: memory, and an object of the compositor -/
  createBuffer : Bool

namespace Screencast

def init : Screencast := ⟨false, 0, fun _ => ⟨true, false⟩, false, [], none, []⟩

/-- `buffer.data()` of the buffer at a place. -/
def data (s : Screencast) (i : Nat) : Option Nat :=
  if (s.buffers i).isNull then none else some i

/-- The first place that the loops over `buffers` stop at. -/
def find (s : Screencast) (p : Nat → Bool) : Option Nat := (List.range s.count).find? p

def setBusy (s : Screencast) (i : Nat) (busy : Bool) : Screencast :=
  { s with buffers := Function.update s.buffers i { s.buffers i with busy := busy } }

def isFree (s : Screencast) (i : Nat) : Bool := !(s.buffers i).isNull && !(s.buffers i).busy

def firstFree (s : Screencast) : Option Nat := s.find s.isFree

def record (s : Screencast) (i : Nat) : Screencast := { s with unanswered := s.unanswered ++ [i] }

def recordFrame (s : Screencast) : Screencast :=
  match s.firstFree with
  | some i => { (s.record i).setBusy i true with starving := false }
  | none => { s with starving := true }

def appendBuffer (s : Screencast) (created : Bool) : Screencast :=
  { s with
    count := s.count + 1
    buffers := Function.update s.buffers s.count ⟨!created, false⟩ }

def createBuffers (s : Screencast) (created : Bool) : Screencast :=
  (List.range 6).foldl (fun s _ => s.appendBuffer created) s

/-- `screencast_setup`; without a pool it dereferences a null pointer, and so does
`ShmPool::createBuffer` when it fails.  No buffer is made of an empty size. -/
def setup (s : Screencast) (k : SetupAnswers) : Option Screencast :=
  if !k.supported then some s
  else if !s.shmPool && !k.createPool then none
  else if k.sized && !k.createBuffer then none
  else some (({ s with shmPool := true }).createBuffers k.sized).recordFrame

/-- The oldest request for the buffer is answered. -/
def answer (s : Screencast) (b : Option Nat) : Screencast :=
  { s with unanswered := b.elim s.unanswered s.unanswered.erase }

def postEvent (s : Screencast) (i : Nat) : Screencast := { s with queue := s.queue ++ [i] }

/-- `screencast_frame`; the buffer is `none` if it is none of the screencast's. -/
def frame (s : Screencast) (b : Option Nat) : Screencast :=
  let s := (s.answer b).recordFrame
  match s.find fun i => !(s.buffers i).isNull && s.data i == b with
  | some i => s.postEvent i
  | none => s

/-- `screencast_failed` -/
def failed (s : Screencast) (b : Option Nat) : Screencast := s.answer b

/-- `screencast_cancelled` -/
def cancelled (s : Screencast) (b : Option Nat) : Screencast :=
  let s := s.answer b
  match s.find fun i => (s.buffers i).isNull && s.data i == b with
  | some i => s.setBusy i false
  | none => s

/-- `ScreencastHandler::event`, up to the emission. -/
def event (s : Screencast) : Screencast :=
  match s.queue with
  | [] => s
  | i :: queue =>
    let s := { s with queue := queue, emitting := some i }.setBusy i false
    if s.starving then s.recordFrame else s

/-- The emission comes to its end. -/
def emitted (s : Screencast) : Screencast := { s with emitting := none }

inductive ScreencastOp
  | setup (k : SetupAnswers)
  | frame (b : Option Nat)
  | failed (b : Option Nat)
  | cancelled (b : Option Nat)
  | event
  | emitted

/-- The handler takes the next event when it is done with the one before. -/
def step (s : Screencast) : ScreencastOp → Option Screencast
  | .setup k => s.setup k
  | .frame b => some (s.frame b)
  | .failed b => some (s.failed b)
  | .cancelled b => some (s.cancelled b)
  | .event => some (if s.emitting = none then s.event else s)
  | .emitted => some s.emitted

/-! ## What is owed -/

/-- The buffer's `frameRecorded` is still to come, or running. -/
def Framed (s : Screencast) (i : Nat) : Prop := i ∈ s.queue ∨ s.emitting = some i

structure Accounted (s : Screencast) : Prop where
  /-- no buffer was recorded to twice, or while its frame was not emitted yet -/
  exclusive : s.unanswered.Nodup ∧ ∀ i ∈ s.unanswered, ¬ s.Framed i
  answered : ∀ i, (s.buffers i).busy = true → i ∈ s.unanswered ∨ s.Framed i
  resumed : s.starving = true → s.firstFree = none

/-- **The events after which that is so.** -/
def OpOk (s : Screencast) : ScreencastOp → Prop
  | .setup k => k.supported = true →
      (s.shmPool = true ∨ k.createPool = true) ∧ (k.sized = true → k.createBuffer = true) ∧
        ∀ i ∈ s.firstFree, ¬ s.Framed i
  | .frame b => ∀ i ∈ s.firstFree, ¬ s.Framed i ∧ b ≠ some i
  | .failed b | .cancelled b => ∀ i ∈ b, i ∉ s.unanswered
  | .event => s.emitting = none → s.queue ≠ [] → s.starving = false
  | .emitted => True

structure Inv (s : Screencast) : Prop extends Accounted s where
  busy : ∀ i ∈ s.unanswered, (s.buffers i).busy = true
  shown : ∀ i, s.emitting = some i → (s.buffers i).busy = false
  known : ∀ i, i ∈ s.unanswered ∨ s.Framed i → i < s.count ∧ (s.buffers i).isNull = false

theorem inv_init : Inv init where
  exclusive := ⟨List.nodup_nil, fun _ h => by cases h⟩
  answered _ h := by cases h
  resumed h := by cases h
  busy _ h := by cases h
  shown _ h := by cases h
  known _ h := by rcases h with h | h | h <;> cases h

/-! ## The buffer next in turn -/

section
variable {s s' : Screencast} {i : Nat}

theorem isFree_iff :
    s.isFree i = true ↔ (s.buffers i).isNull = false ∧ (s.buffers i).busy = false := by
  simp [isFree]

theorem find_some {p : Nat → Bool} (h : s.find p = some i) : i < s.count ∧ p i = true :=
  ⟨List.mem_range.1 (List.mem_of_find?_eq_some h), List.find?_some h⟩

theorem find_eq_none {p : Nat → Bool} : s.find p = none ↔ ∀ i < s.count, p i = false := by
  simp [find]

theorem firstFree_some (h : s.firstFree = some i) :
    i < s.count ∧ (s.buffers i).isNull = false ∧ (s.buffers i).busy = false :=
  ⟨(find_some h).1, isFree_iff.1 (find_some h).2⟩

@[simp] theorem buffers_setBusy_self (s : Screencast) (i : Nat) (busy : Bool) :
    (s.setBusy i busy).buffers i = { s.buffers i with busy := busy } := Function.update_self ..

theorem buffers_setBusy_of_ne (s : Screencast) {i j : Nat} (h : j ≠ i) (busy : Bool) :
    (s.setBusy i busy).buffers j = s.buffers j := Function.update_of_ne h ..

@[simp] theorem isNull_setBusy (s : Screencast) (i j : Nat) (busy : Bool) :
    ((s.setBusy i busy).buffers j).isNull = (s.buffers j).isNull := by
  by_cases h : j = i
  · rw [h, buffers_setBusy_self]
  · rw [buffers_setBusy_of_ne s h]

/-- Recording to a buffer that nobody uses. -/
theorem Inv.record (h : Inv s) (hfree : s.firstFree = some i) (hframed : ¬ s.Framed i) :
    Inv { (s.record i).setBusy i true with starving := false } := by
  obtain ⟨hi, hnull, hidle⟩ := firstFree_some hfree
  have hself : ((s.record i).setBusy i true).buffers i = { s.buffers i with busy := true } :=
    buffers_setBusy_self ..
  have hother : ∀ j, j ≠ i → ((s.record i).setBusy i true).buffers j = s.buffers j :=
    fun j hj => buffers_setBusy_of_ne _ hj _
  have hmem : ∀ j, j ∈ s.unanswered ++ [i] ↔ j ∈ s.unanswered ∨ j = i := fun j => by
    rw [List.mem_append, List.mem_singleton]
  have hnew : i ∉ s.unanswered := fun hi => Bool.false_ne_true (hidle.symm.trans (h.busy i hi))
  constructor
  · refine ⟨⟨?_, fun j hj => ?_⟩, fun j hj => ?_, fun hstarving => by cases hstarving⟩
    · exact List.nodup_append.2 ⟨h.exclusive.1, List.nodup_singleton i, fun j hj k hk =>
        fun heq => hnew ((List.mem_singleton.1 hk) ▸ heq ▸ hj)⟩
    · rcases (hmem j).1 hj with hj | rfl
      · exact h.exclusive.2 j hj
      · exact hframed
    · by_cases hji : j = i
      · exact Or.inl ((hmem j).2 (Or.inr hji))
      · have hbusy : (s.buffers j).busy = true := hother j hji ▸ hj
        exact (h.answered j hbusy).imp_left fun hj => (hmem j).2 (Or.inl hj)
  · intro j hj
    by_cases hji : j = i
    · subst hji
      exact congrArg ScreencastBuffer.busy hself
    · have hold := h.busy j (((hmem j).1 hj).resolve_right hji)
      exact (congrArg ScreencastBuffer.busy (hother j hji)).trans hold
  · intro j hj
    have hji : j ≠ i := by
      rintro rfl
      exact hframed (Or.inr hj)
    exact (congrArg ScreencastBuffer.busy (hother j hji)).trans (h.shown j hj)
  · intro j hj
    rw [isNull_setBusy]
    by_cases hji : j = i
    · subst hji
      exact ⟨hi, hnull⟩
    · exact h.known j (hj.imp_left fun hj => ((hmem j).1 hj).resolve_right hji)

theorem Inv.recordFrame (h : Inv s) (hok : ∀ i ∈ s.firstFree, ¬ s.Framed i) :
    Inv s.recordFrame := by
  unfold Screencast.recordFrame
  split
  next i hfree => exact h.record hfree (hok i hfree)
  next hnone =>
    exact ⟨⟨h.exclusive, h.answered, fun _ => hnone⟩, h.busy, h.shown, h.known⟩

/-- Recording to a buffer whose frame is not emitted yet. -/
theorem framed_recordFrame (h : s.recordFrame.Accounted) : ∀ i ∈ s.firstFree, ¬ s.Framed i := by
  intro i hi
  have hframed : ∀ i, s.recordFrame.Framed i ↔ s.Framed i := fun i => by
    unfold Screencast.recordFrame Framed
    split <;> rfl
  rw [← hframed]
  refine h.exclusive.2 i ?_
  unfold Screencast.recordFrame
  rw [show s.firstFree = some i from hi]
  exact List.mem_append_right _ (List.mem_singleton_self i)

/-- What is owed after `recordFrame`. -/
theorem Inv.recordFrame_iff (h : Inv s) :
    s.recordFrame.Accounted ↔ ∀ i ∈ s.firstFree, ¬ s.Framed i :=
  ⟨framed_recordFrame, fun hok => (h.recordFrame hok).toAccounted⟩

/-! ## Frames -/

/-- The screencast's buffer that an event names. -/
def named (s : Screencast) (b : Option Nat) : Option Nat :=
  s.find fun i => !(s.buffers i).isNull && s.data i == b

/-- A frame event takes its buffer from the requests to the handler's queue. -/
def received (s : Screencast) (b : Option Nat) : Screencast :=
  { s.answer b with queue := s.queue ++ (s.named b).toList }

theorem named_some {b : Option Nat} (h : s.named b = some i) :
    b = some i ∧ i < s.count ∧ (s.buffers i).isNull = false := by
  obtain ⟨hi, hp⟩ := find_some h
  rw [Bool.and_eq_true, Bool.not_eq_true', beq_iff_eq, data] at hp
  obtain ⟨hnull, hdata⟩ := hp
  rw [hnull, if_neg Bool.false_ne_true] at hdata
  exact ⟨hdata.symm, hi, hnull⟩

theorem named_of_known (hi : i < s.count) (hnull : (s.buffers i).isNull = false) :
    s.named (some i) = some i := by
  cases h : s.named (some i) with
  | some j => rw [Option.some.inj (named_some h).1]
  | none =>
    have hp := find_eq_none.1 h i hi
    simp [data, hnull] at hp

/-- Posting the event and recording the next frame do not touch the same data. -/
theorem frame_eq (s : Screencast) (b : Option Nat) :
    s.frame b = (s.received b).recordFrame := by
  have hnamed : ∀ s' : Screencast, s'.count = s.count →
      (∀ i, (s'.buffers i).isNull = (s.buffers i).isNull) → s'.named b = s.named b := by
    intro s' hcount hnull
    unfold named find data
    simp only [hcount, hnull]
  have hfind : ((s.answer b).recordFrame).named b = s.named b := by
    unfold Screencast.recordFrame
    split
    · exact hnamed _ rfl fun i => isNull_setBusy ..
    · rfl
  have hfree : (s.received b).firstFree = (s.answer b).firstFree := rfl
  show (match ((s.answer b).recordFrame).named b with
    | some i => ((s.answer b).recordFrame).postEvent i
    | none => (s.answer b).recordFrame) = _
  rw [hfind]
  unfold Screencast.recordFrame
  rw [hfree, received]
  cases (s.answer b).firstFree <;> cases s.named b <;>
    simp [postEvent, Screencast.record, setBusy, answer]

/-- A request leaves the list when it is answered. -/
theorem mem_answer (h : s.unanswered.Nodup) (b : Option Nat) (j : Nat) :
    j ∈ (s.answer b).unanswered ↔ j ∈ s.unanswered ∧ b ≠ some j := by
  cases b with
  | none => simp [answer]
  | some i =>
    show j ∈ s.unanswered.erase i ↔ _
    rw [h.mem_erase_iff]
    exact ⟨fun ⟨hne, hj⟩ => ⟨hj, fun heq => hne (Option.some.inj heq).symm⟩,
      fun ⟨hj, hne⟩ => ⟨fun heq => hne (congrArg some heq.symm), hj⟩⟩

theorem nodup_answer (h : s.unanswered.Nodup) (b : Option Nat) : (s.answer b).unanswered.Nodup := by
  cases b with
  | none => exact h
  | some i => exact h.erase i

theorem framed_received (b : Option Nat) (j : Nat) :
    (s.received b).Framed j ↔ s.Framed j ∨ s.named b = some j := by
  show (j ∈ s.queue ++ (s.named b).toList ∨ s.emitting = some j) ↔ _
  rw [List.mem_append, Option.mem_toList, or_right_comm]
  rfl

theorem Inv.received (h : Inv s) (b : Option Nat) : Inv (s.received b) := by
  have hmem := mem_answer h.exclusive.1 b
  have hknown : ∀ j, j ∈ s.unanswered → b = some j → s.named b = some j := by
    rintro j hj rfl
    exact named_of_known (h.known j (Or.inl hj)).1 (h.known j (Or.inl hj)).2
  constructor
  · refine ⟨⟨nodup_answer h.exclusive.1 b, fun j hj => ?_⟩, fun j hj => ?_, h.resumed⟩
    · rw [framed_received]
      obtain ⟨hj, hne⟩ := (hmem j).1 hj
      exact fun hframed => hframed.elim (h.exclusive.2 j hj) fun hnamed => hne (named_some hnamed).1
    · rw [framed_received]
      by_cases hb : b = some j
      · rcases h.answered j hj with hj | hj
        · exact Or.inr (Or.inr (hknown j hj hb))
        · exact Or.inr (Or.inl hj)
      · exact (h.answered j hj).imp (fun hj => (hmem j).2 ⟨hj, hb⟩) Or.inl
  · exact fun j hj => h.busy j ((hmem j).1 hj).1
  · exact h.shown
  · intro j hj
    rw [framed_received] at hj
    rcases hj with hj | hj | hj
    · exact h.known j (Or.inl ((hmem j).1 hj).1)
    · exact h.known j (Or.inr hj)
    · exact (named_some hj).2

theorem decides_frame (h : Inv s) (b : Option Nat) :
    Run.Decides step (fun _ _ s' => s'.Accounted) OpOk Inv s (.frame b) := by
  have hok : (∀ i ∈ (s.received b).firstFree, ¬ (s.received b).Framed i) ↔ s.OpOk (.frame b) := by
    have hfree : (s.received b).firstFree = s.firstFree := rfl
    rw [hfree]
    refine forall₂_congr fun i hi => ?_
    obtain ⟨hcount, hnull, -⟩ := firstFree_some hi
    rw [framed_received, not_or]
    refine and_congr_right fun _ => not_congr ⟨fun hb => (named_some hb).1, ?_⟩
    rintro rfl
    exact named_of_known hcount hnull
  refine Or.inr ⟨s.frame b, rfl, ?_, fun hb => ?_⟩
  · rw [frame_eq]
    exact (h.received b).recordFrame_iff.trans hok
  · rw [frame_eq]
    exact (h.received b).recordFrame (hok.2 hb)

/-! ## Setups -/

/-- What is there stays as it is when buffers are appended. -/
structure Appended (s s' : Screencast) : Prop where
  count : s.count ≤ s'.count
  old : ∀ i < s.count, s'.buffers i = s.buffers i
  idle : ∀ i, (s'.buffers i).busy = true → (s.buffers i).busy = true
  starving : s'.starving = s.starving
  queue : s'.queue = s.queue
  emitting : s'.emitting = s.emitting
  unanswered : s'.unanswered = s.unanswered

theorem appended_createBuffers (s : Screencast) (created : Bool) :
    Appended s (s.createBuffers created) := by
  have hloop : ∀ (places : List Nat) (s : Screencast),
      Appended s (places.foldl (fun s _ => s.appendBuffer created) s) := by
    intro places
    induction places with
    | nil => exact fun s => ⟨le_rfl, fun _ _ => rfl, fun _ => id, rfl, rfl, rfl, rfl⟩
    | cons k places ih =>
      intro s
      have hrest := ih (s.appendBuffer created)
      have hne : ∀ i, i ≠ s.count → (s.appendBuffer created).buffers i = s.buffers i :=
        fun i hi => Function.update_of_ne hi ..
      have hself : (s.appendBuffer created).buffers s.count = ⟨!created, false⟩ :=
        Function.update_self ..
      refine ⟨(Nat.le_succ _).trans hrest.count, fun i hi => ?_, fun i hi => ?_, hrest.starving,
        hrest.queue, hrest.emitting, hrest.unanswered⟩
      · exact (hrest.old i (Nat.lt_succ_of_lt hi)).trans (hne i hi.ne)
      · have hbusy := hrest.idle i hi
        by_cases hcount : i = s.count
        · rw [hcount, hself] at hbusy
          cases hbusy
        · rwa [hne i hcount] at hbusy
  exact hloop _ s

theorem Appended.framed (ha : Appended s s') (i : Nat) : s'.Framed i ↔ s.Framed i := by
  unfold Framed
  rw [ha.queue, ha.emitting]

/-- All that is known of a screencast, except that starving recording has no free buffer. -/
theorem Inv.appended (h : Inv s) (ha : Appended s s') :
    Inv { s' with starving := false } := by
  have hold : ∀ i, i ∈ s.unanswered ∨ s.Framed i → s'.buffers i = s.buffers i := fun i hi =>
    ha.old i (h.known i hi).1
  have hmem : ∀ i, i ∈ s'.unanswered ↔ i ∈ s.unanswered := fun i => by rw [ha.unanswered]
  constructor
  · refine ⟨⟨?_, fun i hi => ?_⟩, fun i hi => ?_, fun hstarving => by cases hstarving⟩
    · exact ha.unanswered ▸ h.exclusive.1
    · exact fun hframed => h.exclusive.2 i ((hmem i).1 hi) ((ha.framed i).1 hframed)
    · exact (h.answered i (ha.idle i hi)).imp (hmem i).2 (ha.framed i).2
  · intro i hi
    have hi := (hmem i).1 hi
    exact (congrArg ScreencastBuffer.busy (hold i (Or.inl hi))).trans (h.busy i hi)
  · intro i hi
    have hi : s.emitting = some i := ha.emitting.symm.trans hi
    exact (congrArg ScreencastBuffer.busy (hold i (Or.inr (Or.inr hi)))).trans (h.shown i hi)
  · intro i hi
    have hi := hi.imp (hmem i).1 (ha.framed i).1
    obtain ⟨hcount, hnull⟩ := h.known i hi
    exact ⟨hcount.trans_le ha.count, (congrArg ScreencastBuffer.isNull (hold i hi)).trans hnull⟩

/-- A new buffer is next in turn only when the old ones are all busy. -/
theorem Appended.firstFree (ha : Appended s s') :
    (∃ i, s.firstFree = some i ∧ s'.firstFree = some i) ∨
      s.firstFree = none ∧ ∀ i ∈ s'.firstFree, s.count ≤ i := by
  have hsame : ∀ i < s.count, s'.isFree i = s.isFree i := fun i hi => by
    rw [isFree, isFree, ha.old i hi]
  obtain ⟨n, hn⟩ := Nat.exists_eq_add_of_le ha.count
  have hsplit : s'.firstFree =
      ((List.range s.count).find? s.isFree).or (((List.range n).map (s.count + ·)).find? s'.isFree) := by
    unfold Screencast.firstFree find
    rw [hn, List.range_add, List.find?_append]
    congr 1
    refine List.find?_congr fun i hi => hsame i (List.mem_range.1 hi)
  cases hfree : s.firstFree with
  | some i =>
    refine Or.inl ⟨i, rfl, ?_⟩
    rw [hsplit, show (List.range s.count).find? s.isFree = some i from hfree]
    rfl
  | none =>
    refine Or.inr ⟨rfl, fun i hi => ?_⟩
    rw [hsplit, show (List.range s.count).find? s.isFree = none from hfree] at hi
    obtain ⟨k, -, rfl⟩ := List.mem_map.1 (List.mem_of_find?_eq_some hi)
    exact Nat.le_add_right ..

/-- Recording makes no difference between a cast that starves and one that does not: it sets
that again, one way or the other. -/
theorem recordFrame_starving (s : Screencast) :
    s.recordFrame = ({ s with starving := false }).recordFrame := by
  have hfree : ({ s with starving := false } : Screencast).firstFree = s.firstFree := rfl
  unfold Screencast.recordFrame
  rw [hfree]
  cases s.firstFree <;> rfl

/-- A buffer that was appended has no frame yet. -/
theorem Appended.not_framed_iff {s₁ : Screencast} (ha : Appended s s₁) (h : Inv s) :
    (∀ i ∈ s₁.firstFree, ¬ s₁.Framed i) ↔ ∀ i ∈ s.firstFree, ¬ s.Framed i := by
  rcases ha.firstFree with ⟨i, hi, hi'⟩ | ⟨hnone, hnew⟩
  · rw [hi, hi']
    exact forall₂_congr fun i _ => not_congr (ha.framed i)
  · rw [hnone]
    refine iff_of_true (fun i hi hframed => ?_) nofun
    have hlt := (h.known i (Or.inr ((ha.framed i).1 hframed))).1
    exact absurd (hnew i hi) (Nat.not_le.2 hlt)

theorem decides_setup (h : Inv s) (k : SetupAnswers) :
    Run.Decides step (fun _ _ s' => s'.Accounted) OpOk Inv s (.setup k) := by
  have hstep : step s (.setup k) = s.setup k := rfl
  unfold setup at hstep
  split at hstep
  · next hk =>
    refine Run.decides_good hstep h.toAccounted (fun hsupported => ?_) h
    rw [hsupported] at hk
    cases hk
  next hk =>
  have hsupported : k.supported = true := by simpa using hk
  split at hstep
  · next hpool =>
    refine Or.inl ⟨hstep, fun hok => ?_⟩
    obtain ⟨hpool', -⟩ := hok hsupported
    rcases hpool' with hpool' | hpool' <;> simp [hpool'] at hpool
  · next hpool =>
    have hpool' : s.shmPool = true ∨ k.createPool = true := by
      cases hs : s.shmPool <;> cases hc : k.createPool <;> simp_all
    split at hstep
    · next hcrash =>
      rw [Bool.and_eq_true, Bool.not_eq_true'] at hcrash
      refine Or.inl ⟨hstep, fun hok => ?_⟩
      exact Bool.false_ne_true (hcrash.2.symm.trans ((hok hsupported).2.1 hcrash.1))
    next hcreated =>
    have hcreated' : k.sized = true → k.createBuffer = true := by
      intro hsized
      simpa [hsized] using hcreated
    have ha : Appended s (({ s with shmPool := true }).createBuffers k.sized) := by
      obtain ⟨hcount, hold, hidle, hstarving, hqueue, hemitting, hunanswered⟩ :=
        appended_createBuffers { s with shmPool := true } k.sized
      exact ⟨hcount, hold, hidle, hstarving, hqueue, hemitting, hunanswered⟩
    have hI := h.appended ha
    generalize ({ s with shmPool := true }).createBuffers k.sized = s₁ at ha hI hstep
    have hok : (∀ i ∈ s₁.firstFree, ¬ s₁.Framed i) ↔ s.OpOk (.setup k) :=
      (ha.not_framed_iff h).trans
        ⟨fun hb _ => ⟨hpool', hcreated', hb⟩, fun hb => (hb hsupported).2.2⟩
    rw [recordFrame_starving] at hstep
    exact Or.inr ⟨_, hstep, hI.recordFrame_iff.trans hok, fun hb => hI.recordFrame (hok.2 hb)⟩

/-! ## The other events -/

theorem answer_eq_self {b : Option Nat} (hb : ∀ i ∈ b, i ∉ s.unanswered) : s.answer b = s := by
  cases b with
  | none => rfl
  | some i =>
    unfold answer
    rw [Option.elim_some, List.erase_of_not_mem (hb i rfl)]

/-- A buffer whose request is answered without a frame stays busy. -/
theorem Inv.lost (h : Inv s) {b : Option Nat} (hbusy : ∀ i, (s'.buffers i).busy = (s.buffers i).busy)
    (hunanswered : s'.unanswered = (s.answer b).unanswered) (hframed : ∀ i, s'.Framed i ↔ s.Framed i)
    (haccounted : s'.Accounted) : ∀ i ∈ b, i ∉ s.unanswered := by
  rintro i rfl hi
  rcases haccounted.answered i ((hbusy i).trans (h.busy i hi)) with hi' | hi'
  · rw [hunanswered] at hi'
    exact ((mem_answer h.exclusive.1 _ i).1 hi').2 rfl
  · exact h.exclusive.2 i hi ((hframed i).1 hi')

theorem decides_failed (h : Inv s) (b : Option Nat) :
    Run.Decides step (fun _ _ s' => s'.Accounted) OpOk Inv s (.failed b) := by
  refine Or.inr ⟨s.failed b, rfl, ⟨h.lost (fun _ => rfl) rfl fun _ => Iff.rfl, fun hb => ?_⟩,
    fun hb => ?_⟩
  · rw [failed, answer_eq_self hb]
    exact h.toAccounted
  · rw [failed, answer_eq_self hb]
    exact h

/-- A null buffer is never busy, so there is nothing for `cancelled` to change. -/
theorem Inv.cancelled_eq (h : Inv s) (b : Option Nat) : s.cancelled b = s.answer b := by
  unfold cancelled
  simp only []
  split
  next i hi =>
    obtain ⟨-, hp⟩ := find_some hi
    have hnull : (s.buffers i).isNull = true := (Bool.and_eq_true_iff.1 hp).1
    have hidle : (s.buffers i).busy = false := by
      refine Bool.eq_false_iff.2 fun hbusy => ?_
      have hknown := (h.known i (h.answered i hbusy)).2
      exact Bool.false_ne_true (hknown.symm.trans hnull)
    unfold setBusy
    rw [Function.update_eq_self_iff.2]
    show ({ s.buffers i with busy := false } : ScreencastBuffer) = s.buffers i
    rw [← hidle]
  · rfl

theorem decides_cancelled (h : Inv s) (b : Option Nat) :
    Run.Decides step (fun _ _ s' => s'.Accounted) OpOk Inv s (.cancelled b) := by
  have hstep : step s (.cancelled b) = step s (.failed b) := congrArg some (h.cancelled_eq b)
  rcases decides_failed h b with hbad | ⟨s', hs', hiff, hkeep⟩
  · exact Or.inl ⟨hstep.trans hbad.1, hbad.2⟩
  · exact Or.inr ⟨s', hstep.trans hs', hiff, hkeep⟩

/-- The state in which the handler decides whether to record again. -/
def taken (s : Screencast) (i : Nat) (queue : List Nat) : Screencast :=
  { s with queue := queue, emitting := some i }.setBusy i false

theorem Inv.taken (h : Inv s) {queue : List Nat} (hq : s.queue = i :: queue)
    (hemitting : s.emitting = none) (hstarving : s.starving = false) : Inv (s.taken i queue) := by
  have hi : s.Framed i := Or.inl (hq ▸ List.mem_cons_self)
  have hother : ∀ j, j ≠ i → (s.taken i queue).buffers j = s.buffers j := fun j hj =>
    buffers_setBusy_of_ne _ hj _
  have hself : ((s.taken i queue).buffers i).busy = false :=
    congrArg ScreencastBuffer.busy (buffers_setBusy_self ..)
  have hframed : ∀ j, (s.taken i queue).Framed j → s.Framed j := by
    rintro j (hj | hj)
    · exact Or.inl (hq ▸ List.mem_cons_of_mem i hj)
    · exact Option.some.inj hj ▸ hi
  constructor
  · refine ⟨⟨h.exclusive.1, fun j hj hf => h.exclusive.2 j hj (hframed j hf)⟩, fun j hj => ?_, ?_⟩
    · have hji : j ≠ i := by
        rintro rfl
        exact Bool.false_ne_true (hself.symm.trans hj)
      rw [hother j hji] at hj
      refine (h.answered j hj).imp_right fun hf => ?_
      rcases hf with hf | hf
      · exact Or.inl ((List.mem_cons.1 (hq ▸ hf)).resolve_left hji)
      · rw [hemitting] at hf
        cases hf
    · intro hs
      exact absurd (hstarving.symm.trans hs) Bool.false_ne_true
  · intro j hj
    have hji : j ≠ i := by
      rintro rfl
      exact h.exclusive.2 j hj hi
    exact (congrArg ScreencastBuffer.busy (hother j hji)).trans (h.busy j hj)
  · intro j hj
    exact Option.some.inj hj ▸ hself
  · intro j hj
    obtain ⟨hcount, hnull⟩ := h.known j (hj.imp_right (hframed j))
    exact ⟨hcount, (isNull_setBusy ..).trans hnull⟩

/-- The only buffer that is free then is the one whose frame is to be emitted. -/
theorem Inv.overtaken (h : Inv s) {queue : List Nat} (hq : s.queue = i :: queue)
    (hstarving : s.starving = true) : ¬ (s.taken i queue).recordFrame.Accounted := by
  have hi : s.Framed i := Or.inl (hq ▸ List.mem_cons_self)
  obtain ⟨hcount, hnull⟩ := h.known i (Or.inr hi)
  have hnone := find_eq_none.1 (h.resumed hstarving)
  have hfree : (s.taken i queue).isFree i = true := by
    refine isFree_iff.2 ⟨(isNull_setBusy ..).trans hnull, ?_⟩
    exact congrArg ScreencastBuffer.busy (buffers_setBusy_self ..)
  obtain ⟨j, hj⟩ : ∃ j, (s.taken i queue).firstFree = some j := by
    cases hfirst : (s.taken i queue).firstFree with
    | some j => exact ⟨j, rfl⟩
    | none =>
      have hnot := find_eq_none.1 hfirst i hcount
      exact absurd (hnot.symm.trans hfree) Bool.false_ne_true
  obtain rfl : j = i := by
    by_contra hji
    obtain ⟨hj', hp⟩ := find_some hj
    have hsame : (s.taken i queue).isFree j = s.isFree j := by
      unfold isFree
      rw [show (s.taken i queue).buffers j = s.buffers j from buffers_setBusy_of_ne _ hji _]
    exact Bool.false_ne_true ((hnone j hj').symm.trans (hsame.symm.trans hp))
  exact fun haccounted => framed_recordFrame haccounted j hj (Or.inr rfl)

theorem decides_event (h : Inv s) :
    Run.Decides step (fun _ _ s' => s'.Accounted) OpOk Inv s .event := by
  by_cases hemitting : s.emitting = none
  · have hstep : step s .event = some s.event := congrArg some (if_pos hemitting)
    unfold Screencast.event at hstep
    split at hstep
    next hq =>
      exact Run.decides_good hstep h.toAccounted (fun _ hne => absurd hq hne) h
    next i queue hq =>
    change step s .event = some (if s.starving = true then (s.taken i queue).recordFrame
      else s.taken i queue) at hstep
    by_cases hstarving : s.starving = true
    · rw [if_pos hstarving] at hstep
      refine Run.decides_bad hstep (h.overtaken hq hstarving) fun hok => ?_
      have hidle := hok hemitting (hq ▸ List.cons_ne_nil i queue)
      exact Bool.false_ne_true (hidle.symm.trans hstarving)
    · rw [if_neg hstarving] at hstep
      have hidle := Bool.eq_false_iff.2 hstarving
      have hI := h.taken hq hemitting hidle
      exact Run.decides_good hstep hI.toAccounted (fun _ _ => hidle) hI
  · have hstep : step s .event = some s := congrArg some (if_neg hemitting)
    exact Run.decides_good hstep h.toAccounted (fun hnone => absurd hnone hemitting) h

theorem Inv.emitted (h : Inv s) : Inv s.emitted := by
  have hframed : ∀ i, s.emitted.Framed i → s.Framed i := by
    rintro i (hi | hi)
    · exact Or.inl hi
    · cases hi
  constructor
  · refine ⟨⟨h.exclusive.1, fun i hi hf => h.exclusive.2 i hi (hframed i hf)⟩, fun i hi => ?_,
      h.resumed⟩
    rcases h.answered i hi with hi' | hi' | hi'
    · exact Or.inl hi'
    · exact Or.inr (Or.inl hi')
    · exact absurd ((h.shown i hi').symm.trans hi) Bool.false_ne_true
  · exact h.busy
  · exact fun i hi => by cases hi
  · exact fun i hi => h.known i (hi.imp_right (hframed i))

theorem decides_step (h : Inv s) (op : ScreencastOp) :
    Run.Decides step (fun _ _ s' => s'.Accounted) OpOk Inv s op := by
  cases op with
  | setup k => exact decides_setup h k
  | frame b => exact decides_frame h b
  | failed b => exact decides_failed h b
  | cancelled b => exact decides_cancelled h b
  | event => exact decides_event h
  | emitted => exact Run.decides_good rfl h.emitted.toAccounted trivial h.emitted

end

/-! ## Runs -/

/-- **The buffers are accounted for in exactly the runs whose events all meet their
condition.** -/
theorem accounted_iff (ops : List ScreencastOp) :
    Run.Always step Accounted init ops ↔ Run.Meets step OpOk init ops :=
  Run.always_iff_of_decides (fun _ op h => decides_step h op) ops init inv_init.toAccounted inv_init

/-- One setup, and a request that fails: its buffer stays busy. -/
theorem failed_stays_busy :
    ¬ Run.Always step Accounted init [.setup ⟨true, true, true, true⟩, .failed (some 0)] := by
  rintro ⟨-, _, ⟨⟩, -, _, ⟨⟩, h, -⟩
  rcases h.answered 0 rfl with h | h | h <;> cases h

/-- While the handler emits the frame of the first buffer, the second one's frame
arrives: the first one is free again and is recorded to. -/
example : ¬ Run.Meets step OpOk init
    [.setup ⟨true, true, true, true⟩, .frame (some 0), .event, .frame (some 1)] := by
  rintro ⟨-, h⟩
  obtain ⟨-, h⟩ := h _ rfl
  obtain ⟨-, h⟩ := h _ rfl
  obtain ⟨h, -⟩ := h _ rfl
  exact (h 0 (by decide)).1 (Or.inr rfl)

end Screencast

end GreenIsland.Client

import Mathlib.Data.Nat.Find
import GreenIsland.Client.Screencast
import GreenIsland.Lib.Run
import GreenIsland.Qt.Basic

/-! The geometry of the buffers of a client's screencast.

Each setup makes six buffers of the geometry it announces and appends them to
`buffers`; the buffers of the setups before stay there, and `recordFrame` takes the first
one that is free.  What is passed to `record` should not be null and have the geometry
of the last setup, and there should be a record whenever a buffer can be had for it
(`Fits`).

It is never null.  It has the last geometry exactly when, at the times something is
recorded, a free buffer of another geometry has one of the last geometry in front of
it (`fits_iff`): a second setup with another geometry goes wrong as soon as a buffer of
the first one is free, and setups of one geometry never do (`fits_of_announces`).

A setup that dereferences a null pointer ends the run. -/

namespace GreenIsland.Client

/-! ## Model -/

/-- What a setup announces. -/
structure Geometry where
  size : QSize
  stride : Int
  format : Int
deriving DecidableEq

/-- What the calls of a setup return, for the geometry that it announces. -/
def SetupAnswers.announcing (k : SetupAnswers) (g : Geometry) : SetupAnswers :=
  { k with sized := !g.size.isEmpty }

/-- A screencast, and what its buffers were created with. -/
structure ScreencastGeometry where
  screencast : Screencast
  /-- for each place in `buffers` -/
  geometry : Nat → Option Geometry
  /-- of the last setup -/
  last : Option Geometry

inductive GeometryOp
  | setup (g : Geometry) (k : SetupAnswers)
  | frame (b : Option Nat)
  | failed (b : Option Nat)
  | cancelled (b : Option Nat)
  | event
  | emitted

/-- What the screencast sees of it. -/
def GeometryOp.op : GeometryOp → Screencast.ScreencastOp
  | .setup g k => .setup (k.announcing g)
  | .frame b => .frame b
  | .failed b => .failed b
  | .cancelled b => .cancelled b
  | .event => .event
  | .emitted => .emitted

namespace Screencast

/-- The requests when the event's own is answered. -/
def remaining (s : Screencast) : ScreencastOp → List Nat
  | .frame b | .failed b | .cancelled b => (s.answer b).unanswered
  | _ => s.unanswered

/-- The buffers passed to `record` by a step. -/
def recorded (s : Screencast) (op : ScreencastOp) (s' : Screencast) : List Nat :=
  s'.unanswered.drop (s.remaining op).length

/-- The buffer at a place is there, and not busy. -/
def Free (s : Screencast) (i : Nat) : Prop :=
  i < s.count ∧ (s.buffers i).isNull = false ∧ (s.buffers i).busy = false

/-- The state in which a step calls `recordFrame`, if it does. -/
def recording (s : Screencast) : ScreencastOp → Option Screencast
  | .setup k =>
    if k.supported then some (({ s with shmPool := true }).createBuffers k.sized) else none
  | .frame b => some (s.answer b)
  | .event =>
    match s.emitting, s.queue with
    | none, i :: queue => if s.starving then some (s.taken i queue) else none
    | _, _ => none
  | _ => none

end Screencast

namespace ScreencastGeometry

def init : ScreencastGeometry := ⟨Screencast.init, fun _ => none, none⟩

/-- The places behind those there are go to the buffers of the setup. -/
def announce (s : ScreencastGeometry) : GeometryOp → ScreencastGeometry
  | .setup g _ => { s with
      geometry := fun i => if i < s.screencast.count then s.geometry i else some g
      last := some g }
  | _ => s

def step (s : ScreencastGeometry) (op : GeometryOp) : Option ScreencastGeometry :=
  (s.screencast.step op.op).map fun screencast => { s.announce op with screencast := screencast }

/-- The buffers that can be recorded to by a step: those that are free, the six that a
setup makes of a size that is not empty, and the one whose frame the handler takes.  The
handler looks for one only while recording is starving. -/
def Offered (s : ScreencastGeometry) : GeometryOp → Nat → Prop
  | .setup g k, i => k.supported = true ∧ (s.screencast.Free i ∨
      g.size.isEmpty = false ∧ s.screencast.count ≤ i ∧ i < s.screencast.count + 6)
  | .frame _, i => s.screencast.Free i
  | .event, i => s.screencast.emitting = none ∧ s.screencast.starving = true ∧
      ∃ j queue, s.screencast.queue = j :: queue ∧ (s.screencast.Free i ∨
        i = j ∧ j < s.screencast.count ∧ (s.screencast.buffers j).isNull = false)
  | _, _ => False

/-- What a step passes to `record` is not null and has the last geometry, and something
is passed if it can be. -/
structure Fits (s : ScreencastGeometry) (op : GeometryOp) (s' : ScreencastGeometry) : Prop where
  recorded : ∀ i ∈ s.screencast.recorded op.op s'.screencast,
    (s'.screencast.buffers i).isNull = false ∧ s'.geometry i = s'.last
  used : (∃ i, s.Offered op i) → s.screencast.recorded op.op s'.screencast ≠ []

/-- When that is so: what has another geometry has something of the last one in front. -/
def OpOk (s : ScreencastGeometry) (op : GeometryOp) : Prop :=
  ∀ i, s.Offered op i → (s.announce op).geometry i ≠ (s.announce op).last →
    ∃ j < i, s.Offered op j ∧ (s.announce op).geometry j = (s.announce op).last

end ScreencastGeometry

/-! ## What is recorded to -/

namespace Screencast

variable {s s' : Screencast}

/-- After the step to `s'`, where `before` are the requests without the new one: only a
`recordFrame` in the state `r` asks for a buffer, and no buffer becomes null. -/
structure Records (r : Option Screencast) (before : List Nat) (s' : Screencast) : Prop where
  unanswered : s'.unanswered = before ++ (r.bind firstFree).toList
  isNull : ∀ r' ∈ r, ∀ i, (s'.buffers i).isNull = (r'.buffers i).isNull

theorem Records.silent {before : List Nat} (h : s.unanswered = before) : Records none before s :=
  ⟨h.trans (List.append_nil _).symm, nofun⟩

theorem Records.recordFrame {before : List Nat} (h : s.unanswered = before) :
    Records (some s) before s.recordFrame := by
  subst h
  unfold Screencast.recordFrame
  split
  · next i hi =>
    refine ⟨congrArg (fun o => s.unanswered ++ Option.toList o) hi.symm, ?_⟩
    rintro _ ⟨⟩ j
    exact isNull_setBusy ..
  · next hnone =>
    refine ⟨(List.append_nil _).symm.trans
      (congrArg (fun o => s.unanswered ++ Option.toList o) hnone.symm), ?_⟩
    rintro _ ⟨⟩ j
    rfl

theorem recording_setup {k : SetupAnswers} (hk : k.supported = true) : s.recording (.setup k) =
    some (({ s with shmPool := true }).createBuffers k.sized) := if_pos hk

theorem recording_unsupported {k : SetupAnswers} (hk : k.supported = false) :
    s.recording (.setup k) = none := if_neg (by rw [hk]; exact Bool.false_ne_true)

theorem records_setup {k : SetupAnswers} (h : s.setup k = some s') :
    Records (s.recording (.setup k)) s.unanswered s' := by
  unfold setup at h
  cases hk : k.supported with
  | false =>
    rw [hk, if_pos (by decide)] at h
    obtain rfl := Option.some.inj h
    exact recording_unsupported hk ▸ Records.silent rfl
  | true =>
    rw [hk, if_neg (by decide)] at h
    split at h
    · cases h
    · split at h
      · cases h
      · obtain rfl := Option.some.inj h
        exact recording_setup hk ▸ Records.recordFrame (appended_createBuffers ..).unanswered

theorem records_frame (s : Screencast) (b : Option Nat) :
    Records (some (s.answer b)) (s.answer b).unanswered (s.frame b) := by
  have h := Records.recordFrame (s := s.answer b) rfl
  unfold frame
  simp only []
  split
  · exact ⟨h.unanswered, h.isNull⟩
  · exact h

theorem records_event (s : Screencast) :
    Records (s.recording .event) s.unanswered (if s.emitting = none then s.event else s) := by
  unfold recording event
  cases s.emitting with
  | some i =>
    rw [if_neg (Option.some_ne_none i)]
    exact Records.silent rfl
  | none =>
    rw [if_pos rfl]
    cases s.queue with
    | nil => exact Records.silent rfl
    | cons i queue =>
      show Records (if s.starving = true then some (s.taken i queue) else none) _
        (if s.starving = true then (s.taken i queue).recordFrame else s.taken i queue)
      split
      · exact Records.recordFrame rfl
      · exact Records.silent rfl

theorem records_step {op : ScreencastOp} (h : s.step op = some s') :
    Records (s.recording op) (s.remaining op) s' := by
  cases op with
  | setup k => exact records_setup h
  | frame b => exact Option.some.inj h ▸ records_frame s b
  | failed b => exact Option.some.inj h ▸ Records.silent rfl
  | cancelled b =>
    obtain rfl : s.cancelled b = s' := Option.some.inj h
    refine Records.silent ?_
    unfold cancelled
    simp only []
    split <;> rfl
  | event => exact Option.some.inj h ▸ records_event s
  | emitted => exact Option.some.inj h ▸ Records.silent rfl

/-- **What a step passes to `record`** is the first free buffer of the state in which it
calls `recordFrame`. -/
theorem mem_recorded_iff {op : ScreencastOp} (h : s.step op = some s') (i : Nat) :
    i ∈ s.recorded op s' ↔ ∃ r ∈ s.recording op, r.firstFree = some i := by
  unfold recorded
  rw [(records_step h).unanswered, List.drop_left, Option.mem_toList]
  exact Option.bind_eq_some_iff

/-- It is never null. -/
theorem isNull_of_recorded {op : ScreencastOp} {i : Nat} (h : s.step op = some s')
    (hi : i ∈ s.recorded op s') : (s'.buffers i).isNull = false := by
  obtain ⟨r, hr, hfree⟩ := (mem_recorded_iff h i).1 hi
  rw [(records_step h).isNull r hr]
  exact (firstFree_some hfree).2.1

/-- The first one is that which has none in front. -/
theorem firstFree_eq_some_iff {i : Nat} :
    s.firstFree = some i ↔ s.Free i ∧ ∀ j < i, ¬ s.Free j := by
  unfold firstFree find Free
  rw [List.find?_range_eq_some]
  constructor
  · rintro ⟨hfree, hi, hbefore⟩
    refine ⟨⟨List.mem_range.1 hi, isFree_iff.1 hfree⟩, fun j hj hfree' => ?_⟩
    have hnot := hbefore j hj
    rw [isFree_iff.2 hfree'.2] at hnot
    cases hnot
  · rintro ⟨⟨hi, hfree⟩, hbefore⟩
    refine ⟨isFree_iff.2 hfree, List.mem_range.2 hi, fun j hj => ?_⟩
    rw [Bool.not_eq_true', Bool.eq_false_iff]
    exact fun hfree' => hbefore j hj ⟨hj.trans hi, isFree_iff.1 hfree'⟩

/-- The six buffers of a setup come behind the others. -/
theorem createBuffers_spec (s : Screencast) (created : Bool) :
    (s.createBuffers created).count = s.count + 6 ∧ ∀ i, (s.createBuffers created).buffers i =
      if s.count ≤ i ∧ i < s.count + 6 then ⟨!created, false⟩ else s.buffers i := by
  have hloop : ∀ n : Nat, ((List.range n).foldl (fun s _ => s.appendBuffer created) s).count =
      s.count + n ∧ ∀ i, ((List.range n).foldl (fun s _ => s.appendBuffer created) s).buffers i =
        if s.count ≤ i ∧ i < s.count + n then ⟨!created, false⟩ else s.buffers i := by
    intro n
    induction n with
    | zero => exact ⟨rfl, fun i => (if_neg (by omega)).symm⟩
    | succ n ih =>
      obtain ⟨hcount, hbuffers⟩ := ih
      rw [List.range_succ, List.foldl_append]
      refine ⟨congrArg (· + 1) hcount, fun i => ?_⟩
      show Function.update _ _ _ i = _
      rw [hcount]
      by_cases hi : i = s.count + n
      · rw [hi, Function.update_self, if_pos (by omega)]
      · rw [Function.update_of_ne hi, hbuffers]
        exact if_congr (by omega) rfl rfl
  exact hloop 6

theorem free_createBuffers_iff (s : Screencast) (created : Bool) (i : Nat) :
    (({ s with shmPool := true } : Screencast).createBuffers created).Free i ↔
      s.Free i ∨ created = true ∧ s.count ≤ i ∧ i < s.count + 6 := by
  obtain ⟨hcount, hbuffers⟩ := createBuffers_spec { s with shmPool := true } created
  unfold Free
  rw [hcount, hbuffers i]
  show i < s.count + 6 ∧ (if s.count ≤ i ∧ i < s.count + 6 then _ else s.buffers i).isNull = false ∧
    (if s.count ≤ i ∧ i < s.count + 6 then _ else s.buffers i).busy = false ↔ _
  by_cases hnew : s.count ≤ i ∧ i < s.count + 6
  · rw [if_pos hnew]
    cases created <;> simp <;> omega
  · rw [if_neg hnew]
    constructor
    · rintro ⟨hi, hfree⟩
      exact Or.inl ⟨by omega, hfree⟩
    · rintro (⟨hi, hfree⟩ | ⟨-, hnew'⟩)
      · exact ⟨by omega, hfree⟩
      · exact absurd hnew' hnew

/-- The handler frees the buffer whose frame it takes. -/
theorem free_taken_iff (s : Screencast) (j : Nat) (queue : List Nat) (i : Nat) :
    (s.taken j queue).Free i ↔
      s.Free i ∨ i = j ∧ j < s.count ∧ (s.buffers j).isNull = false := by
  unfold Free
  show i < s.count ∧ ((s.taken j queue).buffers i).isNull = false ∧ _ ↔ _
  by_cases hij : i = j
  · subst hij
    have hself : (s.taken i queue).buffers i = { s.buffers i with busy := false } :=
      buffers_setBusy_self ..
    rw [hself]
    constructor
    · exact fun ⟨hi, hnull, _⟩ => Or.inr ⟨rfl, hi, hnull⟩
    · rintro (⟨hi, hnull, -⟩ | ⟨-, hi, hnull⟩)
      · exact ⟨hi, hnull, rfl⟩
      · exact ⟨hi, hnull, rfl⟩
  · have hother : (s.taken j queue).buffers i = s.buffers i := buffers_setBusy_of_ne _ hij _
    rw [hother]
    exact ⟨Or.inl, fun h => h.resolve_right fun heq => hij heq.1⟩

theorem count_recordFrame (s : Screencast) : s.recordFrame.count = s.count := by
  unfold recordFrame
  split <;> rfl

/-- Buffers are made by setups. -/
theorem count_step {op : ScreencastOp} (hop : ∀ k, op ≠ .setup k) (h : s.step op = some s') :
    s'.count = s.count := by
  cases op with
  | setup k => exact absurd rfl (hop k)
  | frame b =>
    obtain rfl : s.frame b = s' := Option.some.inj h
    rw [frame_eq, count_recordFrame]
    rfl
  | failed b => exact Option.some.inj h ▸ rfl
  | cancelled b =>
    obtain rfl : s.cancelled b = s' := Option.some.inj h
    unfold cancelled
    simp only []
    split <;> rfl
  | event =>
    obtain rfl : (if s.emitting = none then s.event else s) = s' := Option.some.inj h
    unfold event
    split
    · split
      · rfl
      · simp only []
        split
        · exact count_recordFrame _
        · rfl
    · rfl
  | emitted => exact Option.some.inj h ▸ rfl

end Screencast

/-! ## One step -/

namespace ScreencastGeometry

variable {s s' : ScreencastGeometry} {op : GeometryOp}

theorem step_eq_some (h : s.step op = some s') :
    s.screencast.step op.op = some s'.screencast ∧ s'.geometry = (s.announce op).geometry ∧
      s'.last = (s.announce op).last := by
  obtain ⟨screencast, hstep, rfl⟩ := Option.map_eq_some_iff.1 h
  exact ⟨hstep, rfl, rfl⟩

/-- The buffers that can be recorded to are those that are free when `recordFrame` is
called. -/
theorem offered_iff (s : ScreencastGeometry) (op : GeometryOp) (i : Nat) :
    s.Offered op i ↔ ∃ r ∈ s.screencast.recording op.op, r.Free i := by
  cases op with
  | setup g k =>
    cases hk : k.supported with
    | false =>
      have hnone : s.screencast.recording (GeometryOp.setup g k).op = none :=
        Screencast.recording_unsupported hk
      rw [hnone]
      refine iff_of_false (fun h => Bool.false_ne_true (hk.symm.trans h.1)) ?_
      rintro ⟨_, ⟨⟩, -⟩
    | true =>
      have hsome : s.screencast.recording (GeometryOp.setup g k).op =
          some (({ s.screencast with shmPool := true }).createBuffers !g.size.isEmpty) :=
        Screencast.recording_setup hk
      rw [hsome]
      simp only [Option.mem_def, Option.some.injEq, exists_eq_left']
      rw [Screencast.free_createBuffers_iff, Bool.not_eq_true']
      exact and_iff_right hk
  | frame b =>
    constructor
    · exact fun h => ⟨_, rfl, h⟩
    · rintro ⟨_, ⟨⟩, h⟩
      exact h
  | event =>
    show _ ∧ _ ∧ (∃ j queue, _) ↔ ∃ r ∈ Screencast.recording s.screencast .event, r.Free i
    unfold Screencast.recording
    cases hemitting : s.screencast.emitting with
    | some k => simp
    | none =>
      cases hqueue : s.screencast.queue with
      | nil => simp
      | cons k queue =>
        cases hstarving : s.screencast.starving with
        | false => simp
        | true =>
          simp only [true_and, if_true, Option.mem_def, Option.some.injEq, exists_eq_left',
            List.cons.injEq]
          rw [Screencast.free_taken_iff]
          constructor
          · rintro ⟨j, _, ⟨rfl, -⟩, h⟩
            exact h
          · exact fun h => ⟨k, queue, ⟨rfl, rfl⟩, h⟩
  | failed b => exact iff_of_false id (by rintro ⟨_, ⟨⟩, -⟩)
  | cancelled b => exact iff_of_false id (by rintro ⟨_, ⟨⟩, -⟩)
  | emitted => exact iff_of_false id (by rintro ⟨_, ⟨⟩, -⟩)

/-- What is recorded to is the first of them. -/
theorem mem_recorded_iff_offered (h : s.step op = some s') (i : Nat) :
    i ∈ s.screencast.recorded op.op s'.screencast ↔ s.Offered op i ∧ ∀ j < i, ¬ s.Offered op j := by
  obtain ⟨hstep, -, -⟩ := step_eq_some h
  rw [Screencast.mem_recorded_iff hstep]
  simp only [offered_iff]
  constructor
  · rintro ⟨r, hr, hfirst⟩
    obtain ⟨hfree, hbefore⟩ := Screencast.firstFree_eq_some_iff.1 hfirst
    refine ⟨⟨r, hr, hfree⟩, fun j hj => ?_⟩
    rintro ⟨r', hr', hfree'⟩
    exact hbefore j hj (Option.mem_unique hr' hr ▸ hfree')
  · rintro ⟨⟨r, hr, hfree⟩, hbefore⟩
    refine ⟨r, hr, Screencast.firstFree_eq_some_iff.2 ⟨hfree, fun j hj hfree' => ?_⟩⟩
    exact hbefore j hj ⟨r, hr, hfree'⟩

/-- If something can be recorded to, something is. -/
theorem exists_recorded (h : s.step op = some s') {i : Nat} (hi : s.Offered op i) :
    ∃ j ≤ i, j ∈ s.screencast.recorded op.op s'.screencast := by
  classical
  have hex : ∃ i, s.Offered op i := ⟨i, hi⟩
  refine ⟨Nat.find hex, Nat.find_min' hex hi, ?_⟩
  exact (mem_recorded_iff_offered h _).2 ⟨Nat.find_spec hex, fun j hj => Nat.find_min hex hj⟩

theorem fits_iff_opOk (h : s.step op = some s') : s.Fits op s' ↔ s.OpOk op := by
  obtain ⟨hstep, hgeometry, hlast⟩ := step_eq_some h
  constructor
  · rintro ⟨hrecorded, -⟩ i hi hne
    obtain ⟨j, hj, hmem⟩ := exists_recorded h hi
    have hfits := (hrecorded j hmem).2
    rw [hgeometry, hlast] at hfits
    refine ⟨j, Nat.lt_of_le_of_ne hj ?_, ((mem_recorded_iff_offered h j).1 hmem).1, hfits⟩
    rintro rfl
    exact hne hfits
  · intro hok
    refine ⟨fun i hi => ⟨Screencast.isNull_of_recorded hstep hi, ?_⟩, ?_⟩
    · obtain ⟨hoffered, hbefore⟩ := (mem_recorded_iff_offered h i).1 hi
      rw [hgeometry, hlast]
      by_contra hne
      obtain ⟨j, hj, hoffered', -⟩ := hok i hoffered hne
      exact hbefore j hj hoffered'
    · rintro ⟨i, hi⟩
      obtain ⟨j, -, hmem⟩ := exists_recorded h hi
      exact List.ne_nil_of_mem hmem

/-! ## Setups that agree -/

/-- A setup announces this geometry. -/
def Announces (g : Geometry) : GeometryOp → Prop
  | .setup g' _ => g' = g
  | _ => True

/-- All buffers have the geometry, and so had the last setup. -/
def Uniform (g : Geometry) (s : ScreencastGeometry) : Prop :=
  ∀ i < s.screencast.count, s.geometry i = some g ∧ s.last = some g

theorem Uniform.opOk {g : Geometry} (h : Uniform g s) (hop : Announces g op) : s.OpOk op := by
  intro i hi hne
  refine absurd ?_ hne
  have hold : i < s.screencast.count → s.geometry i = s.last := fun hlt =>
    (h i hlt).1.trans (h i hlt).2.symm
  cases op with
  | setup g' k =>
    obtain rfl : g' = g := hop
    show (if i < s.screencast.count then s.geometry i else some g') = some g'
    split
    · next hlt => exact (h i hlt).1
    · rfl
  | frame b => exact hold hi.1
  | event =>
    obtain ⟨-, -, j, queue, -, hfree | ⟨rfl, hlt, -⟩⟩ := hi
    · exact hold hfree.1
    · exact hold hlt
  | failed b => exact hi.elim
  | cancelled b => exact hi.elim
  | emitted => exact hi.elim

theorem Uniform.step {g : Geometry} (h : Uniform g s) (hop : Announces g op)
    (hs : s.step op = some s') : Uniform g s' := by
  obtain ⟨hstep, hgeometry, hlast⟩ := step_eq_some hs
  intro i hi
  rw [hgeometry, hlast]
  have hother : (∀ k, op.op ≠ .setup k) → s.geometry i = some g ∧ s.last = some g := fun hne =>
    h i (Screencast.count_step hne hstep ▸ hi)
  cases op with
  | setup g' k =>
    obtain rfl : g' = g := hop
    refine ⟨?_, rfl⟩
    show (if i < s.screencast.count then s.geometry i else some g') = some g'
    split
    · next hlt => exact (h i hlt).1
    · rfl
  | frame b => exact hother nofun
  | failed b => exact hother nofun
  | cancelled b => exact hother nofun
  | event => exact hother nofun
  | emitted => exact hother nofun

/-- Setups of one geometry: all that is recorded to fits, whatever else happens. -/
theorem fits_of_announces (g : Geometry) :
    ∀ (ops : List GeometryOp) (s : ScreencastGeometry), Uniform g s → (∀ op ∈ ops, Announces g op) →
      Run.Each ScreencastGeometry.step Fits s ops := by
  intro ops
  induction ops with
  | nil => intro s _ _; trivial
  | cons op ops ih =>
    intro s h hops s' hs
    obtain ⟨hop, hops⟩ := List.forall_mem_cons.1 hops
    exact ⟨(fits_iff_opOk hs).2 (h.opOk hop), ih s' (h.step hop hs) hops⟩

/-! ## Results -/

/-- **Recorded geometry.**  Along a run everything that is passed to `record` is a buffer
that is not null and has the geometry of the last setup, and something is passed whenever
it can be, if and only if in front of every buffer with another geometry that could be
recorded to there is one with that geometry. -/
theorem fits_iff (ops : List GeometryOp) :
    Run.Each step Fits init ops ↔ Run.Each step (fun s op _ => s.OpOk op) init ops := by
  refine Run.each_congr (I := fun _ => True) ?_ ?_ ops init trivial
  · exact fun _ _ _ _ _ => trivial
  · exact fun _ _ _ _ h => fits_iff_opOk h

/-- The first buffer is busy after the first setup; after the second one, of another size,
the second buffer of the first is recorded to. -/
theorem resized_setup :
    ¬ Run.Each step Fits init
      [.setup ⟨⟨64, 48⟩, 256, 1⟩ ⟨true, true, true, true⟩,
        .setup ⟨⟨80, 60⟩, 320, 1⟩ ⟨true, true, true, true⟩] := by
  intro h
  obtain ⟨-, h⟩ := h _ rfl
  obtain ⟨h, -⟩ := h _ rfl
  exact absurd (h.recorded 1 (by decide)).2 (by decide)

end ScreencastGeometry

end GreenIsland.Client

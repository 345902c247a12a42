import GreenIsland.Client.ShmPool

/-! The arithmetic of the shared memory pool (`ShmPool`).

The number of bytes of a new buffer, its end and the size of a grown pool are
computed in 32 bits, from a stride that is cut to 32 bits with a sign.  A call should
return a null buffer and leave the pool alone, or reuse a buffer, or compute what
the numbers really are, none of them negative, and place the new buffer inside the
pool (`Sound`).

Nothing is checked before the numbers are computed, except that `createBuffer` asks
whether the size is empty.  So a run is sound exactly if its calls meet `OpOk`
(`sound_iff`): the exact numbers fit, the size of the pool was not negative from the
start, and the kernel and the compositor refuse nothing (when they do, the null
iterator is dereferenced). -/

namespace GreenIsland.Client

/-! ## Calls on a pool -/

/-- What the users of a pool do with it. -/
inductive PoolOp
  | call (c : Call) (k : Answers)
  | setReleased (i : Nat) (released : Bool)
  | setUsed (i : Nat) (used : Bool)

def PoolOp.op : PoolOp → Op
  | call c k => .call c k
  | setReleased i released => .setReleased i released
  | setUsed i used => .setUsed i used

/-- A buffer that `reuseBuffer` finds. -/
def Reusable (p : ShmPool) (c : Call) : Prop :=
  ∃ b ∈ p.buffers, b.isFree c.size (qint32 c.stride) c.format = true

instance (p : ShmPool) (c : Call) : Decidable (Reusable p c) :=
  inferInstanceAs (Decidable (∃ b ∈ p.buffers, _))

/-! ## What should hold -/

/-- The exact number of bytes. -/
def Call.exactBytes (c : Call) : Int := c.size.height * c.stride

/-- What is computed for a new buffer is what it should be. -/
structure Exact (p : ShmPool) (c : Call) : Prop where
  bytes : c.bytesCount = c.exactBytes ∧ 0 ≤ c.exactBytes
  offset : qint32 (p.offset + c.bytesCount) = p.offset + c.exactBytes ∧ 0 ≤ p.offset + c.exactBytes
  grown : c.grows p →
    qint32 (c.bytesCount + p.size) = c.exactBytes + p.size ∧ 0 ≤ c.exactBytes + p.size

/-- The buffer lies in the pool. -/
def Inside (p : ShmPool) (i : Nat) (bytes : Int) : Prop :=
  ∃ b, p.buffers[i]? = some b ∧ 0 ≤ b.offset ∧ b.offset + bytes ≤ p.size

def Sound (s : Session) (op : PoolOp) (s' : Session) : Prop :=
  match op with
  | .call c _ => s' = s ∨ ∃ i, s'.log = s.log ++ [.returned i c] ∧
      (i < s.pool.buffers.length ∨ Exact s.pool c ∧ Inside s'.pool i c.exactBytes)
  | _ => True

/-- What a call must meet for this. -/
def OpOk (s : Session) : PoolOp → Prop
  | .call c k => c.refused = true ∨ Reusable s.pool c ∨
      0 ≤ s.pool.size ∧ 0 ≤ c.exactBytes ∧ FitsInt32 (s.pool.offset + c.exactBytes) ∧
      (s.pool.size < s.pool.offset + c.exactBytes →
        FitsInt32 (c.exactBytes + s.pool.size) ∧ k.ftruncate = true ∧ k.mmap = true) ∧
      k.createBuffer = true
  | _ => True

/-- What the calls keep that meet it. -/
structure ArithmeticInv (p : ShmPool) : Prop where
  offset_nonneg : 0 ≤ p.offset
  /-- the size is negative only as long as nothing was placed -/
  sized : p.offset ≤ p.size ∨ p.size < 0 ∧ p.buffers = []
  mapped : ∃ length, p.data = some length ∧ p.size ≤ length
  placed : ∀ b ∈ p.buffers, 0 ≤ b.offset ∧ 0 ≤ b.bytes ∧ b.offset + b.bytes ≤ p.offset

/-! ## The numbers -/

/-- It does not matter that the stride is cut as well. -/
theorem bytesCount_eq (c : Call) : c.bytesCount = qint32 c.exactBytes :=
  Int.mul_bmod_bmod

/-- The size of the pool once a new buffer was placed. -/
def Call.grownSize (c : Call) (p : ShmPool) : Int :=
  if c.grows p then qint32 (c.bytesCount + p.size) else p.size

/-- The pool grows when it really is too small. -/
theorem Exact.grows_iff {p : ShmPool} {c : Call} (h : Exact p c) :
    c.grows p ↔ p.size < p.offset + c.exactBytes := by
  unfold Call.grows
  rw [h.offset.1]

/-- The numbers are right, and the buffer inside the pool, if the exact ones fit. -/
theorem exact_iff {p : ShmPool} (h : ArithmeticInv p) (c : Call) :
    Exact p c ∧ p.offset + c.exactBytes ≤ c.grownSize p ↔
      0 ≤ p.size ∧ 0 ≤ c.exactBytes ∧ FitsInt32 (p.offset + c.exactBytes) ∧
      (p.size < p.offset + c.exactBytes → FitsInt32 (c.exactBytes + p.size)) := by
  have hoffset := h.offset_nonneg
  constructor
  · rintro ⟨hexact, hle⟩
    have hgrows := hexact.grows_iff
    obtain ⟨⟨hbytes, hpos⟩, ⟨hend, hendpos⟩, hgrown⟩ := hexact
    rw [hbytes] at hend hgrown
    rw [Call.grownSize, hbytes] at hle
    refine ⟨?_, hpos, qint32_eq_iff.1 hend, fun hlt => qint32_eq_iff.1 (hgrown (hgrows.2 hlt)).1⟩
    -- the buffer would lie behind the pool
    by_contra hneg
    have hlt : p.size < p.offset + c.exactBytes := by omega
    rw [if_pos (hgrows.2 hlt), (hgrown (hgrows.2 hlt)).1] at hle
    omega
  · rintro ⟨hsize, hpos, hend, hgrown⟩
    have hsized : p.offset ≤ p.size := by
      rcases h.sized with hsized | ⟨hneg, -⟩
      · exact hsized
      · omega
    have hbytes : c.bytesCount = c.exactBytes := by
      rw [bytesCount_eq]
      refine qint32_of_fits ?_
      unfold FitsInt32 at hend ⊢
      omega
    have hgrows : c.grows p ↔ p.size < p.offset + c.exactBytes := by
      unfold Call.grows
      rw [hbytes, qint32_of_fits hend]
    refine ⟨⟨⟨hbytes, hpos⟩, ⟨?_, by omega⟩, fun hlt => ⟨?_, by omega⟩⟩, ?_⟩
    · rw [hbytes]
      exact qint32_of_fits hend
    · rw [hbytes]
      exact qint32_of_fits (hgrown (hgrows.1 hlt))
    · unfold Call.grownSize
      split
      · next hlt =>
        rw [hbytes, qint32_of_fits (hgrown (hgrows.1 hlt))]
        omega
      · next hnot =>
        exact Int.not_lt.1 (mt hgrows.2 hnot)

/-! ## A new buffer -/

/-- The pool with a new buffer. -/
structure Appended (p : ShmPool) (c : Call) (p' : ShmPool) : Prop where
  size : p'.size = c.grownSize p
  offset : p'.offset = qint32 (p.offset + c.bytesCount)
  buffers : p'.buffers = p.buffers ++ [⟨c.size, qint32 c.stride, p.offset, c.format, false, false⟩]
  data : p'.data = if c.grows p then some p'.size else p.data

/-- What `reuseBuffer` does when it finds no buffer and nothing is refused. -/
theorem reuseBuffer_appended {p : ShmPool} {k : Answers} {c : Call}
    (hnone : p.buffers.findIdx? (·.isFree c.size (qint32 c.stride) c.format) = none)
    (hgrow : c.grows p → k.ftruncate = true ∧ k.mmap = true) (hcreate : k.createBuffer = true) :
    ∃ p', p.reuseBuffer k c.size (qint32 c.stride) c.format = (p', some p.buffers.length) ∧
      Appended p c p' := by
  have hqint32 : ∀ x, qint32 (qint32 x) = qint32 x := fun x => qint32_of_fits (fits_qint32 x)
  rw [reuseBuffer_new hnone]
  by_cases hgrows : c.grows p
  · obtain ⟨hftruncate, hmmap⟩ := hgrow hgrows
    rw [if_pos hgrows]
    simp only [ShmPool.resizePool, hftruncate, hmmap, ShmPool.appendBuffer, hcreate]
    refine ⟨_, rfl, ?_, rfl, rfl, ?_⟩
    · rw [Call.grownSize, if_pos hgrows]
      exact hqint32 _
    · rw [if_pos hgrows]
      exact congrArg some (hqint32 _).symm
  · rw [if_neg hgrows]
    simp only [ShmPool.appendBuffer, hcreate]
    refine ⟨_, rfl, ?_, rfl, rfl, ?_⟩
    · rw [Call.grownSize, if_neg hgrows]
    · rw [if_neg hgrows]

/-- Where the new buffer lies. -/
theorem Appended.inside_iff {p p' : ShmPool} {c : Call} (h : Appended p c p')
    (hp : ArithmeticInv p) :
    Inside p' p.buffers.length c.exactBytes ↔ p.offset + c.exactBytes ≤ c.grownSize p := by
  unfold Inside
  rw [h.buffers, h.size, List.getElem?_concat_length]
  constructor
  · rintro ⟨_, ⟨⟩, -, hle⟩
    exact hle
  · exact fun hle => ⟨_, rfl, hp.offset_nonneg, hle⟩

theorem Appended.inv {p p' : ShmPool} {c : Call} (h : Appended p c p') (hp : ArithmeticInv p)
    (hexact : Exact p c) (hle : p.offset + c.exactBytes ≤ c.grownSize p) : ArithmeticInv p' := by
  obtain ⟨hbytes, hpos⟩ := hexact.bytes
  have hoffset : p'.offset = p.offset + c.exactBytes := h.offset.trans hexact.offset.1
  refine ⟨?_, Or.inl ?_, ?_, ?_⟩
  · rw [hoffset]
    exact hexact.offset.2
  · rw [hoffset, h.size]
    exact hle
  · rw [h.data, h.size, Call.grownSize]
    split
    · exact ⟨_, rfl, Int.le_refl _⟩
    · exact hp.mapped
  · intro b hb
    rw [h.buffers] at hb
    rw [hoffset]
    rcases List.mem_append.1 hb with hb | hb
    · have hplaced := hp.placed b hb
      omega
    · rw [List.mem_singleton.1 hb]
      have hnew : Buffer.bytes ⟨c.size, qint32 c.stride, p.offset, c.format, false, false⟩ =
          c.exactBytes := hbytes
      rw [hnew]
      exact ⟨hp.offset_nonneg, hpos, Int.le_refl _⟩

/-! ## A buffer that is handed out -/

/-- `copy` stays within the mapping. -/
theorem ArithmeticInv.copy {p : ShmPool} (h : ArithmeticInv p) {i : Nat} (hi : i < p.buffers.length) :
    p.copy i = true := by
  obtain ⟨length, hdata, hlength⟩ := h.mapped
  obtain ⟨b, hb⟩ : ∃ b, p.buffers[i]? = some b := ⟨_, List.getElem?_eq_getElem hi⟩
  have hplaced := h.placed b (List.mem_of_getElem? hb)
  have hsized : p.offset ≤ p.size := by
    rcases h.sized with hsized | ⟨-, hnone⟩
    · exact hsized
    · rw [hnone] at hi
      cases hi
  unfold ShmPool.copy
  simp only [hdata, hb, Bool.and_eq_true, decide_eq_true_eq]
  omega

/-- The three callers of `reuseBuffer`, given a buffer. -/
theorem provide_eq {p p' : ShmPool} {k : Answers} {size : QSize} {stride : Int} {source : Bool}
    {format : UInt32} {i : Nat} (hreuse : p.reuseBuffer k size stride format = (p', some i))
    (hi : i < p'.buffers.length) :
    p.provide k size stride source format =
      if source && !p'.copy i then none else some (p', some i) := by
  unfold ShmPool.provide
  rw [hreuse]
  simp only []
  rw [if_neg (by simp; omega)]

/-- Flags do not matter. -/
theorem ArithmeticInv.modify {p : ShmPool} (h : ArithmeticInv p) (i : Nat) (f : Buffer → Buffer)
    (hf : ∀ b, (f b).offset = b.offset ∧ (f b).bytes = b.bytes) :
    ArithmeticInv { p with buffers := p.buffers.modify i f } := by
  refine ⟨h.offset_nonneg, h.sized.imp_right fun hneg => ⟨hneg.1, ?_⟩, h.mapped, ?_⟩
  · show p.buffers.modify i f = []
    rw [hneg.2, List.modify_nil]
  · intro b hb
    let place : Buffer → Int × Int := fun b => (b.offset, b.bytes)
    have hmap : (p.buffers.modify i f).map place = p.buffers.map place :=
      map_modify place f (fun b => Prod.ext (hf b).1 (hf b).2) _ i
    have hmem : place b ∈ p.buffers.map place := hmap ▸ List.mem_map_of_mem hb
    obtain ⟨b', hb', hplace⟩ := List.mem_map.1 hmem
    obtain ⟨hoffset, hbytes⟩ := Prod.mk.inj hplace
    rw [← hoffset, ← hbytes]
    exact h.placed b' hb'

theorem arithmeticInv_createPool {createSize : Int} (h : 0 ≤ createSize) :
    ArithmeticInv (ShmPool.createPool createSize) := by
  refine ⟨Int.le_refl 0, ?_, ⟨createSize, rfl, qint32_le h⟩, fun b hb => absurd hb List.not_mem_nil⟩
  rcases Int.lt_or_le (qint32 createSize) 0 with hneg | hpos
  · exact Or.inr ⟨hneg, rfl⟩
  · exact Or.inl hpos

/-! ## One call -/

abbrev Decides : Session → PoolOp → Prop :=
  Run.Decides (fun s op => s.step op.op) Sound OpOk fun s => ArithmeticInv s.pool

/-- A call that is not refused, once `reuseBuffer` has a buffer. -/
theorem step_call {s : Session} {p' : ShmPool} {c : Call} {k : Answers} {i : Nat}
    (hrefused : c.refused = false)
    (hreuse : s.pool.reuseBuffer k c.size (qint32 c.stride) c.format = (p', some i))
    (hi : i < p'.buffers.length) :
    s.step (.call c k) =
      if c.source && !p'.copy i then none else some ⟨p', s.log ++ [.returned i c]⟩ := by
  show (s.pool.call k c).map _ = _
  rw [ShmPool.call_eq, if_neg (by simp [hrefused]), provide_eq hreuse hi]
  split
  · rfl
  · rfl

theorem decides_reuse {s : Session} (h : ArithmeticInv s.pool) {c : Call} {i : Nat}
    (hrefused : c.refused = false)
    (hi : s.pool.buffers.findIdx? (·.isFree c.size (qint32 c.stride) c.format) = some i)
    (k : Answers) : Decides s (.call c k) := by
  obtain ⟨hlt, hfree, -⟩ := List.findIdx?_eq_some_iff_getElem.1 hi
  have hreuse : s.pool.reuseBuffer k c.size (qint32 c.stride) c.format =
      (s.pool.setReleased i false, some i) := by
    unfold ShmPool.reuseBuffer
    rw [hi]
  have hinv : ArithmeticInv (s.pool.setReleased i false) := h.modify i _ fun _ => ⟨rfl, rfl⟩
  have hlt' : i < (s.pool.setReleased i false).buffers.length := by
    show i < (s.pool.buffers.modify i _).length
    rwa [List.length_modify]
  have hs := step_call hrefused hreuse hlt'
  rw [hinv.copy hlt', Bool.not_true, Bool.and_false, if_neg Bool.false_ne_true] at hs
  exact Run.decides_good hs (Or.inr ⟨i, rfl, Or.inl hlt⟩)
    (Or.inr (Or.inl ⟨_, List.getElem_mem hlt, hfree⟩)) hinv

theorem not_reusable {p : ShmPool} {c : Call}
    (hnone : p.buffers.findIdx? (·.isFree c.size (qint32 c.stride) c.format) = none) :
    ¬ Reusable p c := by
  rintro ⟨b, hb, hfree⟩
  rw [List.findIdx?_eq_none_iff.1 hnone b hb] at hfree
  cases hfree

/-- Nothing is refused. -/
theorem not_stepFails_iff {p : ShmPool} {k : Answers} {c : Call} (hrefused : c.refused = false)
    (hnone : p.buffers.findIdx? (·.isFree c.size (qint32 c.stride) c.format) = none) :
    ¬ StepFails p k c ↔
      (c.grows p → k.ftruncate = true ∧ k.mmap = true) ∧ k.createBuffer = true := by
  unfold StepFails
  rw [hrefused, hnone]
  cases k.ftruncate <;> cases k.mmap <;> cases k.createBuffer <;> simp

/-- What a call must meet that needs a new buffer. -/
theorem opOk_new_iff {s : Session} {c : Call} (h : ArithmeticInv s.pool)
    (hrefused : c.refused = false)
    (hnone : s.pool.buffers.findIdx? (·.isFree c.size (qint32 c.stride) c.format) = none)
    (k : Answers) :
    OpOk s (.call c k) ↔
      (Exact s.pool c ∧ s.pool.offset + c.exactBytes ≤ c.grownSize s.pool) ∧
        ¬ StepFails s.pool k c := by
  have hok : OpOk s (.call c k) ↔
      0 ≤ s.pool.size ∧ 0 ≤ c.exactBytes ∧ FitsInt32 (s.pool.offset + c.exactBytes) ∧
      (s.pool.size < s.pool.offset + c.exactBytes →
        FitsInt32 (c.exactBytes + s.pool.size) ∧ k.ftruncate = true ∧ k.mmap = true) ∧
      k.createBuffer = true := by
    refine (or_iff_right ?_).trans (or_iff_right (not_reusable hnone))
    rw [hrefused]
    exact Bool.false_ne_true
  rw [hok, not_stepFails_iff hrefused hnone]
  constructor
  · rintro ⟨hsize, hpos, hend, hgrown, hcreate⟩
    have hexact := (exact_iff h c).2 ⟨hsize, hpos, hend, fun hlt => (hgrown hlt).1⟩
    refine ⟨hexact, fun hgrows => (hgrown ?_).2, hcreate⟩
    exact (hexact.1.grows_iff).1 hgrows
  · rintro ⟨hexact, hanswers, hcreate⟩
    obtain ⟨hsize, hpos, hend, hgrown⟩ := (exact_iff h c).1 hexact
    refine ⟨hsize, hpos, hend, fun hlt => ⟨hgrown hlt, hanswers ?_⟩, hcreate⟩
    exact (hexact.1.grows_iff).2 hlt

theorem decides_new {s : Session} (h : ArithmeticInv s.pool) {c : Call}
    (hrefused : c.refused = false)
    (hnone : s.pool.buffers.findIdx? (·.isFree c.size (qint32 c.stride) c.format) = none)
    (k : Answers) : Decides s (.call c k) := by
  have hok := opOk_new_iff h hrefused hnone k
  by_cases hfails : StepFails s.pool k c
  · -- the null iterator is dereferenced
    refine Or.inl ⟨?_, fun hop => (hok.1 hop).2 hfails⟩
    have hnull := reuseBuffer_of_stepFails hfails
    show (s.pool.call k c).map _ = none
    rw [ShmPool.call_eq, if_neg (by simp [hrefused])]
    unfold ShmPool.provide
    generalize s.pool.reuseBuffer k c.size (qint32 c.stride) c.format = r at hnull
    obtain ⟨p', it⟩ := r
    obtain rfl : it = none := hnull
    rfl
  · obtain ⟨hanswers, hcreate⟩ := (not_stepFails_iff hrefused hnone).1 hfails
    obtain ⟨p', hreuse, happended⟩ := reuseBuffer_appended hnone hanswers hcreate
    have hlt : s.pool.buffers.length < p'.buffers.length := by
      rw [happended.buffers, List.length_append]
      exact Nat.lt_succ_self _
    have hs := step_call hrefused hreuse hlt
    by_cases hexact : Exact s.pool c ∧ s.pool.offset + c.exactBytes ≤ c.grownSize s.pool
    · have hinv := happended.inv h hexact.1 hexact.2
      rw [hinv.copy hlt, Bool.not_true, Bool.and_false, if_neg Bool.false_ne_true] at hs
      exact Run.decides_good hs
        (Or.inr ⟨_, rfl, Or.inr ⟨hexact.1, (happended.inside_iff h).2 hexact.2⟩⟩)
        (hok.2 ⟨hexact, hfails⟩) hinv
    · have hnot : ¬ OpOk s (.call c k) := fun hop => hexact (hok.1 hop).1
      by_cases hcopy : (c.source && !p'.copy s.pool.buffers.length) = true
      · rw [if_pos hcopy] at hs
        exact Or.inl ⟨hs, hnot⟩
      · rw [if_neg hcopy] at hs
        refine Run.decides_bad hs (fun hsound => hexact ?_) hnot
        rcases hsound with hsame | ⟨i, hlog, hright⟩
        · -- something was handed out
          have hlog := congrArg (fun s => s.log.length) hsame
          simp at hlog
        · obtain rfl : s.pool.buffers.length = i := by simpa using hlog
          obtain ⟨hexact, hinside⟩ := hright.resolve_left (Nat.lt_irrefl _)
          exact ⟨hexact, (happended.inside_iff h).1 hinside⟩

theorem decides_call {s : Session} (h : ArithmeticInv s.pool) (c : Call) (k : Answers) :
    Decides s (.call c k) := by
  cases hrefused : c.refused with
  | true =>
    have hs : s.step (.call c k) = some s := by
      show (s.pool.call k c).map _ = _
      rw [ShmPool.call_eq, if_pos hrefused]
      rfl
    exact Run.decides_good hs (Or.inl rfl) (Or.inl hrefused) h
  | false =>
    cases hfind : s.pool.buffers.findIdx? (·.isFree c.size (qint32 c.stride) c.format) with
    | some i => exact decides_reuse h hrefused hfind k
    | none => exact decides_new h hrefused hfind k

theorem decides (s : Session) (op : PoolOp) (h : ArithmeticInv s.pool) : Decides s op := by
  cases op with
  | call c k => exact decides_call h c k
  | setReleased i released =>
    by_cases hi : i < s.pool.buffers.length
    · exact Run.decides_good (if_pos hi) trivial trivial (h.modify i _ fun _ => ⟨rfl, rfl⟩)
    · exact Run.decides_good (if_neg hi) trivial trivial h
  | setUsed i used =>
    by_cases hi : i < s.pool.buffers.length
    · exact Run.decides_good (if_pos hi) trivial trivial (h.modify i _ fun _ => ⟨rfl, rfl⟩)
    · exact Run.decides_good (if_neg hi) trivial trivial h

/-! ## Results -/

/-- **The arithmetic of the pool**, whatever size it was created with: a run is sound if
and only if each call is refused at once, or finds a buffer to reuse, or asks for a
number of bytes that is not negative and that fits behind the offset and, when the pool
has to grow, on top of its size, which was not negative from the start; and then nothing
is refused. -/
theorem sound_iff (createSize : Nat) (ops : List PoolOp) :
    Run.Along (fun s op => Session.step s op.op) Sound (Session.init createSize) ops ↔
      Run.Meets (fun s op => Session.step s op.op) OpOk (Session.init createSize) ops :=
  Run.along_iff_of_decides decides ops _ (arithmeticInv_createPool (Int.natCast_nonneg createSize))

/-- A buffer of 32768×32768 pixels with 4 bytes each: it gets 0 bytes of a pool of 1024. -/
theorem no_bytes_for_image :
    ¬ Run.Along (fun s op => Session.step s op.op) Sound (Session.init (1024 : Nat))
      [.call (.createBuffer ⟨32768, 32768⟩ 131072 false 0) ⟨true, true, true⟩] := by
  rintro ⟨s₁, hs₁, hsound, -⟩
  obtain rfl := Option.some.inj hs₁
  rcases hsound with hsame | ⟨i, hlog, hlt | ⟨hexact, -⟩⟩
  · have hlog := congrArg (fun s => s.log.length) hsame
    cases hlog
  · cases hlt
  · exact absurd hexact.bytes.1 (by decide)

end GreenIsland.Client

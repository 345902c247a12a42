import GreenIsland.Compositor.BufferLifetime

/-! `commit`, and the end of a surface, keep the invariant.

A commit takes a reference to the pending buffer, drops the surface's old one, hands the
new one to every view and marks the buffer as committed (`Inv.surfaceCommit`).  A surface
whose client destroys it loses its views and is deleted; its buffers are deleted with it
or with their last reference (`Inv.surfaceDestroyResource`). -/

namespace GreenIsland.Compositor

open RefCounted Tally

variable {w w' w'' : World} {s t : SurfaceId} {v : ViewId} {S S' T : Surface} {V V' : View}
  {a : Addr} {refs : List Addr} {P : Addr → Prop} {h h' : Heap} {b : SurfaceBuffer}

namespace World

/-! ## `commit` -/

theorem setBufferRef_spec {old new : Option Addr} (hok : h.Ok (old.toList ++ refs) P)
    (hnew : ∀ a ∈ new, P a) (hold : ∀ a ∈ old, ¬ P a) :
    ∃ h', setBufferRef h old new = some h' ∧ h'.Ok (new.toList ++ refs) P ∧ h.Later h' := by
  obtain ⟨h₁, hcopy, hok₁, hlater₁⟩ := hok.copyRef fun a ha => .inr (hnew a ha)
  have hperm : (new.toList ++ (old.toList ++ refs)).Perm (old.toList ++ (new.toList ++ refs)) :=
    List.perm_append_comm_assoc ..
  have hmem : ∀ a ∈ new, a ∈ new.toList ++ refs := fun a ha =>
    List.mem_append_left _ (Option.mem_toList.2 ha)
  obtain ⟨h₂, hassign, hok₂, hlater₂⟩ := (hok₁.perm hperm).assignRef
    (fun a ha hP => absurd hP (hold a ha)) hmem
  obtain ⟨h₃, hdrop, hok₃, hlater₃⟩ := hok₂.dropRef fun a ha _ => hmem a ha
  refine ⟨h₃, ?_, hok₃, (hlater₁.trans hlater₂).trans hlater₃⟩
  rw [setBufferRef, hcopy]
  change Option.bind (h₁.assignRef old new) _ = _
  rw [hassign]
  exact hdrop

/-- The surface with a new buffer. -/
def withBackBuffer (sizeOf : WlBuffer → QSize) (h : Heap) (S : Surface) (b : Option Addr)
    (d : QRegion) : Surface :=
  { setSize S (bufferSize sizeOf h b) with
    buffer := b
    bufferRef := b
    damage := d.intersected (.ofRect ⟨⟨0, 0⟩, bufferSize sizeOf h b⟩)
    mapped := (b.bind h.cells).any SurfaceBuffer.hasContent }

/-- What `attach` to each of the surface's views needs and keeps. -/
theorem attachAll_spec {b : Option Addr} {d : QRegion} (hrefs : w.Refs [] P)
    (hb : ∀ a ∈ b, w.SurfaceHolds a) (views : List ViewId) (hviews : ∀ x ∈ views, w.link x = some s) :
    ∃ w', views.foldlM (fun w v => w.attachView v b d) w = some w' ∧ w'.Refs [] P ∧ Calm w w' ∧
      w'.surfaces = w.surfaces ∧ w'.link = w.link ∧ KeepsLocked w w' := by
  obtain ⟨w', hfold, -, hrefs', hcalm, hsurfaces, hlink, hlocked⟩ := Run.fold_inv
    (f := fun w v => w.attachView v b d)
    (I := fun xs w' => (∀ x ∈ xs, w.link x = some s) ∧ w'.Refs [] P ∧ Calm w w' ∧
      w'.surfaces = w.surfaces ∧ w'.link = w.link ∧ KeepsLocked w w')
    (fun x xs w₁ h => by
      obtain ⟨hlink, hrefs₁, hcalm₁, hsurfaces₁, hlink₁, hlocked₁⟩ := h
      obtain ⟨X, hX⟩ := view_of_link (w := w₁) (hlink₁ ▸ hlink x List.mem_cons_self)
      obtain ⟨w₂, hspec, hrefs₂, hcalm₂, hsurfaces₂, hviews₂⟩ := attachView_spec hrefs₁ hX d
        fun a ha => hcalm₁.surfaceHolds (hb a ha)
      refine ⟨w₂, hspec, fun y hy => hlink y (List.mem_cons_of_mem x hy), hrefs₂,
        hcalm₁.trans hcalm₂, hsurfaces₂.trans hsurfaces₁, ?_, hlocked₁.trans ?_⟩
      · rw [← hlink₁, link_update hviews₂, Option.bind_some]
        refine Function.update_eq_iff.2 ⟨?_, fun _ _ => rfl⟩
        rw [link, hX, Option.bind_some]
      · exact keepsLocked_update hX hviews₂ fun hlocked hdiscard => ⟨rfl, hlocked, hdiscard⟩)
    views w ⟨hviews, hrefs, .refl w, rfl, rfl, keepsLocked_of_eq rfl⟩
  exact ⟨w', hfold, hrefs', hcalm, hsurfaces, hlink, hlocked⟩

theorem bufferSize_congr {sizeOf : WlBuffer → QSize} {b : Option Addr}
    (hsame : ∀ a ∈ b, ∃ c c', h.cells a = some c ∧ h'.cells a = some c' ∧ c'.buffer = c.buffer ∧
      c'.destroyed = c.destroyed) : bufferSize sizeOf h' b = bufferSize sizeOf h b := by
  cases b with
  | none => rfl
  | some a =>
    obtain ⟨c, c', hc, hc', hbuffer, hdestroyed⟩ := hsame a rfl
    simp only [bufferSize, Option.bind_some, hc, hc', hbuffer, hdestroyed]

/-- The pending buffer becomes the surface's. -/
theorem Inv.setBackBuffer (sizeOf : WlBuffer → QSize) (hinv : w.Inv) (hS : w.surfaces s = some S)
    {d : QRegion} :
    ∃ w', w.setBackBuffer sizeOf s S.pending.buffer d = some w' ∧
      w'.surfaces = (w.putSurface s (withBackBuffer sizeOf w.heap S S.pending.buffer d)).surfaces ∧
      w'.Refs [] w.PendingBuffer ∧ w.heap.Later w'.heap ∧ w'.link = w.link ∧ w'.logs = w.logs ∧
      (∀ a ∈ w'.refs, a ∈ w.refs ∨ S.pending.buffer = some a) ∧
      (∀ a ∈ S.pending.buffer, a ∈ w'.refs) ∧ KeepsLocked w w' := by
  have hpend : ∀ a ∈ S.pending.buffer, w.PendingBuffer a := fun a ha => ⟨s, S, hS, ha⟩
  obtain ⟨rest, hperm, hupdate⟩ := refs_surface hS (hinv.refs.surface_lt s S hS)
  have hrest : ∀ a ∈ rest, a ∈ w.refs := fun a ha => hperm.mem_iff.2 (List.mem_append_right _ ha)
  obtain ⟨heap₁, hset, hok₁, hlater₁⟩ := setBufferRef_spec (hinv.refs.heap.perm hperm) hpend
    fun a ha hP => hinv.pending_unused a hP
      (hperm.mem_iff.2 (List.mem_append_left _ (Option.mem_toList.2 ha)))
  let S₁ := { setSize S (bufferSize sizeOf heap₁ S.pending.buffer) with
    buffer := S.pending.buffer
    bufferRef := S.pending.buffer
    damage := d.intersected (.ofRect ⟨⟨0, 0⟩, bufferSize sizeOf heap₁ S.pending.buffer⟩) }
  let w₁ : World := { w.putSurface s S₁ with heap := heap₁ }
  have hviews₁ : S₁.views = S.views := by
    simp only [S₁, setSize]
    split <;> rfl
  have hrefs_eq : w₁.refs.Perm (S.pending.buffer.toList ++ rest) := hupdate (some S₁)
  have hholds : ∀ a ∈ S.pending.buffer, w₁.SurfaceHolds a := fun a ha =>
    ⟨s, S₁, putSurface_self, hinv.refs.surface_lt s S hS, ha⟩
  have hrefs₁ : w₁.Refs [] w.PendingBuffer := by
    refine ⟨hok₁.perm hrefs_eq.symm, hinv.refs.view_lt, fun t T hT => ?_, fun a hP ha => .inr ?_⟩
    · rcases putSurface_eq_some hT with ⟨rfl, -⟩ | ⟨-, hT⟩
      · exact hinv.refs.surface_lt t S hS
      · exact hinv.refs.surface_lt t T hT
    · rcases List.mem_append.1 (hrefs_eq.mem_iff.1 ha) with hnew | hold
      · exact hholds a (Option.mem_toList.1 hnew)
      · exact absurd (hrest a hold) (hinv.pending_unused a hP)
  obtain ⟨w₂, hfold, hrefs₂, hquiet₂, hsurfaces₂, hlink₂, hlocked₂⟩ := attachAll_spec
    (d := d.intersected (.ofRect ⟨⟨0, 0⟩, bufferSize sizeOf heap₁ S.pending.buffer⟩)) (s := s) hrefs₁
    hholds S₁.views fun x hx => (hinv.links.mem_iff s S hS x).1 (hviews₁ ▸ hx)
  have hlater₂ := hlater₁.trans hquiet₂.later
  have hmem₂ : ∀ a ∈ S.pending.buffer, a ∈ w₂.refs := fun a ha =>
    mem_refs_of_holds (hquiet₂.surfaceHolds (hholds a ha))
  -- the buffer itself is the same throughout
  have hcell : ∀ a ∈ S.pending.buffer, ∃ c, w.heap.cells a = some c := fun a ha =>
    (hinv.refs.heap.cell_of_pending a (hpend a ha)).imp fun _ hc => hc.1
  have hsize : bufferSize sizeOf heap₁ S.pending.buffer = bufferSize sizeOf w.heap S.pending.buffer := by
    refine bufferSize_congr fun a ha => ?_
    obtain ⟨c, hc⟩ := hcell a ha
    obtain ⟨c', hc', hbuffer, -, hdestroyed⟩ := hlater₁.cell_of_mem hok₁
      (List.mem_append_left _ (Option.mem_toList.2 ha)) hc
    exact ⟨c, c', hc, hc', hbuffer, hdestroyed⟩
  have hcontent : hasContent w₂.heap S.pending.buffer =
      some ((S.pending.buffer.bind w.heap.cells).any SurfaceBuffer.hasContent) := by
    cases hpending : S.pending.buffer with
    | none => rfl
    | some a =>
      obtain ⟨c, hc⟩ := hcell a hpending
      obtain ⟨c', hc', hbuffer, -, -⟩ := hlater₂.cell_of_mem hrefs₂.heap
        (List.mem_append_right _ (hmem₂ a hpending)) hc
      simp [hasContent, hc, hc', SurfaceBuffer.hasContent, hbuffer]
  let S₂ := withBackBuffer sizeOf w.heap S S.pending.buffer d
  have hS₁ : w₂.surfaces s = some S₁ := by
    rw [hsurfaces₂]
    exact putSurface_self
  have hsame : S₂.content = S₁.content := by
    simp only [S₂, S₁, withBackBuffer, hsize]
    rfl
  have hlogs₁ : w₁.logs = w.logs := by
    simp only [logs, w₁, hlater₁.gone_eq]
    rfl
  refine ⟨w₂.putSurface s S₂, ?_, ?_, hrefs₂.putSurface hS₁ hsame, hlater₂, hlink₂,
    hquiet₂.logs_eq.trans hlogs₁, fun a ha => ?_, fun a ha => ?_, hlocked₂⟩
  · rw [World.setBackBuffer, hS]
    change Option.bind (setBufferRef w.heap S.bufferRef S.pending.buffer) _ = _
    rw [hset]
    change Option.bind (S₁.views.foldlM _ w₁) _ = _
    rw [hfold]
    change Option.bind (hasContent w₂.heap S.pending.buffer) _ = _
    rw [hcontent]
    simp only [Option.bind_some, S₂, withBackBuffer, hsize]
  · simp only [putSurface, hsurfaces₂, w₁, Function.update_idem]
    rfl
  · rw [refs_putSurface hS₁ (congrArg (·.2.2.1) hsame)] at ha
    rcases List.mem_append.1 (hrefs_eq.mem_iff.1 (hquiet₂.refs_sub a ha)) with hnew | hold
    · exact .inr (Option.mem_toList.1 hnew)
    · exact .inl (hrest a hold)
  · rw [refs_putSurface hS₁ (congrArg (·.2.2.1) hsame)]
    exact hmem₂ a ha

/-- The surface after the first part of a commit. -/
def backSurface (sizeOf : WlBuffer → QSize) (h : Heap) (S : Surface) : Surface :=
  if S.pending.buffer.isSome || S.pending.newlyAttached
    then withBackBuffer sizeOf h S S.pending.buffer S.pending.damage else S

theorem withBackBuffer_keeps {sizeOf : WlBuffer → QSize} {b : Option Addr} {d : QRegion} :
    (withBackBuffer sizeOf h S b d).pending = S.pending ∧
      (withBackBuffer sizeOf h S b d).bufferPool = S.bufferPool ∧
      (withBackBuffer sizeOf h S b d).views = S.views ∧
      (withBackBuffer sizeOf h S b d).refCount = S.refCount := by
  simp only [withBackBuffer, setSize]
  split <;> exact ⟨rfl, rfl, rfl, rfl⟩

theorem backSurface_keeps (sizeOf : WlBuffer → QSize) (h : Heap) (S : Surface) :
    (backSurface sizeOf h S).pending = S.pending ∧
      (backSurface sizeOf h S).bufferPool = S.bufferPool ∧
      (backSurface sizeOf h S).views = S.views ∧
      (backSurface sizeOf h S).refCount = S.refCount := by
  unfold backSurface
  split
  · exact withBackBuffer_keeps
  · exact ⟨rfl, rfl, rfl, rfl⟩

theorem backSurface_buffer (sizeOf : WlBuffer → QSize) (h : Heap) (hS : S.bufferRef = S.buffer) :
    (backSurface sizeOf h S).bufferRef = (backSurface sizeOf h S).buffer ∧
      (∀ a ∈ S.pending.buffer, (backSurface sizeOf h S).buffer = some a) ∧
      ∀ a ∈ (backSurface sizeOf h S).buffer, S.pending.buffer = some a ∨
        S.pending.buffer = none ∧ S.buffer = some a := by
  unfold backSurface
  split
  · exact ⟨rfl, fun a ha => ha, fun a ha => .inl ha⟩
  · next hnot =>
    have hnone : S.pending.buffer = none := by
      cases hpending : S.pending.buffer with
      | none => rfl
      | some a => exact absurd (by rw [hpending]; rfl) hnot
    refine ⟨hS, fun a ha => ?_, fun a ha => .inr ⟨hnone, ha⟩⟩
    cases hnone.symm.trans ha

/-- The first part of a commit, whether something was attached or not. -/
theorem Inv.applyBuffer (sizeOf : WlBuffer → QSize) (hinv : w.Inv) (hS : w.surfaces s = some S) :
    ∃ w', (if S.pending.buffer.isSome || S.pending.newlyAttached
        then w.setBackBuffer sizeOf s S.pending.buffer S.pending.damage else some w) = some w' ∧
      w'.surfaces = (w.putSurface s (backSurface sizeOf w.heap S)).surfaces ∧
      w'.Refs [] w.PendingBuffer ∧ w.heap.Later w'.heap ∧ w'.link = w.link ∧ w'.logs = w.logs ∧
      (∀ a ∈ w'.refs, a ∈ w.refs ∨ S.pending.buffer = some a) ∧
      (∀ a ∈ (backSurface sizeOf w.heap S).buffer, a ∈ w'.refs) ∧ KeepsLocked w w' := by
  obtain ⟨w', hset, hsurfaces, hrefs, hlater, hlink, hlogs, hsub, hmem, hlocked⟩ :=
    hinv.setBackBuffer sizeOf hS (d := S.pending.damage)
  by_cases hattached : (S.pending.buffer.isSome || S.pending.newlyAttached) = true
  · have hback : backSurface sizeOf w.heap S =
        withBackBuffer sizeOf w.heap S S.pending.buffer S.pending.damage := if_pos hattached
    rw [if_pos hattached, hback]
    exact ⟨w', hset, hsurfaces, hrefs, hlater, hlink, hlogs, hsub, hmem, hlocked⟩
  · have hback : backSurface sizeOf w.heap S = S := if_neg hattached
    rw [if_neg hattached, hback]
    refine ⟨w, rfl, ?_, hinv.refs, .refl _, rfl, rfl, fun a ha => .inl ha, fun a ha => ?_,
      keepsLocked_of_eq rfl⟩
    · rw [putSurface, ← hS, Function.update_eq_self]
    · exact mem_refs_of_holds
        ⟨s, S, hS, hinv.refs.surface_lt s S hS, (hinv.bufferRef_eq s S hS).trans ha⟩

/-- No commit hands over a `wl_buffer` that its client has destroyed. -/
theorem Inv.alive_of_mem_handedOver (hinv : w.Inv) (hr : r ∈ w.handedOver S) : r ∉ w.heap.gone := by
  obtain ⟨b, hb, hbuffer⟩ := Option.bind_eq_some_iff.1 (Option.mem_toList.1 hr)
  obtain ⟨a, -, hcell⟩ := Option.bind_eq_some_iff.1 hb
  exact hinv.refs.heap.alive a b r hcell hbuffer

/-- **A commit** hands the pending `wl_buffer` over. -/
theorem Inv.surfaceCommit (sizeOf : WlBuffer → QSize) (hinv : w.Inv) (hS : w.surfaces s = some S) :
    ∃ w', w.surfaceCommit sizeOf s = some w' ∧ w'.Inv ∧ Flow w w' ∧ KeepsLocked w w' ∧
      w'.surfaces = (w.putSurface s (applyPending (backSurface sizeOf w.heap S))).surfaces ∧
      w'.logs = w.logs := by
  obtain ⟨w₁, hback, hsurfaces₁, hrefs₁, hlater₁, hlink₁, hlogs₁, hsub₁, hmem₁, hlocked₁⟩ :=
    hinv.applyBuffer sizeOf hS
  obtain ⟨hpending, hpool, hviews, hcount⟩ := backSurface_keeps sizeOf w.heap S
  obtain ⟨href, hattached, hwhich⟩ := backSurface_buffer sizeOf w.heap
    (hinv.bufferRef_eq s S hS)
  generalize backSurface sizeOf w.heap S = S₁ at *
  have hS₁ : w₁.surfaces s = some S₁ := by
    rw [hsurfaces₁]
    exact putSurface_self
  have hheap : ∃ heap, setBufferCommitted w₁.heap S₁.buffer = some heap ∧
      heap.Ok w₁.refs (fun x => w.PendingBuffer x ∧ S.pending.buffer ≠ some x) ∧
      heap.gone = w₁.heap.gone ∧ (∀ x, heap.Pooled x ↔ w₁.heap.Pooled x) ∧
      (∀ x, heap.bufferAt x = w₁.heap.bufferAt x) ∧
      ∀ r, heap.account r = w₁.heap.account r + (w.handedOver S).count r := by
    cases hbuffer : S₁.buffer with
    | none =>
      have hnone : S.pending.buffer = none := by
        cases hpend : S.pending.buffer with
        | none => rfl
        | some a => cases hbuffer.symm.trans (hattached a hpend)
      refine ⟨w₁.heap, rfl, ?_, rfl, fun _ => Iff.rfl, fun _ => rfl, fun r => ?_⟩
      · have hsame : (fun x => w.PendingBuffer x ∧ S.pending.buffer ≠ some x) = w.PendingBuffer := by
          funext x
          exact propext (and_iff_left (hnone ▸ (Option.some_ne_none x).symm))
        rw [hsame]
        exact hrefs₁.heap
      · rw [handedOver, hnone]
        rfl
    | some a =>
      obtain ⟨b, hb, hcommit, hok, haccount⟩ := hrefs₁.heap.setCommitted (hmem₁ a hbuffer)
      have hsame : (fun x => w.PendingBuffer x ∧ S.pending.buffer ≠ some x) =
          fun x => w.PendingBuffer x ∧ x ≠ a := by
        funext x
        refine propext (and_congr_right fun hP => ?_)
        rcases hwhich a hbuffer with hpend | ⟨hnone, hcurrent⟩
        · rw [hpend]
          exact not_congr (Option.some_inj.trans eq_comm)
        · refine iff_of_true (hnone ▸ (Option.some_ne_none x).symm) ?_
          rintro rfl
          exact hinv.pending_unused x hP (mem_refs_of_holds ⟨s, S, hS, hinv.refs.surface_lt s S hS,
            (hinv.bufferRef_eq s S hS).trans hcurrent⟩)
      refine ⟨w₁.heap.put a b.setCommitted, hcommit, hsame ▸ hok, rfl, fun x => ?_, fun x => ?_,
        fun r => ?_⟩
      · exact Heap.pooled_put hb rfl
      · exact Heap.bufferAt_put hb rfl
      · rw [haccount]
        congr 1
        rcases hwhich a hbuffer with hpend | ⟨hnone, hcurrent⟩
        · have hP : w.PendingBuffer a := ⟨s, S, hS, hpend⟩
          obtain ⟨c, hc, -⟩ := hinv.refs.heap.cell_of_pending a hP
          obtain ⟨c', hc', hbuf, hcommitted, -⟩ := hlater₁.cell_of_mem hrefs₁.heap
            (List.mem_append_right _ (hmem₁ a hbuffer)) hc
          obtain rfl : b = c' := Option.some.inj (hb.symm.trans hc')
          have hfalse := hinv.refs.heap.not_committed hc (hinv.pending_unused a hP)
          rw [handedOver, hpend, Option.bind_some, hc, Option.bind_some, hcommitted, hfalse, hbuf]
          cases c.buffer <;> simp [List.count_singleton]
        · have ha : a ∈ w.refs := mem_refs_of_holds ⟨s, S, hS, hinv.refs.surface_lt s S hS,
            (hinv.bufferRef_eq s S hS).trans hcurrent⟩
          obtain ⟨c, hc, hpos⟩ := hinv.refs.heap.counted.cell_of_mem (List.mem_append_right _ ha)
          obtain ⟨c', hc', -, hcommitted, -⟩ := hlater₁.cell_of_mem hrefs₁.heap
            (List.mem_append_right _ (hmem₁ a hbuffer)) hc
          obtain rfl : b = c' := Option.some.inj (hb.symm.trans hc')
          have htrue : c.committed = true := ((hinv.refs.heap.cell a c hc).committed_of_used hpos)
            |>.resolve_right fun hP => hinv.pending_unused a hP ha
          rw [handedOver, hnone, hcommitted, htrue]
          simp
  obtain ⟨heap, hcommit, hok, hgone, hpooled, hbufferAt, haccount⟩ := hheap
  let w₂ : World := { w₁.putSurface s (applyPending S₁) with
    heap := heap
    commits := w.commits ++ w.handedOver S }
  have hsurfaces : w₂.surfaces = (w.putSurface s (applyPending S₁)).surfaces := by
    simp only [w₂, putSurface, hsurfaces₁, Function.update_idem]
  have hrefs : w₂.refs = w₁.refs := refs_putSurface hS₁ rfl
  have hpend : w₂.PendingBuffer = fun x => w.PendingBuffer x ∧ S.pending.buffer ≠ some x := by
    have hw₂ : w₂.PendingBuffer = (w.putSurface s (applyPending S₁)).PendingBuffer := by
      unfold PendingBuffer
      rw [hsurfaces]
    rw [hw₂]
    funext x
    refine propext ((pendingBuffer_putSurface hinv.pools hS).trans (or_iff_left ?_))
    exact fun hnone => by cases hnone
  have hunused : ∀ x, w₂.PendingBuffer x → x ∉ w₁.refs := by
    intro x hP hx
    rw [hpend] at hP
    rcases hsub₁ x hx with hold | hnew
    · exact hinv.pending_unused x hP.1 hold
    · exact hP.2 hnew
  have hpools₁ : Pools heap w.surfaces := hinv.pools.congr fun x =>
    (hpooled x).trans hlater₁.pooled_iff
  refine ⟨w₂, ?_, ⟨⟨?_, hrefs₁.view_lt, fun t T hT => ?_, fun x hP hx => ?_⟩, ?_, fun t T hT => ?_, ?_,
    fun x hP => ?_, fun r => ?_, fun r hr => ?_⟩, ⟨fun r hr => ⟨?_, ?_⟩, fun x r hx => ?_,
    fun x hx hx' => ?_, fun x hP => ?_, fun x hP => ?_⟩, hlocked₁, hsurfaces, ?_⟩
  · rw [World.surfaceCommit, hS]
    change Option.bind (if S.pending.buffer.isSome || S.pending.newlyAttached
      then w.setBackBuffer sizeOf s S.pending.buffer S.pending.damage else some w) _ = _
    rw [hback]
    change Option.bind (w₁.surfaces s) _ = _
    rw [hS₁]
    change Option.bind (setBufferCommitted w₁.heap S₁.buffer) _ = _
    rw [hcommit]
    rfl
  · rw [hrefs, hpend]
    exact hok
  · rcases putSurface_eq_some hT with ⟨rfl, -⟩ | ⟨-, hT⟩
    · exact hrefs₁.surface_lt t S₁ hS₁
    · exact hrefs₁.surface_lt t T hT
  · exact absurd (hrefs ▸ hx) (hunused x hP)
  · rw [hsurfaces]
    change Links (Function.update w.surfaces s (some (applyPending S₁))) w₁.link
    rw [hlink₁]
    exact hinv.links.putSurface hS (.of_eq hviews) hcount
  · rw [hsurfaces] at hT
    rcases putSurface_eq_some hT with ⟨-, rfl⟩ | ⟨-, hT⟩
    · exact href
    · exact hinv.bufferRef_eq t T hT
  · rw [hsurfaces]
    refine hpools₁.extend [] hS ?_ List.nodup_nil (fun _ h => absurd h List.not_mem_nil) (fun x => ?_)
      fun _ h => absurd h.symm (Option.some_ne_none _)
    · rw [List.append_nil]
      exact hpool
    · exact (or_iff_left List.not_mem_nil).symm
  · rw [hrefs]
    exact hunused x hP
  · change heap.account r ≤ (w.commits ++ w.handedOver S).count r
    rw [haccount, hlater₁.account_eq, List.count_append]
    exact Nat.add_le_add_right (hinv.account_le r) _
  · change heap.account r = (w.commits ++ w.handedOver S).count r
    rw [haccount, hlater₁.account_eq, List.count_append]
    congr 1
    refine hinv.account_eq r ?_
    rw [← hlater₁.gone_eq, ← hgone]
    exact hr
  · change r ∈ heap.gone
    rwa [hgone, hlater₁.gone_eq]
  · change heap.account r = _
    rw [haccount, hlater₁.account_eq, List.count_eq_zero_of_not_mem fun hmem => ?_, Nat.add_zero]
    exact hinv.alive_of_mem_handedOver hmem hr
  · exact hlater₁.bufferAt_of ((hbufferAt x).symm.trans hx)
  · refine (hbufferAt x).trans (hlater₁.bufferAt_eq hrefs₁.heap ?_ (hinv.cell_of_mem hx))
    exact List.mem_append_right _ (hrefs ▸ hx')
  · rw [hpend] at hP
    exact hP.1
  · rw [hpend] at hP
    exact (hbufferAt x).trans (hlater₁.bufferAt_eq_of_pending hrefs₁.heap hP.1)
  · refine Eq.trans ?_ hlogs₁
    simp only [logs, w₂, hgone]
    rfl

/-! ## A surface is destroyed -/

theorem surfaces_remove {T : Surface} (hT : Function.update w.surfaces s none t = some T) :
    t ≠ s ∧ w.surfaces t = some T := by
  have ht : t ≠ s := by
    rintro rfl
    cases (Function.update_self t none w.surfaces).symm.trans hT
  exact ⟨ht, (Function.update_of_ne ht none w.surfaces).symm.trans hT⟩

/-- The views have left. -/
theorem Inv.markAll (sizeOf : WlBuffer → QSize) (hinv : w.Inv) (hS : w.surfaces s = some S) :
    ∃ w', S.views.foldlM (markSurfaceAsDestroyed sizeOf s) w = some w' ∧ w'.Inv ∧ Calm w w' ∧
      (∀ x, w'.link x ≠ some s) ∧ KeepsLocked w w' := by
  obtain ⟨w', hfold, -, -, hleft, hinv', hcalm, hlocked⟩ := Run.fold_inv
    (f := markSurfaceAsDestroyed sizeOf s)
    (I := fun xs w' => xs.Nodup ∧ (∀ x ∈ xs, w'.link x = some s) ∧
      (∀ x, x ∉ xs → w'.link x ≠ some s) ∧ w'.Inv ∧ Calm w w' ∧ KeepsLocked w w')
    (fun x xs w₁ h => by
      obtain ⟨hnodup, hlink, hleft, hinv₁, hcalm₁, hlocked₁⟩ := h
      have hx := hlink x List.mem_cons_self
      obtain ⟨X, hX⟩ := view_of_link hx
      obtain ⟨w₂, X', hspec, hinv₂, hcalm₂, hviews, hsurface, hkept⟩ := hinv₁.setSurface sizeOf hX
        none fun t ht => absurd ht (Option.not_mem_none t)
      have hlink₂ : w₂.link = Function.update w₁.link x none := by
        rw [link_update hviews, Option.bind_some, hsurface]
      refine ⟨w₂, ?_, hnodup.of_cons, fun y hy => ?_, fun y hy => ?_, hinv₂, hcalm₁.trans hcalm₂,
        hlocked₁.trans (keepsLocked_of_kept hkept hX hviews)⟩
      · rw [link, hX, Option.bind_some] at hx
        rw [markSurfaceAsDestroyed, hX]
        exact (if_pos hx).trans hspec
      · have hne : y ≠ x := fun heq => (List.nodup_cons.1 hnodup).1 (heq ▸ hy)
        rw [hlink₂, Function.update_of_ne hne]
        exact hlink y (List.mem_cons_of_mem x hy)
      · by_cases hyx : y = x
        · rw [hlink₂, hyx, Function.update_self]
          exact (Option.some_ne_none s).symm
        · rw [hlink₂, Function.update_of_ne hyx]
          exact hleft y fun hmem => hy ((List.mem_cons.1 hmem).resolve_left hyx))
    S.views w ⟨hinv.links.nodup s S hS, fun x hx => (hinv.links.mem_iff s S hS x).1 hx,
      fun x hx hlink => hx ((hinv.links.mem_iff s S hS x).2 hlink), hinv, .refl w,
      keepsLocked_of_eq rfl⟩
  exact ⟨w', hfold, hinv', hcalm, fun x => hleft x List.not_mem_nil, hlocked⟩

/-- The pool of a surface that goes: its buffers are deleted, or will be. -/
theorem destroyPool_spec (hok : h.Ok refs P) (hunused : ∀ a, P a → a ∉ refs) {pool : List Addr}
    (hnodup : pool.Nodup) (hpooled : ∀ a ∈ pool, h.Pooled a) :
    ∃ h', pool.foldlM (fun h a => h.setDestroyIfUnused a true) h = some h' ∧
      h'.Ok refs (fun x => P x ∧ x ∉ pool) ∧ h'.gone = h.gone ∧
      (∀ x, h'.Pooled x ↔ h.Pooled x ∧ x ∉ pool) ∧ (∀ r, h'.account r = h.account r) ∧
      ∀ x b', h'.cells x = some b' → ∃ b, h.cells x = some b ∧ b'.buffer = b.buffer := by
  obtain ⟨h', hfold, -, -, hok', hgone, hpooled', haccount, hcells⟩ := Run.fold_inv
    (f := fun h a => Heap.setDestroyIfUnused h a true)
    (I := fun xs h' => xs.Nodup ∧ (∀ x ∈ xs, x ∈ pool) ∧
      h'.Ok refs (fun x => P x ∧ (x ∈ pool → x ∈ xs)) ∧ h'.gone = h.gone ∧
      (∀ x, h'.Pooled x ↔ h.Pooled x ∧ (x ∈ pool → x ∈ xs)) ∧ (∀ r, h'.account r = h.account r) ∧
      ∀ x b', h'.cells x = some b' → ∃ b, h.cells x = some b ∧ b'.buffer = b.buffer)
    (fun a xs h₁ hI => by
      obtain ⟨hnodup, hsub, hok₁, hgone₁, hpooled₁, haccount₁, hcells₁⟩ := hI
      have hmem := hsub a List.mem_cons_self
      have hnot := (List.nodup_cons.1 hnodup).1
      have hcons : ∀ x, (x ∈ pool → x ∈ a :: xs) ∧ x ≠ a ↔ (x ∈ pool → x ∈ xs) := by
        intro x
        constructor
        · exact fun h hx => (List.mem_cons.1 (h.1 hx)).resolve_left h.2
        · refine fun h => ⟨fun hx => List.mem_cons_of_mem a (h hx), ?_⟩
          rintro rfl
          exact hnot (h hmem)
      obtain ⟨b, hb, -⟩ := (hpooled₁ a).2 ⟨hpooled a hmem, fun _ => List.mem_cons_self⟩
      obtain ⟨o, hset, hok₂, haccount₂, ho⟩ := hok₁.setDestroyIfUnused hb fun hP => hunused a hP.1
      refine ⟨_, hset, hnodup.of_cons, fun x hx => hsub x (List.mem_cons_of_mem a hx), ?_, hgone₁,
        fun x => ?_, fun r => (haccount₂ r).trans (haccount₁ r), fun x b' hb' => ?_⟩
      · have hsame : (fun x => P x ∧ (x ∈ pool → x ∈ xs)) =
            fun x => (P x ∧ (x ∈ pool → x ∈ a :: xs)) ∧ x ≠ a := by
          funext x
          rw [and_assoc, hcons]
        rw [hsame]
        exact hok₂
      · rw [← hcons, ← and_assoc, ← hpooled₁]
        by_cases hx : x = a
        · refine iff_of_false ?_ fun h => h.2 hx
          rintro ⟨b', hb', hkeep⟩
          rw [hx] at hb'
          have hflag := ho b' ((Function.update_self a o h₁.cells).symm.trans hb')
          exact Bool.false_ne_true (hkeep.symm.trans hflag.1)
        · rw [Heap.pooled_update_of_ne hx]
          exact (and_iff_left hx).symm
      · by_cases hx : x = a
        · rw [hx] at hb' ⊢
          have hbuffer := (ho b' ((Function.update_self a o h₁.cells).symm.trans hb')).2
          obtain ⟨c, hc, hold⟩ := hcells₁ a b hb
          exact ⟨c, hc, hbuffer.trans hold⟩
        · exact hcells₁ x b' ((Function.update_of_ne hx o h₁.cells).symm.trans hb'))
    pool h ⟨hnodup, fun _ => id, by
      have hsame : (fun x => P x ∧ (x ∈ pool → x ∈ pool)) = P := by
        funext x
        exact propext (and_iff_left id)
      rwa [hsame], rfl, fun x => (and_iff_left id).symm, fun _ => rfl, fun _ b' hb' => ⟨b', hb', rfl⟩⟩
  have hnil : ∀ x, (x ∈ pool → x ∈ ([] : List Addr)) ↔ x ∉ pool := fun x =>
    imp_congr_right fun _ => iff_false_intro List.not_mem_nil
  simp only [hnil] at hok' hpooled'
  exact ⟨h', hfold, hok', hgone, hpooled', haccount, hcells⟩

/-- A surface that no view shows is deleted with what it holds. -/
theorem Inv.deleteSurface (hinv : w.Inv) (hS : w.surfaces s = some S) (hlink : ∀ x, w.link x ≠ some s)
    (S' : Surface) (hcontent : S'.content = S.content) (hviews : S'.views = []) :
    ∃ w', (w.putSurface s S').deleteSurface s = some w' ∧ w'.Inv ∧ Flow w w' ∧
      (∀ a ∈ w'.refs, a ∈ w.refs) ∧ w'.views = w.views ∧
      w'.surfaces = Function.update w.surfaces s none ∧ w'.logs = w.logs := by
  have hpool : S'.bufferPool = S.bufferPool := congrArg Prod.fst hcontent
  have href : S'.bufferRef = S.bufferRef := congrArg (·.2.2.1) hcontent
  obtain ⟨rest, hperm, hupdate⟩ := refs_surface hS (hinv.refs.surface_lt s S hS)
  have hrest : ∀ a ∈ rest, a ∈ w.refs := fun a ha => hperm.mem_iff.2 (List.mem_append_right _ ha)
  obtain ⟨heap₁, hassign, hok₁, hlater₁⟩ := (hinv.refs.heap.perm hperm).assignRef
    (fun a ha hP => absurd (hperm.mem_iff.2 (List.mem_append_left _ (Option.mem_toList.2 ha)))
      (hinv.pending_unused a hP)) (fun a ha => absurd ha (Option.not_mem_none a))
  obtain ⟨heap₂, hfold, hok₂, hgone, hpooled, haccount, hcells⟩ := destroyPool_spec hok₁
    (fun a hP ha => hinv.pending_unused a hP (hrest a ha)) (hinv.pools.nodup s S hS)
    fun a ha => hlater₁.pooled_iff.2 ((hinv.pools.pooled_iff a).2 ⟨s, S, hS, ha⟩)
  let w₂ : World := { w with heap := heap₂, surfaces := Function.update w.surfaces s none }
  have hrefs : w₂.refs.Perm rest := hupdate none
  have hpending : w₂.PendingBuffer = fun x => w.PendingBuffer x ∧ x ∉ S.bufferPool := by
    funext x
    refine propext ⟨?_, ?_⟩
    · rintro ⟨t, T, hT, hx⟩
      obtain ⟨ht, hT⟩ := surfaces_remove hT
      exact ⟨⟨t, T, hT, hx⟩, fun hmem => ht (hinv.pools.disjoint t s T S x hT hS
        (hinv.pools.pending_mem t T x hT hx) hmem)⟩
    · rintro ⟨⟨t, T, hT, hx⟩, hnot⟩
      have ht : t ≠ s := by
        rintro rfl
        obtain rfl : S = T := Option.some.inj (hS.symm.trans hT)
        exact hnot (hinv.pools.pending_mem t S x hS hx)
      exact ⟨t, T, (Function.update_of_ne ht none w.surfaces).trans hT, hx⟩
  refine ⟨w₂, ?_, ⟨⟨?_, hinv.refs.view_lt, fun t T hT => ?_, fun x hP hx => ?_⟩,
    ⟨fun t T hT => ?_, fun t T hT => ?_, fun t T hT x => ?_, fun x t hx => ?_⟩, fun t T hT => ?_, ?_,
    fun x hP hx => ?_, fun r => ?_, fun r hr => ?_⟩, ⟨fun r hr => ⟨?_, ?_⟩, fun x r hx => ?_,
    fun x hx hx' => ?_, fun x hP => ?_, fun x hP => ?_⟩,
    fun x hx => hrest x (hrefs.mem_iff.1 hx), rfl, rfl, ?_⟩
  · rw [World.deleteSurface, putSurface_self]
    change Option.bind (S'.views.foldlM _ (w.putSurface s S')) _ = _
    rw [hviews]
    change Option.bind (w.heap.assignRef S'.bufferRef none) _ = _
    rw [href, hassign]
    change Option.bind (S'.bufferPool.foldlM _ heap₁) _ = _
    rw [hpool, hfold]
    simp only [Option.bind_some, putSurface, Function.update_idem, w₂]
  · rw [hpending]
    exact hok₂.perm hrefs.symm
  · exact hinv.refs.surface_lt t T (surfaces_remove hT).2
  · rw [hpending] at hP
    exact absurd (hrest x (hrefs.mem_iff.1 hx)) (hinv.pending_unused x hP.1)
  · exact hinv.links.refCount t T (surfaces_remove hT).2
  · exact hinv.links.nodup t T (surfaces_remove hT).2
  · exact hinv.links.mem_iff t T (surfaces_remove hT).2 x
  · obtain ⟨T, hT⟩ := hinv.links.surface x t hx
    have ht : t ≠ s := by
      rintro rfl
      exact hlink x hx
    exact ⟨T, (Function.update_of_ne ht none w.surfaces).trans hT⟩
  · exact hinv.bufferRef_eq t T (surfaces_remove hT).2
  · have hpools : Pools heap₁ w.surfaces := hinv.pools.congr fun a => hlater₁.pooled_iff
    exact hpools.remove hS hpooled
  · rw [hpending] at hP
    exact hinv.pending_unused x hP.1 (hrest x (hrefs.mem_iff.1 hx))
  · change heap₂.account r ≤ _
    rw [haccount, hlater₁.account_eq]
    exact hinv.account_le r
  · change heap₂.account r = _
    rw [haccount, hlater₁.account_eq]
    refine hinv.account_eq r ?_
    rw [← hlater₁.gone_eq, ← hgone]
    exact hr
  · change r ∈ heap₂.gone
    rwa [hgone, hlater₁.gone_eq]
  · exact (haccount r).trans (hlater₁.account_eq r)
  · obtain ⟨b', hb', hbuffer'⟩ := Option.bind_eq_some_iff.1 hx
    obtain ⟨b, hb, hbuffer⟩ := hcells x b' hb'
    refine hlater₁.bufferAt_of (Option.bind_eq_some_iff.2 ⟨b, hb, hbuffer.symm.trans hbuffer'⟩)
  · have hmem := hrefs.mem_iff.1 hx'
    obtain ⟨b', hb', -⟩ := hok₂.counted.cell_of_mem hmem
    obtain ⟨b, hb, hbuffer⟩ := hcells x b' hb'
    refine Eq.trans ?_ (hlater₁.bufferAt_eq hok₁ hmem (hinv.cell_of_mem hx))
    simp only [Heap.bufferAt, hb, w₂, hb', Option.bind_some, hbuffer]
  · rw [hpending] at hP
    exact hP.1
  · rw [hpending] at hP
    obtain ⟨b', hb', -⟩ := hok₂.cell_of_pending x hP
    obtain ⟨b, hb, hbuffer⟩ := hcells x b' hb'
    refine Eq.trans ?_ (hlater₁.bufferAt_eq_of_pending hok₁ hP.1)
    simp only [Heap.bufferAt, hb, w₂, hb', Option.bind_some, hbuffer]
  · simp only [logs, w₂, hgone, hlater₁.gone_eq]

/-- **The client destroys its surface**: its views leave it, and nothing but their
references and those of renderers keeps its buffers. -/
theorem Inv.surfaceDestroyResource (sizeOf : WlBuffer → QSize) (hinv : w.Inv)
    (hS : w.surfaces s = some S) :
    ∃ w', w.surfaceDestroyResource sizeOf s = some w' ∧ w'.Inv ∧ Flow w w' ∧ KeepsLocked w w' ∧
      (∀ t, (w'.surfaces t).map Surface.core =
        Function.update (fun t => (w.surfaces t).map Surface.core) s none t) ∧ w'.logs = w.logs := by
  obtain ⟨w₁, hfold, hinv₁, hcalm₁, hleft, hlocked⟩ := hinv.markAll sizeOf hS
  obtain ⟨S₁, hS₁, -⟩ := hcalm₁.surface hS
  have hviews : S₁.views = [] := List.eq_nil_iff_forall_not_mem.2 fun x hx =>
    hleft x ((hinv₁.links.mem_iff s S₁ hS₁ x).1 hx)
  have hcount : S₁.refCount - 1 = 0 := by
    rw [hinv₁.links.refCount s S₁ hS₁, hviews]
    rfl
  obtain ⟨w₂, hdelete, hinv₂, hflow₂, hsub₂, hviews₂, hsurfaces₂, hlogs₂⟩ :=
    hinv₁.deleteSurface hS₁ hleft
    { S₁ with mapped := false, destroyed := true, refCount := S₁.refCount - 1 } rfl hviews
  refine ⟨w₂, ?_, hinv₂, (hcalm₁.flow hinv hinv₁).trans hflow₂ hsub₂,
    hlocked.trans (keepsLocked_of_eq hviews₂), fun t => ?_, hlogs₂.trans hcalm₁.logs_eq⟩
  · rw [World.surfaceDestroyResource, hS]
    change Option.bind (S.views.foldlM (markSurfaceAsDestroyed sizeOf s) w) _ = _
    rw [hfold]
    change Option.bind (w₁.surfaces s) _ = _
    rw [hS₁]
    change (w₁.putSurface s { S₁ with mapped := false, destroyed := true }).deref s = _
    rw [deref, putSurface_self]
    change (if S₁.refCount - 1 = 0 then World.deleteSurface _ s else _) = _
    rw [if_pos hcount, ← hdelete]
    simp only [putSurface, Function.update_idem]
  · by_cases ht : t = s
    · rw [hsurfaces₂, ht, Function.update_self, Function.update_self, Option.map_none]
    · rw [hsurfaces₂, Function.update_of_ne ht, Function.update_of_ne ht, hcalm₁.core_eq]

end World

end GreenIsland.Compositor

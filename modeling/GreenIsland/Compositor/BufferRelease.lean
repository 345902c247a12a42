import GreenIsland.Compositor.SurfaceCommit

/-! What holds in every run of requests and calls.

* `always_accounted`: no call uses a deleted object, references are counted right, no
  buffer is leaked.
* `always_released`: every commit of a `wl_buffer` is answered by one release, when the last
  reference to it goes.
* `always_owned`: if clients wait for the release before they attach a `wl_buffer` again,
  each is its client's or the compositor's, never both.
* `locked_view_shows`: what a locked view shows stays, even when its surface goes. -/

namespace GreenIsland.Compositor

open RefCounted Tally

variable {w w' : World} {s : SurfaceId} {v : ViewId} {S : Surface} {V : View} {a : Addr} {r : WlBuffer}
  {c : Call} {sizeOf : WlBuffer → QSize}

def Call.attaches : Call → Prop
  | attach .. => True
  | _ => False

/-- The surface and the `wl_buffer` that is attached to it. -/
def Call.attachment : Call → Option (SurfaceId × WlBuffer)
  | attach s (some r) _ _ => some (s, r)
  | _ => none

/-- After the call the view may let go of its buffer, though it was locked. -/
def Call.frees (v : ViewId) : Call → Prop
  | setBufferLocked x locked => x = v ∧ locked = false
  | setDiscardFrontBuffers x discard => x = v ∧ discard = true
  | discardCurrentBuffer x => x = v
  | destroyView x => x = v
  | _ => False

/-- The client destroys the `wl_buffer`. -/
def Call.destroys (r : WlBuffer) : Call → Prop
  | destroyBuffer x => x = r
  | _ => False

/-- A call of the compositor's own that clients do not notice. -/
def Call.internal : Call → Prop
  | createView | setSurface .. | advance _ | discardCurrentBuffer _ | setBufferLocked ..
  | setDiscardFrontBuffers .. | destroyView _ | setThrottlingView .. | copyBuffer _ | dropCopy _ => True
  | _ => False

namespace World

/-- What one call does to an invariant state. -/
structure CallSpec (w : World) (c : Call) (w' : World) : Prop where
  inv : w'.Inv
  settled : Settled w w'
  noNew : ¬ c.attaches → ∀ a r, w'.heap.bufferAt a = some r → w.heap.bufferAt a = some r
  steady : ∀ a ∈ w.refs, a ∈ w'.refs → ∀ r, ¬ c.destroys r → w.heap.bufferAt a = some r →
    w'.heap.bufferAt a = some r
  keepsLocked : ∀ v, ¬ c.frees v → KeepsLockedAt w w' v
  calm : c.internal → Calm w w'

theorem CallSpec.of_flow (hinv : w'.Inv) (hflow : Flow w w')
    (hlocked : ∀ v, ¬ c.frees v → KeepsLockedAt w w' v) (hcalm : c.internal → Calm w w') :
    CallSpec w c w' :=
  ⟨hinv, hflow.settled, fun _ => hflow.noNew,
    fun a ha ha' _ _ hr => (hflow.steady a ha ha').trans hr, hlocked, hcalm⟩

theorem CallSpec.of_quiet (hinv : w.Inv) (hseen : ¬ c.internal)
    (h : w'.Inv ∧ Quiet w w' ∧ w'.views = w.views) : CallSpec w c w' :=
  .of_flow h.1 (h.2.1.flow hinv h.1) (fun v _ => keepsLocked_of_eq h.2.2 v) fun hc => absurd hc hseen

theorem CallSpec.of_calm (hinv : w.Inv) (hinv' : w'.Inv) (hcalm : Calm w w')
    (hlocked : ∀ v, ¬ c.frees v → KeepsLockedAt w w' v) : CallSpec w c w' :=
  .of_flow hinv' (hcalm.flow hinv hinv') hlocked fun _ => hcalm

theorem exists_of_isSome {α : Type} {o : Option α} (h : o.isSome = true) : ∃ x, o = some x :=
  Option.isSome_iff_exists.1 h

/-- **Every call returns** in an invariant state, and leaves one. -/
theorem Inv.call (sizeOf : WlBuffer → QSize) (hinv : w.Inv) (hnamed : c.named w = true) :
    ∃ w', w.call sizeOf c = some w' ∧ CallSpec w c w' := by
  cases c with
  | createSurface =>
    have hpending := hinv.refs.pendingBuffer_newSurface
    refine ⟨_, rfl, .of_flow hinv.createSurface ⟨fun _ hr => ⟨hr, rfl⟩, fun _ _ => id,
      fun _ _ _ => rfl, fun a ha => ?_, fun _ _ => rfl⟩ (fun v _ => keepsLocked_of_eq rfl v) False.elim⟩
    rwa [hpending] at ha
  | attach s buffer x y =>
    obtain ⟨hs, hbuffer⟩ := Bool.and_eq_true_iff.1 hnamed
    obtain ⟨S, hS⟩ := exists_of_isSome hs
    have halive : ∀ r ∈ buffer, r ∉ w.heap.gone := by
      rintro r ⟨⟩
      exact of_decide_eq_true hbuffer
    obtain ⟨w', a, -, hspec, hinv', hviews, -, -, hsteady, -, -, -, hsettled⟩ :=
      hinv.surfaceAttach hS buffer halive x y
    refine ⟨w', hspec, hinv', hsettled, fun hnot => absurd trivial hnot, fun z hz _ r _ hr => ?_,
      fun v _ => ?_, False.elim⟩
    · exact (hsteady z hz).trans hr
    · exact keepsLocked_of_eq hviews v
  | damage s r =>
    obtain ⟨S, hS⟩ := exists_of_isSome hnamed
    exact (hinv.modifySurface hS rfl (.refl _) rfl).imp fun w' h => ⟨h.1, .of_quiet hinv id h.2⟩
  | frame s =>
    obtain ⟨S, hS⟩ := exists_of_isSome hnamed
    exact (hinv.surfaceFrame hS).imp fun w' h => ⟨h.1, .of_quiet hinv id h.2⟩
  | setOpaqueRegion s region =>
    obtain ⟨S, hS⟩ := exists_of_isSome hnamed
    exact (hinv.modifySurface hS rfl (.refl _) rfl).imp fun w' h => ⟨h.1, .of_quiet hinv id h.2⟩
  | setInputRegion s region =>
    obtain ⟨S, hS⟩ := exists_of_isSome hnamed
    exact (hinv.modifySurface hS rfl (.refl _) rfl).imp fun w' h => ⟨h.1, .of_quiet hinv id h.2⟩
  | setBufferScale s scale =>
    obtain ⟨S, hS⟩ := exists_of_isSome hnamed
    exact (hinv.modifySurface hS rfl (.refl _) rfl).imp fun w' h => ⟨h.1, .of_quiet hinv id h.2⟩
  | commit s =>
    obtain ⟨S, hS⟩ := exists_of_isSome hnamed
    obtain ⟨w', hspec, hinv', hflow, hlocked, -⟩ := hinv.surfaceCommit sizeOf hS
    exact ⟨w', hspec, .of_flow hinv' hflow (fun v _ => hlocked v) False.elim⟩
  | destroySurface s =>
    obtain ⟨S, hS⟩ := exists_of_isSome hnamed
    obtain ⟨w', hspec, hinv', hflow, hlocked, -⟩ := hinv.surfaceDestroyResource sizeOf hS
    exact ⟨w', hspec, .of_flow hinv' hflow (fun v _ => hlocked v) False.elim⟩
  | destroyBuffer r =>
    have hthere : r ∉ w.heap.gone := of_decide_eq_true hnamed
    refine ⟨_, rfl, hinv.destroyBuffer r, fun r' hr' => ⟨List.mem_cons_of_mem r hr', ?_⟩,
      fun _ a r' hr' => ?_, fun a _ _ r' hne hr' => ?_, fun v _ => ?_, False.elim⟩
    · refine Heap.account_destroyWlBuffer ?_
      rintro rfl
      exact hthere hr'
    · obtain ⟨b', hb', hbuffer'⟩ := Option.bind_eq_some_iff.1 hr'
      obtain ⟨b, hb, rfl⟩ := Option.map_eq_some_iff.1 hb'
      exact Option.bind_eq_some_iff.2 ⟨b, hb, (Heap.destroyListener_buffer b).2 r' hbuffer'⟩
    · obtain ⟨b, hb, hbuffer⟩ := Option.bind_eq_some_iff.1 hr'
      refine Option.bind_eq_some_iff.2 ⟨b.destroyListener r, Option.map_eq_some_iff.2 ⟨b, hb, rfl⟩, ?_⟩
      have hother : b.buffer ≠ some r := by
        rw [hbuffer]
        rintro ⟨⟩
        exact hne rfl
      rw [SurfaceBuffer.destroyListener, if_neg hother, hbuffer]
    · exact keepsLocked_of_eq rfl v
  | destroyCallback s resource =>
    obtain ⟨S, hS⟩ := exists_of_isSome hnamed
    exact (hinv.modifySurface hS rfl (.refl _) rfl).imp fun w' h => ⟨h.1, .of_quiet hinv id h.2⟩
  | createView =>
    obtain ⟨hinv', hcalm, hnew⟩ := hinv.createView
    refine ⟨_, rfl, .of_calm hinv hinv' hcalm fun v _ X hX => ?_⟩
    have hv : v ≠ w.nextView := by
      rintro rfl
      cases hnew.symm.trans hX
    exact keepsLockedAt_of_ne hv rfl X hX
  | setSurface v s =>
    obtain ⟨hv, hs⟩ := Bool.and_eq_true_iff.1 hnamed
    obtain ⟨V, hV⟩ := exists_of_isSome hv
    have hnew : ∀ t ∈ s, ∃ S, w.surfaces t = some S := by
      rintro t ⟨⟩
      exact exists_of_isSome hs
    obtain ⟨w', V', hspec, hinv', hcalm, hviews, -, hkept⟩ := hinv.setSurface sizeOf hV s hnew
    refine ⟨w', hspec, .of_calm hinv hinv' hcalm fun x _ => ?_⟩
    exact keepsLocked_of_kept hkept hV hviews x
  | advance v =>
    obtain ⟨V, hV⟩ := exists_of_isSome hnamed
    obtain ⟨w', hspec, hinv', hcalm, hlocked⟩ := hinv.advance hV
    exact ⟨w', hspec, .of_calm hinv hinv' hcalm fun x _ => hlocked x⟩
  | discardCurrentBuffer v =>
    obtain ⟨V, hV⟩ := exists_of_isSome hnamed
    obtain ⟨w', hspec, hinv', hcalm, V', hviews⟩ := hinv.discardCurrentBuffer hV
    refine ⟨w', hspec, .of_calm hinv hinv' hcalm fun x hx => ?_⟩
    exact keepsLockedAt_of_ne (Ne.symm hx) hviews
  | setBufferLocked v locked =>
    obtain ⟨V, hV⟩ := exists_of_isSome hnamed
    obtain ⟨w', hspec, hinv', hcalm, hviews⟩ := hinv.modifyView hV
      (f := fun V => { V with bufferLocked := locked }) rfl rfl
    refine ⟨w', hspec, .of_calm hinv hinv' hcalm fun x hx => ?_⟩
    by_cases hxv : x = v
    · have hlocked : locked = true := eq_true_of_ne_false fun hfalse => hx ⟨hxv.symm, hfalse⟩
      exact keepsLocked_update hV hviews (fun _ hdiscard => ⟨rfl, hlocked, hdiscard⟩) x
    · exact keepsLockedAt_of_ne hxv hviews
  | setDiscardFrontBuffers v discard =>
    obtain ⟨V, hV⟩ := exists_of_isSome hnamed
    obtain ⟨w', hspec, hinv', hcalm, hviews⟩ := hinv.modifyView hV
      (f := fun V => { V with discardFrontBuffers := discard }) rfl rfl
    refine ⟨w', hspec, .of_calm hinv hinv' hcalm fun x hx => ?_⟩
    by_cases hxv : x = v
    · have hdiscard : discard = false := eq_false_of_ne_true fun htrue => hx ⟨hxv.symm, htrue⟩
      exact keepsLocked_update hV hviews (fun hlocked _ => ⟨rfl, hlocked, hdiscard⟩) x
    · exact keepsLockedAt_of_ne hxv hviews
  | destroyView v =>
    obtain ⟨V, hV⟩ := exists_of_isSome hnamed
    obtain ⟨w', hspec, hinv', hcalm, hviews⟩ := hinv.destroyView hV
    refine ⟨w', hspec, .of_calm hinv hinv' hcalm fun x hx => ?_⟩
    exact keepsLockedAt_of_ne (Ne.symm hx) hviews
  | setThrottlingView s v =>
    obtain ⟨hs, hv⟩ := Bool.and_eq_true_iff.1 hnamed
    obtain ⟨S, hS⟩ := exists_of_isSome hs
    obtain ⟨V, hV⟩ := exists_of_isSome hv
    obtain ⟨w', hspec, hinv', hcalm, hlocked⟩ := hinv.setThrottlingView sizeOf hS hV
    exact ⟨w', hspec, .of_calm hinv hinv' hcalm fun x _ => hlocked x⟩
  | copyBuffer v =>
    obtain ⟨V, hV⟩ := exists_of_isSome hnamed
    obtain ⟨w', hspec, hinv', hcalm, hviews⟩ := hinv.copyBuffer hV
    exact ⟨w', hspec, .of_calm hinv hinv' hcalm fun v _ => keepsLocked_of_eq hviews v⟩
  | dropCopy a =>
    obtain ⟨w', hspec, hinv', hcalm, hviews⟩ := hinv.dropCopy (of_decide_eq_true hnamed)
    exact ⟨w', hspec, .of_calm hinv hinv' hcalm fun v _ => keepsLocked_of_eq hviews v⟩
  | frameStarted s =>
    obtain ⟨S, hS⟩ := exists_of_isSome hnamed
    exact (hinv.modifySurface hS rfl (.refl _) rfl).imp fun w' h => ⟨h.1, .of_quiet hinv id h.2⟩
  | sendFrameCallbacks s =>
    obtain ⟨S, hS⟩ := exists_of_isSome hnamed
    exact (hinv.sendFrameCallbacks hS).imp fun w' h => ⟨h.1, .of_quiet hinv id h.2⟩

theorem Inv.step (sizeOf : WlBuffer → QSize) (hinv : w.Inv) (c : Call) :
    ∃ w', Compositor.step sizeOf w c = some w' ∧ CallSpec w c w' := by
  cases hnamed : c.named w with
  | true =>
    rw [Compositor.step, if_pos hnamed]
    exact hinv.call sizeOf hnamed
  | false =>
    rw [Compositor.step, if_neg (hnamed ▸ Bool.false_ne_true)]
    exact ⟨w, rfl, .of_flow hinv (.refl w) (fun v _ => keepsLocked_of_eq rfl v) fun _ => .refl w⟩

/-! ## References -/

/-- The compositor's books are right: every `QWaylandBufferRef` points to a buffer that
exists, a buffer counts the references to it, one that nothing will delete is in the pool of
a surface, and a surface counts its views and its client. -/
structure Accounted (w : World) : Prop where
  live : ∀ a ∈ w.refs, ∃ b, w.heap.cells a = some b
  refCount_eq : ∀ a b, w.heap.cells a = some b → b.refCount = w.refs.count a
  noLeak : ∀ a b, w.heap.cells a = some b →
    a ∈ w.refs ∨ ∃ s S, w.surfaces s = some S ∧ a ∈ S.bufferPool
  surfaceCount : ∀ s S, w.surfaces s = some S → S.refCount = 1 + S.views.length ∧ S.views.Nodup ∧
    ∀ v, v ∈ S.views ↔ w.link v = some s
  linked : ∀ v s, w.link v = some s → ∃ S, w.surfaces s = some S

theorem Inv.accounted (hinv : w.Inv) : w.Accounted where
  live _ := hinv.cell_of_mem
  refCount_eq _ _ := hinv.refs.heap.refCount_eq
  noLeak := by
    intro a b hb
    cases hdestroy : b.destroyIfUnused with
    | true =>
      have hpos := (hinv.refs.heap.cell a b hb).used_of_destroyIfUnused hdestroy
      exact .inl ((hinv.refs.heap.counted.pos_iff hb).1 hpos)
    | false => exact .inr ((hinv.pools.pooled_iff a).1 ⟨b, hb, hdestroy⟩)
  surfaceCount s S hS :=
    ⟨hinv.links.refCount s S hS, hinv.links.nodup s S hS, hinv.links.mem_iff s S hS⟩
  linked := hinv.links.surface

/-- **No use after free, and no leak.**  Whatever clients request and the compositor calls, in
whatever order, no call uses a deleted object, and the books are right throughout. -/
theorem always_accounted (sizeOf : WlBuffer → QSize) (cs : List Call) :
    Run.Always (Compositor.step sizeOf) Accounted init cs :=
  Run.always_of_inv (I := Inv) (fun _ c hinv => (hinv.step sizeOf c).imp fun _ h => ⟨h.1, h.2.inv⟩)
    (fun _ => Inv.accounted) cs init inv_init

/-! ## Releases -/

/-- How many buffers for the `wl_buffer` something refers to. -/
def inUse (w : World) (r : WlBuffer) : Nat :=
  tally (fun a => a ∈ w.refs ∧ w.heap.bufferAt a = some r) id w.heap.next

theorem Inv.holds_iff (hinv : w.Inv) :
    Heap.Holds r (w.heap.cells a) ↔ a ∈ w.refs ∧ w.heap.bufferAt a = some r := by
  cases hb : w.heap.cells a with
  | none =>
    refine iff_of_false Heap.not_holds_none fun ⟨ha, _⟩ => ?_
    obtain ⟨b, hb'⟩ := hinv.cell_of_mem ha
    cases hb.symm.trans hb'
  | some b =>
    have hbok := hinv.refs.heap.cell a b hb
    rw [Heap.holds_some, Heap.bufferAt, hb, Option.bind_some]
    refine and_congr_left fun _ => ⟨fun hcommitted => ?_, fun ha => ?_⟩
    · exact (hinv.refs.heap.counted.pos_iff hb).1 (hbok.used_of_committed hcommitted)
    · have hused := (hinv.refs.heap.counted.pos_iff hb).2 (List.mem_append_right [] ha)
      exact (hbok.committed_of_used hused).resolve_right fun hP => hinv.pending_unused a hP ha

theorem Inv.account (hinv : w.Inv) (r : WlBuffer) :
    w.heap.account r = w.heap.released.count r + w.inUse r :=
  congrArg (w.heap.released.count r + ·) (tally_congr fun _ _ => hinv.holds_iff)

theorem Inv.inUse_pos (hinv : w.Inv) (ha : a ∈ w.refs) (hr : w.heap.bufferAt a = some r) :
    0 < w.inUse r := by
  obtain ⟨b, hb⟩ := hinv.cell_of_mem ha
  exact tally_pos (hinv.refs.heap.lt_next a b hb) ⟨ha, hr⟩

theorem Inv.alive (hinv : w.Inv) (hr : w.heap.bufferAt a = some r) : r ∉ w.heap.gone := by
  obtain ⟨b, hb, hbuffer⟩ := Option.bind_eq_some_iff.1 hr
  exact hinv.refs.heap.alive a b r hb hbuffer

theorem Inv.inUse_eq_zero (hinv : w.Inv) (hr : r ∈ w.heap.gone) : w.inUse r = 0 :=
  tally_eq_zero fun _ _ ha => hinv.alive ha.2 hr

/-- Of a `wl_buffer` that is destroyed no more is released. -/
theorem CallSpec.released_eq (hspec : CallSpec w c w') (hinv : w.Inv) (hr : r ∈ w.heap.gone) :
    w'.heap.released.count r = w.heap.released.count r := by
  obtain ⟨hr', haccount⟩ := hspec.settled r hr
  rw [hinv.account, hspec.inv.account, hinv.inUse_eq_zero hr, hspec.inv.inUse_eq_zero hr'] at haccount
  exact haccount

/-- **Every commit of a `wl_buffer` is answered by one release**, at once when the last
reference to the buffer goes: those that are not answered yet are the buffers that something
refers to.  Once its client has destroyed a `wl_buffer`, no call releases it. -/
theorem always_released (sizeOf : WlBuffer → QSize) (cs : List Call) :
    Run.Always (Compositor.step sizeOf) (fun w => ∀ r,
      w.heap.released.count r + w.inUse r ≤ w.commits.count r ∧
        (r ∉ w.heap.gone → w.commits.count r = w.heap.released.count r + w.inUse r) ∧
        (r ∈ w.heap.gone → w.inUse r = 0)) init cs ∧
      Run.Along (Compositor.step sizeOf) (fun w _ w' => ∀ r ∈ w.heap.gone, r ∈ w'.heap.gone ∧
        w'.heap.released.count r = w.heap.released.count r) init cs := by
  constructor
  · refine Run.always_of_inv (I := Inv)
      (fun _ c hinv => (hinv.step sizeOf c).imp fun _ h => ⟨h.1, h.2.inv⟩) (fun w hinv r => ?_) cs init
      inv_init
    refine ⟨hinv.account r ▸ hinv.account_le r, fun hr => ?_, hinv.inUse_eq_zero⟩
    rw [← hinv.account_eq r hr, hinv.account]
  · refine Run.along_of_meets (I := Inv) (fun w c hinv _ => ?_) cs init inv_init
      (Run.meets_of_true cs init)
    obtain ⟨w', hstep, hspec⟩ := hinv.step sizeOf c
    exact ⟨w', hstep, fun r hr => ⟨(hspec.settled r hr).1, hspec.released_eq hinv hr⟩, hspec.inv⟩

/-! ## Clients that wait for the release -/

/-- The `wl_buffer` that the surface's client has attached and not committed. -/
def pendingWlBuffer (w : World) (t : SurfaceId) : Option WlBuffer :=
  (w.surfaces t).bind fun T => T.pending.buffer.bind w.heap.bufferAt

def OwnBuffer (w : World) : Option (SurfaceId × WlBuffer) → Prop
  | none => True
  | some (s, r) => w.commits.count r = w.heap.released.count r ∧
      ∀ t, t < w.nextSurface → t ≠ s → w.pendingWlBuffer t ≠ some r

instance decidableOwnBuffer (w : World) : DecidablePred w.OwnBuffer
  | none => isTrue trivial
  | some (_, _) => inferInstanceAs (Decidable (_ ∧ _))

/-- The client attaches what is its own: released as often as committed, and not attached
to another surface. -/
def Patient (w : World) (c : Call) : Prop := w.OwnBuffer c.attachment

instance (w : World) : DecidablePred w.Patient := fun c => decidableOwnBuffer w c.attachment

/-- One buffer at most stands for a `wl_buffer`. -/
def Unique (w : World) : Prop :=
  ∀ r a a', w.heap.bufferAt a = some r → w.heap.bufferAt a' = some r → a = a'

/-- What stands for a `wl_buffer` is referenced or pending. -/
theorem Inv.mem_or_pending (hinv : w.Inv) (hr : w.heap.bufferAt a = some r) :
    a ∈ w.refs ∨ ∃ s S, w.surfaces s = some S ∧ S.pending.buffer = some a := by
  obtain ⟨b, hb, hbuffer⟩ := Option.bind_eq_some_iff.1 hr
  have hbok := hinv.refs.heap.cell a b hb
  have hregistered := hbok.registered_of_buffer (hbuffer ▸ Option.some_ne_none r)
  exact (hbok.registered_iff.1 hregistered).imp_left (hinv.refs.heap.counted.pos_iff hb).1

theorem Unique.attach (hunique : w.Unique) (hinv : w.Inv) (hS : w.surfaces s = some S)
    {buffer : Option WlBuffer} {x y : Int} (hpatient : w.Patient (.attach s buffer x y)) {a₀ : Addr}
    (hself : w'.heap.bufferAt a₀ = buffer)
    (hother : ∀ z r, z ≠ a₀ → w'.heap.bufferAt z = some r →
      w.heap.bufferAt z = some r ∧ S.pending.buffer ≠ some z) : w'.Unique := by
  -- the client's own `wl_buffer` is nowhere else
  have hfree : ∀ z r, z ≠ a₀ → w'.heap.bufferAt z = some r → buffer ≠ some r := by
    rintro z r hz hr rfl
    obtain ⟨hown, hnowhere⟩ := hpatient
    obtain ⟨hold, hpend⟩ := hother z r hz hr
    rcases hinv.mem_or_pending hold with hmem | ⟨t, T, hT, hpend'⟩
    · have hpos := hinv.inUse_pos hmem hold
      have haccount := hinv.account_eq r (hinv.alive hold)
      rw [hinv.account] at haccount
      omega
    · have ht : t ≠ s := by
        rintro rfl
        obtain rfl : S = T := Option.some.inj (hS.symm.trans hT)
        exact hpend hpend'
      refine hnowhere t (hinv.refs.surface_lt t T hT) ht ?_
      rw [pendingWlBuffer, hT, Option.bind_some, hpend', Option.bind_some, hold]
  intro r a a' ha ha'
  by_cases hz : a = a₀ <;> by_cases hz' : a' = a₀
  · exact hz.trans hz'.symm
  · exact absurd (hself.symm.trans (hz ▸ ha)) (hfree a' r hz' ha')
  · exact absurd (hself.symm.trans (hz' ▸ ha')) (hfree a r hz ha)
  · exact hunique r a a' (hother a r hz ha).1 (hother a' r hz' ha').1

theorem Unique.step (sizeOf : WlBuffer → QSize) (hunique : w.Unique) (hinv : w.Inv)
    (hpatient : w.Patient c) (hstep : Compositor.step sizeOf w c = some w') (hspec : CallSpec w c w') :
    w'.Unique := by
  by_cases hattaches : c.attaches
  · cases c with
    | attach s buffer x y =>
      cases hnamed : (Call.attach s buffer x y).named w with
      | false =>
        rw [Compositor.step, if_neg (hnamed ▸ Bool.false_ne_true)] at hstep
        exact Option.some.inj hstep ▸ hunique
      | true =>
        obtain ⟨hs, hbuffer⟩ := Bool.and_eq_true_iff.1 hnamed
        obtain ⟨S, hS⟩ := exists_of_isSome hs
        obtain ⟨w₁, a₀, -, hattach, -, -, hself, hother, -⟩ := hinv.surfaceAttach hS
          buffer (by rintro r ⟨⟩; exact of_decide_eq_true hbuffer) x y
        rw [Compositor.step, if_pos hnamed] at hstep
        obtain rfl : w₁ = w' := Option.some.inj (hattach.symm.trans hstep)
        exact hunique.attach hinv hS hpatient hself hother
    | _ => cases hattaches
  · exact fun r a a' ha ha' =>
      hunique r a a' (hspec.noNew hattaches a r ha) (hspec.noNew hattaches a' r ha')

theorem inUse_le_one (hunique : w.Unique) : w.inUse r ≤ 1 :=
  tally_le_one fun a a' ha ha' => hunique r a a' ha.2 ha'.2

/-- **A client that waits for releases** always has one of two: its `wl_buffer` is its own,
released as often as committed, and nothing in the compositor refers to it; or it is the
compositor's, one commit not answered, and there is the one buffer that stands for it. -/
theorem always_owned (sizeOf : WlBuffer → QSize) (cs : List Call)
    (hpatient : Run.Meets (Compositor.step sizeOf) Patient init cs) :
    Run.Always (Compositor.step sizeOf) (fun w => w.Unique ∧ ∀ r, r ∉ w.heap.gone →
      (w.commits.count r = w.heap.released.count r ∧ ∀ a ∈ w.refs, w.heap.bufferAt a ≠ some r) ∨
        (w.commits.count r = w.heap.released.count r + 1 ∧
          ∃ a ∈ w.refs, w.heap.bufferAt a = some r)) init cs := by
  have hgood : ∀ w : World, w.Inv ∧ w.Unique → w.Unique ∧ ∀ r, r ∉ w.heap.gone →
      (w.commits.count r = w.heap.released.count r ∧ ∀ a ∈ w.refs, w.heap.bufferAt a ≠ some r) ∨
        (w.commits.count r = w.heap.released.count r + 1 ∧
          ∃ a ∈ w.refs, w.heap.bufferAt a = some r) := by
    rintro w ⟨hinv, hunique⟩
    refine ⟨hunique, fun r hr => ?_⟩
    have haccount := hinv.account_eq r hr
    rw [hinv.account] at haccount
    have hle := inUse_le_one (r := r) hunique
    rcases Nat.eq_zero_or_pos (w.inUse r) with hzero | hpos
    · refine .inl ⟨by omega, fun a ha hbuffer => ?_⟩
      have hpos := hinv.inUse_pos ha hbuffer
      omega
    · obtain ⟨a, -, ha, hbuffer⟩ := exists_of_tally_pos hpos
      exact .inr ⟨by omega, a, ha, hbuffer⟩
  have hinit : init.Inv ∧ init.Unique := ⟨inv_init, fun _ _ _ ha => by cases ha⟩
  refine ⟨hgood init hinit, Run.along_of_meets (I := fun w => w.Inv ∧ w.Unique) ?_ cs init hinit
    hpatient⟩
  rintro w c ⟨hinv, hunique⟩ hok
  obtain ⟨w', hstep, hspec⟩ := hinv.step sizeOf c
  have hunique' := hunique.step sizeOf hinv hok hstep hspec
  exact ⟨w', hstep, hgood w' ⟨hspec.inv, hunique'⟩, hspec.inv, hunique'⟩

theorem always_owned_reattach :
    Run.Meets (Compositor.step fun _ => ⟨64, 64⟩) Patient init
        [.createSurface, .createView, .setSurface 0 (some 0), .attach 0 (some 7) 0 0, .commit 0,
          .advance 0, .attach 0 (some 8) 0 0, .commit 0, .advance 0, .attach 0 (some 7) 0 0] ∧
      Run.Always (Compositor.step fun _ => ⟨64, 64⟩) (fun w => w.Unique ∧ ∀ r, r ∉ w.heap.gone →
        (w.commits.count r = w.heap.released.count r ∧ ∀ a ∈ w.refs, w.heap.bufferAt a ≠ some r) ∨
          (w.commits.count r = w.heap.released.count r + 1 ∧
            ∃ a ∈ w.refs, w.heap.bufferAt a = some r)) init
        [.createSurface, .createView, .setSurface 0 (some 0), .attach 0 (some 7) 0 0, .commit 0,
          .advance 0, .attach 0 (some 8) 0 0, .commit 0, .advance 0, .attach 0 (some 7) 0 0] :=
  ⟨by decide, always_owned _ _ (by decide)⟩

/-! ## Locked views -/

theorem mem_refs_of_current (hinv : w.Inv) (hV : w.views v = some V) (ha : V.currentBuffer = some a) :
    a ∈ w.refs := by
  obtain ⟨rest, hperm, -, -⟩ := refs_view hV (hinv.refs.view_lt v V hV)
  exact hperm.mem_iff.2 (List.mem_append_left _ (List.mem_append_left _ (Option.mem_toList.2 ha)))

/-- The view is locked and shows the buffer, which stands for the `wl_buffer`. -/
structure Shows (w : World) (v : ViewId) (a : Addr) (r : WlBuffer) : Prop where
  view : ∃ V, w.views v = some V ∧ V.bufferLocked = true ∧ V.discardFrontBuffers = false ∧
    V.currentBuffer = some a
  buffer : w.heap.bufferAt a = some r

theorem Shows.step (hshows : w.Shows v a r) (hinv : w.Inv) (hspec : CallSpec w c w')
    (hfrees : ¬ c.frees v) (hbuffer : ¬ c.destroys r) : w'.Shows v a r := by
  obtain ⟨⟨V, hV, hlocked, hdiscard, hcurrent⟩, hr⟩ := hshows
  obtain ⟨V', hV', hcurrent', hlocked', hdiscard'⟩ := hspec.keepsLocked v hfrees V hV hlocked hdiscard
  have hcurrent' : V'.currentBuffer = some a := hcurrent'.trans hcurrent
  refine ⟨⟨V', hV', hlocked', hdiscard', hcurrent'⟩, ?_⟩
  exact hspec.steady a (mem_refs_of_current hinv hV hcurrent)
    (mem_refs_of_current hspec.inv hV' hcurrent') r hbuffer hr

/-- **A locked view keeps what it shows**: in any run from any state that can be reached, until
it is unlocked, told to discard its buffer or destroyed, and unless the client destroys the
`wl_buffer`, the view shows the same contents, and they are not released, even when the
view or the surface is taken away in between. -/
theorem locked_view_shows (sizeOf : WlBuffer → QSize) (before cs : List Call) {w : World}
    (hreached : Run.exec (Compositor.step sizeOf) init before = some w) (hshows : w.Shows v a r)
    (hcs : ∀ c ∈ cs, ¬ c.frees v ∧ ¬ c.destroys r) :
    Run.Always (Compositor.step sizeOf) (fun w => w.Shows v a r ∧
      w.heap.released.count r < w.commits.count r) w cs := by
  have hinv : w.Inv := Run.exec_inv (I := Inv) (fun w c w' hinv hs => by
    obtain ⟨w'', hs', hspec⟩ := hinv.step sizeOf c
    exact Option.some.inj (hs'.symm.trans hs) ▸ hspec.inv) before init inv_init hreached
  have hgood : ∀ w : World, w.Inv → w.Shows v a r →
      w.Shows v a r ∧ w.heap.released.count r < w.commits.count r := by
    intro w hinv hshows
    obtain ⟨V, hV, -, -, hcurrent⟩ := hshows.view
    have hpos := hinv.inUse_pos (mem_refs_of_current hinv hV hcurrent) hshows.buffer
    have haccount := hinv.account_eq r (hinv.alive hshows.buffer)
    rw [hinv.account] at haccount
    exact ⟨hshows, by omega⟩
  refine ⟨hgood w hinv hshows, ?_⟩
  clear hreached
  induction cs generalizing w with
  | nil => trivial
  | cons c cs ih =>
    obtain ⟨hfrees, hbuffer⟩ := hcs c List.mem_cons_self
    obtain ⟨w', hstep, hspec⟩ := hinv.step sizeOf c
    have hshows' := hshows.step hinv hspec hfrees hbuffer
    exact ⟨w', hstep, hgood w' hspec.inv hshows', ih hshows'
      (fun c hc => hcs c (List.mem_cons_of_mem _ hc)) hspec.inv⟩

theorem locked_view_shows_destroyed :
    ∃ w, Run.exec (Compositor.step fun _ => ⟨64, 64⟩) init
        [.createSurface, .createView, .setSurface 0 (some 0), .attach 0 (some 7) 0 0, .commit 0,
          .advance 0, .setBufferLocked 0 true] = some w ∧
      Run.Always (Compositor.step fun _ => ⟨64, 64⟩) (fun w => w.Shows 0 0 7 ∧
        w.heap.released.count 7 < w.commits.count 7) w
        [.attach 0 (some 8) 0 0, .commit 0, .advance 0, .destroySurface 0] := by
  obtain ⟨w, hw, hshows⟩ : ∃ w, Run.exec (Compositor.step fun _ => ⟨64, 64⟩) init
      [.createSurface, .createView, .setSurface 0 (some 0), .attach 0 (some 7) 0 0, .commit 0,
        .advance 0, .setBufferLocked 0 true] = some w ∧ w.Shows 0 0 7 :=
    ⟨_, rfl, ⟨_, rfl, rfl, rfl, rfl⟩, rfl⟩
  exact ⟨w, hw, locked_view_shows _ _ _ hw hshows (by simp [Call.frees, Call.destroys])⟩

end World

end GreenIsland.Compositor

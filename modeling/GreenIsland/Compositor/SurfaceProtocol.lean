import GreenIsland.Compositor.BufferRelease

/-! What a surface is to its client.

`Protocol` is the compositor as its clients may think of it: each surface is a record of
its own (`Attributes`), a request or a call changes the record of the surface that it names
and no other, and there are no views, renderers, references or buffer pools.  What is
double-buffered waits in the record for `commit`; the opaque region is not, it applies as soon
as it is set.  A frame callback is requested, committed, ready and answered, in that order.

**Main result** (`refines`): whatever is called in whatever order, the surfaces are, seen
through `World.protocol`, what `Protocol.step` makes of them.  So no view, no renderer and no
other surface ever shows in what a surface tells its client. -/

namespace GreenIsland.Compositor

variable {w w' : World} {s t : SurfaceId} {v : ViewId} {S S' T : Surface} {V : View} {a : Addr}
  {h h' : Heap} {c : Call} {sizeOf : WlBuffer → QSize}

/-! ## The protocol -/

/-- The state of a `wl_surface`.  `attached` is what the next commit shows, if anything: a
`wl_buffer` or, for `none`, no contents. -/
structure Attributes where
  attached : Option (Option WlBuffer)
  offset : QPoint
  pendingDamage : QRegion
  pendingInputRegion : QRegion
  pendingScale : Int
  requested : List Nat
  committed : List Nat
  ready : List Nat
  size : QSize
  mapped : Bool
  damage : QRegion
  bufferScale : Int
  opaqueRegion : QRegion
  inputRegion : QRegion

namespace Attributes

def new : Attributes where
  attached := none
  offset := ⟨0, 0⟩
  pendingDamage := .empty
  pendingInputRegion := infiniteRegion
  pendingScale := 1
  requested := []
  committed := []
  ready := []
  size := noSize
  mapped := false
  damage := .empty
  bufferScale := 1
  opaqueRegion := .empty
  inputRegion := infiniteRegion

variable (A : Attributes)

/-- New contents: the damage so far counts, within them, and a new size has no opaque
region yet. -/
def present (sizeOf : WlBuffer → QSize) (contents : Option WlBuffer) : Attributes :=
  let size := (contents.map sizeOf).getD noSize
  { A with
    size := size
    mapped := contents.isSome
    damage := A.pendingDamage.intersected (.ofRect ⟨⟨0, 0⟩, size⟩)
    opaqueRegion := if A.size = size then A.opaqueRegion else .empty }

/-- Without new contents the damage is forgotten. -/
def presentAttached (sizeOf : WlBuffer → QSize) : Attributes :=
  match A.attached with
  | none => A
  | some contents => A.present sizeOf contents

def commit (sizeOf : WlBuffer → QSize) : Attributes :=
  let A := A.presentAttached sizeOf
  { A with
    attached := none
    offset := ⟨0, 0⟩
    pendingDamage := .empty
    bufferScale := A.pendingScale
    requested := []
    committed := A.committed ++ A.requested
    inputRegion := A.pendingInputRegion.intersected (.ofRect ⟨⟨0, 0⟩, A.size⟩) }

def attach (contents : Option WlBuffer) (x y : Int) : Attributes :=
  { A with attached := some contents, offset := ⟨x, y⟩ }

/-- The `wl_buffer` is destroyed before it is shown: there is nothing to show. -/
def forget (r : WlBuffer) : Attributes :=
  if A.attached = some (some r) then { A with attached := some none } else A

def addDamage (r : QRect) : Attributes :=
  { A with pendingDamage := A.pendingDamage.united (.ofRect r) }

def setOpaqueRegion (region : Option QRegion) : Attributes :=
  { A with opaqueRegion := region.getD .empty }

def setInputRegion (region : Option QRegion) : Attributes :=
  { A with pendingInputRegion := region.getD infiniteRegion }

def setBufferScale (scale : Int) : Attributes := { A with pendingScale := scale }

def frame (callback : Nat) : Attributes := { A with requested := A.requested ++ [callback] }

def frameStarted : Attributes := { A with committed := [], ready := A.ready ++ A.committed }

def answer : Attributes := { A with ready := [] }

def removeCallback (callback : Nat) : Attributes :=
  { A with
    requested := A.requested.filter (· ≠ callback)
    committed := A.committed.filter (· ≠ callback)
    ready := A.ready.filter (· ≠ callback) }

end Attributes

/-- The compositor to its clients -/
structure Protocol where
  surfaces : SurfaceId → Option Attributes
  nextSurface : SurfaceId
  nextCallback : Nat
  answered : List (SurfaceId × Nat)
  gone : List WlBuffer

namespace Protocol

def init : Protocol := ⟨fun _ => none, 0, 0, [], []⟩

/-- One surface changes, if it exists. -/
def modify (p : Protocol) (s : SurfaceId) (f : Attributes → Attributes) : Protocol :=
  { p with surfaces := Function.update p.surfaces s ((p.surfaces s).map f) }

def frame (p : Protocol) (s : SurfaceId) : Protocol :=
  if (p.surfaces s).isSome
    then { p.modify s (·.frame p.nextCallback) with nextCallback := p.nextCallback + 1 } else p

/-- What is ready on the surface -/
def ready (p : Protocol) (s : SurfaceId) : List Nat := ((p.surfaces s).map Attributes.ready).getD []

def step (sizeOf : WlBuffer → QSize) (p : Protocol) : Call → Protocol
  | .createSurface => { p with
      surfaces := Function.update p.surfaces p.nextSurface (some .new)
      nextSurface := p.nextSurface + 1 }
  | .attach s contents x y => if contents.all (· ∉ p.gone) then p.modify s (·.attach contents x y) else p
  | .damage s r => p.modify s (·.addDamage r)
  | .frame s => p.frame s
  | .setOpaqueRegion s region => p.modify s (·.setOpaqueRegion region)
  | .setInputRegion s region => p.modify s (·.setInputRegion region)
  | .setBufferScale s scale => p.modify s (·.setBufferScale scale)
  | .commit s => p.modify s (·.commit sizeOf)
  | .destroySurface s => { p with surfaces := Function.update p.surfaces s none }
  | .destroyBuffer r => if r ∈ p.gone then p else { p with
      surfaces := fun s => (p.surfaces s).map (·.forget r)
      gone := r :: p.gone }
  | .destroyCallback s callback => p.modify s (·.removeCallback callback)
  | .frameStarted s => p.modify s (·.frameStarted)
  | .sendFrameCallbacks s =>
    { p.modify s (·.answer) with answered := p.answered ++ (p.ready s).map (s, ·) }
  | .createView | .setSurface .. | .advance _ | .discardCurrentBuffer _ | .setBufferLocked ..
  | .setDiscardFrontBuffers .. | .destroyView _ | .setThrottlingView .. | .copyBuffer _
  | .dropCopy _ => p

end Protocol

/-! ## What the compositor has of it -/

/-- The numbers of the callbacks that are ready, or are not -/
def callbacks (canSend : Bool) (cs : List FrameCallback) : List Nat :=
  (cs.filter (·.canSend = canSend)).map FrameCallback.resource

def Surface.attributes (h : Heap) (S : Surface) : Attributes where
  attached := S.pending.buffer.map h.bufferAt
  offset := S.pending.offset
  pendingDamage := S.pending.damage
  pendingInputRegion := S.pending.inputRegion
  pendingScale := S.pending.bufferScale
  requested := S.pendingFrameCallbacks.map FrameCallback.resource
  committed := callbacks false S.frameCallbacks
  ready := callbacks true S.frameCallbacks
  size := S.size
  mapped := S.mapped
  damage := S.damage
  bufferScale := S.bufferScale
  opaqueRegion := S.opaqueRegion
  inputRegion := S.inputRegion

def World.protocol (w : World) : Protocol where
  surfaces := fun s => (w.surfaces s).map (Surface.attributes w.heap)
  nextSurface := w.nextSurface
  nextCallback := w.nextCallback
  answered := w.sent
  gone := w.heap.gone

/-- What is pending is marked as attached, and callbacks are ready in the order in which
they were committed. -/
structure Surface.Regular (S : Surface) : Prop where
  attached : S.pending.newlyAttached = S.pending.buffer.isSome
  requested : ∀ c ∈ S.pendingFrameCallbacks, c.canSend = false
  ordered : S.frameCallbacks.Pairwise fun c d => d.canSend = true → c.canSend = true

def World.Regular (w : World) : Prop := ∀ s S, w.surfaces s = some S → S.Regular

/-! ## Frame callbacks -/

section
variable {canSend : Bool} {cs ds : List FrameCallback} {callback : Nat}

@[simp] theorem callbacks_nil : callbacks canSend [] = [] := rfl

@[simp] theorem callbacks_cons (c : FrameCallback) : callbacks canSend (c :: cs) =
    if c.canSend = canSend then c.resource :: callbacks canSend cs else callbacks canSend cs := by
  rw [callbacks, List.filter_cons]
  by_cases hc : c.canSend = canSend
  · rw [if_pos hc, if_pos (decide_eq_true hc)]
    rfl
  · rw [if_neg hc, if_neg (ne_true_of_eq_false (decide_eq_false hc))]
    rfl

theorem callbacks_append :
    callbacks canSend (cs ++ ds) = callbacks canSend cs ++ callbacks canSend ds := by
  rw [callbacks, List.filter_append, List.map_append]
  rfl

theorem callbacks_false_of_none (hcs : ∀ c ∈ cs, c.canSend = false) :
    callbacks false cs = cs.map FrameCallback.resource := by
  rw [callbacks, List.filter_eq_self.2 fun c hc => decide_eq_true (hcs c hc)]

theorem callbacks_true_of_none (hcs : ∀ c ∈ cs, c.canSend = false) : callbacks true cs = [] := by
  rw [callbacks, List.filter_eq_nil_iff.2 fun c hc => by simp [hcs c hc], List.map_nil]

/-- Those that are ready come first. -/
theorem callbacks_of_ordered (hcs : cs.Pairwise fun c d => d.canSend = true → c.canSend = true) :
    cs.map FrameCallback.resource = callbacks true cs ++ callbacks false cs := by
  induction cs with
  | nil => rfl
  | cons c cs ih =>
    obtain ⟨hfirst, hrest⟩ := List.pairwise_cons.1 hcs
    cases hc : c.canSend with
    | true => simp [hc, ih hrest]
    | false =>
      have hnone : ∀ d ∈ cs, d.canSend = false := fun d hd => eq_false_of_ne_true fun hready =>
        Bool.false_ne_true (hc.symm.trans (hfirst d hd hready))
      rw [callbacks_true_of_none, callbacks_false_of_none]
      · rfl
      all_goals
        intro d hd
        rcases List.mem_cons.1 hd with rfl | hd
        exacts [hc, hnone d hd]

theorem callbacks_started :
    callbacks true (cs.map fun c => { c with canSend := true }) = cs.map FrameCallback.resource ∧
      callbacks false (cs.map fun c => { c with canSend := true }) = [] := by
  induction cs with
  | nil => exact ⟨rfl, rfl⟩
  | cons c cs ih => simp [ih.1, ih.2]

theorem sendReady_spec :
    (World.sendReady cs).1 = cs.filter (·.canSend = false) ∧
      (World.sendReady cs).2 = callbacks true cs := by
  induction cs with
  | nil => exact ⟨rfl, rfl⟩
  | cons c cs ih => cases hc : c.canSend <;> simp [World.sendReady, hc, ih.1, ih.2]

theorem callbacks_left : callbacks false (World.sendReady cs).1 = callbacks false cs ∧
    callbacks true (World.sendReady cs).1 = [] := by
  rw [sendReady_spec.1]
  refine ⟨?_, callbacks_true_of_none fun c hc => of_decide_eq_true (List.mem_filter.1 hc).2⟩
  simp only [callbacks, List.filter_filter, Bool.and_self]

theorem callbacks_removed : callbacks canSend (cs.filter (·.resource ≠ callback)) =
    (callbacks canSend cs).filter (· ≠ callback) := by
  simp only [callbacks, List.filter_map, List.filter_filter]
  congr 1
  refine List.filter_congr fun c _ => ?_
  exact Bool.and_comm ..

end

/-! ## Refinement -/

namespace Protocol

variable {p : Protocol} {f : Attributes → Attributes}

@[simp] theorem modify_self : (p.modify s f).surfaces s = (p.surfaces s).map f :=
  Function.update_self ..

theorem modify_of_ne (ht : t ≠ s) : (p.modify s f).surfaces t = p.surfaces t :=
  Function.update_of_ne ht ..

theorem modify_of_none (hs : p.surfaces s = none) : p.modify s f = p := by
  rw [modify, hs, Option.map_none, ← hs, Function.update_eq_self]

end Protocol

theorem Surface.Regular.of_core (hS : S.Regular) (hcore : S'.core = S.core) : S'.Regular := by
  have hcore' : S'.core.Regular := hcore ▸ ⟨hS.attached, hS.requested, hS.ordered⟩
  exact ⟨hcore'.attached, hcore'.requested, hcore'.ordered⟩

namespace World

/-- Surfaces that differ in their views only have the same attributes if what is attached is
the same. -/
theorem attributes_congr (hcore : S'.core = S.core)
    (hattached : ∀ a ∈ S'.pending.buffer, h'.bufferAt a = h.bufferAt a) :
    S'.attributes h' = S.attributes h := by
  have hsame : S'.core.attributes h = S.core.attributes h := by rw [hcore]
  have hmap : S'.pending.buffer.map h'.bufferAt = S'.pending.buffer.map h.bufferAt :=
    Option.map_congr hattached
  refine Eq.trans ?_ hsame
  simp only [Surface.attributes, hmap]
  rfl

theorem protocol_surface_of_core
    (hcore : (w'.surfaces t).map Surface.core = (w.surfaces t).map Surface.core)
    (hattached : ∀ a, w'.PendingBuffer a → w'.heap.bufferAt a = w.heap.bufferAt a) :
    w'.protocol.surfaces t = w.protocol.surfaces t := by
  change (w'.surfaces t).map _ = (w.surfaces t).map _
  cases hT : w'.surfaces t with
  | none =>
    rw [hT, Option.map_none, eq_comm, Option.map_eq_none_iff] at hcore
    rw [hcore]
    rfl
  | some T' =>
    rw [hT, Option.map_some, eq_comm, Option.map_eq_some_iff] at hcore
    obtain ⟨T, hT', hcore⟩ := hcore
    rw [hT', Option.map_some, Option.map_some,
      attributes_congr hcore.symm fun a ha => hattached a ⟨t, T', hT, ha⟩]

theorem regular_of_core (hregular : w.Regular)
    (hcore : ∀ t, w'.surfaces t ≠ none →
      (w'.surfaces t).map Surface.core = (w.surfaces t).map Surface.core) : w'.Regular := by
  intro t T' hT'
  have ht := hcore t (hT' ▸ Option.some_ne_none T')
  rw [hT', Option.map_some, eq_comm, Option.map_eq_some_iff] at ht
  obtain ⟨T, hT, hcore⟩ := ht
  exact (hregular t T hT).of_core hcore.symm

theorem protocol_eq {p : Protocol} (hsurfaces : w'.protocol.surfaces = p.surfaces)
    (hlogs : w'.logs = (p.answered, p.nextCallback, p.nextSurface, p.gone)) : w'.protocol = p := by
  simp only [logs, Prod.mk.injEq] at hlogs
  obtain ⟨hsent, hcallback, hsurface, hgone⟩ := hlogs
  cases p
  simp only [World.protocol, Protocol.mk.injEq]
  exact ⟨hsurfaces, hsurface, hcallback, hsent, hgone⟩

/-- What a call does that no client sees. -/
theorem refines_of_calm (hregular : w.Regular) (hcalm : Calm w w') (hflow : Flow w w') :
    w'.protocol = w.protocol ∧ w'.Regular :=
  ⟨protocol_eq (funext fun t => protocol_surface_of_core (hcalm.core_eq t) hflow.pending) hcalm.logs_eq,
    regular_of_core hregular fun t _ => hcalm.core_eq t⟩

/-- One surface changes, and what is attached to the others stays. -/
theorem refines_of_put (w' : World) (S' : Surface) {f : Attributes → Attributes} (hregular : w.Regular)
    (hS : w.surfaces s = some S) (hsurfaces : w'.surfaces = (w.putSurface s S').surfaces)
    (hattr : S'.attributes w'.heap = f (S.attributes w.heap)) (hregular' : S'.Regular)
    (hattached : ∀ t T a, t ≠ s → w.surfaces t = some T → T.pending.buffer = some a →
      w'.heap.bufferAt a = w.heap.bufferAt a) :
    w'.protocol.surfaces = (w.protocol.modify s f).surfaces ∧ w'.Regular := by
  constructor
  · funext t
    change (w'.surfaces t).map _ = _
    rw [hsurfaces]
    by_cases ht : t = s
    · rw [ht, putSurface_self, Protocol.modify_self]
      change _ = ((w.surfaces s).map _).map f
      rw [hS, Option.map_some, Option.map_some, Option.map_some, hattr]
    · rw [putSurface_of_ne ht, Protocol.modify_of_ne ht]
      refine Option.map_congr fun T hT => ?_
      exact attributes_congr rfl fun a ha => hattached t T a ht hT ha
  · intro t T hT
    rw [hsurfaces] at hT
    rcases putSurface_eq_some hT with ⟨-, rfl⟩ | ⟨-, hT⟩
    · exact hregular'
    · exact hregular t T hT

/-- A request that changes the record of one surface -/
theorem refines_of_modify {f : Surface → Surface} {g : Attributes → Attributes} (hregular : w.Regular)
    (hS : w.surfaces s = some S) (hcall : w.modifySurface s f = some w')
    (hattr : (f S).attributes w.heap = g (S.attributes w.heap)) (hregular' : (f S).Regular) :
    w'.protocol = w.protocol.modify s g ∧ w'.Regular := by
  rw [World.modifySurface, hS, Option.map_some] at hcall
  obtain rfl : w.putSurface s (f S) = w' := Option.some.inj hcall
  obtain ⟨hsurfaces, hregular''⟩ := refines_of_put (w.putSurface s (f S)) (f S) (f := g)
    hregular hS rfl hattr hregular'
    fun _ _ _ _ _ _ => rfl
  exact ⟨protocol_eq hsurfaces rfl, hregular''⟩

theorem attributes_commit (hinv : w.Inv) (hS : w.surfaces s = some S) (hregular : S.Regular) :
    (applyPending (backSurface sizeOf w.heap S)).attributes h = (S.attributes w.heap).commit sizeOf := by
  have hcallbacks : callbacks true (S.frameCallbacks ++ S.pendingFrameCallbacks) =
        callbacks true S.frameCallbacks ∧
      callbacks false (S.frameCallbacks ++ S.pendingFrameCallbacks) =
        callbacks false S.frameCallbacks ++ S.pendingFrameCallbacks.map FrameCallback.resource := by
    rw [callbacks_append, callbacks_append, callbacks_true_of_none hregular.requested,
      callbacks_false_of_none hregular.requested, List.append_nil]
    exact ⟨rfl, rfl⟩
  cases hpending : S.pending.buffer with
  | none =>
    have hback : backSurface sizeOf w.heap S = S := by
      rw [backSurface, hregular.attached, hpending]
      rfl
    rw [hback]
    simp only [Surface.attributes, applyPending, Attributes.commit, Attributes.presentAttached, hpending,
      Option.map_none, hcallbacks.1, hcallbacks.2]
    rfl
  | some a =>
    obtain ⟨b, hb, -⟩ := hinv.refs.heap.cell_of_pending a ⟨s, S, hS, hpending⟩
    have hback : backSurface sizeOf w.heap S =
        withBackBuffer sizeOf w.heap S (some a) S.pending.damage := by
      rw [backSurface, hregular.attached, hpending]
      rfl
    have hsize : bufferSize sizeOf w.heap (some a) = ((w.heap.bufferAt a).map sizeOf).getD noSize := by
      rw [bufferSize, Option.bind_some, Heap.bufferAt, hb, Option.bind_some]
      change (if b.destroyed = true then noSize else _) = _
      by_cases hdestroyed : b.destroyed = true
      · rw [if_pos hdestroyed, (hinv.refs.heap.cell a b hb).noBuffer_of_destroyed hdestroyed]
        rfl
      · rw [if_neg hdestroyed]
    have hmapped : ((some a).bind w.heap.cells).any SurfaceBuffer.hasContent =
        (w.heap.bufferAt a).isSome := by
      rw [Option.bind_some, Heap.bufferAt, hb]
      rfl
    rw [hback, withBackBuffer, hsize, hmapped]
    simp only [Surface.attributes, applyPending, Attributes.commit, Attributes.presentAttached, hpending,
      Option.map_some, Attributes.present]
    by_cases hsame : S.size = ((w.heap.bufferAt a).map sizeOf).getD noSize <;>
      simp [setSize, hsame, hcallbacks.1, hcallbacks.2]

theorem bufferAt_destroyWlBuffer {r : WlBuffer} : (h.destroyWlBuffer r).bufferAt a =
    if h.bufferAt a = some r then none else h.bufferAt a := by
  change ((h.cells a).map (SurfaceBuffer.destroyListener r)).bind SurfaceBuffer.buffer = _
  rw [Heap.bufferAt]
  cases h.cells a with
  | none => rfl
  | some b =>
    rw [Option.map_some, Option.bind_some, Option.bind_some, SurfaceBuffer.destroyListener]
    split <;> rfl

theorem attributes_destroyBuffer {r : WlBuffer} :
    S.attributes (h.destroyWlBuffer r) = (S.attributes h).forget r := by
  rw [Attributes.forget]
  cases hpending : S.pending.buffer with
  | none => simp [Surface.attributes, hpending]
  | some a =>
    by_cases hr : h.bufferAt a = some r <;>
      simp [Surface.attributes, hpending, bufferAt_destroyWlBuffer, hr]

theorem regular_applyPending (hregular : S.Regular) :
    (applyPending (backSurface sizeOf h S)).Regular := by
  have hframes : (backSurface sizeOf h S).frameCallbacks = S.frameCallbacks ∧
      (backSurface sizeOf h S).pendingFrameCallbacks = S.pendingFrameCallbacks := by
    simp only [backSurface, withBackBuffer, setSize]
    split
    · split <;> exact ⟨rfl, rfl⟩
    · exact ⟨rfl, rfl⟩
  refine ⟨rfl, fun c hc => absurd hc List.not_mem_nil, ?_⟩
  rw [applyPending, hframes.1, hframes.2]
  refine List.pairwise_append.2 ⟨hregular.ordered, ?_, fun c _ d hd hready => ?_⟩
  · refine List.pairwise_of_forall_mem_list fun c _ d hd hready => ?_
    cases (hregular.requested d hd).symm.trans hready
  · cases (hregular.requested d hd).symm.trans hready

/-- **One call** does to the surfaces what the protocol says. -/
theorem Inv.call_refines (hinv : w.Inv) (hregular : w.Regular) (hnamed : c.named w = true)
    (hcall : w.call sizeOf c = some w') :
    w'.protocol = w.protocol.step sizeOf c ∧ w'.Regular := by
  cases c with
  | createSurface =>
    obtain rfl := Option.some.inj hcall
    refine ⟨protocol_eq ?_ rfl, fun t T hT => ?_⟩
    · funext t
      change (Function.update w.surfaces w.nextSurface (some .new) t).map _ =
        Function.update w.protocol.surfaces w.nextSurface (some .new) t
      by_cases ht : t = w.nextSurface
      · rw [ht, Function.update_self, Function.update_self]
        rfl
      · rw [Function.update_of_ne ht, Function.update_of_ne ht]
        rfl
    · rcases newSurface_eq_some hT with ⟨-, rfl⟩ | ⟨-, hT⟩
      · exact ⟨rfl, fun c hc => absurd hc List.not_mem_nil, .nil⟩
      · exact hregular t T hT
  | attach s contents x y =>
    obtain ⟨hs, hcontents⟩ := Bool.and_eq_true_iff.1 hnamed
    obtain ⟨S, hS⟩ := exists_of_isSome hs
    obtain ⟨w'', a, extra, hspec, -, -, hself, -, -, hpending, hsurfaces, hlogs, -⟩ :=
      hinv.surfaceAttach hS contents (by rintro r ⟨⟩; exact of_decide_eq_true hcontents) x y
    obtain rfl : w'' = w' := Option.some.inj (hspec.symm.trans hcall)
    obtain ⟨hprotocol, hregular'⟩ := refines_of_put w'' _ (f := (·.attach contents x y)) hregular hS
      hsurfaces
      (by simp [Surface.attributes, Attributes.attach, hself])
      ⟨rfl, (hregular s S hS).requested, (hregular s S hS).ordered⟩ fun t T z ht hT hz => by
        refine hpending z ⟨t, T, hT, hz⟩ fun hz' => ht ?_
        exact hinv.pools.disjoint t s T S z hT hS (hinv.pools.pending_mem t T z hT hz)
          (hinv.pools.pending_mem s S z hS hz')
    refine ⟨?_, hregular'⟩
    rw [Protocol.step]
    refine Eq.trans (protocol_eq hprotocol hlogs) (if_pos ?_).symm
    exact hcontents
  | damage s r =>
    obtain ⟨S, hS⟩ := exists_of_isSome hnamed
    have hS' := hregular s S hS
    exact refines_of_modify hregular hS hcall rfl ⟨hS'.attached, hS'.requested, hS'.ordered⟩
  | frame s =>
    obtain ⟨S, hS⟩ := exists_of_isSome hnamed
    have hS' := hregular s S hS
    rw [World.call, World.surfaceFrame, hS] at hcall
    obtain rfl := Option.some.inj hcall
    have hrequested : ∀ c ∈ S.pendingFrameCallbacks ++ [⟨w.nextCallback, false⟩],
        c.canSend = false := by
      intro c hc
      rcases List.mem_append.1 hc with hold | hnew
      · exact hS'.requested c hold
      · rw [List.mem_singleton.1 hnew]
    obtain ⟨hprotocol, hregular'⟩ := refines_of_put
      { w.putSurface s _ with nextCallback := w.nextCallback + 1 }
      { S with pendingFrameCallbacks := S.pendingFrameCallbacks ++ [⟨w.nextCallback, false⟩] }
      (f := (·.frame w.nextCallback)) hregular hS rfl
      (by simp [Surface.attributes, Attributes.frame, putSurface])
      ⟨hS'.attached, hrequested, hS'.ordered⟩ fun _ _ _ _ _ _ => rfl
    refine ⟨?_, hregular'⟩
    have hs : (w.protocol.surfaces s).isSome = true := by
      change ((w.surfaces s).map _).isSome = true
      rw [hS]
      rfl
    rw [Protocol.step, Protocol.frame, if_pos hs]
    exact protocol_eq hprotocol rfl
  | setOpaqueRegion s region =>
    obtain ⟨S, hS⟩ := exists_of_isSome hnamed
    have hS' := hregular s S hS
    exact refines_of_modify hregular hS hcall rfl ⟨hS'.attached, hS'.requested, hS'.ordered⟩
  | setInputRegion s region =>
    obtain ⟨S, hS⟩ := exists_of_isSome hnamed
    have hS' := hregular s S hS
    exact refines_of_modify hregular hS hcall rfl ⟨hS'.attached, hS'.requested, hS'.ordered⟩
  | setBufferScale s scale =>
    obtain ⟨S, hS⟩ := exists_of_isSome hnamed
    have hS' := hregular s S hS
    exact refines_of_modify hregular hS hcall rfl ⟨hS'.attached, hS'.requested, hS'.ordered⟩
  | commit s =>
    obtain ⟨S, hS⟩ := exists_of_isSome hnamed
    obtain ⟨w'', hspec, -, hflow, -, hsurfaces, hlogs⟩ := hinv.surfaceCommit sizeOf hS
    obtain rfl : w'' = w' := Option.some.inj (hspec.symm.trans hcall)
    obtain ⟨hprotocol, hregular'⟩ := refines_of_put w'' _ (f := (·.commit sizeOf)) hregular hS hsurfaces
      (attributes_commit hinv hS (hregular s S hS)) (regular_applyPending (hregular s S hS))
      fun t T z ht hT hz => by
        refine hflow.pending z ⟨t, T, ?_, hz⟩
        rw [hsurfaces, putSurface_of_ne ht, hT]
    exact ⟨protocol_eq hprotocol hlogs, hregular'⟩
  | destroySurface s =>
    obtain ⟨S, hS⟩ := exists_of_isSome hnamed
    obtain ⟨w'', hspec, -, hflow, -, hcore, hlogs⟩ := hinv.surfaceDestroyResource sizeOf hS
    obtain rfl : w'' = w' := Option.some.inj (hspec.symm.trans hcall)
    have hother : ∀ t, t ≠ s → (w''.surfaces t).map Surface.core = (w.surfaces t).map Surface.core :=
      fun t ht => (hcore t).trans (Function.update_of_ne ht ..)
    have hself : w''.surfaces s = none := by
      have hs := hcore s
      rwa [Function.update_self, Option.map_eq_none_iff] at hs
    refine ⟨protocol_eq ?_ hlogs, regular_of_core hregular fun t ht => hother t ?_⟩
    · funext t
      change _ = Function.update w.protocol.surfaces s none t
      by_cases ht : t = s
      · rw [ht, Function.update_self]
        change (w''.surfaces s).map _ = none
        rw [hself, Option.map_none]
      · rw [Function.update_of_ne ht]
        exact protocol_surface_of_core (hother t ht) hflow.pending
    · rintro rfl
      exact ht hself
  | destroyBuffer r =>
    obtain rfl := Option.some.inj hcall
    refine ⟨?_, hregular⟩
    rw [Protocol.step]
    refine Eq.trans (protocol_eq ?_ rfl) (if_neg (of_decide_eq_true hnamed)).symm
    funext t
    change (w.surfaces t).map _ = ((w.surfaces t).map _).map _
    rw [Option.map_map]
    exact Option.map_congr fun T _ => attributes_destroyBuffer
  | destroyCallback s callback =>
    obtain ⟨S, hS⟩ := exists_of_isSome hnamed
    have hS' := hregular s S hS
    refine refines_of_modify hregular hS hcall ?_
      ⟨hS'.attached, fun c hc => hS'.requested c (List.mem_filter.1 hc).1, hS'.ordered.filter _⟩
    simp only [Surface.attributes, removeFrameCallback, Attributes.removeCallback, callbacks_removed]
    rw [List.filter_map]
    rfl
  | frameStarted s =>
    obtain ⟨S, hS⟩ := exists_of_isSome hnamed
    have hS' := hregular s S hS
    refine refines_of_modify hregular hS hcall ?_ ⟨hS'.attached, hS'.requested, ?_⟩
    · simp only [Surface.attributes, World.frameStarted, Attributes.frameStarted, callbacks_started.1,
        callbacks_started.2, callbacks_of_ordered hS'.ordered]
    · exact List.pairwise_map.2 (hS'.ordered.imp fun _ _ => rfl)
  | sendFrameCallbacks s =>
    obtain ⟨S, hS⟩ := exists_of_isSome hnamed
    have hS' := hregular s S hS
    rw [World.call, World.sendFrameCallbacks, hS] at hcall
    obtain rfl := Option.some.inj hcall
    have hordered : (sendReady S.frameCallbacks).1.Pairwise
        fun c d => d.canSend = true → c.canSend = true := by
      rw [sendReady_spec.1]
      exact hS'.ordered.filter _
    obtain ⟨hprotocol, hregular'⟩ := refines_of_put
      { w.putSurface s _ with sent := w.sent ++ (sendReady S.frameCallbacks).2.map (s, ·) }
      { S with frameCallbacks := (sendReady S.frameCallbacks).1 } (f := (·.answer)) hregular hS rfl
      (by simp [Surface.attributes, Attributes.answer, callbacks_left.1, callbacks_left.2, putSurface])
      ⟨hS'.attached, hS'.requested, hordered⟩ fun _ _ _ _ _ _ => rfl
    refine ⟨protocol_eq hprotocol ?_, hregular'⟩
    have hready : w.protocol.ready s = callbacks true S.frameCallbacks := by
      change (((w.surfaces s).map _).map _).getD [] = _
      rw [hS]
      rfl
    simp only [Protocol.step, hready, ← sendReady_spec.2]
    rfl
  | createView | setSurface | advance | discardCurrentBuffer | setBufferLocked | setDiscardFrontBuffers
  | destroyView | setThrottlingView | copyBuffer | dropCopy =>
    obtain ⟨w'', hspec, hcall'⟩ := hinv.call sizeOf hnamed
    obtain rfl : w'' = w' := Option.some.inj (hspec.symm.trans hcall)
    have hcalm := hcall'.calm trivial
    exact refines_of_calm hregular hcalm (hcalm.flow hinv hcall'.inv)

/-- A call that names something which does not exist -/
theorem protocol_of_not_named (hnamed : c.named w = false) :
    w.protocol.step sizeOf c = w.protocol := by
  have hnone : ∀ s, (w.surfaces s).isSome = false → w.protocol.surfaces s = none := by
    intro s hs
    change (w.surfaces s).map _ = none
    rw [Option.not_isSome_iff_eq_none.1 (ne_true_of_eq_false hs), Option.map_none]
  cases c with
  | createSurface => cases hnamed
  | attach s contents x y =>
    rw [Protocol.step]
    rcases Bool.and_eq_false_iff.1 hnamed with hs | hcontents
    · rw [Protocol.modify_of_none (hnone s hs), ite_self]
    · exact if_neg (ne_true_of_eq_false hcontents)
  | damage s | setOpaqueRegion s | setInputRegion s | setBufferScale s | commit s | destroyCallback s
  | frameStarted s => exact Protocol.modify_of_none (hnone s hnamed)
  | frame s =>
    rw [Protocol.step, Protocol.frame, hnone s hnamed]
    rfl
  | destroySurface s =>
    rw [Protocol.step, ← hnone s hnamed, Function.update_eq_self]
  | destroyBuffer r => exact if_pos (not_not.1 (of_decide_eq_false hnamed))
  | sendFrameCallbacks s =>
    rw [Protocol.step, Protocol.ready, hnone s hnamed, Protocol.modify_of_none (hnone s hnamed)]
    simp
  | _ => rfl

theorem Inv.step_refines (sizeOf : WlBuffer → QSize) (w : World) (c : Call)
    (h : w.Inv ∧ w.Regular) :
    ∃ w', Compositor.step sizeOf w c = some w' ∧ w'.protocol = w.protocol.step sizeOf c ∧
      w'.Inv ∧ w'.Regular := by
  obtain ⟨hinv, hregular⟩ := h
  cases hnamed : c.named w with
  | true =>
    obtain ⟨w', hspec, hcall⟩ := hinv.call sizeOf hnamed
    obtain ⟨hprotocol, hregular'⟩ := hinv.call_refines hregular hnamed hspec
    exact ⟨w', (if_pos hnamed).trans hspec, hprotocol, hcall.inv, hregular'⟩
  | false =>
    exact ⟨w, if_neg (ne_true_of_eq_false hnamed), (protocol_of_not_named hnamed).symm, hinv, hregular⟩

theorem regular_init : init.Regular := fun _ _ hS => absurd hS.symm (Option.some_ne_none _)

/-- From an invariant state on -/
theorem Inv.run_refines (sizeOf : WlBuffer → QSize) (h : w.Inv ∧ w.Regular) (cs : List Call) :
    ∃ w', Run.exec (Compositor.step sizeOf) w cs = some w' ∧
      w'.protocol = cs.foldl (Protocol.step sizeOf) w.protocol ∧ w'.Inv ∧ w'.Regular :=
  Run.exec_refines (Inv.step_refines sizeOf) cs w h

/-- **Refinement.**  Every run returns, and the surfaces are to their clients what the protocol
makes of the calls. -/
theorem refines (sizeOf : WlBuffer → QSize) (cs : List Call) :
    ∃ w, Run.exec (Compositor.step sizeOf) init cs = some w ∧
      w.protocol = cs.foldl (Protocol.step sizeOf) Protocol.init :=
  (Inv.run_refines sizeOf ⟨inv_init, regular_init⟩ cs).imp fun _ h => ⟨h.1, h.2.1⟩

end World

end GreenIsland.Compositor

import GreenIsland.Compositor.SurfaceBuffer
import GreenIsland.Lib.Run
import GreenIsland.Qt.Region

/-! Surfaces and their views (`QWaylandSurface`, `QWaylandView`).

A client attaches a `wl_buffer` to its surface, describes what changed, and commits.
The commit makes the attached buffer the surface's buffer and hands a reference to
every view; a view shows it from its next `advance` on, and keeps the buffer that it
shows while it is locked, even when it has left the surface or the surface is gone.
Renderers take copies of the references of their own.

`World` is the compositor with all its surfaces, views and buffers.  `step` is one
call: a request of a client, or a call of the compositor's own code.  It has no result
if the code uses a deleted object or an assertion fails. -/

namespace GreenIsland.Compositor

abbrev SurfaceId := Nat

abbrev ViewId := Nat

/-- `QtWayland::FrameCallback`, for the `wl_callback` with this number -/
structure FrameCallback where
  resource : Nat
  canSend : Bool
deriving DecidableEq, Repr

/-- `infiniteRegion` -/
def infiniteRegion : QRegion := fun _ => true

/-- `QSize()` -/
def noSize : QSize := ⟨-1, -1⟩

/-- What the next commit applies. -/
structure Pending where
  buffer : Option Addr
  damage : QRegion
  offset : QPoint
  newlyAttached : Bool
  inputRegion : QRegion
  bufferScale : Int

/-- `QWaylandSurfacePrivate` -/
structure Surface where
  refCount : Int
  views : List ViewId
  damage : QRegion
  buffer : Option Addr
  bufferRef : Option Addr
  pending : Pending
  pendingFrameCallbacks : List FrameCallback
  frameCallbacks : List FrameCallback
  inputRegion : QRegion
  opaqueRegion : QRegion
  bufferPool : List Addr
  size : QSize
  bufferScale : Int
  destroyed : Bool
  mapped : Bool

/-- `QWaylandViewPrivate` -/
structure View where
  surface : Option SurfaceId
  currentBuffer : Option Addr
  currentDamage : QRegion
  nextBuffer : Option Addr
  nextDamage : QRegion
  bufferLocked : Bool
  forceAdvanceSucceed : Bool
  discardFrontBuffers : Bool

/-- The constructor -/
def Surface.new : Surface where
  refCount := 1
  views := []
  damage := .empty
  buffer := none
  bufferRef := none
  pending := ⟨none, .empty, ⟨0, 0⟩, false, infiniteRegion, 1⟩
  pendingFrameCallbacks := []
  frameCallbacks := []
  inputRegion := infiniteRegion
  opaqueRegion := .empty
  bufferPool := []
  size := noSize
  bufferScale := 1
  destroyed := false
  mapped := false

def View.new : View := ⟨none, none, .empty, none, .empty, false, false, false⟩

/-- The compositor.  `copies` are the references that renderers have taken, `sent` the
frame callbacks that were answered, each with its surface, and `commits` the `wl_buffer`s that
clients have handed over. -/
structure World where
  heap : Heap
  surfaces : SurfaceId → Option Surface
  nextSurface : SurfaceId
  views : ViewId → Option View
  nextView : ViewId
  copies : List Addr
  nextCallback : Nat
  sent : List (SurfaceId × Nat)
  commits : List WlBuffer

namespace World

def init : World := ⟨⟨fun _ => none, 0, [], []⟩, fun _ => none, 0, fun _ => none, 0, [], 0, [], []⟩

def putSurface (w : World) (s : SurfaceId) (S : Surface) : World :=
  { w with surfaces := Function.update w.surfaces s (some S) }

def putView (w : World) (v : ViewId) (V : View) : World :=
  { w with views := Function.update w.views v (some V) }

section
variable {w : World} {s t : SurfaceId} {S T : Surface}

@[simp] theorem putSurface_self : (w.putSurface s S).surfaces s = some S := Function.update_self ..

theorem putSurface_of_ne (ht : t ≠ s) : (w.putSurface s S).surfaces t = w.surfaces t :=
  Function.update_of_ne ht ..

theorem putSurface_eq_some (hT : (w.putSurface s S).surfaces t = some T) :
    t = s ∧ T = S ∨ t ≠ s ∧ w.surfaces t = some T := by
  by_cases ht : t = s
  · rw [ht, putSurface_self] at hT
    exact .inl ⟨ht, (Option.some.inj hT).symm⟩
  · exact .inr ⟨ht, (putSurface_of_ne ht).symm.trans hT⟩

end

/-- `QWaylandBufferRef::size`; the size of a `wl_buffer` is that of its storage. -/
def bufferSize (sizeOf : WlBuffer → QSize) (h : Heap) (ref : Option Addr) : QSize :=
  match ref.bind h.cells with
  | none => noSize
  | some b => if b.destroyed then noSize else (b.buffer.map sizeOf).getD noSize

/-! ## Views -/

/-- `QWaylandView::attach` -/
def attachView (w : World) (v : ViewId) (ref : Option Addr) (damage : QRegion) : Option World := do
  let V ← w.views v
  let heap ← w.heap.assignRef V.nextBuffer ref
  some { w.putView v { V with nextBuffer := ref, nextDamage := damage } with heap := heap }

def discardCurrentBuffer (w : World) (v : ViewId) : Option World := do
  let V ← w.views v
  let heap ← w.heap.assignRef V.currentBuffer none
  some { w.putView v { V with currentBuffer := none, forceAdvanceSucceed := true } with heap := heap }

/-- The throttling view's part in `advance`: `shown` is its current buffer. -/
def discardOthers (v : ViewId) (shown : Option Addr) (w : World) (x : ViewId) : Option World := do
  let X ← w.views x
  if x ≠ v ∧ X.discardFrontBuffers ∧ X.currentBuffer = shown then w.discardCurrentBuffer x else some w

/-- All views of the surface, if the view is the throttling view. -/
def discardFront (w : World) (surface : Option SurfaceId) (v : ViewId) (shown : Option Addr) :
    Option World :=
  match surface with
  | none => some w
  | some s => do
    let S ← w.surfaces s
    if S.views.head? = some v then S.views.foldlM (discardOthers v shown) w else some w

/-- `QWaylandView::advance` and its result -/
def advance (w : World) (v : ViewId) : Option (World × Bool) := do
  let V ← w.views v
  if V.currentBuffer = V.nextBuffer ∧ ¬ V.forceAdvanceSucceed then return (w, false)
  if V.bufferLocked then return (w, false)
  let w ← w.discardFront V.surface v V.currentBuffer
  let V ← w.views v
  let heap ← w.heap.assignRef V.currentBuffer V.nextBuffer
  let V := { V with
    forceAdvanceSucceed := false
    currentBuffer := V.nextBuffer
    currentDamage := V.nextDamage }
  return ({ w.putView v V with heap := heap }, true)

/-- What `setSurface` does with the view's buffers. -/
def changeSurface (w : World) (v : ViewId) (newSurface : Option SurfaceId) : Option World := do
  let V ← w.views v
  let heap ← (if V.bufferLocked then some w.heap else w.heap.assignRef V.currentBuffer none)
  let heap ← heap.assignRef V.nextBuffer none
  let V := { V with
    surface := newSurface
    currentBuffer := if V.bufferLocked then V.currentBuffer else none
    currentDamage := if V.bufferLocked then V.currentDamage else .empty
    nextBuffer := none
    nextDamage := .empty }
  some { w.putView v V with heap := heap }

/-! ## The life of a surface -/

/-- `QWaylandCompositorPrivate::destroySurface` with the surface's destructors.  Nothing
refers to the surface: `derefView` only takes a view out of the list. -/
def deleteSurface (w : World) (s : SurfaceId) : Option World := do
  let S ← w.surfaces s
  let w ← S.views.foldlM (fun w v => w.changeSurface v none) w
  let heap ← w.heap.assignRef S.bufferRef none
  let heap ← S.bufferPool.foldlM (fun h a => h.setDestroyIfUnused a true) heap
  some { w with heap := heap, surfaces := Function.update w.surfaces s none }

def deref (w : World) (s : SurfaceId) : Option World := do
  let S ← w.surfaces s
  let w := w.putSurface s { S with refCount := S.refCount - 1 }
  if S.refCount - 1 = 0 then w.deleteSurface s else some w

/-- The loop of `derefView` -/
def derefTimes (s : SurfaceId) : Nat → World → Option World
  | 0, w => some w
  | n + 1, w => do
    let S ← w.surfaces s
    if 0 < S.refCount then (w.deref s).bind (derefTimes s n) else some w

def derefView (w : World) (s : SurfaceId) (v : ViewId) : Option World := do
  let S ← w.surfaces s
  derefTimes s (S.views.count v) (w.putSurface s { S with views := S.views.filter (· ≠ v) })

/-- The view leaves the surface that it has. -/
def leaveSurface (w : World) (v : ViewId) : Option SurfaceId → Option World
  | none => some w
  | some s => w.derefView s v

def refView (sizeOf : WlBuffer → QSize) (w : World) (s : SurfaceId) (v : ViewId) : Option World := do
  let S ← w.surfaces s
  if v ∈ S.views then return w
  let w := w.putSurface s { S with views := S.views ++ [v], refCount := S.refCount + 1 }
  let heap ← w.heap.copyRef S.buffer
  let size := bufferSize sizeOf heap S.buffer
  let w ← { w with heap := heap }.attachView v S.buffer (.ofRect ⟨⟨0, 0⟩, size⟩)
  let heap ← w.heap.dropRef S.buffer
  some { w with heap := heap }

/-- The view joins its new surface. -/
def joinSurface (sizeOf : WlBuffer → QSize) (w : World) (v : ViewId) : Option SurfaceId → Option World
  | none => some w
  | some s => w.refView sizeOf s v

/-- `QWaylandView::setSurface` -/
def setSurface (sizeOf : WlBuffer → QSize) (w : World) (v : ViewId) (newSurface : Option SurfaceId) :
    Option World := do
  let V ← w.views v
  if V.surface = newSurface then return w
  let w ← w.leaveSurface v V.surface
  let w ← w.changeSurface v newSurface
  w.joinSurface sizeOf v newSurface

/-- `QWaylandViewPrivate::markSurfaceAsDestroyed`, with its assertion -/
def markSurfaceAsDestroyed (sizeOf : WlBuffer → QSize) (s : SurfaceId) (w : World) (v : ViewId) :
    Option World := do
  let V ← w.views v
  if V.surface = some s then w.setSurface sizeOf v none else none

/-- `surface_destroy_resource`: the client destroys the surface, or is gone. -/
def surfaceDestroyResource (sizeOf : WlBuffer → QSize) (w : World) (s : SurfaceId) : Option World := do
  let S ← w.surfaces s
  let w ← S.views.foldlM (markSurfaceAsDestroyed sizeOf s) w
  let S ← w.surfaces s
  (w.putSurface s { S with mapped := false, destroyed := true }).deref s

/-- `QWaylandView`'s destructor, with those of its two references -/
def destroyView (w : World) (v : ViewId) : Option World := do
  let V ← w.views v
  let w ← w.leaveSurface v V.surface
  let heap ← w.heap.dropRef V.nextBuffer
  let heap ← heap.dropRef V.currentBuffer
  some { w with heap := heap, views := Function.update w.views v none }

/-- `QWaylandSurface::setThrottlingView`; `QList::move` needs the view to be there. -/
def setThrottlingView (sizeOf : WlBuffer → QSize) (w : World) (s : SurfaceId) (v : ViewId) :
    Option World := do
  let S ← w.surfaces s
  let w ← (if v ∈ S.views then some w else w.setSurface sizeOf v (some s))
  let S ← w.surfaces s
  if v ∈ S.views then some (w.putSurface s { S with views := v :: S.views.erase v }) else none

/-! ## Requests -/

/-- The first buffer of the pool that no `wl_buffer` uses. -/
def findFree (h : Heap) : List Addr → Option (Option Addr)
  | [] => some none
  | a :: pool => do
    let b ← h.cells a
    if !b.isRegisteredForBuffer then some (some a) else findFree h pool

/-- The heap, the pool and the buffer afterwards -/
def createSurfaceBuffer (h : Heap) (pool : List Addr) (buffer : Option WlBuffer) :
    Option (Heap × List Addr × Addr) := do
  match ← findFree h pool with
  | some a => do
    let b ← h.cells a
    some (h.put a (b.initializeBuffer buffer), pool, a)
  | none =>
    let h' := h.put h.next (SurfaceBuffer.new.initializeBuffer buffer)
    some ({ h' with next := h.next + 1 }, pool ++ [h.next], h.next)

/-- What was attached and not committed goes. -/
def disownPending (h : Heap) : Option Addr → Option Heap
  | none => some h
  | some a => h.disown a

def surfaceAttach (w : World) (s : SurfaceId) (buffer : Option WlBuffer) (x y : Int) :
    Option World := do
  let S ← w.surfaces s
  let heap ← disownPending w.heap S.pending.buffer
  let (heap, pool, a) ← createSurfaceBuffer heap S.bufferPool buffer
  let pending := { S.pending with buffer := some a, offset := ⟨x, y⟩, newlyAttached := true }
  some { w.putSurface s { S with bufferPool := pool, pending := pending } with heap := heap }

def setSize (S : Surface) (size : QSize) : Surface :=
  if S.size ≠ size then { S with opaqueRegion := .empty, size := size } else S

/-- The heap after `bufferRef = QWaylandBufferRef(buffer)`: a temporary refers to the buffer
while the old one is dropped. -/
def setBufferRef (h : Heap) (old new : Option Addr) : Option Heap := do
  let h ← h.copyRef new
  let h ← h.assignRef old new
  h.dropRef new

/-- `SurfaceBuffer::hasContent` -/
def hasContent (h : Heap) : Option Addr → Option Bool
  | none => some false
  | some a => (h.cells a).map SurfaceBuffer.hasContent

def setBackBuffer (sizeOf : WlBuffer → QSize) (w : World) (s : SurfaceId) (b : Option Addr)
    (d : QRegion) : Option World := do
  let S ← w.surfaces s
  let heap ← setBufferRef w.heap S.bufferRef b
  let size := bufferSize sizeOf heap b
  let damage := d.intersected (.ofRect ⟨⟨0, 0⟩, size⟩)
  let S := { setSize S size with buffer := b, bufferRef := b, damage := damage }
  let w ← S.views.foldlM (fun w v => w.attachView v b damage) { w.putSurface s S with heap := heap }
  let mapped ← hasContent w.heap b
  some (w.putSurface s { S with mapped := mapped })

/-- `surface_commit` after `setBackBuffer` -/
def applyPending (S : Surface) : Surface :=
  { S with
    pending := { S.pending with
      buffer := none
      offset := ⟨0, 0⟩
      newlyAttached := false
      damage := .empty }
    bufferScale := S.pending.bufferScale
    frameCallbacks := S.frameCallbacks ++ S.pendingFrameCallbacks
    pendingFrameCallbacks := []
    inputRegion := S.pending.inputRegion.intersected (.ofRect ⟨⟨0, 0⟩, S.size⟩) }

/-- The `wl_buffer` that a commit hands over. -/
def handedOver (w : World) (S : Surface) : List WlBuffer :=
  ((S.pending.buffer.bind w.heap.cells).bind SurfaceBuffer.buffer).toList

def setBufferCommitted (h : Heap) : Option Addr → Option Heap
  | none => some h
  | some a => h.setCommitted a

def surfaceCommit (sizeOf : WlBuffer → QSize) (w : World) (s : SurfaceId) : Option World := do
  let S ← w.surfaces s
  let commits := w.commits ++ w.handedOver S
  let w ← (if S.pending.buffer.isSome || S.pending.newlyAttached
    then w.setBackBuffer sizeOf s S.pending.buffer S.pending.damage else some w)
  let S ← w.surfaces s
  let heap ← setBufferCommitted w.heap S.buffer
  some { w.putSurface s (applyPending S) with heap := heap, commits := commits }

/-- A request that changes the surface only -/
def modifySurface (w : World) (s : SurfaceId) (f : Surface → Surface) : Option World :=
  (w.surfaces s).map fun S => w.putSurface s (f S)

def modifyView (w : World) (v : ViewId) (f : View → View) : Option World :=
  (w.views v).map fun V => w.putView v (f V)

def surfaceDamage (r : QRect) (S : Surface) : Surface :=
  { S with pending := { S.pending with damage := S.pending.damage.united (.ofRect r) } }

def surfaceSetOpaqueRegion (region : Option QRegion) (S : Surface) : Surface :=
  { S with opaqueRegion := region.getD .empty }

def surfaceSetInputRegion (region : Option QRegion) (S : Surface) : Surface :=
  { S with pending := { S.pending with inputRegion := region.getD infiniteRegion } }

def surfaceSetBufferScale (scale : Int) (S : Surface) : Surface :=
  { S with pending := { S.pending with bufferScale := scale } }

def surfaceFrame (w : World) (s : SurfaceId) : Option World := do
  let S ← w.surfaces s
  let callbacks := S.pendingFrameCallbacks ++ [⟨w.nextCallback, false⟩]
  some { w.putSurface s { S with pendingFrameCallbacks := callbacks } with
    nextCallback := w.nextCallback + 1 }

/-! ## Frame callbacks -/

def frameStarted (S : Surface) : Surface :=
  { S with frameCallbacks := S.frameCallbacks.map fun c => { c with canSend := true } }

/-- The loop of `sendFrameCallbacks`: what is left, and what is answered -/
def sendReady : List FrameCallback → List FrameCallback × List Nat
  | [] => ([], [])
  | c :: cs =>
    let (left, sent) := sendReady cs
    if c.canSend then (left, c.resource :: sent) else (c :: left, sent)

def sendFrameCallbacks (w : World) (s : SurfaceId) : Option World := do
  let S ← w.surfaces s
  let (left, sent) := sendReady S.frameCallbacks
  some { w.putSurface s { S with frameCallbacks := left } with sent := w.sent ++ sent.map (s, ·) }

/-- `destroyCallback`: the `wl_callback` is destroyed with its client. -/
def removeFrameCallback (resource : Nat) (S : Surface) : Surface :=
  { S with
    pendingFrameCallbacks := S.pendingFrameCallbacks.filter (·.resource ≠ resource)
    frameCallbacks := S.frameCallbacks.filter (·.resource ≠ resource) }

/-! ## Calls -/

/-- A renderer copies the view's current reference. -/
def copyBuffer (w : World) (v : ViewId) : Option World := do
  let V ← w.views v
  let heap ← w.heap.copyRef V.currentBuffer
  some { w with heap := heap, copies := V.currentBuffer.toList ++ w.copies }

/-- A renderer is done with a reference. -/
def dropCopy (w : World) (a : Addr) : Option World := do
  let heap ← w.heap.deref a
  some { w with heap := heap, copies := w.copies.erase a }

end World

inductive Call where
  | createSurface
  | attach (s : SurfaceId) (buffer : Option WlBuffer) (x y : Int)
  | damage (s : SurfaceId) (r : QRect)
  | frame (s : SurfaceId)
  | setOpaqueRegion (s : SurfaceId) (region : Option QRegion)
  | setInputRegion (s : SurfaceId) (region : Option QRegion)
  | setBufferScale (s : SurfaceId) (scale : Int)
  | commit (s : SurfaceId)
  | destroySurface (s : SurfaceId)
  | destroyBuffer (r : WlBuffer)
  | destroyCallback (s : SurfaceId) (resource : Nat)
  | createView
  | setSurface (v : ViewId) (s : Option SurfaceId)
  | advance (v : ViewId)
  | discardCurrentBuffer (v : ViewId)
  | setBufferLocked (v : ViewId) (locked : Bool)
  | setDiscardFrontBuffers (v : ViewId) (discard : Bool)
  | destroyView (v : ViewId)
  | setThrottlingView (s : SurfaceId) (v : ViewId)
  | copyBuffer (v : ViewId)
  | dropCopy (a : Addr)
  | frameStarted (s : SurfaceId)
  | sendFrameCallbacks (s : SurfaceId)

/-- What the call names exists: a request for an object that is gone is refused by
libwayland, and there is no object to make a call of. -/
def Call.named (w : World) : Call → Bool
  | createSurface | createView => true
  | attach s buffer _ _ => (w.surfaces s).isSome && buffer.all (· ∉ w.heap.gone)
  | damage s _ | frame s | setOpaqueRegion s _ | setInputRegion s _ | setBufferScale s _ | commit s
  | destroySurface s | destroyCallback s _ | frameStarted s | sendFrameCallbacks s =>
    (w.surfaces s).isSome
  | destroyBuffer r => r ∉ w.heap.gone
  | setSurface v s => (w.views v).isSome && s.all fun s => (w.surfaces s).isSome
  | advance v | discardCurrentBuffer v | setBufferLocked v _ | setDiscardFrontBuffers v _
  | destroyView v | copyBuffer v => (w.views v).isSome
  | setThrottlingView s v => (w.surfaces s).isSome && (w.views v).isSome
  | dropCopy a => a ∈ w.copies

def World.call (sizeOf : WlBuffer → QSize) (w : World) : Call → Option World
  | .createSurface =>
    some { w.putSurface w.nextSurface .new with nextSurface := w.nextSurface + 1 }
  | .attach s buffer x y => w.surfaceAttach s buffer x y
  | .damage s r => w.modifySurface s (surfaceDamage r)
  | .frame s => w.surfaceFrame s
  | .setOpaqueRegion s region => w.modifySurface s (surfaceSetOpaqueRegion region)
  | .setInputRegion s region => w.modifySurface s (surfaceSetInputRegion region)
  | .setBufferScale s scale => w.modifySurface s (surfaceSetBufferScale scale)
  | .commit s => w.surfaceCommit sizeOf s
  | .destroySurface s => w.surfaceDestroyResource sizeOf s
  | .destroyBuffer r => some { w with heap := w.heap.destroyWlBuffer r }
  | .destroyCallback s resource => w.modifySurface s (removeFrameCallback resource)
  | .createView => some { w.putView w.nextView .new with nextView := w.nextView + 1 }
  | .setSurface v s => w.setSurface sizeOf v s
  | .advance v => (w.advance v).map Prod.fst
  | .discardCurrentBuffer v => w.discardCurrentBuffer v
  | .setBufferLocked v locked => w.modifyView v fun V => { V with bufferLocked := locked }
  | .setDiscardFrontBuffers v discard =>
    w.modifyView v fun V => { V with discardFrontBuffers := discard }
  | .destroyView v => w.destroyView v
  | .setThrottlingView s v => w.setThrottlingView sizeOf s v
  | .copyBuffer v => w.copyBuffer v
  | .dropCopy a => w.dropCopy a
  | .frameStarted s => w.modifySurface s frameStarted
  | .sendFrameCallbacks s => w.sendFrameCallbacks s

def step (sizeOf : WlBuffer → QSize) (w : World) (c : Call) : Option World :=
  if c.named w then w.call sizeOf c else some w

end GreenIsland.Compositor

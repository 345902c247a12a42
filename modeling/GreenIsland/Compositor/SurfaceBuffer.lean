import GreenIsland.Lib.RefCounted
import GreenIsland.Lib.Tally

/-! A surface's buffers and the references to them (`QtWayland::SurfaceBuffer`,
`QWaylandBufferRef`).

A `SurfaceBuffer` stands for a `wl_buffer` while the compositor uses it.  It is
counted by the `QWaylandBufferRef`s that point to it; the last one that goes takes
its state apart, sends `wl_buffer.release`, and the buffer is free for the next
`wl_buffer`, or is deleted if its surface is gone.

`Heap` is where they live.  An operation on an address where there is none is a use
after free and has no result.  `Heap.Ok refs pending` is what every operation keeps,
with `refs` the references that exist and `pending` the buffers that a client has
attached and not yet committed; `Heap.Later` is what taking and dropping references
leaves alone, the account of each `wl_buffer` (`Heap.account`) included: released so
far, and still to be released. -/

namespace GreenIsland.Compositor

open RefCounted Tally

/-- A client's `wl_buffer`.  An identity: what a client creates later is another one. -/
abbrev WlBuffer := Nat

abbrev Addr := Nat

/-- `QtWayland::SurfaceBuffer` -/
structure SurfaceBuffer where
  buffer : Option WlBuffer
  committed : Bool
  isRegisteredForBuffer : Bool
  destroyed : Bool
  refCount : Int
  used : Bool
  destroyIfUnused : Bool
deriving DecidableEq, Repr

namespace SurfaceBuffer

/-- The constructor -/
def new : SurfaceBuffer := ⟨none, false, false, false, 0, false, false⟩

/-- `initialize` -/
def initializeBuffer (b : SurfaceBuffer) (buffer : Option WlBuffer) : SurfaceBuffer :=
  { b with buffer := buffer, committed := false, isRegisteredForBuffer := true, destroyed := false }

def setCommitted (b : SurfaceBuffer) : SurfaceBuffer := { b with committed := true }

def hasContent (b : SurfaceBuffer) : Bool := b.buffer.isSome

/-- The event that `destructBufferState` sends. -/
def sendRelease (b : SurfaceBuffer) : List WlBuffer := if b.committed then b.buffer.toList else []

/-- `destructBufferState`, the event apart -/
def destructed (b : SurfaceBuffer) : SurfaceBuffer :=
  { b with buffer := none, committed := false, isRegisteredForBuffer := false }

/-- `destroy_listener_callback`: the client destroys the `wl_buffer`. -/
def destroyListener (r : WlBuffer) (b : SurfaceBuffer) : SurfaceBuffer :=
  if b.buffer = some r then { b with destroyed := true, buffer := none } else b

end SurfaceBuffer

/-- The `SurfaceBuffer`s of all surfaces, the `wl_buffer.release` events sent, and
the `wl_buffer`s that their clients have destroyed. -/
structure Heap where
  cells : Addr → Option SurfaceBuffer
  next : Addr
  released : List WlBuffer
  gone : List WlBuffer

namespace Heap

def put (h : Heap) (a : Addr) (b : SurfaceBuffer) : Heap :=
  { h with cells := Function.update h.cells a (some b) }

def destructBufferState (h : Heap) (a : Addr) : Option Heap :=
  (h.cells a).map fun b => { h.put a b.destructed with released := h.released ++ b.sendRelease }

/-- `delete`, with the destructor -/
def delete (h : Heap) (a : Addr) : Option Heap := do
  let b ← h.cells a
  let h ← (if b.isRegisteredForBuffer then h.destructBufferState a else some h)
  some { h with cells := Function.update h.cells a none }

def destroyIfUnused (h : Heap) (a : Addr) : Option Heap := do
  let b ← h.cells a
  if !b.used && b.destroyIfUnused then h.delete a else some h

def disown (h : Heap) (a : Addr) : Option Heap := do
  let h ← h.destructBufferState a
  h.destroyIfUnused a

def setDestroyIfUnused (h : Heap) (a : Addr) (destroy : Bool) : Option Heap := do
  let b ← h.cells a
  (h.put a { b with destroyIfUnused := destroy }).destroyIfUnused a

def ref (h : Heap) (a : Addr) : Option Heap := do
  let b ← h.cells a
  some (h.put a { b with refCount := b.refCount + 1, used := b.refCount + 1 ≠ 0 })

def deref (h : Heap) (a : Addr) : Option Heap := do
  let b ← h.cells a
  let h := h.put a { b with refCount := b.refCount - 1, used := b.refCount - 1 ≠ 0 }
  if b.refCount - 1 = 0 then h.disown a else some h

def setCommitted (h : Heap) (a : Addr) : Option Heap := do
  let b ← h.cells a
  some (h.put a b.setCommitted)

/-! `QWaylandBufferRef`: a pointer that may be null -/

/-- The constructors -/
def copyRef (h : Heap) : Option Addr → Option Heap
  | none => some h
  | some a => h.ref a

/-- The destructor -/
def dropRef (h : Heap) : Option Addr → Option Heap
  | none => some h
  | some a => h.deref a

/-- `operator=`: the old buffer is dereferenced first. -/
def assignRef (h : Heap) (old new : Option Addr) : Option Heap := do
  let h ← h.dropRef old
  h.copyRef new

/-- The client destroys a `wl_buffer`: every listener is called. -/
def destroyWlBuffer (h : Heap) (r : WlBuffer) : Heap :=
  { h with
    cells := fun a => (h.cells a).map (SurfaceBuffer.destroyListener r)
    gone := r :: h.gone }

/-- The `wl_buffer` that the buffer at the address stands for. -/
def bufferAt (h : Heap) (a : Addr) : Option WlBuffer := (h.cells a).bind SurfaceBuffer.buffer

/-- The buffer will be released. -/
def Holds (r : WlBuffer) (o : Option SurfaceBuffer) : Prop :=
  o.any (fun b => b.committed && b.buffer == some r) = true

instance (r : WlBuffer) : DecidablePred (Holds r) := fun o => by unfold Holds; infer_instance

/-- Releases of a `wl_buffer`: those sent, and those to come. -/
def account (h : Heap) (r : WlBuffer) : Nat :=
  h.released.count r + tally (Holds r) h.cells h.next

end Heap

/-! ## The invariant -/

/-- What holds of a buffer that is `pending` or not. -/
structure SurfaceBuffer.Ok (pending : Prop) (b : SurfaceBuffer) : Prop where
  used_iff : b.used = true ↔ 0 < b.refCount
  registered_iff : b.isRegisteredForBuffer = true ↔ 0 < b.refCount ∨ pending
  used_of_committed : b.committed = true → 0 < b.refCount
  committed_of_used : 0 < b.refCount → b.committed = true ∨ pending
  registered_of_buffer : b.buffer ≠ none → b.isRegisteredForBuffer = true
  used_of_destroyIfUnused : b.destroyIfUnused = true → 0 < b.refCount
  noBuffer_of_destroyed : b.destroyed = true → b.buffer = none

/-- The heap, when `refs` are the references and `pending` are attached and not committed. -/
structure Heap.Ok (h : Heap) (refs : List Addr) (pending : Addr → Prop) : Prop where
  counted : Counted SurfaceBuffer.refCount h.cells refs
  cell : ∀ a b, h.cells a = some b → b.Ok (pending a)
  lt_next : ∀ a b, h.cells a = some b → a < h.next
  alive : ∀ a b r, h.cells a = some b → b.buffer = some r → r ∉ h.gone
  cell_of_pending : ∀ a, pending a → ∃ b, h.cells a = some b ∧ b.destroyIfUnused = false

/-- The buffer, perhaps counted otherwise; or its state was taken apart. -/
def SurfaceBuffer.Follows (b b' : SurfaceBuffer) : Prop :=
  b'.destroyIfUnused = b.destroyIfUnused ∧ b'.destroyed = b.destroyed ∧
    (b'.buffer = b.buffer ∧ b'.committed = b.committed ∧
        b'.isRegisteredForBuffer = b.isRegisteredForBuffer ∨
      b'.buffer = none ∧ b'.committed = false ∧ b'.isRegisteredForBuffer = false)

/-- What taking and dropping references leaves alone. -/
structure Heap.Later (h h' : Heap) : Prop where
  next_eq : h'.next = h.next
  gone_eq : h'.gone = h.gone
  old : ∀ a b', h'.cells a = some b' → ∃ b, h.cells a = some b ∧ b.Follows b'
  kept : ∀ a b, h.cells a = some b → b.destroyIfUnused = false → ∃ b', h'.cells a = some b'
  account_eq : ∀ r, h'.account r = h.account r

section
variable {b b' b'' : SurfaceBuffer}

theorem SurfaceBuffer.Follows.refl (b : SurfaceBuffer) : b.Follows b :=
  ⟨rfl, rfl, .inl ⟨rfl, rfl, rfl⟩⟩

theorem SurfaceBuffer.Follows.trans (h : b.Follows b') (h' : b'.Follows b'') : b.Follows b'' := by
  obtain ⟨hdestroy, hdestroyed, hstate⟩ := h
  obtain ⟨hdestroy', hdestroyed', hstate'⟩ := h'
  refine ⟨hdestroy'.trans hdestroy, hdestroyed'.trans hdestroyed, ?_⟩
  rcases hstate' with ⟨hbuffer, hcommitted, hregistered⟩ | hapart
  · rw [hbuffer, hcommitted, hregistered]
    exact hstate
  · exact .inr hapart

end

namespace Heap

variable {h h' h'' : Heap} {refs refs' : List Addr} {pending pending' : Addr → Prop} {a : Addr}
  {b b' : SurfaceBuffer} {r : WlBuffer}

theorem Later.refl (h : Heap) : Later h h :=
  ⟨rfl, rfl, fun _ b hb => ⟨b, hb, .refl b⟩, fun _ b hb _ => ⟨b, hb⟩, fun _ => rfl⟩

theorem Later.trans (h₁ : Later h h') (h₂ : Later h' h'') : Later h h'' where
  next_eq := h₂.next_eq.trans h₁.next_eq
  gone_eq := h₂.gone_eq.trans h₁.gone_eq
  old := by
    intro a b'' hb''
    obtain ⟨b', hb', hfollows'⟩ := h₂.old a b'' hb''
    obtain ⟨b, hb, hfollows⟩ := h₁.old a b' hb'
    exact ⟨b, hb, hfollows.trans hfollows'⟩
  kept := by
    intro a b hb hkeep
    obtain ⟨b', hb'⟩ := h₁.kept a b hb hkeep
    obtain ⟨c, hc, hfollows⟩ := h₁.old a b' hb'
    obtain rfl : b = c := Option.some.inj (hb.symm.trans hc)
    exact h₂.kept a b' hb' (hfollows.1.trans hkeep)
  account_eq r := (h₂.account_eq r).trans (h₁.account_eq r)

theorem Later.bufferAt_of (hlater : Later h h') (hr : h'.bufferAt a = some r) :
    h.bufferAt a = some r := by
  obtain ⟨b', hb', hbuffer'⟩ := Option.bind_eq_some_iff.1 hr
  obtain ⟨b, hb, -, -, hstate⟩ := hlater.old a b' hb'
  rcases hstate with ⟨hbuffer, -⟩ | ⟨hnone, -⟩
  · exact Option.bind_eq_some_iff.2 ⟨b, hb, hbuffer.symm.trans hbuffer'⟩
  · cases hnone.symm.trans hbuffer'

theorem holds_some : Holds r (some b) ↔ b.committed = true ∧ b.buffer = some r := by
  unfold Holds
  simp

theorem not_holds_none : ¬ Holds r none := by
  unfold Holds
  simp

/-- A buffer is put in the place of one that it follows. -/
theorem later_update {o : Option SurfaceBuffer} (released : List WlBuffer)
    (hb : h.cells a = some b) (ho : ∀ b', o = some b' → b.Follows b')
    (hkept : b.destroyIfUnused = false → o ≠ none)
    (haccount : ∀ r, released.count r + (if Holds r o then 1 else 0) =
      h.released.count r + (if Holds r (some b) then 1 else 0)) (hlt : a < h.next) :
    Later h { h with cells := Function.update h.cells a o, released := released } where
  next_eq := rfl
  gone_eq := rfl
  old := by
    intro x b' hb'
    change Function.update h.cells a o x = some b' at hb'
    by_cases hx : x = a
    · rw [hx, Function.update_self] at hb'
      exact ⟨b, hx ▸ hb, ho b' hb'⟩
    · rw [Function.update_of_ne hx] at hb'
      exact ⟨b', hb', .refl b'⟩
  kept := by
    intro x c hc hkeep
    change ∃ b', Function.update h.cells a o x = some b'
    by_cases hx : x = a
    · rw [hx, Function.update_self]
      obtain rfl : b = c := Option.some.inj (hb.symm.trans (hx ▸ hc))
      exact Option.ne_none_iff_exists'.1 (hkept hkeep)
    · rw [Function.update_of_ne hx]
      exact ⟨c, hc⟩
  account_eq := by
    intro r
    have htally := tally_update (p := Holds r) (f := h.cells) hlt o
    have hr := haccount r
    rw [hb] at htally
    change released.count r + tally (Holds r) (Function.update h.cells a o) h.next = h.account r
    unfold account
    omega

/-- The invariant when one cell and the references to it have changed. -/
theorem Ok.update {o : Option SurfaceBuffer} (released : List WlBuffer) (hok : h.Ok refs pending)
    (hlt : a < h.next)
    (hcounted : Counted SurfaceBuffer.refCount (Function.update h.cells a o) refs')
    (hpending : ∀ x, x ≠ a → (pending' x ↔ pending x))
    (ho : ∀ b', o = some b' → b'.Ok (pending' a) ∧ ∀ r, b'.buffer = some r → r ∉ h.gone)
    (hkept : pending' a → ∃ b', o = some b' ∧ b'.destroyIfUnused = false) :
    Ok { h with cells := Function.update h.cells a o, released := released } refs' pending' where
  counted := hcounted
  cell := by
    intro x b' hb'
    change Function.update h.cells a o x = some b' at hb'
    by_cases hx : x = a
    · rw [hx, Function.update_self] at hb'
      exact hx ▸ (ho b' hb').1
    · rw [Function.update_of_ne hx] at hb'
      have hcell := hok.cell x b' hb'
      rwa [← hpending x hx] at hcell
  lt_next := by
    intro x b' hb'
    change Function.update h.cells a o x = some b' at hb'
    by_cases hx : x = a
    · exact hx ▸ hlt
    · rw [Function.update_of_ne hx] at hb'
      exact hok.lt_next x b' hb'
  alive := by
    intro x b' r hb' hr
    change Function.update h.cells a o x = some b' at hb'
    by_cases hx : x = a
    · rw [hx, Function.update_self] at hb'
      exact (ho b' hb').2 r hr
    · rw [Function.update_of_ne hx] at hb'
      exact hok.alive x b' r hb' hr
  cell_of_pending := by
    intro x hpend
    change ∃ b', Function.update h.cells a o x = some b' ∧ _
    by_cases hx : x = a
    · rw [hx, Function.update_self]
      exact hkept (hx ▸ hpend)
    · rw [Function.update_of_ne hx]
      exact hok.cell_of_pending x ((hpending x hx).1 hpend)

/-! ## References are taken and dropped -/

theorem Ok.refCount_eq (hok : h.Ok refs pending) (hb : h.cells a = some b) :
    b.refCount = refs.count a := hok.counted.count_eq hb

/-- A buffer is counted anew, and is still referenced. -/
theorem Ok.recount {n : Int} (hok : h.Ok refs pending) (hb : h.cells a = some b) (hn : 0 < n)
    (hregistered : b.isRegisteredForBuffer = true) (hstate : b.committed = true ∨ pending a)
    (hcounted : Counted SurfaceBuffer.refCount
      (Function.update h.cells a (some { b with refCount := n, used := n ≠ 0 })) refs') :
    (h.put a { b with refCount := n, used := n ≠ 0 }).Ok refs' pending ∧
      Later h (h.put a { b with refCount := n, used := n ≠ 0 }) := by
  have hlt := hok.lt_next a b hb
  constructor
  · refine hok.update _ hlt hcounted (fun _ _ => Iff.rfl) ?_ ?_
    · rintro _ ⟨⟩
      refine ⟨⟨?_, ?_, ?_, ?_, ?_, ?_, ?_⟩, fun r => hok.alive a b r hb⟩
      · rw [decide_eq_true_iff]
        constructor <;> intro <;> omega
      · exact iff_of_true hregistered (.inl hn)
      · exact fun _ => hn
      · exact fun _ => hstate
      · exact fun _ => hregistered
      · exact fun _ => hn
      · exact (hok.cell a b hb).noBuffer_of_destroyed
    · intro hpend
      obtain ⟨c, hc, hkeep⟩ := hok.cell_of_pending a hpend
      obtain rfl : b = c := Option.some.inj (hb.symm.trans hc)
      exact ⟨_, rfl, hkeep⟩
  · refine later_update h.released hb ?_ (fun _ => Option.some_ne_none _) ?_ hlt
    · rintro _ ⟨⟩
      exact ⟨rfl, rfl, .inl ⟨rfl, rfl, rfl⟩⟩
    · intro r
      simp only [holds_some]

theorem Ok.ref (hok : h.Ok refs pending) (ha : a ∈ refs ∨ pending a) :
    ∃ h', h.ref a = some h' ∧ h'.Ok (a :: refs) pending ∧ Later h h' := by
  have hcell : ∃ b, h.cells a = some b := by
    rcases ha with hmem | hpend
    · exact (hok.counted.cell_of_mem hmem).imp fun _ hb => hb.1
    · exact (hok.cell_of_pending a hpend).imp fun _ hb => hb.1
  obtain ⟨b, hb⟩ := hcell
  have hbok := hok.cell a b hb
  have hcount := hok.refCount_eq hb
  have hstate : b.committed = true ∨ pending a := by
    rcases ha with hmem | hpend
    · exact hbok.committed_of_used ((hok.counted.pos_iff hb).2 hmem)
    · exact .inr hpend
  refine ⟨_, by rw [Heap.ref, hb]; rfl, ?_⟩
  exact hok.recount hb (by omega) (hbok.registered_iff.2 (ha.imp_left (hok.counted.pos_iff hb).2))
    hstate (hok.counted.take hb rfl)

/-- One of several references goes. -/
theorem Ok.deref_shared (hok : h.Ok (a :: refs) pending) (ha : a ∈ refs) :
    ∃ h', h.deref a = some h' ∧ h'.Ok refs pending ∧ Later h h' := by
  obtain ⟨b, hb, hpos⟩ := hok.counted.cell_of_mem (List.mem_cons_self (a := a) (l := refs))
  have hbok := hok.cell a b hb
  have hcount := hok.refCount_eq hb
  rw [List.count_cons_self] at hcount
  have hmore := List.count_pos_iff.2 ha
  have hne : b.refCount - 1 ≠ 0 := by omega
  refine ⟨_, by rw [Heap.deref, hb]; exact if_neg hne, ?_⟩
  exact hok.recount hb (by omega) (hbok.registered_iff.2 (.inl hpos)) (hbok.committed_of_used hpos)
    (hok.counted.drop hb rfl)

/-- The event that is sent and the state that is taken apart balance. -/
theorem count_sendRelease (b : SurfaceBuffer) (r : WlBuffer) :
    b.sendRelease.count r = if Holds r (some b) then 1 else 0 := by
  unfold SurfaceBuffer.sendRelease
  simp only [holds_some]
  cases hcommitted : b.committed with
  | false => simp
  | true =>
    cases hbuffer : b.buffer with
    | none => simp
    | some r' => simp [List.count_singleton]

/-- The last reference goes: the buffer is released. -/
theorem Ok.deref_last (hok : h.Ok (a :: refs) pending) (ha : a ∉ refs) (hpend : ¬ pending a) :
    ∃ h', h.deref a = some h' ∧ h'.Ok refs pending ∧ Later h h' := by
  obtain ⟨b, hb, hpos⟩ := hok.counted.cell_of_mem (List.mem_cons_self (a := a) (l := refs))
  have hcount := hok.refCount_eq hb
  rw [List.count_cons_self, List.count_eq_zero.2 ha] at hcount
  have hlt := hok.lt_next a b hb
  have hzero : b.refCount - 1 = 0 := by omega
  have hnot : ¬ 0 < b.refCount - 1 := by omega
  have haccount : ∀ r, (h.released ++ b.sendRelease).count r + 0 =
      h.released.count r + (if Holds r (some b) then 1 else 0) := by
    intro r
    rw [List.count_append, count_sendRelease, Nat.add_zero]
  cases hdestroy : b.destroyIfUnused with
  | false =>
    refine ⟨{ h with
        cells := Function.update h.cells a
          (some { b.destructed with refCount := b.refCount - 1, used := b.refCount - 1 ≠ 0 })
        released := h.released ++ b.sendRelease }, ?_, ?_, ?_⟩
    · simp [Heap.deref, hb, hzero, disown, destructBufferState, put, destroyIfUnused, hdestroy,
        SurfaceBuffer.destructed, SurfaceBuffer.sendRelease]
    · refine hok.update _ hlt (hok.counted.drop hb rfl) (fun _ _ => Iff.rfl) ?_ ?_
      · rintro _ ⟨⟩
        refine ⟨⟨?_, ?_, nofun, ?_, fun hne => absurd rfl hne, ?_, fun _ => rfl⟩, nofun⟩
        · exact iff_of_false (fun hused => of_decide_eq_true hused hzero) hnot
        · exact iff_of_false Bool.false_ne_true (not_or.2 ⟨hnot, hpend⟩)
        · exact fun hused => absurd hused hnot
        · exact fun htrue => absurd (hdestroy.symm.trans htrue) Bool.false_ne_true
      · exact fun hpend' => absurd hpend' hpend
    · refine later_update _ hb ?_ (fun _ => Option.some_ne_none _) ?_ hlt
      · rintro _ ⟨⟩
        exact ⟨rfl, rfl, .inr ⟨rfl, rfl, rfl⟩⟩
      · intro r
        rw [if_neg]
        · exact haccount r
        · rw [holds_some]
          exact fun hholds => absurd hholds.1 Bool.false_ne_true
  | true =>
    refine ⟨{ h with
        cells := Function.update h.cells a none
        released := h.released ++ b.sendRelease }, ?_, ?_, ?_⟩
    · simp [Heap.deref, hb, hzero, disown, destructBufferState, put, destroyIfUnused, hdestroy,
        SurfaceBuffer.destructed, SurfaceBuffer.sendRelease, delete]
    · have hcounted : Counted SurfaceBuffer.refCount (Function.update h.cells a none) refs := by
        refine hok.counted.update (fun x hx => (List.count_cons_of_ne (Ne.symm hx)).symm) ?_
        exact congrArg Nat.cast (List.count_eq_zero.2 ha)
      exact hok.update _ hlt hcounted (fun _ _ => Iff.rfl) nofun (fun hpend' => absurd hpend' hpend)
    · refine later_update _ hb nofun (fun hkeep => ?_) ?_ hlt
      · exact absurd (hdestroy.symm.trans hkeep) (by decide)
      · intro r
        rw [if_neg not_holds_none]
        exact haccount r

theorem Ok.deref (hok : h.Ok (a :: refs) pending) (ha : pending a → a ∈ refs) :
    ∃ h', h.deref a = some h' ∧ h'.Ok refs pending ∧ Later h h' := by
  by_cases hmem : a ∈ refs
  · exact hok.deref_shared hmem
  · exact hok.deref_last hmem fun hpend => hmem (ha hpend)

theorem Ok.perm (hok : h.Ok refs pending) (hperm : refs.Perm refs') : h.Ok refs' pending :=
  { hok with counted := hok.counted.perm hperm }

theorem Ok.copyRef {new : Option Addr} (hok : h.Ok refs pending)
    (hnew : ∀ a ∈ new, a ∈ refs ∨ pending a) :
    ∃ h', h.copyRef new = some h' ∧ h'.Ok (new.toList ++ refs) pending ∧ Later h h' := by
  cases new with
  | none => exact ⟨h, rfl, hok, .refl h⟩
  | some a => exact hok.ref (hnew a rfl)

theorem Ok.dropRef {old : Option Addr} (hok : h.Ok (old.toList ++ refs) pending)
    (hold : ∀ a ∈ old, pending a → a ∈ refs) :
    ∃ h', h.dropRef old = some h' ∧ h'.Ok refs pending ∧ Later h h' := by
  cases old with
  | none => exact ⟨h, rfl, hok, .refl h⟩
  | some a => exact hok.deref (hold a rfl)

/-- An assignment: what is assigned is held elsewhere, or by a temporary. -/
theorem Ok.assignRef {old new : Option Addr} (hok : h.Ok (old.toList ++ refs) pending)
    (hold : ∀ a ∈ old, pending a → a ∈ refs) (hnew : ∀ a ∈ new, a ∈ refs) :
    ∃ h', h.assignRef old new = some h' ∧ h'.Ok (new.toList ++ refs) pending ∧ Later h h' := by
  obtain ⟨h₁, hdrop, hok₁, hlater₁⟩ := hok.dropRef hold
  obtain ⟨h₂, hcopy, hok₂, hlater₂⟩ := hok₁.copyRef fun a ha => .inl (hnew a ha)
  refine ⟨h₂, ?_, hok₂, hlater₁.trans hlater₂⟩
  rw [Heap.assignRef, hdrop]
  exact hcopy

/-! ## A buffer from `attach` to `commit` -/

theorem Ok.not_committed (hok : h.Ok refs pending) (hb : h.cells a = some b) (ha : a ∉ refs) :
    b.committed = false :=
  eq_false_of_ne_true fun hcommitted =>
    ha ((hok.counted.pos_iff hb).1 ((hok.cell a b hb).used_of_committed hcommitted))

/-- A buffer that nothing references has nothing to release. -/
theorem Ok.not_holds (hok : h.Ok refs pending) (hb : h.cells a = some b) (ha : a ∉ refs) :
    ¬ Holds r (some b) := by
  rw [holds_some, hok.not_committed hb ha]
  exact fun hholds => Bool.false_ne_true hholds.1

/-- The pending buffer is replaced before it was committed. -/
theorem Ok.disown (hok : h.Ok refs pending) (hpend : pending a) (ha : a ∉ refs) :
    ∃ h', h.disown a = some h' ∧ h'.Ok refs (fun x => pending x ∧ x ≠ a) ∧ Later h h' := by
  obtain ⟨b, hb, hdestroy⟩ := hok.cell_of_pending a hpend
  have hcommitted := hok.not_committed hb ha
  have hlt := hok.lt_next a b hb
  have hbok := hok.cell a b hb
  have hrest : b.destructed.refCount = b.refCount := rfl
  refine ⟨h.put a b.destructed, ?_, ?_, ?_⟩
  · simp [Heap.disown, destructBufferState, hb, put, destroyIfUnused, hdestroy, hcommitted,
      SurfaceBuffer.destructed, SurfaceBuffer.sendRelease]
  · refine hok.update _ hlt (hok.counted.modify hb hrest) (fun x hx => and_iff_left hx) ?_ ?_
    · rintro _ ⟨⟩
      have hunused : ¬ 0 < b.refCount := fun hpos => ha ((hok.counted.pos_iff hb).1 hpos)
      refine ⟨⟨hbok.used_iff, ?_, nofun, ?_, fun hne => absurd rfl hne, ?_, fun _ => rfl⟩, nofun⟩
      · exact iff_of_false Bool.false_ne_true (not_or.2 ⟨hunused, fun hpend' => hpend'.2 rfl⟩)
      · exact fun hpos => absurd hpos hunused
      · exact hbok.used_of_destroyIfUnused
    · exact fun hpend' => absurd rfl hpend'.2
  · refine later_update h.released hb ?_ (fun _ => Option.some_ne_none _) ?_ hlt
    · rintro _ ⟨⟩
      exact ⟨rfl, rfl, .inr ⟨rfl, rfl, rfl⟩⟩
    · intro r
      rw [if_neg (hok.not_holds hb ha), if_neg]
      rw [holds_some]
      exact fun hholds => Bool.false_ne_true hholds.1

theorem account_update {o : Option SurfaceBuffer} (hold : ¬ Holds r (h.cells a))
    (hnew : ¬ Holds r o) : Heap.account { h with cells := Function.update h.cells a o } r =
      h.account r :=
  congrArg (h.released.count r + ·) (tally_update_of_not hold hnew)

theorem not_holds_initializeBuffer {buffer : Option WlBuffer} :
    ¬ Holds r (some (b.initializeBuffer buffer)) := by
  rw [holds_some]
  exact fun hholds => Bool.false_ne_true hholds.1

theorem ok_initializeBuffer {buffer : Option WlBuffer} (hused : b.used = true ↔ 0 < b.refCount)
    (hunused : ¬ 0 < b.refCount) (hkeep : b.destroyIfUnused = false) {pending : Prop}
    (hpend : pending) : (b.initializeBuffer buffer).Ok pending where
  used_iff := hused
  registered_iff := iff_of_true rfl (.inr hpend)
  used_of_committed := nofun
  committed_of_used := fun hpos => absurd hpos hunused
  registered_of_buffer := fun _ => rfl
  used_of_destroyIfUnused := fun hdestroy => absurd (hkeep.symm.trans hdestroy) Bool.false_ne_true
  noBuffer_of_destroyed := nofun

/-- A buffer that was free is attached. -/
theorem Ok.initializeBuffer {buffer : Option WlBuffer} (hok : h.Ok refs pending)
    (hb : h.cells a = some b) (hfree : b.isRegisteredForBuffer = false)
    (hbuffer : ∀ r ∈ buffer, r ∉ h.gone) :
    (h.put a (b.initializeBuffer buffer)).Ok refs (fun x => pending x ∨ x = a) ∧ a ∉ refs ∧
      ¬ pending a ∧ ∀ r, (h.put a (b.initializeBuffer buffer)).account r = h.account r := by
  have hbok := hok.cell a b hb
  have hnot : ¬ (0 < b.refCount ∨ pending a) := by
    rw [← hbok.registered_iff, hfree]
    exact Bool.false_ne_true
  have hunused := (not_or.1 hnot).1
  have hmem : a ∉ refs := fun hmem => hunused ((hok.counted.pos_iff hb).2 hmem)
  have hkeep : b.destroyIfUnused = false :=
    eq_false_of_ne_true fun hdestroy => hunused (hbok.used_of_destroyIfUnused hdestroy)
  have hlt := hok.lt_next a b hb
  refine ⟨?_, hmem, (not_or.1 hnot).2, fun r => ?_⟩
  · refine hok.update _ hlt (hok.counted.modify hb rfl) ?_ ?_ ?_
    · exact fun x hx => or_iff_left hx
    · rintro _ ⟨⟩
      exact ⟨ok_initializeBuffer hbok.used_iff hunused hkeep (.inr rfl), hbuffer⟩
    · exact fun _ => ⟨_, rfl, hkeep⟩
  · refine account_update ?_ not_holds_initializeBuffer
    rw [hb]
    exact hok.not_holds hb hmem

/-- A new buffer is attached. -/
theorem Ok.allocate {buffer : Option WlBuffer} (hok : h.Ok refs pending)
    (hbuffer : ∀ r ∈ buffer, r ∉ h.gone) :
    Ok { h.put h.next (SurfaceBuffer.new.initializeBuffer buffer) with next := h.next + 1 } refs
        (fun x => pending x ∨ x = h.next) ∧ h.cells h.next = none ∧
      ∀ r, Heap.account { h.put h.next (SurfaceBuffer.new.initializeBuffer buffer) with
        next := h.next + 1 } r = h.account r := by
  have hnew : h.cells h.next = none := by
    cases hb : h.cells h.next with
    | none => rfl
    | some b => exact absurd (hok.lt_next _ b hb) (Nat.lt_irrefl _)
  have hok' : Ok { h with next := h.next + 1 } refs pending :=
    { hok with lt_next := fun a b hb => Nat.lt_succ_of_lt (hok.lt_next a b hb) }
  refine ⟨?_, hnew, fun r => ?_⟩
  · refine hok'.update h.released (Nat.lt_succ_self _) (hok.counted.alloc hnew rfl) ?_
      ?_ ?_
    · exact fun x hx => or_iff_left hx
    · rintro _ ⟨⟩
      exact ⟨ok_initializeBuffer (by decide) (by decide) rfl (.inr rfl), hbuffer⟩
    · exact fun _ => ⟨_, rfl, rfl⟩
  · have hnone : ¬ Holds r (h.cells h.next) := hnew ▸ not_holds_none
    refine congrArg (h.released.count r + ·) ?_
    rw [tally_succ_of_not]
    · exact tally_update_of_not hnone not_holds_initializeBuffer
    · change ¬ Holds r (Function.update h.cells h.next _ h.next)
      rw [Function.update_self]
      exact not_holds_initializeBuffer

/-- A commit: the buffer is the compositor's until it is released. -/
theorem Ok.setCommitted (hok : h.Ok refs pending) (ha : a ∈ refs) :
    ∃ b, h.cells a = some b ∧ h.setCommitted a = some (h.put a b.setCommitted) ∧
      (h.put a b.setCommitted).Ok refs (fun x => pending x ∧ x ≠ a) ∧
      ∀ r, (h.put a b.setCommitted).account r =
        h.account r + (if b.committed = false ∧ b.buffer = some r then 1 else 0) := by
  obtain ⟨b, hb, hpos⟩ := hok.counted.cell_of_mem ha
  have hbok := hok.cell a b hb
  have hlt := hok.lt_next a b hb
  refine ⟨b, hb, by rw [Heap.setCommitted, hb]; rfl, ?_, fun r => ?_⟩
  · refine hok.update _ hlt (hok.counted.modify hb rfl) (fun x hx => and_iff_left hx) ?_ ?_
    · rintro _ ⟨⟩
      refine ⟨⟨hbok.used_iff, ?_, fun _ => hpos, fun _ => .inl rfl, hbok.registered_of_buffer, ?_,
        hbok.noBuffer_of_destroyed⟩, fun r => hok.alive a b r hb⟩
      · exact iff_of_true (hbok.registered_iff.2 (.inl hpos)) (.inl hpos)
      · exact fun _ => hpos
    · exact fun hpend => absurd rfl hpend.2
  · have htally := tally_update (p := Holds r) (f := h.cells) hlt (some b.setCommitted)
    have hnow : Holds r (some b.setCommitted) ↔ b.buffer = some r :=
      holds_some.trans (and_iff_right rfl)
    rw [hb] at htally
    simp only [hnow, holds_some] at htally
    change h.released.count r + tally (Holds r) (Function.update h.cells a (some b.setCommitted))
      h.next = _
    unfold account
    cases hcommitted : b.committed with
    | false =>
      simp only [hcommitted, Bool.false_eq_true, false_and, if_false, true_and] at htally ⊢
      omega
    | true =>
      simp only [hcommitted, true_and, Bool.true_eq_false, false_and, if_false] at htally ⊢
      omega

/-! ## The surface, or the `wl_buffer`, is destroyed -/

/-- The surface is gone: a buffer that nothing references is deleted, the others
will be when their last reference goes. -/
theorem Ok.setDestroyIfUnused (hok : h.Ok refs pending) (hb : h.cells a = some b)
    (ha : pending a → a ∉ refs) :
    ∃ o, h.setDestroyIfUnused a true = some { h with cells := Function.update h.cells a o } ∧
      Ok { h with cells := Function.update h.cells a o } refs (fun x => pending x ∧ x ≠ a) ∧
      (∀ r, Heap.account { h with cells := Function.update h.cells a o } r = h.account r) ∧
      ∀ b', o = some b' → b'.destroyIfUnused = true ∧ b'.buffer = b.buffer := by
  have hbok := hok.cell a b hb
  have hlt := hok.lt_next a b hb
  by_cases hmem : a ∈ refs
  · have hpos := (hok.counted.pos_iff hb).2 hmem
    have hused : b.used = true := hbok.used_iff.2 hpos
    have hcell : h.setDestroyIfUnused a true = some { h with
        cells := Function.update h.cells a (some { b with destroyIfUnused := true }) } := by
      simp [Heap.setDestroyIfUnused, hb, destroyIfUnused, put, hused]
    refine ⟨_, hcell, ?_, fun r => ?_, ?_⟩
    · refine hok.update h.released hlt (hok.counted.modify hb rfl)
        (fun x hx => and_iff_left hx) ?_ (fun hpend => absurd rfl hpend.2)
      rintro _ ⟨⟩
      refine ⟨⟨hbok.used_iff, ?_, hbok.used_of_committed, ?_, hbok.registered_of_buffer,
        fun _ => hpos, hbok.noBuffer_of_destroyed⟩, fun r => hok.alive a b r hb⟩
      · exact iff_of_true (hbok.registered_iff.2 (.inl hpos)) (.inl hpos)
      · intro hused
        exact (hbok.committed_of_used hused).imp_right fun hpend => absurd hmem (ha hpend)
    · have htally := tally_update (p := Holds r) (f := h.cells) hlt
        (some { b with destroyIfUnused := true })
      rw [hb] at htally
      simp only [holds_some, Nat.add_right_cancel_iff] at htally
      exact congrArg (h.released.count r + ·) htally
    · rintro _ ⟨⟩
      exact ⟨rfl, rfl⟩
  · have hunused : b.used = false :=
      eq_false_of_ne_true fun hused => hmem ((hok.counted.pos_iff hb).1 (hbok.used_iff.1 hused))
    have hcommitted := hok.not_committed hb hmem
    have hcell : h.setDestroyIfUnused a true = some { h with
        cells := Function.update h.cells a none } := by
      cases hregistered : b.isRegisteredForBuffer <;>
        simp [Heap.setDestroyIfUnused, hb, destroyIfUnused, put, hunused, delete, hregistered,
          destructBufferState, SurfaceBuffer.sendRelease, hcommitted]
    refine ⟨none, hcell, ?_, fun r => ?_, nofun⟩
    · exact hok.update h.released hlt (hok.counted.free hmem)
        (fun x hx => and_iff_left hx) nofun (fun hpend => absurd rfl hpend.2)
    · refine account_update ?_ not_holds_none
      rw [hb]
      exact hok.not_holds hb hmem

theorem destroyListener_refCount (b : SurfaceBuffer) :
    (b.destroyListener r).refCount = b.refCount := by
  unfold SurfaceBuffer.destroyListener
  split <;> rfl

theorem destroyListener_buffer (b : SurfaceBuffer) :
    (b.destroyListener r).buffer ≠ some r ∧
      ∀ r', (b.destroyListener r).buffer = some r' → b.buffer = some r' := by
  unfold SurfaceBuffer.destroyListener
  split
  · exact ⟨nofun, nofun⟩
  · next hother => exact ⟨hother, fun _ => id⟩

/-- The client destroys a `wl_buffer`. -/
theorem Ok.destroyWlBuffer (hok : h.Ok refs pending) (r : WlBuffer) :
    (h.destroyWlBuffer r).Ok refs pending := by
  have hcell : ∀ a b', (h.destroyWlBuffer r).cells a = some b' →
      ∃ b, h.cells a = some b ∧ b.destroyListener r = b' :=
    fun a b' => Option.map_eq_some_iff.1
  refine ⟨fun a => ?_, fun a b' hb' => ?_, fun a b' hb' => ?_, fun a b' r' hb' hr' => ?_, ?_⟩
  · rw [hok.counted a]
    change _ = Option.elim ((h.cells a).map (SurfaceBuffer.destroyListener r)) 0 _
    cases h.cells a with
    | none => rfl
    | some b => exact (destroyListener_refCount b).symm
  · obtain ⟨b, hb, rfl⟩ := hcell a b' hb'
    have hbok := hok.cell a b hb
    unfold SurfaceBuffer.destroyListener
    split
    · exact { hbok with
        registered_of_buffer := fun hne => absurd rfl hne
        noBuffer_of_destroyed := fun _ => rfl }
    · exact hbok
  · obtain ⟨b, hb, -⟩ := hcell a b' hb'
    exact hok.lt_next a b hb
  · obtain ⟨b, hb, rfl⟩ := hcell a b' hb'
    intro hgone
    rcases List.mem_cons.1 hgone with rfl | hgone
    · exact (destroyListener_buffer b).1 hr'
    · exact hok.alive a b r' hb ((destroyListener_buffer b).2 r' hr') hgone
  · intro a hpend
    obtain ⟨b, hb, hkeep⟩ := hok.cell_of_pending a hpend
    refine ⟨b.destroyListener r, ?_, ?_⟩
    · exact Option.map_eq_some_iff.2 ⟨b, hb, rfl⟩
    · unfold SurfaceBuffer.destroyListener
      split <;> exact hkeep

/-- Other `wl_buffer`s' accounts are not affected. -/
theorem account_destroyWlBuffer {r' : WlBuffer} (hne : r' ≠ r) :
    (h.destroyWlBuffer r).account r' = h.account r' := by
  refine congrArg (h.released.count r' + ·) (tally_congr fun a _ => ?_)
  change Holds r' ((h.cells a).map (SurfaceBuffer.destroyListener r)) ↔ _
  cases h.cells a with
  | none => exact Iff.rfl
  | some b =>
    rw [Option.map_some, holds_some, holds_some]
    unfold SurfaceBuffer.destroyListener
    split
    · next hthis =>
      refine iff_of_false (fun hholds => by cases hholds.2) fun hholds => hne ?_
      exact Option.some.inj (hholds.2.symm.trans hthis)
    · exact Iff.rfl

theorem account_destroyWlBuffer_le : (h.destroyWlBuffer r).account r ≤ h.account r := by
  have hnone : tally (Holds r) (h.destroyWlBuffer r).cells h.next = 0 := tally_eq_zero fun a _ => ?_
  · exact Nat.add_le_add_left (hnone ▸ Nat.zero_le _) _
  change ¬ Holds r ((h.cells a).map (SurfaceBuffer.destroyListener r))
  cases h.cells a with
  | none => exact not_holds_none
  | some b =>
    rw [Option.map_some, holds_some]
    exact fun hholds => (destroyListener_buffer b).1 hholds.2

end Heap

end GreenIsland.Compositor

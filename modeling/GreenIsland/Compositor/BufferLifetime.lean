import GreenIsland.Compositor.References

/-! The invariant of surfaces, views and buffers, and the calls that keep it.

`World.Inv`: the heap counts the references (`Refs`), views and surfaces know of each other
(`Links`), each buffer that is kept is in the pool of one surface (`Pools`), what is
attached and not committed is referenced by nobody, and what clients have committed is
accounted for.  A call that leaves the surfaces' buffers alone keeps it by `Inv.quiet`;
what else there is to do is one lemma for each call, here for all but `commit` and the
end of a surface. -/

namespace GreenIsland.Compositor

open RefCounted Tally

variable {w w' w'' : World} {s t : SurfaceId} {v : ViewId} {S S' T : Surface} {V V' : View}
  {a : Addr} {temps refs : List Addr} {P : Addr → Prop} {h h' heap heap' : Heap} {b b' : SurfaceBuffer}

/-- A buffer that is in use afterwards still is what it was. -/
theorem Heap.Later.cell_of_registered (hlater : Heap.Later h h') (hb' : h'.cells a = some b')
    (hregistered : b'.isRegisteredForBuffer = true) :
    ∃ b, h.cells a = some b ∧ b'.buffer = b.buffer ∧ b'.committed = b.committed ∧
      b'.destroyed = b.destroyed := by
  obtain ⟨b, hb, -, hdestroyed, hstate⟩ := hlater.old a b' hb'
  rcases hstate with ⟨hbuffer, hcommitted, -⟩ | ⟨-, -, hfree⟩
  · exact ⟨b, hb, hbuffer, hcommitted, hdestroyed⟩
  · exact absurd (hfree.symm.trans hregistered) Bool.false_ne_true

theorem Heap.Later.cell_of_mem (hlater : Heap.Later h h') (hok : h'.Ok refs P) (ha : a ∈ refs)
    (hb : h.cells a = some b) :
    ∃ b', h'.cells a = some b' ∧ b'.buffer = b.buffer ∧ b'.committed = b.committed ∧
      b'.destroyed = b.destroyed := by
  obtain ⟨b', hb', hpos⟩ := hok.counted.cell_of_mem ha
  obtain ⟨c, hc, hsame⟩ := hlater.cell_of_registered hb'
    ((hok.cell a b' hb').registered_iff.2 (.inl hpos))
  obtain rfl : b = c := Option.some.inj (hb.symm.trans hc)
  exact ⟨b', hb', hsame⟩

theorem Heap.Later.bufferAt_eq (hlater : Heap.Later h h') (hok : h'.Ok refs P) (ha : a ∈ refs)
    (hcell : ∃ b, h.cells a = some b) : h'.bufferAt a = h.bufferAt a := by
  obtain ⟨b, hb⟩ := hcell
  obtain ⟨b', hb', hbuffer, -⟩ := hlater.cell_of_mem hok ha hb
  simp only [Heap.bufferAt, hb, hb', Option.bind_some, hbuffer]

theorem Heap.Later.bufferAt_eq_of_pending (hlater : Heap.Later h h') (hok : h'.Ok refs P) (ha : P a) :
    h'.bufferAt a = h.bufferAt a := by
  obtain ⟨b', hb', -⟩ := hok.cell_of_pending a ha
  obtain ⟨b, hb, hbuffer, -⟩ := hlater.cell_of_registered hb'
    ((hok.cell a b' hb').registered_iff.2 (.inr ha))
  simp only [Heap.bufferAt, hb, hb', Option.bind_some, hbuffer]

theorem Heap.bufferAt_put {x : Addr} (hb : h.cells a = some b)
    (hbuffer : b'.buffer = b.buffer) : (h.put a b').bufferAt x = h.bufferAt x := by
  change (Function.update h.cells a (some b') x).bind SurfaceBuffer.buffer = _
  by_cases hx : x = a
  · rw [hx, Function.update_self, Heap.bufferAt, hb, Option.bind_some, Option.bind_some, hbuffer]
  · rw [Function.update_of_ne hx, Heap.bufferAt]

/-- The buffer belongs to a surface that exists. -/
def Heap.Pooled (h : Heap) (a : Addr) : Prop :=
  ∃ b, h.cells a = some b ∧ b.destroyIfUnused = false

theorem Heap.Later.pooled_iff (hlater : Heap.Later h heap) : heap.Pooled a ↔ h.Pooled a := by
  constructor
  · rintro ⟨b', hb', hkeep⟩
    obtain ⟨b, hb, hfollows⟩ := hlater.old a b' hb'
    exact ⟨b, hb, hfollows.1.symm.trans hkeep⟩
  · rintro ⟨b, hb, hkeep⟩
    obtain ⟨b', hb'⟩ := hlater.kept a b hb hkeep
    obtain ⟨c, hc, hfollows⟩ := hlater.old a b' hb'
    obtain rfl : b = c := Option.some.inj (hb.symm.trans hc)
    exact ⟨b', hb', hfollows.1.trans hkeep⟩

theorem Heap.pooled_put {x : Addr} (hb : h.cells a = some b)
    (hkeep : b'.destroyIfUnused = b.destroyIfUnused) : (h.put a b').Pooled x ↔ h.Pooled x := by
  change (∃ c, Function.update h.cells a (some b') x = some c ∧ _) ↔ _
  by_cases hx : x = a
  · rw [hx, Function.update_self]
    unfold Heap.Pooled
    simp only [hb, Option.some.injEq, exists_eq_left', hkeep]
  · rw [Function.update_of_ne hx]
    exact Iff.rfl

theorem Heap.pooled_update_of_ne {o : Option SurfaceBuffer} {x : Addr} (hx : x ≠ a) :
    Heap.Pooled { h with cells := Function.update h.cells a o } x ↔ h.Pooled x := by
  change (∃ b, Function.update h.cells a o x = some b ∧ _) ↔ _
  rw [Function.update_of_ne hx]
  exact Iff.rfl

namespace World

/-! ## Pools -/

/-- Each buffer that is kept is in the pool of one surface. -/
structure Pools (heap : Heap) (surfaces : SurfaceId → Option Surface) : Prop where
  pooled_iff : ∀ a, heap.Pooled a ↔ ∃ s S, surfaces s = some S ∧ a ∈ S.bufferPool
  nodup : ∀ s S, surfaces s = some S → S.bufferPool.Nodup
  disjoint : ∀ s t S T a, surfaces s = some S → surfaces t = some T → a ∈ S.bufferPool →
    a ∈ T.bufferPool → s = t
  pending_mem : ∀ s S a, surfaces s = some S → S.pending.buffer = some a → a ∈ S.bufferPool

theorem Pools.congr (hpools : Pools heap w.surfaces) (hsame : ∀ a, heap'.Pooled a ↔ heap.Pooled a) :
    Pools heap' w.surfaces :=
  { hpools with pooled_iff := fun a => (hsame a).trans (hpools.pooled_iff a) }

/-- One surface's pool grows by buffers that were not there. -/
theorem Pools.extend (extra : List Addr) (hpools : Pools heap w.surfaces) (hS : w.surfaces s = some S)
    (hpool : S'.bufferPool = S.bufferPool ++ extra) (hnodup : extra.Nodup)
    (hfresh : ∀ a ∈ extra, ¬ heap.Pooled a)
    (hpooled : ∀ a, heap'.Pooled a ↔ heap.Pooled a ∨ a ∈ extra)
    (hpending : ∀ a, S'.pending.buffer = some a → a ∈ S'.bufferPool) :
    Pools heap' (w.putSurface s S').surfaces := by
  have hmem : ∀ t T a, (w.putSurface s S').surfaces t = some T → a ∈ T.bufferPool →
      t = s ∧ a ∈ extra ∨ ∃ T', w.surfaces t = some T' ∧ a ∈ T'.bufferPool := by
    intro t T a hT ha
    rcases putSurface_eq_some hT with ⟨rfl, rfl⟩ | ⟨-, hT⟩
    · rw [hpool] at ha
      rcases List.mem_append.1 ha with hold | hnew
      · exact .inr ⟨S, hS, hold⟩
      · exact .inl ⟨rfl, hnew⟩
    · exact .inr ⟨T, hT, ha⟩
  refine ⟨fun a => ?_, fun t T hT => ?_, fun t u T U a hT hU haT haU => ?_, fun t T a hT ha => ?_⟩
  · rw [hpooled, hpools.pooled_iff]
    constructor
    · rintro (⟨t, T, hT, ha⟩ | hnew)
      · by_cases ht : t = s
        · obtain rfl : S = T := Option.some.inj (hS.symm.trans (ht ▸ hT))
          exact ⟨s, S', putSurface_self, hpool ▸ List.mem_append_left _ ha⟩
        · exact ⟨t, T, (putSurface_of_ne ht).trans hT, ha⟩
      · exact ⟨s, S', putSurface_self, hpool ▸ List.mem_append_right _ hnew⟩
    · rintro ⟨t, T, hT, ha⟩
      rcases hmem t T a hT ha with ⟨-, hnew⟩ | ⟨T', hT', ha'⟩
      · exact .inr hnew
      · exact .inl ⟨t, T', hT', ha'⟩
  · rcases putSurface_eq_some hT with ⟨-, rfl⟩ | ⟨-, hT⟩
    · rw [hpool]
      refine List.nodup_append.2 ⟨hpools.nodup s S hS, hnodup, fun x hx y hy hxy => ?_⟩
      exact hfresh y hy ((hpools.pooled_iff y).2 ⟨s, S, hS, hxy ▸ hx⟩)
    · exact hpools.nodup t T hT
  · have hnot : ∀ t T, w.surfaces t = some T → a ∈ T.bufferPool → a ∉ extra := fun t T hT ha hnew =>
      hfresh a hnew ((hpools.pooled_iff a).2 ⟨t, T, hT, ha⟩)
    rcases hmem t T a hT haT with ⟨rfl, hnew⟩ | ⟨T', hT', haT'⟩ <;>
      rcases hmem u U a hU haU with ⟨rfl, hnew'⟩ | ⟨U', hU', haU'⟩
    · rfl
    · exact absurd hnew (hnot u U' hU' haU')
    · exact absurd hnew' (hnot t T' hT' haT')
    · exact hpools.disjoint t u T' U' a hT' hU' haT' haU'
  · rcases putSurface_eq_some hT with ⟨-, rfl⟩ | ⟨-, hT⟩
    · exact hpending a ha
    · exact hpools.pending_mem t T a hT ha

/-- A surface takes its pool with it. -/
theorem Pools.remove (hpools : Pools heap w.surfaces) (hS : w.surfaces s = some S)
    (hpooled : ∀ a, heap'.Pooled a ↔ heap.Pooled a ∧ a ∉ S.bufferPool) :
    Pools heap' (Function.update w.surfaces s none) := by
  have hold : ∀ t T, Function.update w.surfaces s none t = some T → t ≠ s ∧ w.surfaces t = some T := by
    intro t T hT
    have ht : t ≠ s := by
      rintro rfl
      rw [Function.update_self] at hT
      cases hT
    exact ⟨ht, (Function.update_of_ne ht none w.surfaces).symm.trans hT⟩
  refine ⟨fun a => ?_, fun t T hT => hpools.nodup t T (hold t T hT).2, ?_, ?_⟩
  · rw [hpooled, hpools.pooled_iff]
    constructor
    · rintro ⟨⟨t, T, hT, ha⟩, hnot⟩
      have ht : t ≠ s := by
        rintro rfl
        obtain rfl : S = T := Option.some.inj (hS.symm.trans hT)
        exact hnot ha
      exact ⟨t, T, (Function.update_of_ne ht none w.surfaces).trans hT, ha⟩
    · rintro ⟨t, T, hT, ha⟩
      obtain ⟨ht, hT'⟩ := hold t T hT
      exact ⟨⟨t, T, hT', ha⟩, fun hmem => ht (hpools.disjoint t s T S a hT' hS ha hmem)⟩
  · exact fun t u T U a hT hU => hpools.disjoint t u T U a (hold t T hT).2 (hold u U hU).2
  · exact fun t T a hT => hpools.pending_mem t T a (hold t T hT).2

theorem Quiet.pools (hquiet : Quiet w w') (hpools : Pools w.heap w.surfaces) :
    Pools w'.heap w'.surfaces := by
  have hsame : ∀ {s S'}, w'.surfaces s = some S' → ∃ S, w.surfaces s = some S ∧
      S'.bufferPool = S.bufferPool ∧ S'.pending.buffer = S.pending.buffer := by
    intro s S' hS'
    obtain ⟨S, hS, hcontent⟩ := hquiet.surface_of hS'
    exact ⟨S, hS, (congrArg Prod.fst hcontent).symm, (congrArg (·.2.1) hcontent).symm⟩
  refine ⟨fun a => ?_, fun s S' hS' => ?_, fun s t S' T' a hS' hT' ha ha' => ?_, fun s S' a hS' ha => ?_⟩
  · rw [hquiet.later.pooled_iff, hpools.pooled_iff]
    constructor
    · rintro ⟨s, S, hS, ha⟩
      obtain ⟨S', hS', hcontent⟩ := hquiet.surface hS
      have hpool : S'.bufferPool = S.bufferPool := congrArg Prod.fst hcontent
      exact ⟨s, S', hS', hpool ▸ ha⟩
    · rintro ⟨s, S', hS', ha⟩
      obtain ⟨S, hS, hpool, -⟩ := hsame hS'
      exact ⟨s, S, hS, hpool ▸ ha⟩
  · obtain ⟨S, hS, hpool, -⟩ := hsame hS'
    exact hpool ▸ hpools.nodup s S hS
  · obtain ⟨S, hS, hpool, -⟩ := hsame hS'
    obtain ⟨T, hT, hpool', -⟩ := hsame hT'
    exact hpools.disjoint s t S T a hS hT (hpool ▸ ha) (hpool' ▸ ha')
  · obtain ⟨S, hS, hpool, hpending⟩ := hsame hS'
    exact hpool ▸ hpools.pending_mem s S a hS (hpending ▸ ha)

/-! ## The invariant -/

/-- What holds before and after every call. -/
structure Inv (w : World) : Prop where
  refs : w.Refs [] w.PendingBuffer
  links : Links w.surfaces w.link
  bufferRef_eq : ∀ s S, w.surfaces s = some S → S.bufferRef = S.buffer
  pools : Pools w.heap w.surfaces
  pending_unused : ∀ a, w.PendingBuffer a → a ∉ w.refs
  account_le : ∀ r, w.heap.account r ≤ w.commits.count r
  account_eq : ∀ r, r ∉ w.heap.gone → w.heap.account r = w.commits.count r

theorem Quiet.pendingBuffer_eq (hquiet : Quiet w w') : w'.PendingBuffer = w.PendingBuffer := by
  funext a
  refine propext ⟨?_, ?_⟩
  · rintro ⟨s, S', hS', ha⟩
    obtain ⟨S, hS, hcontent⟩ := hquiet.surface_of hS'
    have hpending : S.pending.buffer = S'.pending.buffer := congrArg (·.2.1) hcontent
    exact ⟨s, S, hS, hpending.trans ha⟩
  · rintro ⟨s, S, hS, ha⟩
    obtain ⟨S', hS', hcontent⟩ := hquiet.surface hS
    have hpending : S'.pending.buffer = S.pending.buffer := congrArg (·.2.1) hcontent
    exact ⟨s, S', hS', hpending.trans ha⟩

/-- A call that leaves the surfaces' buffers alone. -/
theorem Inv.quiet (hinv : w.Inv) (hquiet : Quiet w w') (hrefs : w'.Refs [] w.PendingBuffer)
    (hlinks : Links w'.surfaces w'.link) : w'.Inv where
  refs := hquiet.pendingBuffer_eq ▸ hrefs
  links := hlinks
  bufferRef_eq := by
    intro s S' hS'
    obtain ⟨S, hS, hcontent⟩ := hquiet.surface_of hS'
    have href : S.bufferRef = S'.bufferRef := congrArg (·.2.2.1) hcontent
    have hbuffer : S.buffer = S'.buffer := congrArg (·.2.2.2) hcontent
    rw [← href, ← hbuffer]
    exact hinv.bufferRef_eq s S hS
  pools := hquiet.pools hinv.pools
  pending_unused := by
    intro a hpend ha
    rw [hquiet.pendingBuffer_eq] at hpend
    exact hinv.pending_unused a hpend (hquiet.refs_sub a ha)
  account_le := by
    intro r
    rw [hquiet.later.account_eq, hquiet.commits_eq]
    exact hinv.account_le r
  account_eq := by
    intro r hr
    rw [hquiet.later.account_eq, hquiet.commits_eq]
    rw [hquiet.later.gone_eq] at hr
    exact hinv.account_eq r hr

/-- What clients are told, and what new objects are called. -/
def logs (w : World) : List (SurfaceId × Nat) × Nat × SurfaceId × List WlBuffer :=
  (w.sent, w.nextCallback, w.nextSurface, w.heap.gone)

theorem Calm.logs_eq (hcalm : Calm w w') : w'.logs = w.logs := by
  simp only [logs, hcalm.sent_eq, hcalm.nextCallback_eq, hcalm.nextSurface_eq, hcalm.later.gone_eq]

theorem Inv.cell_of_mem (hinv : w.Inv) (ha : a ∈ w.refs) : ∃ b, w.heap.cells a = some b :=
  (hinv.refs.heap.counted.cell_of_mem (List.mem_append_right _ ha)).imp fun _ hb => hb.1

/-- Nothing happens any more to a `wl_buffer` that its client has destroyed. -/
def Settled (w w' : World) : Prop :=
  ∀ r ∈ w.heap.gone, r ∈ w'.heap.gone ∧ w'.heap.account r = w.heap.account r

theorem Settled.trans (h : Settled w w') (h' : Settled w' w'') : Settled w w'' := by
  intro r hr
  obtain ⟨hr', haccount⟩ := h r hr
  obtain ⟨hr'', haccount'⟩ := h' r hr'
  exact ⟨hr'', haccount'.trans haccount⟩

/-- Nothing is attached, and what is referenced or attached keeps its `wl_buffer`. -/
structure Flow (w w' : World) : Prop where
  settled : Settled w w'
  noNew : ∀ a r, w'.heap.bufferAt a = some r → w.heap.bufferAt a = some r
  steady : ∀ a ∈ w.refs, a ∈ w'.refs → w'.heap.bufferAt a = w.heap.bufferAt a
  pending_sub : ∀ a, w'.PendingBuffer a → w.PendingBuffer a
  pending : ∀ a, w'.PendingBuffer a → w'.heap.bufferAt a = w.heap.bufferAt a

theorem Flow.refl (w : World) : Flow w w :=
  ⟨fun _ hr => ⟨hr, rfl⟩, fun _ _ => id, fun _ _ _ => rfl, fun _ => id, fun _ _ => rfl⟩

theorem Quiet.flow (hquiet : Quiet w w') (hinv : w.Inv) (hinv' : w'.Inv) : Flow w w' where
  settled r hr := ⟨hquiet.later.gone_eq ▸ hr, hquiet.later.account_eq r⟩
  noNew _ _ := hquiet.later.bufferAt_of
  steady _ ha ha' := hquiet.later.bufferAt_eq hinv'.refs.heap (List.mem_append_right _ ha')
    (hinv.cell_of_mem ha)
  pending_sub a ha := by rwa [hquiet.pendingBuffer_eq] at ha
  pending _ ha := hquiet.later.bufferAt_eq_of_pending hinv'.refs.heap ha

/-- What was referenced before and after was so in between. -/
theorem Flow.trans (h : Flow w w') (h' : Flow w' w'') (hmid : ∀ a ∈ w''.refs, a ∈ w'.refs) :
    Flow w w'' where
  settled := h.settled.trans h'.settled
  noNew a r hr := h.noNew a r (h'.noNew a r hr)
  steady a ha ha' := (h'.steady a (hmid a ha') ha').trans (h.steady a ha (hmid a ha'))
  pending_sub a ha := h.pending_sub a (h'.pending_sub a ha)
  pending a ha := (h'.pending a ha).trans (h.pending a (h'.pending_sub a ha))

/-! ## Calls that leave the surfaces' buffers alone -/

theorem inv_init : init.Inv := by
  have hsurface : ∀ s S, init.surfaces s ≠ some S := fun _ _ => Option.some_ne_none _ ∘ Eq.symm
  have hview : ∀ v V, init.views v ≠ some V := fun _ _ => Option.some_ne_none _ ∘ Eq.symm
  have hcell : ∀ a b, init.heap.cells a ≠ some b := fun _ _ => Option.some_ne_none _ ∘ Eq.symm
  have hpending : ∀ a, ¬ init.PendingBuffer a := fun _ ⟨s, S, hS, _⟩ => hsurface s S hS
  refine ⟨⟨⟨counted_empty, ?_, ?_, ?_, ?_⟩, ?_, ?_, ?_⟩, ⟨?_, ?_, ?_, ?_⟩, ?_, ⟨?_, ?_, ?_, ?_⟩, ?_,
    fun _ => Nat.le_refl 0, fun _ _ => rfl⟩
  · exact fun a b hb => absurd hb (hcell a b)
  · exact fun a b hb => absurd hb (hcell a b)
  · exact fun a b _ hb => absurd hb (hcell a b)
  · exact fun a ha => absurd ha (hpending a)
  · exact fun v V hv => absurd hv (hview v V)
  · exact fun s S hS => absurd hS (hsurface s S)
  · exact fun a ha => absurd ha (hpending a)
  · exact fun s S hS => absurd hS (hsurface s S)
  · exact fun s S hS => absurd hS (hsurface s S)
  · exact fun s S hS => absurd hS (hsurface s S)
  · intro v s hlink
    obtain ⟨V, hV, -⟩ := Option.bind_eq_some_iff.1 hlink
    exact absurd hV (hview v V)
  · exact fun s S hS => absurd hS (hsurface s S)
  · exact fun a => iff_of_false (fun ⟨b, hb, _⟩ => hcell a b hb) fun ⟨s, S, hS, _⟩ => hsurface s S hS
  · exact fun s S hS => absurd hS (hsurface s S)
  · exact fun s _ S _ _ hS => absurd hS (hsurface s S)
  · exact fun s S _ hS => absurd hS (hsurface s S)
  · exact fun a ha => absurd ha (hpending a)

theorem Inv.modifySurface (hinv : w.Inv) (hS : w.surfaces s = some S) {f : Surface → Surface}
    (hcontent : (f S).content = S.content) (hviews : (f S).views.Perm S.views)
    (hcount : (f S).refCount = S.refCount) :
    ∃ w', w.modifySurface s f = some w' ∧ w'.Inv ∧ Quiet w w' ∧ w'.views = w.views := by
  have hquiet := quiet_putSurface hS hcontent
  refine ⟨w.putSurface s (f S), by rw [World.modifySurface, hS, Option.map_some], ?_, hquiet, rfl⟩
  exact hinv.quiet hquiet (hinv.refs.putSurface hS hcontent)
    (hinv.links.putSurface hS hviews hcount)

theorem Inv.modifyView (hinv : w.Inv) (hv : w.views v = some V) {f : View → View}
    (hrefs : (f V).refs = V.refs) (hsurface : (f V).surface = V.surface) :
    ∃ w', w.modifyView v f = some w' ∧ w'.Inv ∧ Calm w w' ∧
      w'.views = Function.update w.views v (some (f V)) := by
  have hsame : ∀ {β : Type} (g : Option View → β), g (some (f V)) = g (some V) →
      g ∘ Function.update w.views v (some (f V)) = g ∘ w.views := by
    intro β g hg
    rw [Function.comp_update]
    refine Function.update_eq_iff.2 ⟨?_, fun _ _ => rfl⟩
    rw [hg, Function.comp_apply, hv]
  have hrefs' : (w.putView v (f V)).refs = w.refs := by
    unfold World.refs putView
    rw [hsame viewRefs hrefs]
  have hlink : (w.putView v (f V)).link = w.link := hsame (fun o => o.bind View.surface) hsurface
  have hcalm : Calm w (w.putView v (f V)) :=
    ⟨⟨.refl _, fun _ => rfl, rfl, fun a ha => hrefs' ▸ ha, rfl⟩, fun _ => rfl, rfl, rfl⟩
  refine ⟨w.putView v (f V), by rw [World.modifyView, hv, Option.map_some], ?_, hcalm, rfl⟩
  refine hinv.quiet hcalm.toQuiet ⟨?_, ?_, hinv.refs.surface_lt, ?_⟩ (hlink ▸ hinv.links)
  · rw [hrefs']
    exact hinv.refs.heap
  · intro x X hx
    by_cases hxv : x = v
    · exact hxv ▸ hinv.refs.view_lt v V hv
    · exact hinv.refs.view_lt x X ((Function.update_of_ne hxv _ _).symm.trans hx)
  · intro a hP ha
    rw [hrefs'] at ha
    exact hinv.refs.held a hP ha

theorem Inv.discardCurrentBuffer (hinv : w.Inv) (hv : w.views v = some V) :
    ∃ w', w.discardCurrentBuffer v = some w' ∧ w'.Inv ∧ Calm w w' ∧
      ∃ V', w'.views = Function.update w.views v (some V') := by
  obtain ⟨w', hspec, hrefs, hcalm, hsurfaces, hviews⟩ := discardCurrentBuffer_spec hinv.refs hv
  refine ⟨w', hspec, hinv.quiet hcalm.toQuiet hrefs ?_, hcalm, _, hviews⟩
  have hlink : w'.link = w.link := by
    rw [link_update hviews, Option.bind_some]
    refine Function.update_eq_iff.2 ⟨?_, fun _ _ => rfl⟩
    rw [link, hv, Option.bind_some]
  rw [hsurfaces, hlink]
  exact hinv.links

theorem Inv.advance (hinv : w.Inv) (hv : w.views v = some V) :
    ∃ w', (w.advance v).map Prod.fst = some w' ∧ w'.Inv ∧ Calm w w' ∧ KeepsLocked w w' := by
  obtain ⟨w', shown, hspec, hrefs, hcalm, hsurfaces, hlink, hlocked⟩ :=
    advance_spec hinv.refs hinv.links hv
  refine ⟨w', by rw [hspec, Option.map_some], hinv.quiet hcalm.toQuiet hrefs ?_, hcalm, hlocked⟩
  rw [hsurfaces, hlink]
  exact hinv.links

theorem Inv.setSurface (sizeOf : WlBuffer → QSize) (hinv : w.Inv) (hv : w.views v = some V)
    (new : Option SurfaceId) (hnew : ∀ s ∈ new, ∃ S, w.surfaces s = some S) :
    ∃ w' V', w.setSurface sizeOf v new = some w' ∧ w'.Inv ∧ Calm w w' ∧
      w'.views = Function.update w.views v (some V') ∧ V'.surface = new ∧ V.Kept V' := by
  obtain ⟨w', V', hspec, hrefs, hcalm, hlinks, hviews, hsurface, hkept⟩ :=
    setSurface_spec sizeOf hinv.refs hinv.links hinv.bufferRef_eq hv new hnew
  exact ⟨w', V', hspec, hinv.quiet hcalm.toQuiet hrefs hlinks, hcalm, hviews, hsurface, hkept⟩

theorem Inv.setThrottlingView (sizeOf : WlBuffer → QSize) (hinv : w.Inv)
    (hS : w.surfaces s = some S) (hv : w.views v = some V) :
    ∃ w', w.setThrottlingView sizeOf s v = some w' ∧ w'.Inv ∧ Calm w w' ∧ KeepsLocked w w' := by
  have hjoin : ∃ w₁, (if v ∈ S.views then some w else w.setSurface sizeOf v (some s)) = some w₁ ∧
      w₁.Inv ∧ Calm w w₁ ∧ w₁.link v = some s ∧ KeepsLocked w w₁ := by
    by_cases hmem : v ∈ S.views
    · refine ⟨w, if_pos hmem, hinv, .refl w, ?_, keepsLocked_of_eq rfl⟩
      exact (hinv.links.mem_iff s S hS v).1 hmem
    · obtain ⟨w₁, V₁, hspec, hinv₁, hcalm₁, hviews₁, hsurface₁, hkept⟩ := hinv.setSurface sizeOf hv
        (some s) fun t ht => Option.some.inj ht ▸ ⟨S, hS⟩
      refine ⟨w₁, (if_neg hmem).trans hspec, hinv₁, hcalm₁, ?_, keepsLocked_of_kept hkept hv hviews₁⟩
      rw [link, hviews₁, Function.update_self, Option.bind_some, hsurface₁]
  obtain ⟨w₁, hspec, hinv₁, hcalm₁, hlink, hlocked⟩ := hjoin
  obtain ⟨S₁, hS₁, -⟩ := hcalm₁.surface hS
  have hmem : v ∈ S₁.views := (hinv₁.links.mem_iff s S₁ hS₁ v).2 hlink
  let S₂ := { S₁ with views := v :: S₁.views.erase v }
  have hcalm₂ : Calm w₁ (w₁.putSurface s S₂) := calm_putSurface hS₁ rfl
  refine ⟨w₁.putSurface s S₂, ?_, ?_, hcalm₁.trans hcalm₂, hlocked⟩
  · rw [World.setThrottlingView, hS]
    change Option.bind (if v ∈ S.views then some w else w.setSurface sizeOf v (some s)) _ = _
    rw [hspec]
    change Option.bind (w₁.surfaces s) _ = _
    rw [hS₁]
    exact if_pos hmem
  · exact hinv₁.quiet hcalm₂.toQuiet (hinv₁.refs.putSurface hS₁ rfl)
      (hinv₁.links.putSurface hS₁ (List.perm_cons_erase hmem).symm rfl)

/-- A view goes, and its references with it. -/
theorem Inv.destroyView (hinv : w.Inv) (hv : w.views v = some V) :
    ∃ w', w.destroyView v = some w' ∧ w'.Inv ∧ Calm w w' ∧
      w'.views = Function.update w.views v none := by
  have hlink : w.link v = V.surface := by rw [link, hv, Option.bind_some]
  obtain ⟨w₁, hleave, hrefs₁, hcalm₁, hlinks₁, hviews₁⟩ :=
    leaveSurface_spec (v := v) hinv.refs hinv.links
  have hv₁ : w₁.views v = some V := hviews₁ ▸ hv
  obtain ⟨rest, hperm, hrest, hupdate⟩ := refs_view hv₁ (hrefs₁.view_lt v V hv₁)
  have hnone := hupdate none
  have hbefore : w₁.refs.Perm (V.nextBuffer.toList ++ (V.currentBuffer.toList ++ rest)) := by
    refine hperm.trans ?_
    rw [← List.append_assoc]
    exact List.perm_append_comm.append_right rest
  have hplace : ∀ a, w.PendingBuffer a → a ∈ w₁.refs → a ∈ rest := fun a hP ha =>
    hrest a ((hrefs₁.held a hP ha).resolve_left List.not_mem_nil)
  obtain ⟨heap₂, hdrop₂, hok₂, hlater₂⟩ := (hrefs₁.heap.perm hbefore).dropRef fun a ha hP =>
    List.mem_append_right _ (hplace a hP (hbefore.mem_iff.2
      (List.mem_append_left _ (Option.mem_toList.2 ha))))
  obtain ⟨heap₃, hdrop₃, hok₃, hlater₃⟩ := hok₂.dropRef fun a ha hP =>
    hplace a hP (hbefore.mem_iff.2 (List.mem_append_right _
      (List.mem_append_left _ (Option.mem_toList.2 ha))))
  let w₃ : World := { w₁ with heap := heap₃, views := Function.update w₁.views v none }
  have hsub : ∀ a ∈ w₃.refs, a ∈ w₁.refs := fun a ha =>
    hperm.mem_iff.2 (List.mem_append_right _ (hnone.mem_iff.1 ha))
  have hcalm₃ : Calm w₁ w₃ := ⟨⟨hlater₂.trans hlater₃, fun _ => rfl, rfl, hsub, rfl⟩,
    fun _ => rfl, rfl, rfl⟩
  refine ⟨w₃, ?_, hinv.quiet (hcalm₁.trans hcalm₃).toQuiet ⟨hok₃.perm hnone.symm, ?_, ?_, ?_⟩ ?_,
    hcalm₁.trans hcalm₃, hviews₁ ▸ rfl⟩
  · rw [World.destroyView, hv]
    change Option.bind (w.leaveSurface v V.surface) _ = _
    rw [← hlink, hleave]
    change Option.bind (w₁.heap.dropRef V.nextBuffer) _ = _
    rw [hdrop₂]
    change Option.bind (heap₂.dropRef V.currentBuffer) _ = _
    rw [hdrop₃]
    rfl
  · intro x X hx
    by_cases hxv : x = v
    · rw [hxv] at hx
      cases (Function.update_self v none w₁.views).symm.trans hx
    · exact hrefs₁.view_lt x X ((Function.update_of_ne hxv none w₁.views).symm.trans hx)
  · exact hrefs₁.surface_lt
  · intro a hP ha
    exact hrefs₁.held a hP (hsub a ha)
  · rw [link_update (w := w) (v := v) (o := none) (hviews₁ ▸ rfl)]
    exact hlinks₁

theorem Inv.copyBuffer (hinv : w.Inv) (hv : w.views v = some V) :
    ∃ w', w.copyBuffer v = some w' ∧ w'.Inv ∧ Calm w w' ∧ w'.views = w.views := by
  obtain ⟨rest, hperm, -, -⟩ := refs_view hv (hinv.refs.view_lt v V hv)
  have hcurrent : ∀ a ∈ V.currentBuffer, a ∈ w.refs := fun a ha =>
    hperm.mem_iff.2 (List.mem_append_left _ (List.mem_append_left _ (Option.mem_toList.2 ha)))
  obtain ⟨heap, hcopy, hok, hlater⟩ := hinv.refs.heap.copyRef fun a ha => .inl (hcurrent a ha)
  let w₁ : World := { w with heap := heap, copies := V.currentBuffer.toList ++ w.copies }
  have hrefs : w₁.refs.Perm (V.currentBuffer.toList ++ w.refs) := by
    refine List.perm_iff_count.2 fun x => ?_
    simp only [World.refs, w₁, List.count_append]
    omega
  have hsub : ∀ a ∈ w₁.refs, a ∈ w.refs := by
    intro a ha
    rcases List.mem_append.1 (hrefs.mem_iff.1 ha) with hcopied | hold
    · exact hcurrent a (Option.mem_toList.1 hcopied)
    · exact hold
  have hcalm : Calm w w₁ :=
    ⟨⟨hlater, fun _ => rfl, rfl, hsub, rfl⟩, fun _ => rfl, rfl, rfl⟩
  refine ⟨w₁, ?_, hinv.quiet hcalm.toQuiet ⟨hok.perm hrefs.symm, hinv.refs.view_lt,
    hinv.refs.surface_lt, ?_⟩ hinv.links, hcalm, rfl⟩
  · rw [World.copyBuffer, hv]
    change Option.bind (w.heap.copyRef V.currentBuffer) _ = _
    rw [hcopy]
    rfl
  · intro a hP ha
    exact absurd (hsub a ha) (hinv.pending_unused a hP)

theorem Inv.dropCopy (hinv : w.Inv) (ha : a ∈ w.copies) :
    ∃ w', w.dropCopy a = some w' ∧ w'.Inv ∧ Calm w w' ∧ w'.views = w.views := by
  let w₁ : World := { w with copies := w.copies.erase a }
  have hrefs : w.refs.Perm (a :: w₁.refs) := by
    refine List.perm_iff_count.2 fun x => ?_
    have hcount := (List.perm_cons_erase ha).count_eq x
    simp only [World.refs, w₁, List.count_append, List.count_cons] at hcount ⊢
    omega
  have hmem : a ∈ w.refs := hrefs.mem_iff.2 List.mem_cons_self
  obtain ⟨heap, hderef, hok, hlater⟩ := (hinv.refs.heap.perm hrefs).deref fun hP =>
    absurd hmem (hinv.pending_unused a hP)
  have hsub : ∀ x ∈ w₁.refs, x ∈ w.refs := fun x hx => hrefs.mem_iff.2 (List.mem_cons_of_mem a hx)
  have hcalm : Calm w { w₁ with heap := heap } :=
    ⟨⟨hlater, fun _ => rfl, rfl, hsub, rfl⟩, fun _ => rfl, rfl, rfl⟩
  refine ⟨{ w₁ with heap := heap }, ?_, hinv.quiet hcalm.toQuiet ⟨hok, hinv.refs.view_lt,
    hinv.refs.surface_lt, ?_⟩ hinv.links, hcalm, rfl⟩
  · rw [World.dropCopy, hderef]
    rfl
  · intro x hP hx
    exact absurd (hsub x hx) (hinv.pending_unused x hP)

/-! ## New objects -/

theorem refs_newSurface {o : Option Surface} (ho : surfaceRefs o = []) :
    World.refs { w with
      surfaces := Function.update w.surfaces w.nextSurface o
      nextSurface := w.nextSurface + 1 } = w.refs := by
  have hnew := flatMap_range_new w.nextSurface (surfaceRefs ∘ w.surfaces)
  rw [← ho, ← Function.comp_update] at hnew
  unfold World.refs
  rw [hnew]

theorem refs_newView {o : Option View} (ho : viewRefs o = []) :
    World.refs { w with
      views := Function.update w.views w.nextView o
      nextView := w.nextView + 1 } = w.refs := by
  have hnew := flatMap_range_new w.nextView (viewRefs ∘ w.views)
  rw [← ho, ← Function.comp_update] at hnew
  unfold World.refs
  rw [hnew]

theorem Inv.createView (hinv : w.Inv) :
    Inv { w.putView w.nextView .new with nextView := w.nextView + 1 } ∧
      Calm w { w.putView w.nextView .new with nextView := w.nextView + 1 } ∧
      w.views w.nextView = none := by
  have hrefs := refs_newView (w := w) (o := some .new) rfl
  have hnew : w.views w.nextView = none := by
    cases hv : w.views w.nextView with
    | none => rfl
    | some V => exact absurd (hinv.refs.view_lt _ V hv) (Nat.lt_irrefl _)
  have hlink : ({ w.putView w.nextView .new with nextView := w.nextView + 1 } : World).link =
      w.link := by
    rw [link_update (w := w) (v := w.nextView) (o := some .new) rfl, Option.bind_some]
    refine Function.update_eq_iff.2 ⟨?_, fun _ _ => rfl⟩
    rw [link, hnew]
    rfl
  have hcalm : Calm w { w.putView w.nextView .new with nextView := w.nextView + 1 } :=
    ⟨⟨.refl _, fun _ => rfl, rfl, fun a ha => hrefs ▸ ha, rfl⟩, fun _ => rfl, rfl, rfl⟩
  refine ⟨hinv.quiet hcalm.toQuiet ⟨?_, ?_, hinv.refs.surface_lt, fun a hP ha =>
    hinv.refs.held a hP (hrefs ▸ ha)⟩ (hlink ▸ hinv.links), hcalm, hnew⟩
  · exact hinv.refs.heap.perm (.of_eq (congrArg ([] ++ ·) hrefs.symm))
  · intro x X hx
    by_cases hxv : x = w.nextView
    · exact hxv ▸ Nat.lt_succ_self _
    · exact Nat.lt_succ_of_lt (hinv.refs.view_lt x X ((Function.update_of_ne hxv _ _).symm.trans hx))

/-- What is in the place of a new surface -/
theorem newSurface_eq_some (hS : Function.update w.surfaces w.nextSurface (some .new) s = some S) :
    s = w.nextSurface ∧ S = .new ∨ s ≠ w.nextSurface ∧ w.surfaces s = some S := by
  by_cases hs : s = w.nextSurface
  · rw [hs, Function.update_self] at hS
    exact .inl ⟨hs, (Option.some.inj hS).symm⟩
  · exact .inr ⟨hs, (Function.update_of_ne hs _ _).symm.trans hS⟩

theorem Refs.newSurface_of (hrefs : w.Refs temps P) (hS : w.surfaces s = some S) :
    Function.update w.surfaces w.nextSurface (some .new) s = some S :=
  (Function.update_of_ne (Nat.ne_of_lt (hrefs.surface_lt s S hS)) _ _).trans hS

theorem Refs.pendingBuffer_newSurface (hrefs : w.Refs temps P) :
    World.PendingBuffer { w.putSurface w.nextSurface .new with nextSurface := w.nextSurface + 1 } =
      w.PendingBuffer := by
  funext a
  refine propext ⟨?_, fun ⟨s, S, hS, ha⟩ => ⟨s, S, hrefs.newSurface_of hS, ha⟩⟩
  rintro ⟨s, S, hS, ha⟩
  rcases newSurface_eq_some hS with ⟨-, rfl⟩ | ⟨-, hS⟩
  · cases ha
  · exact ⟨s, S, hS, ha⟩

/-- What the new surface has is nothing. -/
theorem Inv.createSurface (hinv : w.Inv) :
    Inv { w.putSurface w.nextSurface .new with nextSurface := w.nextSurface + 1 } := by
  have hrefs := refs_newSurface (w := w) (o := some .new) rfl
  have hpending := hinv.refs.pendingBuffer_newSurface
  have hholds : ∀ a, w.SurfaceHolds a → World.SurfaceHolds { w.putSurface w.nextSurface .new with
      nextSurface := w.nextSurface + 1 } a := fun a ⟨s, S, hS, hlt, ha⟩ =>
    ⟨s, S, hinv.refs.newSurface_of hS, Nat.lt_succ_of_lt hlt, ha⟩
  refine ⟨⟨?_, hinv.refs.view_lt, ?_, ?_⟩, ⟨?_, ?_, ?_, ?_⟩, ?_, ⟨?_, ?_, ?_, ?_⟩, ?_, hinv.account_le,
    hinv.account_eq⟩
  · rw [hpending]
    exact hinv.refs.heap.perm (.of_eq (congrArg ([] ++ ·) hrefs.symm))
  · intro s S hS
    rcases newSurface_eq_some hS with ⟨rfl, -⟩ | ⟨-, hS⟩
    · exact Nat.lt_succ_self _
    · exact Nat.lt_succ_of_lt (hinv.refs.surface_lt s S hS)
  · intro a hP ha
    rw [hpending] at hP
    exact (hinv.refs.held a hP (hrefs ▸ ha)).imp_right (hholds a)
  · intro s S hS
    rcases newSurface_eq_some hS with ⟨-, rfl⟩ | ⟨-, hS⟩
    · rfl
    · exact hinv.links.refCount s S hS
  · intro s S hS
    rcases newSurface_eq_some hS with ⟨-, rfl⟩ | ⟨-, hS⟩
    · exact List.nodup_nil
    · exact hinv.links.nodup s S hS
  · intro s S hS v
    rcases newSurface_eq_some hS with ⟨rfl, rfl⟩ | ⟨-, hS⟩
    · refine iff_of_false List.not_mem_nil fun hlink => ?_
      obtain ⟨S, hS⟩ := hinv.links.surface v _ hlink
      exact Nat.lt_irrefl _ (hinv.refs.surface_lt _ S hS)
    · exact hinv.links.mem_iff s S hS v
  · intro v s hlink
    obtain ⟨S, hS⟩ := hinv.links.surface v s hlink
    exact ⟨S, hinv.refs.newSurface_of hS⟩
  · intro s S hS
    rcases newSurface_eq_some hS with ⟨-, rfl⟩ | ⟨-, hS⟩
    · rfl
    · exact hinv.bufferRef_eq s S hS
  · intro a
    refine (hinv.pools.pooled_iff a).trans ?_
    constructor
    · exact fun ⟨s, S, hS, ha⟩ => ⟨s, S, hinv.refs.newSurface_of hS, ha⟩
    · rintro ⟨s, S, hS, ha⟩
      rcases newSurface_eq_some hS with ⟨-, rfl⟩ | ⟨-, hS⟩
      · cases ha
      · exact ⟨s, S, hS, ha⟩
  · intro s S hS
    rcases newSurface_eq_some hS with ⟨-, rfl⟩ | ⟨-, hS⟩
    · exact List.nodup_nil
    · exact hinv.pools.nodup s S hS
  · intro s t S T a hS hT ha ha'
    rcases newSurface_eq_some hS with ⟨-, rfl⟩ | ⟨-, hS⟩
    · cases ha
    rcases newSurface_eq_some hT with ⟨-, rfl⟩ | ⟨-, hT⟩
    · cases ha'
    exact hinv.pools.disjoint s t S T a hS hT ha ha'
  · intro s S a hS ha
    rcases newSurface_eq_some hS with ⟨-, rfl⟩ | ⟨-, hS⟩
    · cases ha
    · exact hinv.pools.pending_mem s S a hS ha
  · intro a hP ha
    rw [hpending] at hP
    exact hinv.pending_unused a hP (hrefs ▸ ha)

theorem Inv.surfaceFrame (hinv : w.Inv) (hS : w.surfaces s = some S) :
    ∃ w', w.surfaceFrame s = some w' ∧ w'.Inv ∧ Quiet w w' ∧ w'.views = w.views := by
  let S₁ := { S with
    pendingFrameCallbacks := S.pendingFrameCallbacks ++ [FrameCallback.mk w.nextCallback false] }
  have hquiet : Quiet w (w.putSurface s S₁) := quiet_putSurface hS rfl
  have hrefs : (w.putSurface s S₁).Refs [] w.PendingBuffer := hinv.refs.putSurface hS rfl
  have hquiet' : Quiet w { w.putSurface s S₁ with nextCallback := w.nextCallback + 1 } :=
    ⟨hquiet.later, hquiet.content_eq, rfl, hquiet.refs_sub, rfl⟩
  refine ⟨{ w.putSurface s S₁ with nextCallback := w.nextCallback + 1 }, ?_, ?_, hquiet', rfl⟩
  · rw [World.surfaceFrame, hS]
    rfl
  · exact hinv.quiet hquiet'
      ⟨hrefs.heap, hrefs.view_lt, hrefs.surface_lt, hrefs.held⟩
      (hinv.links.putSurface hS (.refl _) rfl)

theorem Inv.sendFrameCallbacks (hinv : w.Inv) (hS : w.surfaces s = some S) :
    ∃ w', w.sendFrameCallbacks s = some w' ∧ w'.Inv ∧ Quiet w w' ∧ w'.views = w.views := by
  let S₁ := { S with frameCallbacks := (sendReady S.frameCallbacks).1 }
  have hquiet : Quiet w (w.putSurface s S₁) := quiet_putSurface hS rfl
  have hrefs : (w.putSurface s S₁).Refs [] w.PendingBuffer := hinv.refs.putSurface hS rfl
  have hquiet' : Quiet w { w.putSurface s S₁ with
      sent := w.sent ++ (sendReady S.frameCallbacks).2.map (s, ·) } :=
    ⟨hquiet.later, hquiet.content_eq, rfl, hquiet.refs_sub, rfl⟩
  refine ⟨{ w.putSurface s S₁ with sent := w.sent ++ (sendReady S.frameCallbacks).2.map (s, ·) }, ?_, ?_,
    hquiet', rfl⟩
  · rw [World.sendFrameCallbacks, hS]
    rfl
  · exact hinv.quiet hquiet'
      ⟨hrefs.heap, hrefs.view_lt, hrefs.surface_lt, hrefs.held⟩
      (hinv.links.putSurface hS (.refl _) rfl)

theorem Inv.destroyBuffer (hinv : w.Inv) (r : WlBuffer) :
    Inv { w with heap := w.heap.destroyWlBuffer r } where
  refs := ⟨hinv.refs.heap.destroyWlBuffer r, hinv.refs.view_lt, hinv.refs.surface_lt, hinv.refs.held⟩
  links := hinv.links
  bufferRef_eq := hinv.bufferRef_eq
  pools := by
    refine hinv.pools.congr fun a => ?_
    change (∃ b, (w.heap.cells a).map (SurfaceBuffer.destroyListener r) = some b ∧ _) ↔ _
    unfold Heap.Pooled SurfaceBuffer.destroyListener
    cases w.heap.cells a with
    | none => exact Iff.rfl
    | some b =>
      simp only [Option.map_some, Option.some.injEq, exists_eq_left']
      split <;> exact Iff.rfl
  pending_unused := hinv.pending_unused
  account_le := by
    intro r'
    by_cases hr : r' = r
    · rw [hr]
      exact Heap.account_destroyWlBuffer_le.trans (hinv.account_le r)
    · rw [Heap.account_destroyWlBuffer hr]
      exact hinv.account_le r'
  account_eq := by
    intro r' hr'
    have hgone : r' ∉ r :: w.heap.gone := hr'
    rw [Heap.account_destroyWlBuffer (List.ne_of_not_mem_cons hgone)]
    exact hinv.account_eq r' (List.not_mem_of_not_mem_cons hgone)

/-! ## `attach` -/

/-- The buffers of one surface change: what is pending afterwards. -/
theorem pendingBuffer_putSurface (hpools : Pools heap w.surfaces) (hS : w.surfaces s = some S) :
    (w.putSurface s S').PendingBuffer a ↔
      (w.PendingBuffer a ∧ S.pending.buffer ≠ some a) ∨ S'.pending.buffer = some a := by
  constructor
  · rintro ⟨t, T, hT, ha⟩
    rcases putSurface_eq_some hT with ⟨-, rfl⟩ | ⟨ht, hT⟩
    · exact .inr ha
    · refine .inl ⟨⟨t, T, hT, ha⟩, fun hpend => ht ?_⟩
      exact hpools.disjoint t s T S a hT hS (hpools.pending_mem t T a hT ha)
        (hpools.pending_mem s S a hS hpend)
  · rintro (⟨⟨t, T, hT, ha⟩, hne⟩ | ha)
    · have ht : t ≠ s := by
        rintro rfl
        obtain rfl : S = T := Option.some.inj (hS.symm.trans hT)
        exact hne ha
      exact ⟨t, T, (putSurface_of_ne ht).trans hT, ha⟩
    · exact ⟨s, S', putSurface_self, ha⟩

theorem findFree_spec {pool : List Addr} (hcell : ∀ a ∈ pool, ∃ b, h.cells a = some b) :
    ∃ o, findFree h pool = some o ∧ ∀ a ∈ o, a ∈ pool ∧
      ∃ b, h.cells a = some b ∧ b.isRegisteredForBuffer = false := by
  induction pool with
  | nil => exact ⟨none, rfl, nofun⟩
  | cons a pool ih =>
    obtain ⟨b, hb⟩ := hcell a List.mem_cons_self
    cases hfree : b.isRegisteredForBuffer with
    | false =>
      refine ⟨some a, by simp [findFree, hb, hfree], ?_⟩
      rintro _ ⟨⟩
      exact ⟨List.mem_cons_self, b, hb, hfree⟩
    | true =>
      obtain ⟨o, hfind, ho⟩ := ih fun x hx => hcell x (List.mem_cons_of_mem a hx)
      refine ⟨o, by simp [findFree, hb, hfree, hfind], fun x hx => ?_⟩
      exact ⟨List.mem_cons_of_mem a (ho x hx).1, (ho x hx).2⟩

theorem bufferAt_put_self : (h.put a b).bufferAt a = b.buffer := by
  change (Function.update h.cells a (some b) a).bind SurfaceBuffer.buffer = _
  rw [Function.update_self, Option.bind_some]

theorem bufferAt_put_of_ne {x : Addr} (hx : x ≠ a) : (h.put a b).bufferAt x = h.bufferAt x := by
  change (Function.update h.cells a (some b) x).bind SurfaceBuffer.buffer = _
  rw [Function.update_of_ne hx, Heap.bufferAt]

/-- A pool that has the buffers it names gets the new `wl_buffer` into one that is free, or
grows by one. -/
theorem createSurfaceBuffer_spec (pool : List Addr) (buffer : Option WlBuffer)
    (hok : h.Ok refs P) (hcell : ∀ a ∈ pool, h.Pooled a) (hbuffer : ∀ r ∈ buffer, r ∉ h.gone) :
    ∃ heap extra a, createSurfaceBuffer h pool buffer = some (heap, pool ++ extra, a) ∧
      heap.Ok refs (fun x => P x ∨ x = a) ∧ a ∉ refs ∧ a ∈ pool ++ extra ∧ extra.Nodup ∧
      (∀ x ∈ extra, ¬ h.Pooled x) ∧ (∀ x, heap.Pooled x ↔ h.Pooled x ∨ x ∈ extra) ∧
      heap.gone = h.gone ∧ (∀ r, heap.account r = h.account r) ∧ heap.bufferAt a = buffer ∧
      ∀ x, x ≠ a → heap.bufferAt x = h.bufferAt x := by
  obtain ⟨o, hfind, ho⟩ := findFree_spec fun a ha => (hcell a ha).imp fun _ hb => hb.1
  cases o with
  | some a =>
    obtain ⟨hmem, b, hb, hfree⟩ := ho a rfl
    obtain ⟨hok', hunused, -, haccount⟩ := hok.initializeBuffer hb hfree hbuffer
    refine ⟨h.put a (b.initializeBuffer buffer), [], a, ?_, hok', hunused, ?_, List.nodup_nil, nofun,
      fun x => ?_, rfl, haccount, bufferAt_put_self, fun x hx => bufferAt_put_of_ne hx⟩
    · simp [createSurfaceBuffer, hfind, hb]
    · rwa [List.append_nil]
    · refine Iff.trans (Heap.pooled_put hb ?_) (or_iff_left List.not_mem_nil).symm
      rfl
  | none =>
    obtain ⟨hok', hnew, haccount⟩ := hok.allocate hbuffer
    have hnot : ¬ h.Pooled h.next := by
      rintro ⟨b, hb, -⟩
      cases hnew.symm.trans hb
    refine ⟨{ h.put h.next (SurfaceBuffer.new.initializeBuffer buffer) with next := h.next + 1 },
      [h.next], h.next, ?_, hok', ?_, List.mem_append_right _ (List.mem_singleton.2 rfl),
      List.nodup_singleton _, ?_, fun x => ?_, rfl, haccount, bufferAt_put_self (h := h),
      fun x hx => bufferAt_put_of_ne (h := h) hx⟩
    · simp [createSurfaceBuffer, hfind]
    · intro hmem
      obtain ⟨b, hb, -⟩ := hok.counted.cell_of_mem hmem
      cases hnew.symm.trans hb
    · intro x hx
      rwa [List.mem_singleton.1 hx]
    · rw [List.mem_singleton]
      by_cases hx : x = h.next
      · refine iff_of_true ⟨SurfaceBuffer.new.initializeBuffer buffer, ?_, rfl⟩ (.inr hx)
        rw [hx]
        exact Function.update_self ..
      · rw [or_iff_left hx]
        exact Heap.pooled_update_of_ne hx

theorem disownPending_spec (hok : h.Ok refs P) {o : Option Addr} (ho : ∀ a ∈ o, P a ∧ a ∉ refs) :
    ∃ h', disownPending h o = some h' ∧ h'.Ok refs (fun x => P x ∧ o ≠ some x) ∧ h.Later h' := by
  cases o with
  | none =>
    refine ⟨h, rfl, ?_, .refl h⟩
    have hsame : (fun x => P x ∧ none ≠ some x) = P := by
      funext x
      exact propext (and_iff_left nofun)
    rwa [hsame]
  | some a =>
    obtain ⟨h', hdisown, hok', hlater⟩ := hok.disown (ho a rfl).1 (ho a rfl).2
    refine ⟨h', hdisown, ?_, hlater⟩
    have hsame : (fun x => P x ∧ some a ≠ some x) = fun x => P x ∧ x ≠ a := by
      funext x
      refine propext (and_congr_right fun _ => not_congr ?_)
      rw [Option.some_inj]
      exact eq_comm
    rwa [hsame]

theorem Inv.surfaceAttach (hinv : w.Inv) (hS : w.surfaces s = some S) (buffer : Option WlBuffer)
    (hbuffer : ∀ r ∈ buffer, r ∉ w.heap.gone) (x y : Int) :
    ∃ w' a extra, w.surfaceAttach s buffer x y = some w' ∧ w'.Inv ∧ w'.views = w.views ∧
      w'.heap.bufferAt a = buffer ∧
      (∀ z r, z ≠ a → w'.heap.bufferAt z = some r →
        w.heap.bufferAt z = some r ∧ S.pending.buffer ≠ some z) ∧
      (∀ z ∈ w.refs, w'.heap.bufferAt z = w.heap.bufferAt z) ∧
      (∀ z, w.PendingBuffer z → S.pending.buffer ≠ some z → w'.heap.bufferAt z = w.heap.bufferAt z) ∧
      w'.surfaces = (w.putSurface s { S with
        bufferPool := S.bufferPool ++ extra
        pending := { S.pending with
          buffer := some a, offset := ⟨x, y⟩, newlyAttached := true } }).surfaces ∧
      w'.logs = w.logs ∧ Settled w w' := by
  obtain ⟨heap₁, hdisown, hok₁, hlater₁⟩ := disownPending_spec hinv.refs.heap
    (o := S.pending.buffer) fun a ha => ⟨⟨s, S, hS, ha⟩, hinv.pending_unused a ⟨s, S, hS, ha⟩⟩
  obtain ⟨heap₂, extra, a, hcreate, hok₂, hunused, hmem, hnodup, hfresh, hpooled, hgone, haccount,
    hself, hother⟩ :=
    createSurfaceBuffer_spec S.bufferPool buffer hok₁
      (fun a ha => hlater₁.pooled_iff.2 ((hinv.pools.pooled_iff a).2 ⟨s, S, hS, ha⟩))
      (hlater₁.gone_eq ▸ hbuffer)
  let S₁ := { S with
    bufferPool := S.bufferPool ++ extra
    pending := { S.pending with buffer := some a, offset := ⟨x, y⟩, newlyAttached := true } }
  have hrefs : (w.putSurface s S₁).refs = w.refs := refs_putSurface hS rfl
  have hpending : (w.putSurface s S₁).PendingBuffer =
      fun x => (w.PendingBuffer x ∧ S.pending.buffer ≠ some x) ∨ x = a := by
    funext x
    refine propext ((pendingBuffer_putSurface hinv.pools hS).trans (or_congr_right ?_))
    change some a = some x ↔ x = a
    rw [Option.some_inj]
    exact eq_comm
  have hpools₁ : Pools heap₁ w.surfaces := hinv.pools.congr fun a => hlater₁.pooled_iff
  have hpendingUnused : ∀ x, (w.putSurface s S₁).PendingBuffer x → x ∉ w.refs := by
    intro x hP
    rw [hpending] at hP
    rcases hP with ⟨hold, -⟩ | rfl
    · exact hinv.pending_unused x hold
    · exact hunused
  have hother' : ∀ z, w.PendingBuffer z → S.pending.buffer ≠ some z → z ≠ a := by
    rintro z ⟨t, T, hT, hz⟩ hne rfl
    have hpool := hinv.pools.pending_mem t T z hT hz
    rcases List.mem_append.1 hmem with hold | hnew
    · obtain rfl := hinv.pools.disjoint t s T S z hT hS hpool hold
      obtain rfl : S = T := Option.some.inj (hS.symm.trans hT)
      exact hne hz
    · exact hfresh z hnew ((hpools₁.pooled_iff z).2 ⟨t, T, hT, hpool⟩)
  refine ⟨{ w.putSurface s S₁ with heap := heap₂ }, a, extra, ?_, ⟨⟨?_, hinv.refs.view_lt, ?_, ?_⟩, ?_,
    ?_, ?_, ?_, ?_, ?_⟩, rfl, hself, fun z r hz hr => ?_, fun z hz => ?_, fun z hz hne => ?_, rfl, ?_,
    fun r hr => ⟨?_, (haccount r).trans (hlater₁.account_eq r)⟩⟩
  · rw [World.surfaceAttach, hS]
    change Option.bind (disownPending w.heap S.pending.buffer) _ = _
    rw [hdisown]
    change Option.bind (createSurfaceBuffer heap₁ S.bufferPool buffer) _ = _
    rw [hcreate]
    rfl
  · change heap₂.Ok ([] ++ (w.putSurface s S₁).refs) (w.putSurface s S₁).PendingBuffer
    rw [hrefs, hpending]
    exact hok₂
  · intro t T hT
    rcases putSurface_eq_some hT with ⟨rfl, -⟩ | ⟨-, hT⟩
    · exact hinv.refs.surface_lt t S hS
    · exact hinv.refs.surface_lt t T hT
  · intro x hP hx
    exact absurd (hrefs ▸ hx) (hpendingUnused x hP)
  · exact hinv.links.putSurface hS (.refl _) rfl
  · intro t T hT
    rcases putSurface_eq_some hT with ⟨-, rfl⟩ | ⟨-, hT⟩
    · exact hinv.bufferRef_eq s S hS
    · exact hinv.bufferRef_eq t T hT
  · refine hpools₁.extend extra hS rfl hnodup hfresh hpooled ?_
    rintro _ ⟨⟩
    exact hmem
  · intro x hP hx
    exact hpendingUnused x hP (hrefs ▸ hx)
  · intro r
    change heap₂.account r ≤ _
    rw [haccount, hlater₁.account_eq]
    exact hinv.account_le r
  · intro r hr
    change heap₂.account r = _
    rw [haccount, hlater₁.account_eq]
    refine hinv.account_eq r ?_
    rw [← hlater₁.gone_eq, ← hgone]
    exact hr
  · have hr₁ : heap₁.bufferAt z = some r := (hother z hz).symm.trans hr
    refine ⟨hlater₁.bufferAt_of hr₁, fun hpend => ?_⟩
    obtain ⟨b, hb, hbuf⟩ := Option.bind_eq_some_iff.1 hr₁
    have hbok := hok₁.cell z b hb
    have hregistered := hbok.registered_of_buffer (hbuf ▸ Option.some_ne_none r)
    rcases hbok.registered_iff.1 hregistered with hused | ⟨-, hne⟩
    · exact hinv.pending_unused z ⟨s, S, hS, hpend⟩ ((hok₁.counted.pos_iff hb).1 hused)
    · exact hne hpend
  · have hz' : z ≠ a := fun heq => hunused (heq ▸ hz)
    exact (hother z hz').trans (hlater₁.bufferAt_eq hok₁ hz (hinv.cell_of_mem hz))
  · exact (hother z (hother' z hz hne)).trans (hlater₁.bufferAt_eq_of_pending hok₁ ⟨hz, hne⟩)
  · simp only [logs, hgone, hlater₁.gone_eq]
    rfl
  · change r ∈ heap₂.gone
    rwa [hgone, hlater₁.gone_eq]

end World

end GreenIsland.Compositor

import GreenIsland.Compositor.Surface

/-! The references that surfaces, views and renderers hold, and the calls of views.

* `World.refs`: the `QWaylandBufferRef`s that exist; one view or surface apart, they are
  what the others hold (`refs_view`, `refs_surface`).
* `World.Refs w temps P`: the heap counts `w.refs` and the temporaries of the call that is
  going on.
* `World.Quiet w w'`: the call left the surfaces' buffers alone and nothing is referenced
  that was not.
* `World.Links`: a view is in the list of the surface that it shows, and in no other.

An assignment to one reference of a view is `Refs.assignView`; `attach`, `advance`,
`setSurface` and `discardCurrentBuffer` are made of it, and each has one lemma that
says what it returns. -/

namespace GreenIsland.Compositor

open RefCounted Tally

/-! ## The references that exist -/

def Surface.refs (S : Surface) : List Addr := S.bufferRef.toList

def View.refs (V : View) : List Addr := V.currentBuffer.toList ++ V.nextBuffer.toList

def surfaceRefs (o : Option Surface) : List Addr := o.elim [] Surface.refs

def viewRefs (o : Option View) : List Addr := o.elim [] View.refs

namespace World

variable {w w' w'' : World} {s : SurfaceId} {v : ViewId} {S S' : Surface} {V V' : View} {a : Addr}
  {temps : List Addr} {P : Addr → Prop} {heap : Heap}

/-- The `QWaylandBufferRef`s of views, surfaces and renderers that are not null. -/
def refs (w : World) : List Addr :=
  (List.range w.nextView).flatMap (viewRefs ∘ w.views) ++
    ((List.range w.nextSurface).flatMap (surfaceRefs ∘ w.surfaces) ++ w.copies)

def PendingBuffer (w : World) (a : Addr) : Prop :=
  ∃ s S, w.surfaces s = some S ∧ S.pending.buffer = some a

def SurfaceHolds (w : World) (a : Addr) : Prop :=
  ∃ s S, w.surfaces s = some S ∧ s < w.nextSurface ∧ S.bufferRef = some a

theorem mem_refs_of_holds (h : SurfaceHolds w a) : a ∈ w.refs := by
  obtain ⟨s, S, hS, hlt, href⟩ := h
  refine List.mem_append_right _ (List.mem_append_left _ ?_)
  refine List.mem_flatMap.2 ⟨s, List.mem_range.2 hlt, ?_⟩
  simp [surfaceRefs, hS, Surface.refs, href]

/-- What is held besides by one view. -/
theorem refs_view (hv : w.views v = some V) (hlt : v < w.nextView) :
    ∃ rest, w.refs.Perm (V.refs ++ rest) ∧ (∀ a, SurfaceHolds w a → a ∈ rest) ∧
      ∀ o, World.refs { w with views := Function.update w.views v o } |>.Perm (viewRefs o ++ rest) := by
  let rest := ((List.range w.nextView).erase v).flatMap (viewRefs ∘ w.views) ++
    ((List.range w.nextSurface).flatMap (surfaceRefs ∘ w.surfaces) ++ w.copies)
  have hupdate : ∀ o, (World.refs { w with views := Function.update w.views v o }).Perm
      (viewRefs o ++ rest) := by
    intro o
    have hperm := perm_flatMap_update List.nodup_range (List.mem_range.2 hlt) (viewRefs ∘ w.views)
      (viewRefs o)
    rw [← Function.comp_update] at hperm
    refine (hperm.append_right _).trans ?_
    rw [List.append_assoc]
  refine ⟨rest, ?_, ?_, hupdate⟩
  · have hself := hupdate (w.views v)
    rw [Function.update_eq_self, hv] at hself
    exact hself
  · rintro a ⟨s, S, hS, hs, href⟩
    refine List.mem_append_right _ (List.mem_append_left _ ?_)
    refine List.mem_flatMap.2 ⟨s, List.mem_range.2 hs, ?_⟩
    simp [surfaceRefs, hS, Surface.refs, href]

theorem refs_surface (hS : w.surfaces s = some S) (hlt : s < w.nextSurface) :
    ∃ rest, w.refs.Perm (S.refs ++ rest) ∧
      ∀ o, World.refs { w with surfaces := Function.update w.surfaces s o } |>.Perm
        (surfaceRefs o ++ rest) := by
  let rest := (List.range w.nextView).flatMap (viewRefs ∘ w.views) ++
    (((List.range w.nextSurface).erase s).flatMap (surfaceRefs ∘ w.surfaces) ++ w.copies)
  have hupdate : ∀ o, (World.refs { w with surfaces := Function.update w.surfaces s o }).Perm
      (surfaceRefs o ++ rest) := by
    intro o
    have hperm := perm_flatMap_update List.nodup_range (List.mem_range.2 hlt)
      (surfaceRefs ∘ w.surfaces) (surfaceRefs o)
    rw [← Function.comp_update] at hperm
    refine List.perm_iff_count.2 fun x => ?_
    have hcount := hperm.count_eq x
    simp only [refs, rest, List.count_append] at hcount ⊢
    omega
  refine ⟨rest, ?_, hupdate⟩
  have hself := hupdate (w.surfaces s)
  rw [Function.update_eq_self, hS] at hself
  exact hself

/-- A change that the surface's reference does not take part in. -/
theorem refs_putSurface (hS : w.surfaces s = some S) (href : S'.bufferRef = S.bufferRef) :
    (w.putSurface s S').refs = w.refs := by
  have hsame : surfaceRefs ∘ Function.update w.surfaces s (some S') = surfaceRefs ∘ w.surfaces := by
    rw [Function.comp_update]
    refine Function.update_eq_iff.2 ⟨?_, fun _ _ => rfl⟩
    simp [surfaceRefs, hS, Surface.refs, href]
  unfold refs putSurface
  rw [hsame]

/-! ## Views -/

/-- The heap counts the references, temporaries included, and what is pending is
referenced by its surface if at all. -/
structure Refs (w : World) (temps : List Addr) (P : Addr → Prop) : Prop where
  heap : w.heap.Ok (temps ++ w.refs) P
  view_lt : ∀ v V, w.views v = some V → v < w.nextView
  surface_lt : ∀ s S, w.surfaces s = some S → s < w.nextSurface
  held : ∀ a, P a → a ∈ temps ++ w.refs → a ∈ temps ∨ w.SurfaceHolds a

end World

/-- What a change of surface does with a view that is locked. -/
structure View.Kept (V V' : View) : Prop where
  locked_eq : V'.bufferLocked = V.bufferLocked
  discard_eq : V'.discardFrontBuffers = V.discardFrontBuffers
  current_eq : V.bufferLocked = true → V'.currentBuffer = V.currentBuffer

theorem View.Kept.trans {V V' V'' : View} (h : V.Kept V') (h' : V'.Kept V'') : V.Kept V'' :=
  ⟨h'.locked_eq.trans h.locked_eq, h'.discard_eq.trans h.discard_eq, fun hlocked =>
    (h'.current_eq (h.locked_eq.trans hlocked)).trans (h.current_eq hlocked)⟩

/-- The buffers of a surface -/
def Surface.content (S : Surface) : List Addr × Option Addr × Option Addr × Option Addr :=
  (S.bufferPool, S.pending.buffer, S.bufferRef, S.buffer)

/-- The surface apart from its views -/
def Surface.core (S : Surface) : Surface := { S with views := [], refCount := 0 }

namespace World

variable {w w' w'' : World} {s : SurfaceId} {v : ViewId} {S S' : Surface} {V V' : View} {a : Addr}
  {temps : List Addr} {P : Addr → Prop} {heap : Heap}

/-- Surfaces keep their buffers, and nothing is referenced that was not. -/
structure Quiet (w w' : World) : Prop where
  later : w.heap.Later w'.heap
  content_eq : ∀ s, (w'.surfaces s).map Surface.content = (w.surfaces s).map Surface.content
  nextSurface_eq : w'.nextSurface = w.nextSurface
  refs_sub : ∀ a ∈ w'.refs, a ∈ w.refs
  commits_eq : w'.commits = w.commits

theorem Quiet.refl (w : World) : Quiet w w := ⟨.refl _, fun _ => rfl, rfl, fun _ => id, rfl⟩

theorem Quiet.trans (h : Quiet w w') (h' : Quiet w' w'') : Quiet w w'' :=
  ⟨h.later.trans h'.later, fun s => (h'.content_eq s).trans (h.content_eq s),
    h'.nextSurface_eq.trans h.nextSurface_eq, fun a ha => h.refs_sub a (h'.refs_sub a ha),
    h'.commits_eq.trans h.commits_eq⟩

theorem Quiet.surface (h : Quiet w w') (hS : w.surfaces s = some S) :
    ∃ S', w'.surfaces s = some S' ∧ S'.content = S.content := by
  have heq := h.content_eq s
  rw [hS, Option.map_some] at heq
  exact Option.map_eq_some_iff.1 heq

theorem Quiet.surface_of (h : Quiet w w') (hS : w'.surfaces s = some S') :
    ∃ S, w.surfaces s = some S ∧ S.content = S'.content := by
  have heq := h.content_eq s
  rw [hS, Option.map_some] at heq
  exact Option.map_eq_some_iff.1 heq.symm

theorem Quiet.surfaceHolds (h : Quiet w w') (ha : w.SurfaceHolds a) : w'.SurfaceHolds a := by
  obtain ⟨s, S, hS, hlt, href⟩ := ha
  obtain ⟨S', hS', hcontent⟩ := h.surface hS
  refine ⟨s, S', hS', h.nextSurface_eq ▸ hlt, ?_⟩
  rw [← href]
  exact congrArg (·.2.2.1) hcontent

theorem quiet_putSurface (hS : w.surfaces s = some S) (hcontent : S'.content = S.content) :
    Quiet w (w.putSurface s S') := by
  refine ⟨.refl _, fun x => ?_, rfl, fun a ha => ?_, rfl⟩
  · change (Function.update w.surfaces s (some S') x).map Surface.content = _
    by_cases hx : x = s
    · rw [hx, Function.update_self, hS, Option.map_some, Option.map_some, hcontent]
    · rw [Function.update_of_ne hx]
  · rwa [refs_putSurface hS (congrArg (·.2.2.1) hcontent)] at ha

theorem Refs.putSurface (hrefs : w.Refs temps P) (hS : w.surfaces s = some S)
    (hcontent : S'.content = S.content) : (w.putSurface s S').Refs temps P := by
  have hsame := refs_putSurface hS (congrArg (·.2.2.1) hcontent)
  refine ⟨?_, hrefs.view_lt, fun x X hX => ?_, fun a hP ha => ?_⟩
  · rw [hsame]
    exact hrefs.heap
  · change Function.update w.surfaces s (some S') x = some X at hX
    by_cases hx : x = s
    · exact hx ▸ hrefs.surface_lt s S hS
    · rw [Function.update_of_ne hx] at hX
      exact hrefs.surface_lt x X hX
  · rw [hsame] at ha
    exact (hrefs.held a hP ha).imp_right (quiet_putSurface hS hcontent).surfaceHolds

/-- Besides, surfaces keep all of their state but for their views, and no frame callback is
made or answered. -/
structure Calm (w w' : World) : Prop extends Quiet w w' where
  core_eq : ∀ s, (w'.surfaces s).map Surface.core = (w.surfaces s).map Surface.core
  sent_eq : w'.sent = w.sent
  nextCallback_eq : w'.nextCallback = w.nextCallback

theorem Calm.refl (w : World) : Calm w w := ⟨.refl w, fun _ => rfl, rfl, rfl⟩

theorem Calm.trans (h : Calm w w') (h' : Calm w' w'') : Calm w w'' :=
  ⟨h.toQuiet.trans h'.toQuiet, fun s => (h'.core_eq s).trans (h.core_eq s),
    h'.sent_eq.trans h.sent_eq, h'.nextCallback_eq.trans h.nextCallback_eq⟩

theorem calm_of_later (h : w.heap.Later heap) : Calm w { w with heap := heap } :=
  ⟨⟨h, fun _ => rfl, rfl, fun _ => id, rfl⟩, fun _ => rfl, rfl, rfl⟩

theorem calm_putSurface (hS : w.surfaces s = some S) (hcore : S'.core = S.core) :
    Calm w (w.putSurface s S') := by
  have hcontent : S'.core.content = S.core.content := by rw [hcore]
  refine ⟨quiet_putSurface hS hcontent, fun x => ?_, rfl, rfl⟩
  change (Function.update w.surfaces s (some S') x).map Surface.core = _
  by_cases hx : x = s
  · rw [hx, Function.update_self, hS, Option.map_some, Option.map_some, hcore]
  · rw [Function.update_of_ne hx]

/-- One reference of a view is assigned. -/
theorem Refs.assignView (hrefs : w.Refs temps P) (hv : w.views v = some V) (V' : View)
    (old new : Option Addr) (keep : List Addr) (hV : V.refs.Perm (old.toList ++ keep))
    (hV' : V'.refs.Perm (new.toList ++ keep))
    (hnew : ∀ a ∈ new, w.SurfaceHolds a ∨ a ∈ keep) :
    ∃ heap, w.heap.assignRef old new = some heap ∧
      Refs { w.putView v V' with heap := heap } temps P ∧
      Calm w { w.putView v V' with heap := heap } := by
  obtain ⟨rest, hperm, hrest, hupdate⟩ := refs_view hv (hrefs.view_lt v V hv)
  have hbefore : (temps ++ w.refs).Perm (old.toList ++ (keep ++ (temps ++ rest))) := by
    refine List.perm_iff_count.2 fun x => ?_
    have hcount := hperm.count_eq x
    have hcount' := hV.count_eq x
    simp only [List.count_append] at hcount hcount' ⊢
    omega
  have hafter : (temps ++ (w.putView v V').refs).Perm (new.toList ++ (keep ++ (temps ++ rest))) := by
    refine List.perm_iff_count.2 fun x => ?_
    have hcount := (hupdate (some V')).count_eq x
    have hcount' := hV'.count_eq x
    simp only [putView, viewRefs, Option.elim_some, List.count_append] at hcount hcount' ⊢
    omega
  have hplace : ∀ a, w.SurfaceHolds a ∨ a ∈ keep → a ∈ keep ++ rest := fun a =>
    Or.rec (fun hholds => List.mem_append_right _ (hrest a hholds)) (List.mem_append_left _)
  have hweak : ∀ a, a ∈ keep ++ rest → a ∈ keep ++ (temps ++ rest) := fun a ha =>
    (List.mem_append.1 ha).elim (List.mem_append_left _)
      fun ha => List.mem_append_right _ (List.mem_append_right _ ha)
  obtain ⟨heap, hassign, hok, hlater⟩ := (hrefs.heap.perm hbefore).assignRef
    (fun a ha hP => by
      rcases hrefs.held a hP (hbefore.mem_iff.2 (List.mem_append_left _ (Option.mem_toList.2 ha)))
        with htemp | hholds
      · exact List.mem_append_right _ (List.mem_append_left _ htemp)
      · exact hweak a (hplace a (.inl hholds)))
    (fun a ha => hweak a (hplace a (hnew a ha)))
  have hsub : ∀ a ∈ (w.putView v V').refs, a ∈ w.refs := by
    intro a ha
    have hmem : a ∈ keep ++ rest := by
      have hmem := (hupdate (some V')).mem_iff.1 ha
      rw [List.mem_append, viewRefs, Option.elim_some, hV'.mem_iff, List.mem_append] at hmem
      rcases hmem with (hmem | hmem) | hmem
      · exact hplace a (hnew a (Option.mem_toList.1 hmem))
      · exact List.mem_append_left _ hmem
      · exact List.mem_append_right _ hmem
    refine hperm.mem_iff.2 ?_
    rw [List.mem_append, hV.mem_iff, List.mem_append, or_assoc]
    exact .inr (List.mem_append.1 hmem)
  refine ⟨heap, hassign, ⟨hok.perm hafter.symm, ?_, hrefs.surface_lt, ?_⟩,
    ⟨hlater, fun _ => rfl, rfl, hsub, rfl⟩, fun _ => rfl, rfl, rfl⟩
  · intro x X hx
    change Function.update w.views v (some V') x = some X at hx
    by_cases hxv : x = v
    · exact hxv ▸ hrefs.view_lt v V hv
    · rw [Function.update_of_ne hxv] at hx
      exact hrefs.view_lt x X hx
  · intro a hP ha
    refine hrefs.held a hP ?_
    rcases List.mem_append.1 ha with htemp | hmem
    · exact List.mem_append_left _ htemp
    · exact List.mem_append_right _ (hsub a hmem)

theorem attachView_spec (hrefs : w.Refs temps P) (hv : w.views v = some V) {ref : Option Addr}
    (damage : QRegion) (hnew : ∀ a ∈ ref, w.SurfaceHolds a) :
    ∃ w', w.attachView v ref damage = some w' ∧ w'.Refs temps P ∧ Calm w w' ∧
      w'.surfaces = w.surfaces ∧
      w'.views = Function.update w.views v
        (some { V with nextBuffer := ref, nextDamage := damage }) := by
  obtain ⟨heap, hassign, hrefs', hcalm⟩ := hrefs.assignView hv
    { V with nextBuffer := ref, nextDamage := damage } V.nextBuffer ref V.currentBuffer.toList
    List.perm_append_comm List.perm_append_comm (fun a ha => .inl (hnew a ha))
  refine ⟨_, ?_, hrefs', hcalm, rfl, rfl⟩
  rw [attachView, hv]
  change (w.heap.assignRef V.nextBuffer ref).bind _ = _
  rw [hassign]
  rfl

theorem discardCurrentBuffer_spec (hrefs : w.Refs temps P) (hv : w.views v = some V) :
    ∃ w', w.discardCurrentBuffer v = some w' ∧ w'.Refs temps P ∧ Calm w w' ∧
      w'.surfaces = w.surfaces ∧ w'.views = Function.update w.views v
        (some { V with currentBuffer := none, forceAdvanceSucceed := true }) := by
  obtain ⟨heap, hassign, hrefs', hcalm⟩ := hrefs.assignView hv
    { V with currentBuffer := none, forceAdvanceSucceed := true } V.currentBuffer none
    V.nextBuffer.toList (.refl _) (.refl _) nofun
  refine ⟨_, ?_, hrefs', hcalm, rfl, rfl⟩
  rw [discardCurrentBuffer, hv]
  change (w.heap.assignRef V.currentBuffer none).bind _ = _
  rw [hassign]
  rfl

/-! ## Views and their surfaces -/

/-- The surface that a view shows. -/
def link (w : World) (v : ViewId) : Option SurfaceId := (w.views v).bind View.surface

/-- Views and surfaces know of each other, and a surface counts its views. -/
structure Links (surfaces : SurfaceId → Option Surface) (link : ViewId → Option SurfaceId) : Prop where
  refCount : ∀ s S, surfaces s = some S → S.refCount = 1 + S.views.length
  nodup : ∀ s S, surfaces s = some S → S.views.Nodup
  mem_iff : ∀ s S, surfaces s = some S → ∀ v, v ∈ S.views ↔ link v = some s
  surface : ∀ v s, link v = some s → ∃ S, surfaces s = some S

variable {o : Option View} {target : ViewId → Option SurfaceId}

section
variable {surfaces : SurfaceId → Option Surface}

/-- One surface changes, and the link of one view with it. -/
theorem Links.update (h : Links surfaces target) {S' : Surface} {o : Option SurfaceId}
    (hS : surfaces s = some S) (hcount : S'.refCount = 1 + S'.views.length)
    (hnodup : S'.views.Nodup) (hmem : ∀ x, x ∈ S'.views ↔ Function.update target v o x = some s)
    (hold : ∀ t, t ≠ s → target v ≠ some t) (hnew : ∀ t, t ≠ s → o ≠ some t) :
    Links (Function.update surfaces s (some S')) (Function.update target v o) := by
  have hcases : ∀ t T, Function.update surfaces s (some S') t = some T →
      t = s ∧ T = S' ∨ t ≠ s ∧ surfaces t = some T := by
    intro t T hT
    by_cases ht : t = s
    · rw [ht, Function.update_self] at hT
      exact .inl ⟨ht, (Option.some.inj hT).symm⟩
    · rw [Function.update_of_ne ht] at hT
      exact .inr ⟨ht, hT⟩
  refine ⟨fun t T hT => ?_, fun t T hT => ?_, fun t T hT x => ?_, fun x t hx => ?_⟩
  · rcases hcases t T hT with ⟨rfl, rfl⟩ | ⟨-, hT⟩
    · exact hcount
    · exact h.refCount t T hT
  · rcases hcases t T hT with ⟨rfl, rfl⟩ | ⟨-, hT⟩
    · exact hnodup
    · exact h.nodup t T hT
  · rcases hcases t T hT with ⟨rfl, rfl⟩ | ⟨ht, hT⟩
    · exact hmem x
    · rw [h.mem_iff t T hT]
      by_cases hx : x = v
      · rw [hx, Function.update_self]
        exact iff_of_false (hold t ht) (hnew t ht)
      · rw [Function.update_of_ne hx]
  · by_cases ht : t = s
    · exact ⟨S', by rw [ht, Function.update_self]⟩
    · rw [Function.update_of_ne ht]
      by_cases hxv : x = v
      · rw [hxv, Function.update_self] at hx
        exact absurd hx (hnew t ht)
      · rw [Function.update_of_ne hxv] at hx
        exact h.surface x t hx

theorem Links.unlink (h : Links surfaces target) (hS : surfaces s = some S) (hv : target v = some s) :
    Links (Function.update surfaces s
        (some { S with views := S.views.filter (· ≠ v), refCount := S.refCount - 1 }))
      (Function.update target v none) := by
  have hnodup := h.nodup s S hS
  have hmem := (h.mem_iff s S hS v).2 hv
  have herase : S.views.filter (· ≠ v) = S.views.erase v := by
    rw [hnodup.erase_eq_filter]
    refine List.filter_congr fun x _ => ?_
    by_cases hx : x = v <;> simp [hx]
  refine h.update hS ?_ (hnodup.filter _) (fun x => ?_) (fun t ht hlink => ?_) (fun _ _ => nofun)
  · change S.refCount - 1 = 1 + ((S.views.filter (· ≠ v)).length : Int)
    rw [herase, List.length_erase_of_mem hmem, h.refCount s S hS]
    have := List.length_pos_of_mem hmem
    omega
  · by_cases hx : x = v
    · rw [hx, Function.update_self]
      simp
    · rw [Function.update_of_ne hx, ← h.mem_iff s S hS]
      simp [hx]
  · exact ht (Option.some.inj (hlink.symm.trans hv))

theorem Links.append (h : Links surfaces target) (hS : surfaces s = some S) (hv : target v = none) :
    Links (Function.update surfaces s
        (some { S with views := S.views ++ [v], refCount := S.refCount + 1 }))
      (Function.update target v (some s)) := by
  have hmem : v ∉ S.views := by
    rw [h.mem_iff s S hS, hv]
    nofun
  refine h.update hS ?_ ?_ (fun x => ?_) (fun t _ hlink => ?_) (fun t ht hlink => ?_)
  · change S.refCount + 1 = 1 + ((S.views ++ [v]).length : Int)
    rw [List.length_append, h.refCount s S hS]
    simp only [List.length_singleton]
    omega
  · rw [← List.concat_eq_append]
    exact (h.nodup s S hS).concat hmem
  · by_cases hx : x = v
    · rw [hx, Function.update_self]
      simp
    · rw [Function.update_of_ne hx, ← h.mem_iff s S hS]
      simp [hx]
  · cases hv.symm.trans hlink
  · exact ht (Option.some.inj hlink).symm

/-- A change that the views do not take part in, but for their order. -/
theorem Links.putSurface (h : Links surfaces target) (hS : surfaces s = some S)
    (hviews : S'.views.Perm S.views) (hcount : S'.refCount = S.refCount) :
    Links (Function.update surfaces s (some S')) target := by
  have hcases : ∀ t T, Function.update surfaces s (some S') t = some T →
      ∃ T', surfaces t = some T' ∧ T.views.Perm T'.views ∧ T.refCount = T'.refCount := by
    intro t T hT
    by_cases ht : t = s
    · rw [ht, Function.update_self] at hT
      cases hT
      exact ⟨S, ht ▸ hS, hviews, hcount⟩
    · rw [Function.update_of_ne ht] at hT
      exact ⟨T, hT, .refl _, rfl⟩
  refine ⟨fun t T hT => ?_, fun t T hT => ?_, fun t T hT x => ?_, fun x t hx => ?_⟩
  · obtain ⟨T', hT', hperm, hrefs⟩ := hcases t T hT
    rw [hrefs, hperm.length_eq]
    exact h.refCount t T' hT'
  · obtain ⟨T', hT', hperm, -⟩ := hcases t T hT
    exact hperm.nodup_iff.2 (h.nodup t T' hT')
  · obtain ⟨T', hT', hperm, -⟩ := hcases t T hT
    exact hperm.mem_iff.trans (h.mem_iff t T' hT' x)
  · by_cases ht : t = s
    · exact ⟨S', by rw [ht, Function.update_self]⟩
    · rw [Function.update_of_ne ht]
      exact h.surface x t hx

end

/-! ## Calls of a view -/

theorem changeSurface_spec (hrefs : w.Refs temps P) (hv : w.views v = some V)
    (new : Option SurfaceId) :
    ∃ w' V', w.changeSurface v new = some w' ∧ w'.Refs temps P ∧ Calm w w' ∧
      w'.surfaces = w.surfaces ∧ w'.views = Function.update w.views v (some V') ∧
      V'.surface = new ∧ V.Kept V' := by
  let V₁ := { V with currentBuffer := if V.bufferLocked then V.currentBuffer else none }
  let V₂ := { V₁ with
    surface := new
    currentDamage := if V.bufferLocked then V.currentDamage else .empty
    nextBuffer := none
    nextDamage := .empty }
  have hfirst : ∃ heap, (if V.bufferLocked then some w.heap
      else w.heap.assignRef V.currentBuffer none) = some heap ∧
      Refs { w.putView v V₁ with heap := heap } temps P ∧
      Calm w { w.putView v V₁ with heap := heap } := by
    cases hlocked : V.bufferLocked with
    | true =>
      have hsame : V₁ = V := by
        cases V
        cases hlocked
        rfl
      refine ⟨w.heap, rfl, ?_, ?_⟩ <;> rw [hsame, putView, ← hv, Function.update_eq_self]
      · exact hrefs
      · exact .refl w
    | false =>
      refine hrefs.assignView hv V₁ _ _ V.nextBuffer.toList (.refl _) ?_ nofun
      simp only [V₁, hlocked, View.refs, Bool.false_eq_true, if_false]
      exact .refl _
  obtain ⟨heap₁, hheap₁, hrefs₁, hcalm₁⟩ := hfirst
  have hv₁ : ({ w.putView v V₁ with heap := heap₁ } : World).views v = some V₁ :=
    Function.update_self ..
  obtain ⟨heap₂, hheap₂, hrefs₂, hcalm₂⟩ := hrefs₁.assignView hv₁ V₂ V.nextBuffer none
    V₁.currentBuffer.toList List.perm_append_comm List.perm_append_comm nofun
  have hworld :
      ({ World.putView { w.putView v V₁ with heap := heap₁ } v V₂ with heap := heap₂ } : World) =
      { w.putView v V₂ with heap := heap₂ } := by
    simp only [putView, Function.update_idem]
  rw [hworld] at hrefs₂ hcalm₂
  refine ⟨_, V₂, ?_, hrefs₂, hcalm₁.trans hcalm₂, rfl, rfl, rfl, rfl, rfl, fun hlocked => ?_⟩
  · rw [changeSurface, hv]
    change Option.bind (if V.bufferLocked then some w.heap
      else w.heap.assignRef V.currentBuffer none) _ = _
    rw [hheap₁]
    change Option.bind (heap₁.assignRef V.nextBuffer none) _ = _
    have hheap₂ : heap₁.assignRef V.nextBuffer none = some heap₂ := hheap₂
    rw [hheap₂]
    rfl
  · simp only [V₂, V₁, hlocked, if_true]

theorem link_update (hviews : w'.views = Function.update w.views v o) :
    w'.link = Function.update w.link v (o.bind View.surface) := by
  unfold link
  rw [hviews]
  exact Function.comp_update (fun o => o.bind View.surface) w.views v o

/-- A view leaves its surface: others, or the client, still hold the surface. -/
theorem derefView_spec (hlinks : Links w.surfaces w.link) (hS : w.surfaces s = some S)
    (hv : w.link v = some s) :
    w.derefView s v = some (w.putSurface s
      { S with views := S.views.filter (· ≠ v), refCount := S.refCount - 1 }) := by
  have hmem := (hlinks.mem_iff s S hS v).2 hv
  have hcount : S.views.count v = 1 := List.count_eq_one_of_mem (hlinks.nodup s S hS) hmem
  have hlength := List.length_pos_of_mem hmem
  have hrefs := hlinks.refCount s S hS
  have hpos : 0 < S.refCount := by omega
  have hne : S.refCount - 1 ≠ 0 := by omega
  simp [derefView, hS, hcount, derefTimes, deref, putSurface, hpos, hne]

theorem leaveSurface_spec (hrefs : w.Refs temps P) (hlinks : Links w.surfaces w.link) :
    ∃ w', w.leaveSurface v (w.link v) = some w' ∧ w'.Refs temps P ∧ Calm w w' ∧
      Links w'.surfaces (Function.update w.link v none) ∧ w'.views = w.views := by
  cases hv : w.link v with
  | none =>
    refine ⟨w, rfl, hrefs, .refl w, ?_, rfl⟩
    rwa [← hv, Function.update_eq_self]
  | some s =>
    obtain ⟨S, hS⟩ := hlinks.surface v s hv
    refine ⟨_, derefView_spec hlinks hS hv, hrefs.putSurface hS rfl, calm_putSurface hS rfl,
      hlinks.unlink hS hv, rfl⟩

theorem refView_spec (sizeOf : WlBuffer → QSize) (hrefs : w.Refs [] P)
    (hlinks : Links w.surfaces (Function.update target v none)) (hS : w.surfaces s = some S)
    (hbuffer : S.bufferRef = S.buffer) (hv : w.views v = some V) :
    ∃ w' V', w.refView sizeOf s v = some w' ∧ w'.Refs [] P ∧ Calm w w' ∧
      Links w'.surfaces (Function.update target v (some s)) ∧
      w'.views = Function.update w.views v (some V') ∧ V'.surface = V.surface ∧ V.Kept V' := by
  have hfresh : v ∉ S.views := by
    rw [hlinks.mem_iff s S hS, Function.update_self]
    nofun
  let S' := { S with views := S.views ++ [v], refCount := S.refCount + 1 }
  have hcore : S'.core = S.core := rfl
  have hrefs₁ : (w.putSurface s S').Refs [] P := hrefs.putSurface hS rfl
  have hcalm₁ := calm_putSurface hS hcore
  have hholds : ∀ a ∈ S.buffer, (w.putSurface s S').SurfaceHolds a := by
    intro a ha
    exact ⟨s, S', Function.update_self .., hrefs.surface_lt s S hS, hbuffer.trans ha⟩
  -- the temporary
  obtain ⟨heap₂, hcopy, hok₂, hlater₂⟩ := hrefs₁.heap.copyRef fun a ha =>
    .inl (mem_refs_of_holds (hholds a ha))
  have hrefs₂ : Refs { w.putSurface s S' with heap := heap₂ } S.buffer.toList P := by
    refine ⟨hok₂, hrefs₁.view_lt, hrefs₁.surface_lt, fun a hP ha => ?_⟩
    rcases List.mem_append.1 ha with htemp | hmem
    · exact .inl htemp
    · exact .inr ((hrefs₁.held a hP hmem).resolve_left List.not_mem_nil)
  obtain ⟨w₃, hattach, hrefs₃, hcalm₃, hsurfaces₃, hviews₃⟩ := attachView_spec hrefs₂ hv
    (.ofRect ⟨⟨0, 0⟩, bufferSize sizeOf heap₂ S.buffer⟩) hholds
  obtain ⟨heap₄, hdrop, hok₄, hlater₄⟩ := hrefs₃.heap.dropRef fun a ha _ =>
    mem_refs_of_holds (hcalm₃.surfaceHolds (hholds a ha))
  have hcalm₂ : Calm (w.putSurface s S') { w.putSurface s S' with heap := heap₂ } :=
    calm_of_later hlater₂
  have hcalm₄ : Calm w₃ { w₃ with heap := heap₄ } := calm_of_later hlater₄
  refine ⟨{ w₃ with heap := heap₄ }, { V with
      nextBuffer := S.buffer
      nextDamage := .ofRect ⟨⟨0, 0⟩, bufferSize sizeOf heap₂ S.buffer⟩ }, ?_, ?_, ?_, ?_, hviews₃,
    rfl, rfl, rfl, fun _ => rfl⟩
  · rw [refView, hS]
    change (if v ∈ S.views then some w else (Heap.copyRef (w.putSurface s S').heap S.buffer).bind _) = _
    rw [if_neg hfresh, hcopy]
    change Option.bind (attachView { w.putSurface s S' with heap := heap₂ } v S.buffer _) _ = _
    rw [hattach]
    change Option.bind (w₃.heap.dropRef S.buffer) _ = _
    rw [hdrop]
    rfl
  · refine ⟨hok₄, hrefs₃.view_lt, hrefs₃.surface_lt, fun a hP ha => .inr ?_⟩
    rcases hrefs₃.held a hP (List.mem_append_right _ ha) with htemp | hhold
    · exact hcalm₃.surfaceHolds (hholds a (Option.mem_toList.1 htemp))
    · exact hhold
  · exact ((hcalm₁.trans hcalm₂).trans hcalm₃).trans hcalm₄
  · change Links w₃.surfaces _
    rw [hsurfaces₃]
    have hlinks' := hlinks.append hS (Function.update_self ..)
    rwa [Function.update_idem] at hlinks'

theorem setSurface_spec (sizeOf : WlBuffer → QSize) (hrefs : w.Refs [] P)
    (hlinks : Links w.surfaces w.link)
    (hbuffer : ∀ s S, w.surfaces s = some S → S.bufferRef = S.buffer) (hv : w.views v = some V)
    (new : Option SurfaceId) (hnew : ∀ s ∈ new, ∃ S, w.surfaces s = some S) :
    ∃ w' V', w.setSurface sizeOf v new = some w' ∧ w'.Refs [] P ∧ Calm w w' ∧
      Links w'.surfaces w'.link ∧ w'.views = Function.update w.views v (some V') ∧
      V'.surface = new ∧ V.Kept V' := by
  have hlink : w.link v = V.surface := by rw [link, hv, Option.bind_some]
  by_cases hsame : V.surface = new
  · refine ⟨w, V, ?_, hrefs, .refl w, hlinks, ?_, hsame, rfl, rfl, fun _ => rfl⟩
    · rw [setSurface, hv]
      exact if_pos hsame
    · rw [← hv, Function.update_eq_self]
  obtain ⟨w₁, hleave, hrefs₁, hcalm₁, hlinks₁, hviews₁⟩ := leaveSurface_spec (v := v) hrefs hlinks
  obtain ⟨w₂, V₂, hchange, hrefs₂, hcalm₂, hsurfaces₂, hviews₂, hsurface₂, hkept₂⟩ :=
    changeSurface_spec hrefs₁ (hviews₁ ▸ hv) new
  rw [← hsurfaces₂] at hlinks₁
  have hstart : w.setSurface sizeOf v new = w₂.joinSurface sizeOf v new := by
    rw [setSurface, hv]
    change (if V.surface = new then some w else (w.leaveSurface v V.surface).bind _) = _
    rw [if_neg hsame, ← hlink, hleave]
    change Option.bind (w₁.changeSurface v new) _ = _
    rw [hchange]
    rfl
  have hcalm := hcalm₁.trans hcalm₂
  cases new with
  | none =>
    refine ⟨w₂, V₂, hstart, hrefs₂, hcalm, ?_, hviews₁ ▸ hviews₂, hsurface₂, hkept₂⟩
    rw [link_update (hviews₁ ▸ hviews₂), Option.bind_some, hsurface₂]
    exact hlinks₁
  | some s =>
    obtain ⟨S, hS⟩ := hnew s rfl
    obtain ⟨S', hS', hcontent⟩ := hcalm.surface hS
    have hbuffer' : S'.bufferRef = S'.buffer := by
      have hold := hbuffer s S hS
      have href : S'.bufferRef = S.bufferRef := congrArg (·.2.2.1) hcontent
      have hbuf : S'.buffer = S.buffer := congrArg (·.2.2.2) hcontent
      rw [href, hold, hbuf]
    have hv₂ : w₂.views v = some V₂ := by rw [hviews₂, Function.update_self]
    obtain ⟨w₃, V₃, hjoin, hrefs₃, hcalm₃, hlinks₃, hviews₃, hsurface₃, hkept₃⟩ :=
      refView_spec sizeOf hrefs₂ hlinks₁ hS' hbuffer' hv₂
    have hviews : w₃.views = Function.update w.views v (some V₃) := by
      rw [hviews₃, hviews₂, hviews₁, Function.update_idem]
    refine ⟨w₃, V₃, hstart.trans hjoin, hrefs₃, hcalm.trans hcalm₃, ?_, hviews,
      hsurface₃.trans hsurface₂, hkept₂.trans hkept₃⟩
    rw [link_update hviews, Option.bind_some, hsurface₃, hsurface₂]
    exact hlinks₃

/-! ## `advance` -/

/-- The view, if it is locked and no throttling view may discard its buffer, keeps it. -/
def KeepsLockedAt (w w' : World) (x : ViewId) : Prop :=
  ∀ X, w.views x = some X → X.bufferLocked = true → X.discardFrontBuffers = false →
    ∃ X', w'.views x = some X' ∧ X'.currentBuffer = X.currentBuffer ∧ X'.bufferLocked = true ∧
      X'.discardFrontBuffers = false

def KeepsLocked (w w' : World) : Prop := ∀ x, KeepsLockedAt w w' x

theorem keepsLockedAt_of_ne {x : ViewId} (hx : x ≠ v)
    (hviews : w'.views = Function.update w.views v o) : KeepsLockedAt w w' x := by
  intro X hX hlocked hdiscard
  exact ⟨X, by rw [hviews, Function.update_of_ne hx, hX], rfl, hlocked, hdiscard⟩

theorem keepsLocked_of_eq (h : w'.views = w.views) : KeepsLocked w w' :=
  fun _ X hx hlocked hdiscard => ⟨X, h ▸ hx, rfl, hlocked, hdiscard⟩

theorem KeepsLocked.trans (h : KeepsLocked w w') (h' : KeepsLocked w' w'') : KeepsLocked w w'' := by
  intro x X hx hlocked hdiscard
  obtain ⟨X', hx', hcurrent, hlocked', hdiscard'⟩ := h x X hx hlocked hdiscard
  obtain ⟨X'', hx'', hcurrent', hlocked'', hdiscard''⟩ := h' x X' hx' hlocked' hdiscard'
  exact ⟨X'', hx'', hcurrent'.trans hcurrent, hlocked'', hdiscard''⟩

theorem keepsLocked_update (hv : w.views v = some V)
    (hviews : w'.views = Function.update w.views v (some V'))
    (hkeep : V.bufferLocked = true → V.discardFrontBuffers = false →
      V'.currentBuffer = V.currentBuffer ∧ V'.bufferLocked = true ∧ V'.discardFrontBuffers = false) :
    KeepsLocked w w' := by
  intro x
  by_cases hxv : x = v
  · intro X hx hlocked hdiscard
    obtain rfl : V = X := Option.some.inj (hv.symm.trans (hxv ▸ hx))
    exact ⟨V', by rw [hviews, hxv, Function.update_self], hkeep hlocked hdiscard⟩
  · exact keepsLockedAt_of_ne hxv hviews

theorem keepsLocked_of_kept (h : V.Kept V') (hv : w.views v = some V)
    (hviews : w'.views = Function.update w.views v (some V')) : KeepsLocked w w' :=
  keepsLocked_update hv hviews fun hlocked hdiscard =>
    ⟨h.current_eq hlocked, h.locked_eq.trans hlocked, h.discard_eq.trans hdiscard⟩

/-- What the throttling view's loop leaves alone. -/
structure Still (v : ViewId) (w w' : World) : Prop where
  calm : Calm w w'
  surfaces_eq : w'.surfaces = w.surfaces
  link_eq : w'.link = w.link
  view_eq : w'.views v = w.views v
  keepsLocked : KeepsLocked w w'

theorem Still.refl (v : ViewId) (w : World) : Still v w w :=
  ⟨.refl w, rfl, rfl, rfl, keepsLocked_of_eq rfl⟩

theorem Still.trans (h : Still v w w') (h' : Still v w' w'') : Still v w w'' :=
  ⟨h.calm.trans h'.calm, h'.surfaces_eq.trans h.surfaces_eq, h'.link_eq.trans h.link_eq,
    h'.view_eq.trans h.view_eq, h.keepsLocked.trans h'.keepsLocked⟩

theorem view_of_link (h : w.link v = some s) : ∃ V, w.views v = some V :=
  (Option.bind_eq_some_iff.1 h).imp fun _ hV => hV.1

theorem discardOthers_spec (hrefs : w.Refs temps P) {x : ViewId} {X : View} (hx : w.views x = some X)
    (shown : Option Addr) :
    ∃ w', discardOthers v shown w x = some w' ∧ w'.Refs temps P ∧ Still v w w' := by
  by_cases hdiscard : x ≠ v ∧ X.discardFrontBuffers ∧ X.currentBuffer = shown
  · obtain ⟨w', hspec, hrefs', hcalm, hsurfaces, hviews⟩ := discardCurrentBuffer_spec hrefs hx
    refine ⟨w', ?_, hrefs', hcalm, hsurfaces, ?_, ?_, ?_⟩
    · rw [discardOthers, hx]
      exact (if_pos hdiscard).trans hspec
    · rw [link_update hviews, Option.bind_some]
      refine Function.update_eq_iff.2 ⟨?_, fun _ _ => rfl⟩
      rw [link, hx, Option.bind_some]
    · rw [hviews, Function.update_of_ne hdiscard.1.symm]
    · refine keepsLocked_update hx hviews fun _ hkeep => ?_
      exact absurd (hkeep.symm.trans hdiscard.2.1) Bool.false_ne_true
  · refine ⟨w, ?_, hrefs, .refl v w⟩
    rw [discardOthers, hx]
    exact if_neg hdiscard

theorem discardFront_spec (hrefs : w.Refs temps P) (hlinks : Links w.surfaces w.link)
    (shown : Option Addr) :
    ∃ w', w.discardFront (w.link v) v shown = some w' ∧ w'.Refs temps P ∧ Still v w w' := by
  cases hv : w.link v with
  | none => exact ⟨w, rfl, hrefs, .refl v w⟩
  | some s =>
    obtain ⟨S, hS⟩ := hlinks.surface v s hv
    by_cases hthrottling : S.views.head? = some v
    · have hloop := Run.fold_inv (f := discardOthers v shown)
        (I := fun xs w' => (∀ x ∈ xs, w.link x = some s) ∧ w'.Refs temps P ∧ Still v w w')
        (fun x xs w₁ h => by
          obtain ⟨hlink, hrefs₁, hstill⟩ := h
          obtain ⟨X, hX⟩ := view_of_link (w := w₁) (v := x) (s := s)
            (hstill.link_eq ▸ hlink x List.mem_cons_self)
          obtain ⟨w₂, hspec, hrefs₂, hstill₂⟩ := discardOthers_spec hrefs₁ hX shown
          exact ⟨w₂, hspec, fun y hy => hlink y (List.mem_cons_of_mem x hy), hrefs₂,
            hstill.trans hstill₂⟩)
        S.views w ⟨fun x hx => (hlinks.mem_iff s S hS x).1 hx, hrefs, .refl v w⟩
      obtain ⟨w', hfold, -, hrefs', hstill⟩ := hloop
      refine ⟨w', ?_, hrefs', hstill⟩
      rw [discardFront, hS]
      exact (if_pos hthrottling).trans hfold
    · refine ⟨w, ?_, hrefs, .refl v w⟩
      rw [discardFront, hS]
      exact if_neg hthrottling

/-- A view that advances shows what was attached to it last. -/
theorem advance_spec (hrefs : w.Refs temps P) (hlinks : Links w.surfaces w.link)
    (hv : w.views v = some V) :
    ∃ w' shown, w.advance v = some (w', shown) ∧ w'.Refs temps P ∧ Calm w w' ∧
      w'.surfaces = w.surfaces ∧ w'.link = w.link ∧ KeepsLocked w w' := by
  have hunchanged : ∃ w' shown, some (w, false) = some (w', shown) ∧ w'.Refs temps P ∧ Calm w w' ∧
      w'.surfaces = w.surfaces ∧ w'.link = w.link ∧ KeepsLocked w w' :=
    ⟨w, false, rfl, hrefs, .refl w, rfl, rfl, keepsLocked_of_eq rfl⟩
  rw [advance, hv]
  change ∃ w' shown, (if V.currentBuffer = V.nextBuffer ∧ ¬ V.forceAdvanceSucceed then some (w, false)
    else if V.bufferLocked then some (w, false) else _) = some (w', shown) ∧ _
  by_cases hsame : V.currentBuffer = V.nextBuffer ∧ ¬ V.forceAdvanceSucceed
  · rw [if_pos hsame]
    exact hunchanged
  rw [if_neg hsame]
  cases hlocked : V.bufferLocked with
  | true => exact hunchanged
  | false =>
    have hlink : w.link v = V.surface := by rw [link, hv, Option.bind_some]
    obtain ⟨w₁, hloop, hrefs₁, hstill⟩ := discardFront_spec (v := v) hrefs hlinks V.currentBuffer
    have hv₁ : w₁.views v = some V := hstill.view_eq.trans hv
    let V' := { V with
      forceAdvanceSucceed := false
      currentBuffer := V.nextBuffer
      currentDamage := V.nextDamage }
    obtain ⟨heap, hassign, hrefs₂, hcalm₂⟩ := hrefs₁.assignView hv₁ V'
      V.currentBuffer V.nextBuffer V.nextBuffer.toList (.refl _) (.refl _)
      fun a ha => .inr (Option.mem_toList.2 ha)
    refine ⟨{ w₁.putView v V' with heap := heap }, true, ?_, hrefs₂, hstill.calm.trans hcalm₂,
      hstill.surfaces_eq, ?_, hstill.keepsLocked.trans ?_⟩
    · change Option.bind (w.discardFront V.surface v V.currentBuffer) _ = _
      rw [← hlink, hloop]
      change Option.bind (w₁.views v) _ = _
      rw [hv₁]
      change Option.bind (w₁.heap.assignRef V.currentBuffer V.nextBuffer) _ = _
      rw [hassign]
      rfl
    · rw [← hstill.link_eq, link_update (o := some V') rfl, Option.bind_some]
      refine Function.update_eq_iff.2 ⟨?_, fun _ _ => rfl⟩
      rw [link, hv₁, Option.bind_some]
    · refine keepsLocked_update hv₁ rfl fun htrue => ?_
      exact absurd (hlocked.symm.trans htrue) Bool.false_ne_true

end World

end GreenIsland.Compositor

import GreenIsland.Compositor.Keyboard
import Mathlib.Data.List.Nodup

/-! What clients make of their keyboards, as surfaces and keyboards come and go.

`KeyboardView` is what a client knows from one keyboard; `see` is `none` for an event that is against
the protocol.  `Core` ties what every client knows to the seat: only the keyboard of the client whose
surface has the focus has entered a surface, and that one. -/

namespace GreenIsland.Compositor

/-! ## What a client makes of it -/

/-- What a client knows from one of its keyboards -/
structure KeyboardView (κ : Type) where
  keymap : Option κ
  entered : Option KeyboardSurfaceId
  keys : List Nat
  mods : Option Modifiers
deriving DecidableEq

namespace KeyboardView

variable {κ : Type}

def new : KeyboardView κ := ⟨none, none, [], none⟩

/-- The client takes note of an event, or finds it against the protocol: a keymap without its file, an
`enter` without a `leave` before, a `leave` of another surface, a key without a surface. -/
def see (v : KeyboardView κ) : KeyboardEvent κ → Option (KeyboardView κ)
  | .keymap fd => fd.map fun keymap => { v with keymap := some keymap }
  | .enter s keys =>
    if v.entered = none then some { v with entered := some s, keys := keys } else none
  | .leave s => if v.entered = some s then some { v with entered := none, keys := [] } else none
  | .key key pressed =>
    if v.entered = none then none
    else if pressed then some { v with keys := v.keys ++ [key] }
    else some { v with keys := v.keys.filter fun k => k ≠ key }
  | .modifiers mods => some { v with mods := some mods }
  | .surfaceDestroyed s =>
    if v.entered = some s then some { v with entered := none, keys := [] } else some v

def seeAll (events : List (KeyboardEvent κ)) : Option (KeyboardView κ) := events.foldlM see new

theorem seeAll_append {events : List (KeyboardEvent κ)} {v : KeyboardView κ} (h : seeAll events = some v)
    (more : List (KeyboardEvent κ)) : seeAll (events ++ more) = more.foldlM see v := by
  rw [seeAll, List.foldlM_append]
  change (seeAll events).bind _ = _
  rw [h]
  rfl

theorem seeAll_concat {events : List (KeyboardEvent κ)} {v : KeyboardView κ} (h : seeAll events = some v)
    (event : KeyboardEvent κ) : seeAll (events ++ [event]) = v.see event := by
  rw [seeAll_append h, List.foldlM_cons]
  exact bind_pure _

end KeyboardView

namespace KeyboardSeat

open KeyboardView (seeAll seeAll_append seeAll_concat)

variable {σ κ μ : Type} {w w' : KeyboardSeat σ κ μ} {r : KeyboardId}
  {s : KeyboardSurfaceId} {client : ClientId} {entered : Option KeyboardSurfaceId}
  {resource : KeyboardResource}

/-! ## The invariant -/

/-- The client knows the keymap, the surface that it has entered, and then the keys and modifiers. -/
def Knows (w : KeyboardSeat σ κ μ) (r : KeyboardId) (entered : Option KeyboardSurfaceId) : Prop :=
  ∃ v, seeAll (w.sent r) = some v ∧ v.keymap = w.keymapFd ∧ v.entered = entered ∧
    (entered ≠ none → v.keys = w.keys ∧ v.mods = some w.mods)

/-- The surface that a keyboard should have entered -/
def enteredBy (w : KeyboardSeat σ κ μ) (r : KeyboardId) : Option KeyboardSurfaceId :=
  if w.focusResource = some r then w.focus else none

/-- The keyboard of the focused surface's client -/
def focusedKeyboard (w : KeyboardSeat σ κ μ) : Option KeyboardId :=
  ((w.focus.bind w.clientOf).bind w.resourceFor).map KeyboardResource.id

structure Core (w : KeyboardSeat σ κ μ) : Prop where
  surface_lt : ∀ x ∈ w.surfaces, x.id < w.nextSurface
  resource_lt : ∀ x ∈ w.resources, x.id < w.nextResource
  one : (w.resources.map KeyboardResource.client).Nodup
  distinct : (w.resources.map KeyboardResource.id).Nodup
  unsent : ∀ r, w.nextResource ≤ r → w.sent r = []
  mapped : ∃ keymap, w.keymapFd = some keymap
  listens : w.focusDestroyListener = w.focus
  exists_focus : ∀ s, w.focus = some s → ∃ client, w.clientOf s = some client
  focusResource : w.focusResource = w.focusedKeyboard
  knows : ∀ x ∈ w.resources, w.Knows x.id (w.enteredBy x.id)

/-- A keymap waits only while a key is pressed. -/
structure Inv (w : KeyboardSeat σ κ μ) : Prop extends w.Core where
  keymap_pending : w.pendingKeymap = true → w.keys ≠ []

theorem inv_new (keymap : μ) (compiled : σ × κ) : (new keymap compiled).Inv where
  surface_lt _ hx := absurd hx List.not_mem_nil
  resource_lt _ hx := absurd hx List.not_mem_nil
  one := List.nodup_nil
  distinct := List.nodup_nil
  unsent _ _ := rfl
  mapped := ⟨_, rfl⟩
  listens := rfl
  exists_focus _ h := absurd h (Option.not_mem_none _)
  focusResource := rfl
  keymap_pending h := absurd h Bool.false_ne_true
  knows _ hx := absurd hx List.not_mem_nil

/-! ## Messages -/

@[simp] theorem send_self (events : List (KeyboardEvent κ)) :
    (w.send r events).sent r = w.sent r ++ events := Function.update_self ..

theorem send_ne {r' : KeyboardId} (h : r' ≠ r) (events : List (KeyboardEvent κ)) :
    (w.send r events).sent r' = w.sent r' := Function.update_of_ne h ..

theorem broadcast_mem (h : resource ∈ w.resources) (event : KeyboardEvent κ) :
    (w.broadcast event).sent resource.id = w.sent resource.id ++ [event] :=
  if_pos (List.mem_map_of_mem h)

theorem broadcast_unsent (h : w.Core) (hr : w.nextResource ≤ r) (event : KeyboardEvent κ) :
    (w.broadcast event).sent r = [] := by
  have hnot : r ∉ w.resources.map KeyboardResource.id := by
    intro hmem
    obtain ⟨x, hx, rfl⟩ := List.mem_map.1 hmem
    exact absurd (h.resource_lt x hx) (Nat.not_lt.2 hr)
  exact (if_neg hnot).trans (h.unsent r hr)

theorem resourceFor_mem (h : w.resourceFor client = some resource) :
    resource ∈ w.resources ∧ resource.client = client := by
  refine ⟨List.mem_of_find?_eq_some h, ?_⟩
  simpa using List.find?_some h

/-- The focused keyboard is bound. -/
theorem Core.mem_of_focusResource (h : w.Core) (hr : w.focusResource = some r) :
    ∃ resource ∈ w.resources, resource.id = r ∧ ∃ s, w.focus = some s := by
  rw [h.focusResource, focusedKeyboard] at hr
  obtain ⟨resource, hresource, rfl⟩ := Option.map_eq_some_iff.1 hr
  obtain ⟨client, hclient, hfor⟩ := Option.bind_eq_some_iff.1 hresource
  obtain ⟨s, hs, -⟩ := Option.bind_eq_some_iff.1 hclient
  exact ⟨resource, (resourceFor_mem hfor).1, rfl, s, hs⟩

theorem Core.lt_of_focusResource (h : w.Core) (hr : w.focusResource = some r) : r < w.nextResource := by
  obtain ⟨resource, hmem, rfl, -⟩ := h.mem_of_focusResource hr
  exact h.resource_lt resource hmem

theorem enteredBy_focused (hr : w.focusResource = some r) : w.enteredBy r = w.focus := if_pos hr

theorem enteredBy_other (hr : w.focusResource ≠ some r) : w.enteredBy r = none := if_neg hr

theorem enteredBy_unfocused (hr : w.focusResource = none) (r : KeyboardId) : w.enteredBy r = none :=
  enteredBy_other (hr ▸ Option.some_ne_none r ∘ Eq.symm)

/-- Another keyboard has the focus. -/
theorem enteredBy_ne {r' : KeyboardId} (hr : w.focusResource = some r) (hne : r' ≠ r) :
    w.enteredBy r' = none :=
  enteredBy_other fun heq => hne (Option.some.inj (heq.symm.trans hr))

/-- No client is told any of this. -/
theorem Core.untold (h : w.Core) (keymap : μ) (pending : Bool) (xkbState : σ) (dataDevice : Bool) :
    ({ w with
        keymap := keymap
        pendingKeymap := pending
        xkbState := xkbState
        dataDevice := dataDevice } : KeyboardSeat σ κ μ).Core :=
  ⟨h.surface_lt, h.resource_lt, h.one, h.distinct, h.unsent, h.mapped, h.listens, h.exists_focus,
    h.focusResource, fun x hx => h.knows x hx⟩

/-! ## Surfaces -/

/-- The focused keyboard is the same if the focus, its client and the keyboards are. -/
theorem Core.focusResource_congr (h : w.Core) (hfocus : w'.focus = w.focus)
    (hfocusResource : w'.focusResource = w.focusResource) (hresources : w'.resources = w.resources)
    (hclient : ∀ s, w.focus = some s → w'.clientOf s = w.clientOf s) :
    w'.focusResource = w'.focusedKeyboard := by
  have hfor : w'.resourceFor = w.resourceFor := by
    funext client
    unfold resourceFor
    rw [hresources]
  rw [hfocusResource, h.focusResource]
  unfold focusedKeyboard
  rw [hfocus, hfor]
  cases hs : w.focus with
  | none => rfl
  | some s =>
    simp only [Option.bind_some]
    rw [hclient s hs]

theorem Core.createSurface (h : w.Core) (client : ClientId) : (w.createSurface client).Core := by
  have hclient : ∀ s, w.focus = some s → (w.createSurface client).clientOf s = w.clientOf s := by
    intro s hs
    obtain ⟨owner, howner⟩ := h.exists_focus s hs
    obtain ⟨surface, hsurface, -⟩ := Option.map_eq_some_iff.1 howner
    have hlt := h.surface_lt surface (List.mem_of_find?_eq_some hsurface)
    have hid : surface.id = s := by simpa using List.find?_some hsurface
    unfold clientOf KeyboardSeat.surface KeyboardSeat.createSurface
    rw [List.find?_cons_of_neg]
    simp only [decide_eq_true_eq]
    exact fun heq => absurd (heq.trans hid.symm) (Nat.ne_of_gt hlt)
  refine ⟨fun x hx => ?_, h.resource_lt, h.one, h.distinct, h.unsent, h.mapped, h.listens,
    fun s hs => ?_, ?_, h.knows⟩
  · rcases List.mem_cons.1 hx with rfl | hx
    · exact Nat.lt_succ_self _
    · exact Nat.lt_succ_of_lt (h.surface_lt x hx)
  · obtain ⟨owner, howner⟩ := h.exists_focus s hs
    exact ⟨owner, (hclient s hs).trans howner⟩
  · exact h.focusResource_congr rfl rfl rfl hclient

theorem clientOf_markAsCursorSurface (w : KeyboardSeat σ κ μ) (s s' : KeyboardSurfaceId) :
    (w.markAsCursorSurface s).clientOf s' = w.clientOf s' := by
  unfold clientOf KeyboardSeat.surface markAsCursorSurface
  rw [List.find?_map]
  have hid : ((fun surface : KeyboardSurface => decide (surface.id = s')) ∘ fun surface =>
      if surface.id = s then { surface with isCursorSurface := true } else surface) =
        fun surface => decide (surface.id = s') := by
    funext surface
    simp only [Function.comp_apply]
    split <;> rfl
  rw [hid, Option.map_map]
  congr 1
  funext surface
  simp only [Function.comp_apply]
  split <;> rfl

theorem Core.markAsCursorSurface (h : w.Core) (s : KeyboardSurfaceId) :
    (w.markAsCursorSurface s).Core := by
  refine ⟨fun x hx => ?_, h.resource_lt, h.one, h.distinct, h.unsent, h.mapped, h.listens,
    fun s' hs' => ?_, ?_, h.knows⟩
  · obtain ⟨surface, hsurface, rfl⟩ := List.mem_map.1 hx
    have hlt := h.surface_lt surface hsurface
    split <;> exact hlt
  · obtain ⟨owner, howner⟩ := h.exists_focus s' hs'
    exact ⟨owner, (clientOf_markAsCursorSurface w s s').trans howner⟩
  · exact h.focusResource_congr rfl rfl rfl fun s' _ => clientOf_markAsCursorSurface w s s'

/-- The client of the destroyed surface forgets that it has entered it. -/
theorem Knows.destroyed (h : w.Knows r entered) {w' : KeyboardSeat σ κ μ}
    (hsent : w'.sent r = w.sent r ++ [.surfaceDestroyed s]) (hmap : w'.keymapFd = w.keymapFd)
    (hkeys : w'.keys = w.keys) (hmods : w'.mods = w.mods) :
    w'.Knows r (if entered = some s then none else entered) := by
  obtain ⟨v, hv, hkeymap, hentered, hrest⟩ := h
  unfold Knows
  rw [hsent, seeAll_concat hv, hmap, hkeys, hmods]
  by_cases hs : entered = some s
  · rw [if_pos hs]
    exact ⟨_, if_pos (hentered.trans hs), hkeymap, rfl, fun hne => absurd rfl hne⟩
  · rw [if_neg hs]
    exact ⟨v, if_neg fun heq => hs (hentered.symm.trans heq), hkeymap, hentered, hrest⟩

theorem clientOf_destroy {s s' : KeyboardSurfaceId} (hne : s' ≠ s) :
    ({ w with surfaces := w.surfaces.filter fun surface => surface.id ≠ s } :
      KeyboardSeat σ κ μ).clientOf s' = w.clientOf s' := by
  unfold clientOf KeyboardSeat.surface
  rw [List.find?_filter]
  congr 2
  funext surface
  by_cases hid : surface.id = s' <;> simp [hid, hne]

theorem Core.destroySurface (h : w.Core) (s : KeyboardSurfaceId) : (w.destroySurface s).Core := by
  by_cases hfocus : w.focus = some s
  · have hlistens : w.focusDestroyListener = some s := h.listens.trans hfocus
    rw [KeyboardSeat.destroySurface, if_pos hlistens]
    refine ⟨fun x hx => h.surface_lt x (List.mem_of_mem_filter hx), h.resource_lt, h.one, h.distinct,
      fun r hr => broadcast_unsent h hr _, h.mapped, rfl,
      fun s hs => absurd hs (Option.not_mem_none _), rfl, fun x hx => ?_⟩
    change x ∈ w.resources at hx
    have hknows := (h.knows x hx).destroyed (broadcast_mem hx (.surfaceDestroyed s)) rfl rfl rfl
    have hnone : (if w.enteredBy x.id = some s then none else w.enteredBy x.id) = none := by
      unfold enteredBy
      rw [hfocus]
      split <;> simp_all
    rw [hnone] at hknows
    exact hknows
  · have hlistens : w.focusDestroyListener ≠ some s := fun heq => hfocus (h.listens.symm.trans heq)
    rw [KeyboardSeat.destroySurface, if_neg hlistens]
    have hclient : ∀ s', w.focus = some s' → ({ w with surfaces := w.surfaces.filter fun surface =>
        surface.id ≠ s } : KeyboardSeat σ κ μ).clientOf s' = w.clientOf s' :=
      fun s' hs' => clientOf_destroy fun heq => hfocus (heq ▸ hs')
    refine ⟨fun x hx => h.surface_lt x (List.mem_of_mem_filter hx), h.resource_lt, h.one, h.distinct,
      fun r hr => broadcast_unsent h hr _, h.mapped, h.listens, fun s' hs' => ?_, ?_, fun x hx => ?_⟩
    · obtain ⟨owner, howner⟩ := h.exists_focus s' hs'
      exact ⟨owner, (hclient s' hs').trans howner⟩
    · exact h.focusResource_congr rfl rfl rfl hclient
    · change x ∈ w.resources at hx
      have hknows := (h.knows x hx).destroyed (broadcast_mem hx (.surfaceDestroyed s)) rfl rfl rfl
      rw [if_neg] at hknows
      · exact hknows
      · unfold enteredBy
        split
        · exact hfocus
        · exact Option.some_ne_none s ∘ Eq.symm

/-! ## Keyboards -/

/-- Keyboards that have entered nothing know no keys. -/
theorem Knows.congr (h : w.Knows r entered) (hsent : w'.sent r = w.sent r)
    (hmap : w'.keymapFd = w.keymapFd)
    (hstate : entered ≠ none → w'.keys = w.keys ∧ w'.mods = w.mods) : w'.Knows r entered := by
  obtain ⟨v, hv, hkeymap, hentered, hrest⟩ := h
  refine ⟨v, hsent ▸ hv, hmap ▸ hkeymap, hentered, fun hne => ?_⟩
  obtain ⟨hkeys, hmods⟩ := hstate hne
  rw [hkeys, hmods]
  exact hrest hne

/-- With one keyboard for each client, taking one out leaves no other for its client. -/
theorem find?_filter_one (r : KeyboardId) (client : ClientId) {resources : List KeyboardResource}
    (hone : (resources.map KeyboardResource.client).Nodup) :
    (resources.filter fun x => x.id ≠ r).find? (fun x => x.client = client) =
      (resources.find? fun x => x.client = client).filter fun x => x.id ≠ r := by
  induction resources with
  | nil => rfl
  | cons x resources ih =>
    obtain ⟨hx, hrest⟩ := List.nodup_cons.1 hone
    by_cases hclient : x.client = client
    · rw [List.find?_cons_of_pos (by simpa using hclient)]
      by_cases hid : x.id = r
      · have hnone : (resources.filter fun x => x.id ≠ r).find? (fun x => x.client = client) = none := by
          refine List.find?_eq_none.2 fun y hy hy' => hx ?_
          rw [hclient, ← of_decide_eq_true hy']
          exact List.mem_map_of_mem (List.mem_of_mem_filter hy)
        rw [List.filter_cons_of_neg (by simpa using hid), hnone]
        exact (if_neg (by simpa using hid)).symm
      · rw [List.filter_cons_of_pos (by simpa using hid),
          List.find?_cons_of_pos (by simpa using hclient)]
        exact (if_pos (by simpa using hid)).symm
    · rw [List.find?_cons_of_neg (by simpa using hclient), ← ih hrest, List.filter_cons]
      split
      · rw [List.find?_cons_of_neg (by simpa using hclient)]
      · rfl

theorem Core.releaseKeyboard (h : w.Core) (r : KeyboardId) : (w.releaseKeyboard r).Core := by
  refine ⟨h.surface_lt, fun x hx => h.resource_lt x (List.mem_of_mem_filter hx),
    h.one.sublist (List.filter_sublist.map _),
    h.distinct.sublist (List.filter_sublist.map _), h.unsent, h.mapped, h.listens, h.exists_focus, ?_,
    fun x hx => ?_⟩
  · change (if w.focusResource = some r then none else w.focusResource) =
      ((w.focus.bind w.clientOf).bind fun client =>
        (w.resources.filter fun x => x.id ≠ r).find? fun x => x.client = client).map KeyboardResource.id
    simp only [find?_filter_one r _ h.one]
    rw [h.focusResource, focusedKeyboard]
    cases w.focus.bind w.clientOf with
    | none => simp
    | some client =>
      simp only [Option.bind_some]
      change _ = ((w.resourceFor client).filter _).map _
      cases w.resourceFor client with
      | none => simp
      | some resource => by_cases hid : resource.id = r <;> simp [Option.filter, hid]
  · obtain ⟨hmem, hid⟩ := List.mem_filter.1 hx
    have hne : r ≠ x.id := fun heq => of_decide_eq_true hid heq.symm
    have hentered : (w.releaseKeyboard r).enteredBy x.id = w.enteredBy x.id := by
      change (if (if w.focusResource = some r then none else w.focusResource) = some x.id
        then w.focus else none) = if w.focusResource = some x.id then w.focus else none
      by_cases hr : w.focusResource = some r
      · have hother : w.focusResource ≠ some x.id := fun heq =>
          hne (Option.some.inj (hr.symm.trans heq))
        rw [if_pos hr, if_neg hother, if_neg (Option.some_ne_none _ ∘ Eq.symm)]
      · rw [if_neg hr]
    rw [hentered]
    exact (h.knows x hmem).congr rfl rfl fun _ => ⟨rfl, rfl⟩

theorem Core.sendKeyModifiers (h : w.Core) (client : ClientId) : (w.sendKeyModifiers client).Core := by
  unfold KeyboardSeat.sendKeyModifiers
  cases hfor : w.resourceFor client with
  | none => exact h
  | some resource =>
    have hmem := (resourceFor_mem hfor).1
    refine ⟨h.surface_lt, h.resource_lt, h.one, h.distinct, fun r hr => ?_, h.mapped, h.listens,
      h.exists_focus, h.focusResource, fun x hx => ?_⟩
    · rw [send_ne (Nat.ne_of_gt (Nat.lt_of_lt_of_le (h.resource_lt resource hmem) hr))]
      exact h.unsent r hr
    · by_cases hid : x.id = resource.id
      · obtain ⟨v, hv, hkeymap, hentered, hrest⟩ := h.knows x hx
        rw [hid] at hv hentered hrest ⊢
        refine ⟨{ v with mods := some w.mods }, ?_, hkeymap, hentered, fun hne => ⟨(hrest hne).1, rfl⟩⟩
        change seeAll ((w.send resource.id [.modifiers w.mods]).sent resource.id) = _
        rw [send_self, seeAll_concat hv]
        rfl
      · exact (h.knows x hx).congr (send_ne hid _) rfl fun _ => ⟨rfl, rfl⟩

/-! ## A new keyboard -/

/-- The client enters a surface with its keyboard. -/
theorem Knows.enter (h : w.Knows r none)
    (hsent : w'.sent r = w.sent r ++ [.modifiers w'.mods, .enter s w'.keys])
    (hmap : w'.keymapFd = w.keymapFd) : w'.Knows r (some s) := by
  obtain ⟨v, hv, hkeymap, hentered, -⟩ := h
  refine ⟨{ v with mods := some w'.mods, entered := some s, keys := w'.keys }, ?_, hmap ▸ hkeymap, rfl,
    fun _ => ⟨rfl, rfl⟩⟩
  rw [hsent, seeAll_append hv]
  change (KeyboardView.see _ _).bind _ = _
  rw [KeyboardView.see, if_pos hentered]
  rfl

theorem Knows.leave (h : w.Knows r (some s)) (hsent : w'.sent r = w.sent r ++ [.leave s])
    (hmap : w'.keymapFd = w.keymapFd) : w'.Knows r none := by
  obtain ⟨v, hv, hkeymap, hentered, -⟩ := h
  refine ⟨{ v with entered := none, keys := [] }, ?_, hmap ▸ hkeymap, rfl, fun hne => absurd rfl hne⟩
  rw [hsent, seeAll_concat hv, KeyboardView.see, if_pos hentered]

/-- The seat with a new keyboard, which is told `events` -/
def bound (w : KeyboardSeat σ κ μ) (client : ClientId) (focusResource : Option KeyboardId)
    (events : List (KeyboardEvent κ)) : KeyboardSeat σ κ μ :=
  { w with
    nextResource := w.nextResource + 1
    resources := ⟨w.nextResource, client⟩ :: w.resources
    focusResource := focusResource
    sent := Function.update w.sent w.nextResource events }

theorem resourceFor_bound {focusResource : Option KeyboardId} {events : List (KeyboardEvent κ)}
    (owner : ClientId) : (w.bound client focusResource events).resourceFor owner =
      if client = owner then some ⟨w.nextResource, client⟩ else w.resourceFor owner := by
  change List.find? _ (_ :: w.resources) = _
  by_cases howner : client = owner
  · rw [List.find?_cons_of_pos (by simpa using howner), if_pos howner]
  · rw [List.find?_cons_of_neg (by simpa using howner), if_neg howner]
    rfl

/-- The keyboards that were there are not concerned. -/
theorem Core.bound (h : w.Core) (hfree : w.resourceFor client = none)
    {focusResource : Option KeyboardId} {events : List (KeyboardEvent κ)}
    (hfocusResource : focusResource = (w.bound client focusResource events).focusedKeyboard)
    (hnew : (w.bound client focusResource events).Knows w.nextResource
      ((w.bound client focusResource events).enteredBy w.nextResource))
    (hold : ∀ x ∈ w.resources,
      (w.bound client focusResource events).enteredBy x.id = w.enteredBy x.id) :
    (w.bound client focusResource events).Core := by
  refine ⟨h.surface_lt, fun x hx => ?_, List.nodup_cons.2 ⟨?_, h.one⟩,
    List.nodup_cons.2 ⟨?_, h.distinct⟩, fun r hr => ?_, h.mapped, h.listens,
    h.exists_focus, hfocusResource, fun x hx => ?_⟩
  · rcases List.mem_cons.1 hx with rfl | hx
    · exact Nat.lt_succ_self _
    · exact Nat.lt_succ_of_lt (h.resource_lt x hx)
  · intro hmem
    obtain ⟨x, hx, hclient⟩ := List.mem_map.1 hmem
    exact List.find?_eq_none.1 hfree x hx (decide_eq_true hclient)
  · intro hmem
    obtain ⟨x, hx, hid⟩ := List.mem_map.1 hmem
    exact absurd hid (Nat.ne_of_lt (h.resource_lt x hx))
  · exact (Function.update_of_ne (Nat.ne_of_gt hr) _ _).trans (h.unsent r (Nat.le_of_succ_le hr))
  · rcases List.mem_cons.1 hx with rfl | hx
    · exact hnew
    · rw [hold x hx]
      have hne := Nat.ne_of_lt (h.resource_lt x hx)
      exact (h.knows x hx).congr (Function.update_of_ne hne _ _) rfl fun _ => ⟨rfl, rfl⟩

/-- A new keyboard starts with the keymap. -/
theorem Core.knows_bound (h : w.Core) (client : ClientId) (focusResource : Option KeyboardId) :
    (w.bound client focusResource [.keymap w.keymapFd]).Knows w.nextResource none := by
  obtain ⟨keymap, hmap⟩ := h.mapped
  refine ⟨⟨some keymap, none, [], none⟩, ?_, hmap.symm, rfl, fun hne => absurd rfl hne⟩
  change seeAll (Function.update w.sent w.nextResource _ w.nextResource) = _
  rw [Function.update_self, hmap]
  rfl

theorem checkFocusResource_entered (hs : w.focus = some s)
    (hclient : w.clientOf s = some resource.client) (hnew : w.focusResource ≠ some resource.id) :
    w.checkFocusResource resource =
      some { w.sendEnter s resource.id with focusResource := some resource.id } := by
  rw [checkFocusResource, hs]
  simp only [if_neg hnew, hclient, Option.map_some, if_true]

theorem checkFocusResource_other (hexists : ∀ s, w.focus = some s → ∃ client, w.clientOf s = some client)
    (hother : w.focus.bind w.clientOf ≠ some resource.client)
    (hnew : w.focusResource ≠ some resource.id) : w.checkFocusResource resource = some w := by
  unfold checkFocusResource
  cases hs : w.focus with
  | none => rfl
  | some s =>
    obtain ⟨owner, howner⟩ := hexists s hs
    rw [hs, Option.bind_some, howner] at hother
    simp only [if_neg hnew, howner, Option.map_some, if_neg fun heq => hother (congrArg some heq)]

/-- The new keyboard is told the keymap before it is looked at. -/
def announced (w : KeyboardSeat σ κ μ) : KeyboardSeat σ κ μ :=
  { w with nextResource := w.nextResource + 1 }.send w.nextResource [.keymap w.keymapFd]

theorem getKeyboard_eq (w : KeyboardSeat σ κ μ) (client : ClientId) :
    w.getKeyboard client = (w.announced.checkFocusResource ⟨w.nextResource, client⟩).map fun v =>
      { v with resources := ⟨w.nextResource, client⟩ :: v.resources } := rfl

theorem Core.sent_announced (h : w.Core) :
    w.announced.sent = Function.update w.sent w.nextResource [.keymap w.keymapFd] := by
  change Function.update w.sent _ (w.sent _ ++ _) = _
  rw [h.unsent _ (Nat.le_refl _)]
  rfl

theorem Core.focusResource_ne_next (h : w.Core) : w.focusResource ≠ some w.nextResource := fun heq =>
  absurd (h.lt_of_focusResource heq) (Nat.lt_irrefl _)

/-- The new keyboard of the client that has the focus -/
theorem Core.getKeyboard_entered (h : w.Core) (hs : w.focus = some s)
    (hclient : w.clientOf s = some client) : w.getKeyboard client =
      some (w.bound client (some w.nextResource)
        [.keymap w.keymapFd, .modifiers w.mods, .enter s w.keys]) := by
  have hcheck : w.announced.checkFocusResource ⟨w.nextResource, client⟩ = _ :=
    checkFocusResource_entered hs hclient h.focusResource_ne_next
  rw [getKeyboard_eq, hcheck, KeyboardSeat.bound, sendEnter, send, h.sent_announced,
    Function.update_idem, Function.update_self]
  rfl

theorem Core.getKeyboard_other (h : w.Core) (hother : w.focus.bind w.clientOf ≠ some client) :
    w.getKeyboard client = some (w.bound client w.focusResource [.keymap w.keymapFd]) := by
  have hcheck : w.announced.checkFocusResource ⟨w.nextResource, client⟩ = _ :=
    checkFocusResource_other h.exists_focus hother h.focusResource_ne_next
  rw [getKeyboard_eq, hcheck, KeyboardSeat.bound, ← h.sent_announced]
  rfl

theorem Core.getKeyboard (h : w.Core) (hfree : w.resourceFor client = none) :
    ∃ w', w.getKeyboard client = some w' ∧ w'.Core ∧ w'.pendingKeymap = w.pendingKeymap ∧
      w'.keys = w.keys := by
  by_cases hclient : w.focus.bind w.clientOf = some client
  · obtain ⟨s, hs, howner⟩ := Option.bind_eq_some_iff.1 hclient
    refine ⟨_, h.getKeyboard_entered hs howner, h.bound hfree ?_ ?_ fun x hx => ?_, rfl, rfl⟩
    · unfold focusedKeyboard
      change _ = ((w.focus.bind w.clientOf).bind _).map _
      rw [hclient, Option.bind_some, resourceFor_bound, if_pos rfl]
      rfl
    · have hentered : (w.bound client (some w.nextResource)
          [.keymap w.keymapFd, .modifiers w.mods, .enter s w.keys]).enteredBy w.nextResource =
            some s := (enteredBy_focused rfl).trans hs
      rw [hentered]
      refine (h.knows_bound client w.focusResource).enter ?_ rfl
      change Function.update w.sent w.nextResource _ w.nextResource =
        Function.update w.sent w.nextResource _ w.nextResource ++ _
      rw [Function.update_self, Function.update_self]
      rfl
    · have hnone : w.focusResource = none := by
        rw [h.focusResource, focusedKeyboard, hclient, Option.bind_some, hfree]
        rfl
      rw [enteredBy_unfocused hnone]
      exact enteredBy_ne rfl (Nat.ne_of_lt (h.resource_lt x hx))
  · refine ⟨_, h.getKeyboard_other hclient, h.bound hfree ?_ ?_ fun x _ => rfl, rfl, rfl⟩
    · rw [h.focusResource]
      unfold focusedKeyboard
      change _ = ((w.focus.bind w.clientOf).bind _).map _
      cases howner : w.focus.bind w.clientOf with
      | none => rfl
      | some owner =>
        have hne : client ≠ owner := fun heq => hclient (heq ▸ howner)
        simp only [Option.bind_some]
        rw [resourceFor_bound, if_neg hne]
    · have hentered : (w.bound client w.focusResource [.keymap w.keymapFd]).enteredBy
          w.nextResource = none := enteredBy_other h.focusResource_ne_next
      rw [hentered]
      exact h.knows_bound client w.focusResource

end KeyboardSeat

end GreenIsland.Compositor

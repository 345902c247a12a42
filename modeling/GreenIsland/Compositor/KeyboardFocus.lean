import GreenIsland.Compositor.KeyboardView
import GreenIsland.Lib.Run

/-! The focus of the keyboard, keys and keymaps.

`keyboards_agree`: whatever surfaces and keyboards are created, destroyed, focused and typed at,
each client knows from its keyboard the keymap, whether one of its surfaces has the focus, and then
the pressed keys and the modifiers; a new keymap waits only while keys are pressed. -/

namespace GreenIsland.Compositor

namespace KeyboardSeat

open KeyboardView (seeAll seeAll_append seeAll_concat)

variable {σ κ μ : Type} {xkb : Xkb σ κ μ} {w w' : KeyboardSeat σ κ μ} {r : KeyboardId}
  {s : KeyboardSurfaceId} {client : ClientId}
  {resource : KeyboardResource}

/-! ## The focus moves -/

theorem sendLeave_none (hr : w.focusResource = none) : w.sendLeave = some w := by
  rw [KeyboardSeat.sendLeave, hr]

/-- The surface that had the focus is left, so that nothing is entered. -/
theorem Core.sendLeave (h : w.Core) : ∃ sent, w.sendLeave = some { w with sent := sent } ∧
    (∀ r, w.nextResource ≤ r → sent r = []) ∧
    ∀ x ∈ w.resources, ({ w with sent := sent } : KeyboardSeat σ κ μ).Knows x.id none := by
  rcases Option.eq_none_or_eq_some w.focusResource with hr | ⟨r, hr⟩
  · refine ⟨w.sent, sendLeave_none hr, h.unsent, fun x hx => ?_⟩
    exact enteredBy_unfocused hr x.id ▸ h.knows x hx
  · obtain ⟨resource, hmem, hid, s, hs⟩ := h.mem_of_focusResource hr
    obtain ⟨client, hclient⟩ := h.exists_focus s hs
    refine ⟨(w.send r [.leave s]).sent, ?_, fun r' hr' => ?_, fun x hx => ?_⟩
    · have hleave : w.sendLeave = some (w.send r [.leave s]) := by
        rw [KeyboardSeat.sendLeave, hr]
        simp only [hs, hclient, Option.bind_eq_bind, Option.bind_some, Option.pure_def]
      exact hleave
    · have hlt := h.lt_of_focusResource hr
      rw [send_ne (Nat.ne_of_gt (Nat.lt_of_lt_of_le hlt hr'))]
      exact h.unsent r' hr'
    · by_cases hx' : x.id = r
      · have hentered : w.enteredBy x.id = some s := (enteredBy_focused (hx' ▸ hr)).trans hs
        have hknows := hentered ▸ h.knows x hx
        refine hknows.leave ?_ rfl
        rw [hx']
        exact send_self _
      · have hknows := enteredBy_ne hr hx' ▸ h.knows x hx
        exact hknows.congr (send_ne hx' _) rfl fun _ => ⟨rfl, rfl⟩

/-- The seat whose focus has moved -/
def moved (w : KeyboardSeat σ κ μ) (target : Option KeyboardSurfaceId) (r : Option KeyboardId)
    (sent : KeyboardId → List (KeyboardEvent κ)) : KeyboardSeat σ κ μ :=
  { w with focus := target, focusDestroyListener := target, focusResource := r, sent := sent }

section
variable {surface : Option KeyboardSurface} {x : KeyboardSurface}
  {sent : KeyboardId → List (KeyboardEvent κ)}

/-- Also if there was no focus -/
theorem Core.focused_none (h : w.Core)
    (hsurface : surface.filter (fun surface => !surface.isCursorSurface) = none)
    (hleave : w.sendLeave = some { w with sent := sent }) :
    w.focused surface = some (w.moved none none sent) := by
  unfold KeyboardSeat.focused
  rw [hsurface]
  by_cases hfocus : w.focus = none
  · have hfr : w.focusResource = none := by
      rw [h.focusResource, focusedKeyboard, hfocus]
      rfl
    have hsent : w.sent = sent :=
      congrArg KeyboardSeat.sent (Option.some.inj ((sendLeave_none hfr).symm.trans hleave))
    have hlistener : w.focusDestroyListener = none := h.listens.trans hfocus
    simp only [Option.map_none, if_neg fun hne : w.focus ≠ none => hne hfocus, Option.bind_eq_bind,
      Option.bind_some, Option.bind_none, Option.pure_def, KeyboardSeat.moved, ← hsent, hlistener]
  · simp only [Option.map_none, if_pos hfocus, hleave, Option.map_some, Option.bind_eq_bind,
      Option.bind_some, Option.bind_none, Option.pure_def]
    rfl

theorem focused_some (hsurface : surface.filter (fun surface => !surface.isCursorSurface) = some x)
    (hfocus : w.focus ≠ some x.id) (hleave : w.sendLeave = some { w with sent := sent }) :
    w.focused surface = some (match w.resourceFor x.client with
      | some resource => w.moved (some x.id) (some resource.id) (Function.update sent resource.id
          (sent resource.id ++ [.modifiers w.mods, .enter x.id w.keys]))
      | none => w.moved (some x.id) none sent) := by
  unfold focused
  rw [hsurface]
  simp only [Option.map_some, if_pos hfocus, hleave, Option.bind_eq_bind,
    Option.bind_some, Option.pure_def]
  generalize hfor : KeyboardSeat.resourceFor _ x.client = resource
  have hresource : w.resourceFor x.client = resource := hfor
  rw [hresource]
  cases resource with
  | none => rfl
  | some resource =>
    simp only [Option.map_some, if_pos (Or.inl hfocus)]
    rfl

end

/-- Every surface is left, and nothing else concerns the keyboards. -/
theorem Core.moved (h : w.Core) {target : Option KeyboardSurfaceId} {fr : Option KeyboardId}
    {sent : KeyboardId → List (KeyboardEvent κ)} (hunsent : ∀ r, w.nextResource ≤ r → sent r = [])
    (hexists : ∀ s, target = some s → ∃ client, w.clientOf s = some client)
    (hfr : fr = ((target.bind w.clientOf).bind w.resourceFor).map KeyboardResource.id)
    (hknows : ∀ x ∈ w.resources,
      (w.moved target fr sent).Knows x.id (if fr = some x.id then target else none)) :
    (w.moved target fr sent).Core :=
  ⟨h.surface_lt, h.resource_lt, h.one, h.distinct, hunsent, h.mapped, rfl, hexists, hfr, hknows⟩

theorem Core.focused (h : w.Core) {surface : Option KeyboardSurface}
    (hsurface : ∀ x, surface = some x → w.surface x.id = some x)
    (hfocus : ∀ s, w.focus = some s → surface.map KeyboardSurface.id ≠ some s) :
    ∃ w', w.focused surface = some w' ∧ w'.Core ∧ w'.pendingKeymap = w.pendingKeymap ∧
      w'.keys = w.keys := by
  obtain ⟨sent, hleave, hunsent, hknows⟩ := h.sendLeave
  rcases htarget : surface.filter (fun surface => !surface.isCursorSurface) with _ | x
  · refine ⟨_, h.focused_none htarget hleave, ?_, rfl, rfl⟩
    refine h.moved hunsent (fun s hs => absurd hs (Option.not_mem_none _)) rfl fun x hx => ?_
    rw [ite_self]
    exact (hknows x hx).congr rfl rfl fun _ => ⟨rfl, rfl⟩
  · have hx := (Option.filter_eq_some_iff.1 htarget).1
    have hclient : w.clientOf x.id = some x.client := congrArg (Option.map _) (hsurface x hx)
    have hexists : ∀ s, some x.id = some s → ∃ client, w.clientOf s = some client := by
      rintro _ ⟨⟩
      exact ⟨x.client, hclient⟩
    have hne : w.focus ≠ some x.id := fun hs => hfocus x.id hs (hx ▸ rfl)
    refine ⟨_, focused_some htarget hne hleave, ?_⟩
    cases hfor : w.resourceFor x.client with
    | none =>
      refine ⟨h.moved hunsent hexists ?_ fun y hy => ?_, rfl, rfl⟩
      · rw [Option.bind_some, hclient, Option.bind_some, hfor]
        rfl
      · rw [if_neg (Option.some_ne_none _ ∘ Eq.symm)]
        exact (hknows y hy).congr rfl rfl fun _ => ⟨rfl, rfl⟩
    | some resource =>
      have hmem := (resourceFor_mem hfor).1
      refine ⟨h.moved (fun r hr => ?_) hexists ?_ fun y hy => ?_, rfl, rfl⟩
      · have hlt := Nat.lt_of_lt_of_le (h.resource_lt resource hmem) hr
        rw [Function.update_of_ne (Nat.ne_of_gt hlt)]
        exact hunsent r hr
      · rw [Option.bind_some, hclient, Option.bind_some, hfor]
        rfl
      · by_cases hid : resource.id = y.id
        · rw [if_pos (congrArg some hid)]
          refine (hknows y hy).enter ?_ rfl
          rw [← hid]
          exact Function.update_self ..
        · rw [if_neg fun heq => hid (Option.some.inj heq)]
          exact (hknows y hy).congr (Function.update_of_ne (Ne.symm hid) _ _) rfl fun _ => ⟨rfl, rfl⟩

theorem Core.setKeyboardFocus (h : w.Core) {s : Option KeyboardSurfaceId}
    (hok : s = none → w.focus = none ∨ w.dataDevice = false) :
    ∃ w', w.setKeyboardFocus s = some w' ∧ w'.Core ∧ w'.pendingKeymap = w.pendingKeymap ∧
      w'.keys = w.keys := by
  cases s with
  | none =>
    rw [KeyboardSeat.setKeyboardFocus]
    by_cases hfocus : w.focus = none
    · rw [if_pos hfocus]
      exact ⟨w, rfl, h, rfl, rfl⟩
    · have hdevice : ¬w.dataDevice = true := by
        rw [(hok rfl).resolve_left hfocus]
        exact Bool.false_ne_true
      rw [if_neg hfocus, if_neg hdevice]
      exact h.focused (fun x hx => absurd hx (Option.not_mem_none _))
        fun s _ => Option.some_ne_none s ∘ Eq.symm
  | some s =>
    rw [KeyboardSeat.setKeyboardFocus]
    cases hs : w.surface s with
    | none => exact ⟨w, rfl, h, rfl, rfl⟩
    | some x =>
      have hid : x.id = s := by simpa using List.find?_some hs
      by_cases hfocus : w.focus = some s
      · simp only [if_pos hfocus]
        exact ⟨w, rfl, h, rfl, rfl⟩
      · simp only [if_neg hfocus]
        refine h.focused (fun y hy => ?_) fun s' hs' heq => hfocus ?_
        · cases hy
          rw [hid]
          exact hs
        · rw [hs', ← heq, ← hid]
          rfl

/-! ## Keys, modifiers and the keymap -/

/-- The focused keyboard is told. -/
def tell (w : KeyboardSeat σ κ μ) (event : KeyboardEvent κ) : KeyboardSeat σ κ μ :=
  match w.focusResource with
  | some r => w.send r [event]
  | none => w

theorem tell_of_some {event : KeyboardEvent κ} (hr : w.focusResource = some r) :
    w.tell event = w.send r [event] := by
  rw [tell, hr]

theorem tell_of_none {event : KeyboardEvent κ} (hr : w.focusResource = none) : w.tell event = w := by
  rw [tell, hr]

theorem tell_keys (event : KeyboardEvent κ) : (w.tell event).keys = w.keys := by
  unfold tell
  split <;> rfl

theorem tell_pendingKeymap (event : KeyboardEvent κ) :
    (w.tell event).pendingKeymap = w.pendingKeymap := by
  unfold tell
  split <;> rfl

/-- The seat with other keys, modifiers or keymap; the focus is the same. -/
def withKeys (w : KeyboardSeat σ κ μ) (keys : List Nat) (mods : Modifiers) (keymap : μ)
    (pendingKeymap : Bool) (xkbState : σ) : KeyboardSeat σ κ μ :=
  { w with
    keys := keys
    mods := mods
    keymap := keymap
    pendingKeymap := pendingKeymap
    xkbState := xkbState }

/-- The keyboard that has the focus is told in a way that its client can follow. -/
theorem Core.tell (h : w.Core) {keys : List Nat} {mods : Modifiers} (keymap : μ) (pending : Bool)
    (xkbState : σ) {event : KeyboardEvent κ}
    (hsee : ∀ v : KeyboardView κ, v.entered ≠ none → v.keys = w.keys → v.mods = some w.mods →
      v.see event = some { v with keys := keys, mods := some mods }) :
    ((w.withKeys keys mods keymap pending xkbState).tell event).Core := by
  rcases Option.eq_none_or_eq_some w.focusResource with hr | ⟨r, hr⟩
  · have hr' : (w.withKeys keys mods keymap pending xkbState).focusResource = none := hr
    rw [tell_of_none hr']
    refine ⟨h.surface_lt, h.resource_lt, h.one, h.distinct, h.unsent, h.mapped, h.listens,
      h.exists_focus, h.focusResource, fun x hx => ?_⟩
    exact (h.knows x hx).congr rfl rfl fun hne => absurd (enteredBy_unfocused hr x.id) hne
  · have hr' : (w.withKeys keys mods keymap pending xkbState).focusResource = some r := hr
    rw [tell_of_some hr']
    refine ⟨h.surface_lt, h.resource_lt, h.one, h.distinct, fun r' hr' => ?_, h.mapped, h.listens,
      h.exists_focus, h.focusResource, fun x hx => ?_⟩
    · rw [send_ne (Nat.ne_of_gt (Nat.lt_of_lt_of_le (h.lt_of_focusResource hr) hr'))]
      exact h.unsent r' hr'
    · by_cases hid : x.id = r
      · obtain ⟨_, _, _, s, hs⟩ := h.mem_of_focusResource hr
        have hentered : w.enteredBy x.id = some s := (enteredBy_focused (hid ▸ hr)).trans hs
        obtain ⟨v, hv, hkeymap, hv', hrest⟩ := h.knows x hx
        have hne : w.enteredBy x.id ≠ none := hentered ▸ Option.some_ne_none s
        obtain ⟨hkeys, hmods⟩ := hrest hne
        refine ⟨{ v with keys := keys, mods := some mods }, ?_, hkeymap, hv', fun _ => ⟨rfl, rfl⟩⟩
        rw [hid] at hv ⊢
        rw [send_self]
        refine (seeAll_concat hv event).trans ?_
        exact hsee v (hv' ▸ hne) hkeys hmods
      · exact (h.knows x hx).congr (send_ne hid _) rfl fun hne => absurd (enteredBy_ne hr hid) hne

theorem sendKeyEvent_tell {code : Nat} (hcode : 8 ≤ code) (pressed : Bool) :
    w.sendKeyEvent code pressed = some (w.tell (.key (code - 8) pressed)) := by
  unfold sendKeyEvent toWaylandXkbV1Key
  rw [if_pos hcode]
  rfl

theorem modifiers_tell (mods : Modifiers) : w.modifiers mods = w.tell (.modifiers mods) := rfl

/-- The keys after a key was pressed or released -/
def keysAfter (keys : List Nat) (key : Nat) (pressed : Bool) : List Nat :=
  if pressed then keys ++ [key] else keys.filter fun k => k ≠ key

/-- The seat that has recorded a key -/
def recorded (w : KeyboardSeat σ κ μ) (code : Nat) (pressed : Bool) : KeyboardSeat σ κ μ :=
  { w with keys := keysAfter w.keys (code - 8) pressed }

theorem keyEvent_eq {code : Nat} (hcode : 8 ≤ code) (pressed : Bool) :
    w.keyEvent code pressed = some (w.recorded code pressed) := by
  unfold keyEvent toWaylandXkbV1Key recorded keysAfter
  rw [if_pos hcode]
  cases pressed <;> rfl

theorem see_key {v : KeyboardView κ} (hentered : v.entered ≠ none) (hkeys : v.keys = w.keys)
    (hmods : v.mods = some w.mods) (key : Nat) (pressed : Bool) :
    v.see (.key key pressed) =
      some { v with keys := keysAfter w.keys key pressed, mods := some w.mods } := by
  rw [KeyboardView.see, if_neg hentered, ← hkeys, ← hmods]
  cases pressed <;> rfl

theorem Core.updateModifierState (h : w.Core) (code : Nat) (pressed : Bool) :
    (w.updateModifierState xkb code pressed).Core := by
  unfold KeyboardSeat.updateModifierState
  dsimp only
  split
  · exact h.untold w.keymap w.pendingKeymap _ w.dataDevice
  · rw [modifiers_tell]
    refine h.tell w.keymap w.pendingKeymap _ fun v _ hkeys _ => ?_
    rw [← hkeys]
    rfl

theorem Core.sendKeymap (h : w.Core) (pending : Bool) (xkbState : σ) (keymap : κ) :
    ({ w with
        pendingKeymap := pending
        xkbState := xkbState
        keymapFd := some keymap } : KeyboardSeat σ κ μ).sendKeymap.Core := by
  refine ⟨h.surface_lt, h.resource_lt, h.one, h.distinct, fun r hr => ?_, ⟨keymap, rfl⟩, h.listens,
    h.exists_focus, h.focusResource, fun x hx => ?_⟩
  · exact broadcast_unsent h hr (.keymap (some keymap))
  · obtain ⟨v, hv, -, hentered, hrest⟩ := h.knows x hx
    refine ⟨{ v with keymap := some keymap }, ?_, rfl, hentered, hrest⟩
    have hmem : x ∈ w.resources := hx
    change seeAll ((w.broadcast (.keymap (some keymap))).sent x.id) = _
    rw [broadcast_mem hmem, seeAll_concat hv]
    rfl

/-- A keymap that was waiting is not waiting any more, unless a key is still pressed. -/
theorem Core.updateKeymap (h : w.Core) (xkb : Xkb σ κ μ) : (w.updateKeymap xkb true).Core ∧
    (w.updateKeymap xkb true).keys = w.keys ∧
    ((w.updateKeymap xkb true).pendingKeymap = true → w.keys ≠ []) := by
  unfold KeyboardSeat.updateKeymap
  split
  · rename_i hwaits
    refine ⟨h, rfl, fun hpending => hwaits.resolve_left ?_⟩
    rw [hpending]
    exact Bool.false_ne_true ∘ Eq.symm
  · have hsent : ((createXKBKeymap xkb { w with pendingKeymap := false } true).sendKeymap).Core ∧
        ((createXKBKeymap xkb { w with pendingKeymap := false } true).sendKeymap).keys = w.keys ∧
        ((createXKBKeymap xkb { w with pendingKeymap := false } true).sendKeymap).pendingKeymap =
          false := by
      unfold createXKBKeymap
      split
      · exact ⟨h.sendKeymap false _ _, rfl, rfl⟩
      · obtain ⟨keymap, hmap⟩ := h.mapped
        have hsame := h.sendKeymap false w.xkbState keymap
        rw [← hmap] at hsame
        exact ⟨hsame, rfl, rfl⟩
    dsimp only
    generalize (createXKBKeymap xkb { w with pendingKeymap := false } true).sendKeymap = v at hsent ⊢
    obtain ⟨hv, hkeys, hpending⟩ := hsent
    rw [modifiers_tell]
    refine ⟨hv.tell v.keymap v.pendingKeymap _ fun u _ hu _ => ?_, ?_, fun htrue => ?_⟩
    · rw [← hu]
      rfl
    · rw [tell_keys]
      exact hkeys
    · rw [tell_pendingKeymap] at htrue
      exact absurd (hpending.symm.trans htrue) Bool.false_ne_true

theorem updateModifierState_keys (xkb : Xkb σ κ μ) (w : KeyboardSeat σ κ μ) (code : Nat)
    (pressed : Bool) :
    (w.updateModifierState xkb code pressed).keys = w.keys ∧
      (w.updateModifierState xkb code pressed).pendingKeymap = w.pendingKeymap := by
  unfold KeyboardSeat.updateModifierState
  dsimp only
  split
  · exact ⟨rfl, rfl⟩
  · rw [modifiers_tell, tell_keys, tell_pendingKeymap]
    exact ⟨rfl, rfl⟩

/-- The key comes to the keyboard that has the focus, unless none has it. -/
theorem deliver_tell (hfocus : w.focusResource ≠ none → w.focus ≠ none) {code : Nat}
    (hcode : 8 ≤ code) (pressed : Bool) {delivery : KeyDelivery}
    (hdelivery : w.focusResource ≠ none → delivery.toItem = true ∧ delivery.toKeyExtension = false) :
    w.deliver code pressed delivery = some (w.tell (.key (code - 8) pressed)) := by
  rw [deliver, sendFullKeyEvent, sendKeyEvent_tell hcode]
  by_cases hr : w.focusResource = none
  · simp only [tell_of_none hr, ite_self]
  · obtain ⟨hitem, hextension⟩ := hdelivery hr
    have hkey : ¬(delivery.toTextInput = true ∧ code = 0) := fun hzero => by omega
    rw [if_pos hitem, if_neg (hfocus hr), if_neg hkey, hextension, if_neg Bool.false_ne_true]

theorem Inv.handleKey (h : w.Inv) {code : Nat} (hcode : 8 ≤ code) (pressed : Bool)
    {delivery : KeyDelivery}
    (hdelivery : w.focusResource ≠ none → delivery.toItem = true ∧ delivery.toKeyExtension = false) :
    ∃ w', w.handleKey xkb code pressed delivery true = some w' ∧ w'.Inv := by
  have hfocus : w.focusResource ≠ none → w.focus ≠ none := by
    intro hne
    obtain ⟨r, hr⟩ := Option.ne_none_iff_exists'.1 hne
    obtain ⟨-, -, -, s, hs⟩ := h.mem_of_focusResource hr
    exact hs ▸ Option.some_ne_none s
  have hkey : w.handleKey xkb code pressed delivery true = some ((KeyboardSeat.updateKeymap xkb
      ((w.recorded code pressed).tell (.key (code - 8) pressed)) true).updateModifierState xkb code
        pressed) := by
    rw [KeyboardSeat.handleKey, keyEvent_eq hcode, Option.bind_eq_bind, Option.bind_some,
      deliver_tell (w := w.recorded code pressed) hfocus hcode pressed hdelivery]
    rfl
  have htold : ((w.recorded code pressed).tell (.key (code - 8) pressed)).Core :=
    h.toCore.tell w.keymap w.pendingKeymap w.xkbState fun v hentered hkeys hmods =>
      see_key hentered hkeys hmods _ _
  obtain ⟨hmap, hkeys, hpending⟩ := htold.updateKeymap xkb
  refine ⟨_, hkey, hmap.updateModifierState code pressed, fun htrue => ?_⟩
  obtain ⟨hkeys', hpending'⟩ := updateModifierState_keys xkb _ code pressed
  rw [hpending'] at htrue
  rw [hkeys', hkeys]
  exact hpending htrue

theorem Inv.setKeymap (h : w.Inv) (keymap : μ) : (w.setKeymap xkb keymap true).Inv := by
  unfold KeyboardSeat.setKeymap
  dsimp only
  have hset : ({ w with keymap := keymap, pendingKeymap := true } : KeyboardSeat σ κ μ).Core :=
    h.untold keymap true w.xkbState w.dataDevice
  split
  · obtain ⟨hmap, hkeys, hpending⟩ := hset.updateKeymap xkb
    exact ⟨hmap, fun htrue => by rw [hkeys]; exact hpending htrue⟩
  · rename_i hpressed
    exact ⟨hset, fun _ => hpressed⟩

/-! ## Runs -/

/-- What is asked of the calls: one keyboard for each client at a time, and once the seat has a data
device the focus is not taken away but moved; keys have evdev codes and, if a keyboard has the
focus, come to an item that passes them on, the client not having the key extension; keymaps get
their files. -/
def Ok (w : KeyboardSeat σ κ μ) : KeyboardCall μ → Prop
  | .getKeyboard client => w.resourceFor client = none
  | .setKeyboardFocus s => s = none → w.focus = none ∨ w.dataDevice = false
  | .handleKey code _ delivery mapped => 8 ≤ code ∧
    (w.focusResource ≠ none → delivery.toItem = true ∧ delivery.toKeyExtension = false) ∧ mapped = true
  | .setKeymap _ mapped => mapped = true
  | _ => True

instance : DecidablePred w.Ok
  | .getKeyboard client => inferInstanceAs (Decidable (w.resourceFor client = none))
  | .setKeyboardFocus s => inferInstanceAs (Decidable (s = none → w.focus = none ∨ w.dataDevice = false))
  | .handleKey code _ delivery mapped => inferInstanceAs (Decidable (8 ≤ code ∧
    (w.focusResource ≠ none → delivery.toItem = true ∧ delivery.toKeyExtension = false) ∧ mapped = true))
  | .setKeymap _ mapped => inferInstanceAs (Decidable (mapped = true))
  | .createSurface _ | .markAsCursorSurface _ | .destroySurface _ | .releaseKeyboard _
  | .getDataDevice | .sendKeyModifiers _ => isTrue trivial

theorem Inv.step (h : w.Inv) (c : KeyboardCall μ) (hok : w.Ok c) :
    ∃ w', w.step xkb c = some w' ∧ w'.Inv := by
  -- Only keys and keymaps concern what waits.
  have hquiet : ∀ w' : KeyboardSeat σ κ μ, w'.Core → w'.pendingKeymap = w.pendingKeymap →
      w'.keys = w.keys → w'.Inv := by
    intro w' hcore hpending hkeys
    refine ⟨hcore, fun htrue => ?_⟩
    rw [hkeys]
    exact h.keymap_pending (hpending.symm.trans htrue)
  cases c with
  | createSurface client => exact ⟨_, rfl, hquiet _ (h.toCore.createSurface client) rfl rfl⟩
  | markAsCursorSurface s => exact ⟨_, rfl, hquiet _ (h.toCore.markAsCursorSurface s) rfl rfl⟩
  | destroySurface s =>
    refine ⟨_, rfl, hquiet _ (h.toCore.destroySurface s) ?_ ?_⟩
    all_goals
      unfold destroySurface
      dsimp only
      split <;> rfl
  | getKeyboard client =>
    obtain ⟨w', hw', hcore, hpending, hkeys⟩ := h.toCore.getKeyboard hok
    exact ⟨w', hw', hquiet w' hcore hpending hkeys⟩
  | releaseKeyboard r => exact ⟨_, rfl, hquiet _ (h.toCore.releaseKeyboard r) rfl rfl⟩
  | getDataDevice =>
    exact ⟨_, rfl, hquiet _ (h.toCore.untold w.keymap w.pendingKeymap w.xkbState true) rfl rfl⟩
  | setKeyboardFocus s =>
    obtain ⟨w', hw', hcore, hpending, hkeys⟩ := h.toCore.setKeyboardFocus hok
    exact ⟨w', hw', hquiet w' hcore hpending hkeys⟩
  | handleKey code pressed delivery mapped =>
    obtain ⟨hcode, hdelivery, rfl⟩ := hok
    exact h.handleKey hcode pressed hdelivery
  | setKeymap keymap mapped =>
    obtain rfl : mapped = true := hok
    exact ⟨_, rfl, h.setKeymap keymap⟩
  | sendKeyModifiers client =>
    refine ⟨_, rfl, hquiet _ (h.toCore.sendKeyModifiers client) ?_ ?_⟩
    all_goals
      unfold sendKeyModifiers
      split <;> rfl

/-- The surface that the keyboards of a client should have entered: the one that has the focus, if it
is the client's. -/
def focusOf (w : KeyboardSeat σ κ μ) (client : ClientId) : Option KeyboardSurfaceId :=
  if w.focus.bind w.clientOf = some client then w.focus else none

theorem Core.enteredBy_eq (h : w.Core) (hmem : resource ∈ w.resources) :
    w.enteredBy resource.id = w.focusOf resource.client := by
  unfold enteredBy focusOf
  by_cases hclient : w.focus.bind w.clientOf = some resource.client
  · have hfor : w.resourceFor resource.client = some resource := by
      cases hfor : w.resourceFor resource.client with
      | none => exact absurd (decide_eq_true rfl) (List.find?_eq_none.1 hfor resource hmem)
      | some y =>
        obtain ⟨hy, hyclient⟩ := resourceFor_mem hfor
        exact congrArg some (List.inj_on_of_nodup_map h.one hy hmem hyclient)
    have hr : w.focusResource = some resource.id := by
      rw [h.focusResource, focusedKeyboard, hclient, Option.bind_some, hfor]
      rfl
    rw [if_pos hr, if_pos hclient]
  · rw [if_neg hclient]
    refine if_neg fun hr => hclient ?_
    rw [h.focusResource, focusedKeyboard] at hr
    obtain ⟨y, hy, hid⟩ := Option.map_eq_some_iff.1 hr
    obtain ⟨client, howner, hfor⟩ := Option.bind_eq_some_iff.1 hy
    obtain ⟨hymem, hyclient⟩ := resourceFor_mem hfor
    have hsame : y = resource := List.inj_on_of_nodup_map h.distinct hymem hmem hid
    rw [howner, ← hsame, hyclient]

/-- Each client knows from its keyboard the keymap, whether one of its surfaces has the focus, and then
the keys and the modifiers; no keymap waits for a key that is not pressed. -/
structure Agrees (w : KeyboardSeat σ κ μ) : Prop where
  mapped : ∃ keymap, w.keymapFd = some keymap
  knows : ∀ x ∈ w.resources, w.Knows x.id (w.focusOf x.client)
  exists_focus : ∀ s, w.focus = some s → ∃ client, w.clientOf s = some client
  keymap_pending : w.pendingKeymap = true → w.keys ≠ []

/-- **Keyboards agree with the seat**: no call faults, no client is told anything against the protocol,
and what each client makes of the messages is what the seat has, after every call. -/
theorem keyboards_agree (xkb : Xkb σ κ μ) (keymap : μ) (compiled : σ × κ) (calls : List (KeyboardCall μ))
    (hok : Run.Meets (step xkb) Ok (new keymap compiled) calls) :
    Run.Always (step xkb) Agrees (new keymap compiled) calls := by
  have hagrees : ∀ w : KeyboardSeat σ κ μ, w.Inv → w.Agrees := fun w h =>
    ⟨h.mapped, fun x hx => h.enteredBy_eq hx ▸ h.knows x hx, h.exists_focus, h.keymap_pending⟩
  refine ⟨hagrees _ (inv_new keymap compiled), ?_⟩
  refine Run.along_of_meets (I := Inv) (fun w c h hc => ?_) calls _ (inv_new keymap compiled) hok
  obtain ⟨w', hstep, h'⟩ := h.step c hc
  exact ⟨w', hstep, hagrees w' h', h'⟩

/-- Two clients, a key that is held while the focus moves and a keymap that waits for it.  The last
keys come when no keyboard has the focus, and no item passes them on. -/
theorem keyboards_agree_refocus :
    let xkb : Xkb Modifiers Nat Nat :=
      { updateKey := fun mods code pressed =>
          if code = 50 then { mods with modsDepressed := if pressed then 1 else 0 } else mods
        serializeMods := id
        updateMask := fun _ mods => mods
        compile := fun keymap => some (⟨0, 0, 0, 0⟩, keymap) }
    Run.Always (step xkb) Agrees (new 0 (⟨0, 0, 0, 0⟩, 0))
      [.createSurface 0, .createSurface 1, .getKeyboard 0, .getKeyboard 1, .setKeyboardFocus (some 0),
        .handleKey 50 true ⟨true, true, false⟩ true, .handleKey 38 true ⟨true, false, false⟩ true,
        .setKeymap 5 true, .setKeyboardFocus (some 1), .handleKey 38 false ⟨true, false, false⟩ true,
        .handleKey 50 false ⟨true, false, false⟩ true, .destroySurface 1,
        .handleKey 50 true ⟨false, false, true⟩ true] :=
  keyboards_agree _ _ _ _ (by decide)

end KeyboardSeat

end GreenIsland.Compositor

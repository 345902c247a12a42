import GreenIsland.Kms.Screen
import GreenIsland.Lib.Ledger

/-! The native window of a KMS screen (`EglFSKmsIntegration`).

A screen has one `gbm_surface`, which is the native window of the one window on it.
`createNativeWindow` has the screen create it, a change of the mode has the screen
destroy it and create another one, and `destroyNativeWindow` destroys it itself: the
screen still points to it, so that every other window is refused.

So the pointer of the screen is null or a live surface of the size of the mode, each
surface is destroyed once, and there can be a window after the window, along exactly
the runs in which no native window is destroyed (`surface_ok_iff`). -/

namespace GreenIsland.Kms

/-! ## Model -/

/-- A `gbm_surface`, by its number. -/
structure GbmSurface where
  number : Nat
  width : UInt16
  height : UInt16
deriving DecidableEq

/-- The surface that `createSurface` makes if the screen has none; `created` is
whether GBM makes it. -/
def Screen.newSurface (s : Screen) (created : Bool) : List GbmSurface :=
  match s.surface, s.geometry with
  | none, some mode => if created then [⟨s.surfaces, mode.hdisplay, mode.vdisplay⟩] else []
  | _, _ => []

/-- A screen and the window on it, with the surfaces that were created and destroyed. -/
structure KmsWindow where
  screen : Screen
  /-- `m_window` -/
  window : Option Nat
  created : List GbmSurface
  destroyed : List Nat
deriving DecidableEq

namespace KmsWindow

def init (output : Output) (savedCrtc dpmsProp : Bool) : KmsWindow where
  screen := .init output savedCrtc dpmsProp
  window := none
  created := []
  destroyed := []

/-- The screen creates a surface, which becomes the native window. -/
def openSurface (s : KmsWindow) (created : Bool) : Option KmsWindow :=
  (s.screen.createSurface created).map fun screen =>
    { s with
      screen := screen
      window := screen.surface
      created := s.created ++ s.screen.newSurface created }

/-- The screen takes the pending mode and destroys its surface. -/
def closeSurface (s : KmsWindow) : KmsWindow :=
  { s with
    screen := s.screen.takePendingMode.destroySurface
    destroyed := s.destroyed ++ s.screen.surface.toList }

/-- A second window is refused, and is not made. -/
def createNativeWindow (s : KmsWindow) (created : Bool) : Option KmsWindow :=
  match s.screen.surface with
  | some _ => some s
  | none => s.openSurface created

/-- Only a window that has a native window destroys it. -/
def destroyNativeWindow (s : KmsWindow) : KmsWindow :=
  match s.window with
  | none => s
  | some n => { s with window := none, destroyed := s.destroyed ++ [n] }

def isResizingSurface (s : KmsWindow) : Bool := s.screen.pendingMode ≥ 0

/-- `EglFSKmsScreen::resizeSurface` and then that of the window, as `swapBuffers` calls
them.  A window of the type `Qt::Desktop` has no surface to swap. -/
def resizeSurface (s : KmsWindow) (created : Bool) : Option KmsWindow :=
  if s.isResizingSurface then s.closeSurface.openSurface created else some s

inductive Op
  | createNativeWindow (created : Bool)
  | destroyNativeWindow
  | setCurrentMode (modeId : Int)
  | resizeSurface (created : Bool)
  | flip (k : FlipAnswers)
  | vblank
  | pageFlipEvent

/-- A call of the screen alone. -/
def onScreen (s : KmsWindow) (screen : Option Screen) : Option KmsWindow :=
  screen.map fun screen => { s with screen := screen }

def step (s : KmsWindow) : Op → Option KmsWindow
  | .createNativeWindow created => s.createNativeWindow created
  | .destroyNativeWindow => some s.destroyNativeWindow
  | .setCurrentMode modeId => s.onScreen (some (s.screen.setCurrentMode modeId))
  | .resizeSurface created => s.resizeSurface created
  | .flip k => s.onScreen (s.screen.flip k)
  | .vblank => s.onScreen (some s.screen.vblank)
  | .pageFlipEvent => s.onScreen s.screen.pageFlipHandler

/-! ## Specification -/

/-- **The surface of the screen.**  It is null or live and as large as the current
mode, which is one of the modes; every surface that was created is destroyed once or
is the screen's; and without a window there can be one. -/
structure SurfaceOk (s : KmsWindow) : Prop where
  live : ∀ n, s.screen.surface = some n → n ∉ s.destroyed
  size : ∀ n, s.screen.surface = some n → ∃ mode, s.screen.geometry = some mode ∧
    ⟨n, mode.hdisplay, mode.vdisplay⟩ ∈ s.created
  once : ∀ g ∈ s.created,
    s.destroyed.count g.number + s.screen.surface.toList.count g.number = 1
  mode : 0 ≤ s.screen.output.mode ∧ s.screen.output.mode < s.screen.output.modes.length
  again : s.window = none → ∃ s', s.createNativeWindow true = some s' ∧ s'.window ≠ none

/-- No native window is destroyed. -/
def Ok (s : KmsWindow) : Op → Prop
  | .destroyNativeWindow => s.window = none
  | _ => True

end KmsWindow

/-! ## Calls that leave the surface alone -/

namespace Screen

variable {s s' : Screen} {k : FlipAnswers} {bo : Bo}

/-- The surface, the modes and the pending mode are the same. -/
structure SameSurface (s s' : Screen) : Prop where
  surface : s'.surface = s.surface
  surfaces : s'.surfaces = s.surfaces
  output : s'.output = s.output
  pendingMode : s'.pendingMode = s.pendingMode

theorem sameSurface_refl (s : Screen) : SameSurface s s := ⟨rfl, rfl, rfl, rfl⟩

theorem SameSurface.trans {s₁ s₂ s₃ : Screen} (h : SameSurface s₁ s₂) (h' : SameSurface s₂ s₃) :
    SameSurface s₁ s₃ where
  surface := h'.surface.trans h.surface
  surfaces := h'.surfaces.trans h.surfaces
  output := h'.output.trans h.output
  pendingMode := h'.pendingMode.trans h.pendingMode

theorem SameSurface.geometry_eq (h : SameSurface s s') : s'.geometry = s.geometry := by
  unfold geometry
  rw [h.output]

theorem sameSurface_vblank (s : Screen) : SameSurface s s.vblank := by
  unfold vblank
  split
  · exact sameSurface_refl s
  · exact ⟨rfl, rfl, rfl, rfl⟩

theorem sameSurface_setCrtc (s : Screen) (bo : Option Bo) : SameSurface s (s.setCrtc bo) := by
  obtain ⟨hsurface, hsurfaces, houtput, hpending⟩ := sameSurface_vblank s
  exact ⟨hsurface, hsurfaces, houtput, hpending⟩

theorem sameSurface_releaseBuffer (h : s.releaseBuffer bo = some s') : SameSurface s s' := by
  obtain ⟨n, -, rfl⟩ := Option.map_eq_some_iff.1 h
  exact ⟨rfl, rfl, rfl, rfl⟩

theorem sameSurface_destroyCurrent (s : Screen) : SameSurface s s.destroyCurrent := by
  unfold destroyCurrent
  split
  · exact sameSurface_refl s
  · exact ⟨rfl, rfl, rfl, rfl⟩

theorem sameSurface_destroyNext (s : Screen) : SameSurface s s.destroyNext := by
  unfold destroyNext
  split
  · exact sameSurface_refl s
  · exact ⟨rfl, rfl, rfl, rfl⟩

theorem sameSurface_setPowerState (s : Screen) (state : PowerState) :
    SameSurface s (s.setPowerState state) := by
  unfold setPowerState
  split
  · exact ⟨rfl, rfl, rfl, rfl⟩
  · exact sameSurface_refl s

theorem sameSurface_setMode (h : s.setMode bo k = some s') : SameSurface s s' := by
  unfold setMode at h
  split at h
  · exact Option.some.inj h ▸ sameSurface_refl s
  · obtain ⟨mode, -, rfl⟩ := Option.map_eq_some_iff.1 h
    split
    · have hcrtc := sameSurface_setCrtc s (some bo)
      have hset : SameSurface (s.setCrtc (some bo)) { s.setCrtc (some bo) with modeSet := true } :=
        ⟨rfl, rfl, rfl, rfl⟩
      exact (hcrtc.trans hset).trans (sameSurface_setPowerState _ .on)
    · exact sameSurface_refl s

theorem sameSurface_pageFlip (h : s.pageFlip bo k = some s') : SameSurface s s' := by
  unfold pageFlip at h
  split at h
  · obtain rfl := Option.some.inj h
    exact ⟨rfl, rfl, rfl, rfl⟩
  · obtain ⟨s₁, hs₁, rfl⟩ := Option.map_eq_some_iff.1 h
    obtain ⟨hsurface, hsurfaces, houtput, hpending⟩ := sameSurface_releaseBuffer hs₁
    exact ⟨hsurface, hsurfaces, houtput, hpending⟩

theorem sameSurface_flip (h : s.flip k = some s') : SameSurface s s' := by
  unfold flip at h
  split at h
  · exact Option.some.inj h ▸ sameSurface_refl s
  · split_ifs at h
    · exact Option.some.inj h ▸ sameSurface_refl s
    · exact Option.some.inj h ▸ sameSurface_refl s
    · obtain ⟨s₁, hmode, hflip⟩ := Option.bind_eq_some_iff.1 h
      obtain ⟨hsurface, hsurfaces, houtput, hpending⟩ :=
        (sameSurface_setMode hmode).trans (sameSurface_pageFlip hflip)
      exact ⟨hsurface, hsurfaces, houtput, hpending⟩
    · obtain rfl := Option.some.inj h
      exact ⟨rfl, rfl, rfl, rfl⟩

theorem sameSurface_pageFlipHandler (h : s.pageFlipHandler = some s') : SameSurface s s' := by
  unfold pageFlipHandler at h
  split at h
  · exact Option.some.inj h ▸ sameSurface_refl s
  · obtain ⟨s₁, hs₁, rfl⟩ := Option.map_eq_some_iff.1 h
    unfold releaseCurrent at hs₁
    split at hs₁
    · obtain rfl := Option.some.inj hs₁
      exact ⟨rfl, rfl, rfl, rfl⟩
    · obtain ⟨hsurface, hsurfaces, houtput, hpending⟩ := sameSurface_releaseBuffer hs₁
      exact ⟨hsurface, hsurfaces, houtput, hpending⟩

/-- The screen with a surface, if GBM makes one. -/
theorem createSurface_eq (hsurface : s.surface = none) {mode : ModeInfo}
    (hmode : s.geometry = some mode) (created : Bool) :
    s.createSurface created =
      some (if created then { s with surface := some s.surfaces, surfaces := s.surfaces + 1 }
        else s) := by
  unfold createSurface
  rw [hsurface, hmode]
  rfl

theorem newSurface_eq (hsurface : s.surface = none) {mode : ModeInfo}
    (hmode : s.geometry = some mode) (created : Bool) :
    s.newSurface created =
      if created then [⟨s.surfaces, mode.hdisplay, mode.vdisplay⟩] else [] := by
  unfold newSurface
  rw [hsurface, hmode]

end Screen

/-! ## Ownership -/

namespace KmsWindow

variable {s s' : KmsWindow}

/-- Every surface is destroyed or is the screen's, which has the size of the mode. -/
structure Owned (s : KmsWindow) : Prop where
  numbers : s.created.map GbmSurface.number = List.range s.screen.surfaces
  balanced : Ledger.Balanced (List.range s.screen.surfaces) s.destroyed s.screen.surface.toList
  size : ∀ n, s.screen.surface = some n → ∃ mode, s.screen.geometry = some mode ∧
    ⟨n, mode.hdisplay, mode.vdisplay⟩ ∈ s.created
  mode : s.screen.geometry ≠ none
  pending : s.screen.pendingMode < s.screen.output.modes.length

/-- The native window is the surface of the screen. -/
structure Inv (s : KmsWindow) : Prop where
  owned : s.Owned
  window : s.window = s.screen.surface

theorem inv_init {output : Output} (savedCrtc dpmsProp : Bool)
    (hmode : qAt output.modes output.mode ≠ none) : Inv (init output savedCrtc dpmsProp) where
  owned :=
    { numbers := rfl
      balanced := Ledger.balanced_nil
      size := fun _ hn => by cases hn
      mode := hmode
      pending := by
        show (-1 : Int) < output.modes.length
        omega }
  window := rfl

/-- A surface that was created is destroyed once or is the screen's. -/
theorem Owned.count_eq (h : s.Owned) {n : Nat} (hn : n < s.screen.surfaces) :
    s.destroyed.count n + s.screen.surface.toList.count n = 1 := by
  rw [← h.balanced.count_eq, List.count_eq_one_of_mem List.nodup_range (List.mem_range.2 hn)]

theorem Owned.lt_surfaces (h : s.Owned) {g : GbmSurface} (hg : g ∈ s.created) :
    g.number < s.screen.surfaces := by
  rw [← List.mem_range, ← h.numbers]
  exact List.mem_map_of_mem hg

theorem Owned.live (h : s.Owned) {n : Nat} (hn : s.screen.surface = some n) : n ∉ s.destroyed := by
  obtain ⟨mode, -, hg⟩ := h.size n hn
  have hcount := h.count_eq (h.lt_surfaces hg)
  rw [hn, Option.toList_some, List.count_singleton_self] at hcount
  exact List.count_eq_zero.1 (Nat.succ.inj hcount)

/-- **A surface is created.** -/
theorem inv_openSurface (h : s.Owned) (hsurface : s.screen.surface = none) (created : Bool)
    (hopen : s.openSurface created = some s') : Inv s' := by
  obtain ⟨mode, hmode⟩ := Option.ne_none_iff_exists'.1 h.mode
  unfold openSurface at hopen
  rw [Screen.createSurface_eq hsurface hmode, Screen.newSurface_eq hsurface hmode] at hopen
  obtain rfl := Option.some.inj hopen
  have hbalanced := h.balanced
  rw [hsurface] at hbalanced
  cases created with
  | true =>
    refine ⟨⟨?_, ?_, ?_, h.mode, h.pending⟩, rfl⟩
    · show (s.created ++ [_]).map GbmSurface.number = List.range (s.screen.surfaces + 1)
      rw [List.map_append, h.numbers, List.range_succ]
      rfl
    · show Ledger.Balanced (List.range (s.screen.surfaces + 1)) s.destroyed [s.screen.surfaces]
      rw [List.range_succ]
      exact hbalanced.take [s.screen.surfaces]
    · rintro _ ⟨⟩
      exact ⟨mode, hmode, List.mem_append_right _ (List.mem_singleton_self _)⟩
  | false =>
    refine ⟨⟨?_, h.balanced, ?_, h.mode, h.pending⟩, rfl⟩
    · show (s.created ++ []).map GbmSurface.number = _
      rw [List.append_nil]
      exact h.numbers
    · intro n hn
      exact absurd (hsurface.symm.trans hn) (Option.some_ne_none n).symm

/-- **The surface is destroyed for the pending mode.** -/
theorem owned_closeSurface (h : s.Owned) (hpending : 0 ≤ s.screen.pendingMode) :
    s.closeSurface.Owned := by
  have hsame := (Screen.sameSurface_destroyCurrent s.screen.takePendingMode).trans
    (Screen.sameSurface_destroyNext _)
  have hmode : s.closeSurface.screen.geometry = s.screen.takePendingMode.geometry :=
    hsame.geometry_eq
  have hsurfaces : s.closeSurface.screen.surfaces = s.screen.surfaces := hsame.surfaces
  refine ⟨?_, ?_, fun n hn => absurd hn (Option.some_ne_none n).symm, ?_, ?_⟩
  · rw [hsurfaces]
    exact h.numbers
  · rw [hsurfaces]
    show Ledger.Balanced _ (s.destroyed ++ s.screen.surface.toList) []
    unfold Ledger.Balanced
    rw [List.append_nil]
    exact h.balanced
  · rw [hmode]
    exact qAt_ne_none_iff.2 ⟨hpending, h.pending⟩
  · show s.screen.takePendingMode.destroyCurrent.destroyNext.pendingMode <
      s.screen.takePendingMode.destroyCurrent.destroyNext.output.modes.length
    rw [hsame.pendingMode, hsame.output]
    show (-1 : Int) < s.screen.output.modes.length
    omega

/-- A call that leaves the surface alone. -/
theorem Inv.onScreen (h : Inv s) {screen : Screen} (hsame : s.screen.SameSurface screen) :
    Inv { s with screen := screen } := by
  refine ⟨⟨?_, ?_, ?_, ?_, ?_⟩, h.window.trans hsame.surface.symm⟩
  · show _ = List.range screen.surfaces
    rw [hsame.surfaces]
    exact h.owned.numbers
  · show Ledger.Balanced (List.range screen.surfaces) s.destroyed screen.surface.toList
    rw [hsame.surfaces, hsame.surface]
    exact h.owned.balanced
  · intro n hn
    obtain ⟨mode, hmode, hg⟩ := h.owned.size n (hsame.surface.symm.trans hn)
    exact ⟨mode, hsame.geometry_eq.trans hmode, hg⟩
  · show screen.geometry ≠ none
    rw [hsame.geometry_eq]
    exact h.owned.mode
  · show screen.pendingMode < screen.output.modes.length
    rw [hsame.pendingMode, hsame.output]
    exact h.owned.pending

theorem inv_setCurrentMode (h : Inv s) (modeId : Int) :
    Inv { s with screen := s.screen.setCurrentMode modeId } := by
  unfold Screen.setCurrentMode
  split_ifs with hrange
  · exact h
  · exact h
  · obtain ⟨hnumbers, hbalanced, hsize, hmode, -⟩ := h.owned
    refine ⟨⟨hnumbers, hbalanced, hsize, hmode, ?_⟩, h.window⟩
    show modeId < s.screen.output.modes.length
    omega

theorem Inv.surfaceOk (h : Inv s) : s.SurfaceOk where
  live := fun _ hn => h.owned.live hn
  size := h.owned.size
  once := fun _ hg => h.owned.count_eq (h.owned.lt_surfaces hg)
  mode := qAt_ne_none_iff.1 h.owned.mode
  again := by
    intro hwindow
    obtain ⟨mode, hmode⟩ := Option.ne_none_iff_exists'.1 h.owned.mode
    have hsurface : s.screen.surface = none := h.window.symm.trans hwindow
    have hcreate : s.createNativeWindow true = s.openSurface true := by
      unfold createNativeWindow
      rw [hsurface]
    rw [hcreate]
    unfold openSurface
    rw [Screen.createSurface_eq hsurface hmode]
    exact ⟨_, rfl, Option.some_ne_none s.screen.surfaces⟩

/-! ## Runs -/

/-- **A step.** -/
theorem inv_step (h : Inv s) {op : Op} (hok : s.Ok op) (heq : s.step op = some s') : Inv s' := by
  cases op with
  | createNativeWindow created =>
    change s.createNativeWindow created = some s' at heq
    unfold createNativeWindow at heq
    split at heq
    · exact Option.some.inj heq ▸ h
    next hsurface => exact inv_openSurface h.owned hsurface created heq
  | destroyNativeWindow =>
    have hsame : s.destroyNativeWindow = s := by
      unfold destroyNativeWindow
      rw [show s.window = none from hok]
    exact Option.some.inj heq ▸ hsame.symm ▸ h
  | setCurrentMode modeId => exact Option.some.inj heq ▸ inv_setCurrentMode h modeId
  | resizeSurface created =>
    change s.resizeSurface created = some s' at heq
    unfold resizeSurface at heq
    split at heq
    next hresizing =>
      exact inv_openSurface (owned_closeSurface h.owned (of_decide_eq_true hresizing)) rfl created
        heq
    · exact Option.some.inj heq ▸ h
  | flip k =>
    obtain ⟨screen, hflip, rfl⟩ := Option.map_eq_some_iff.1 heq
    exact h.onScreen (Screen.sameSurface_flip hflip)
  | vblank => exact Option.some.inj heq ▸ h.onScreen (Screen.sameSurface_vblank s.screen)
  | pageFlipEvent =>
    obtain ⟨screen, hevent, rfl⟩ := Option.map_eq_some_iff.1 heq
    exact h.onScreen (Screen.sameSurface_pageFlipHandler hevent)

/-- The screen keeps a pointer to the native window that is destroyed. -/
theorem not_surfaceOk_destroyNativeWindow (h : Inv s) (hwindow : s.window ≠ none) :
    ¬ s.destroyNativeWindow.SurfaceOk := by
  obtain ⟨n, hn⟩ := Option.ne_none_iff_exists'.1 hwindow
  have heq : s.destroyNativeWindow =
      { s with window := none, destroyed := s.destroyed ++ [n] } := by
    unfold destroyNativeWindow
    rw [hn]
  have hsurface : s.screen.surface = some n := h.window.symm.trans hn
  rw [heq]
  intro hok
  exact hok.live n hsurface (List.mem_append_right _ (List.mem_singleton_self n))

/-- **The native window.**  On the screens that the device makes, the surface is as it
should be in every state that is reached exactly if no native window is destroyed. -/
theorem surface_ok_iff (drm : Drm) (settings : Settings) (dev : Device)
    (hdev : Device.createScreens drm settings = some dev) (output : Output)
    (houtput : output ∈ dev.screens) (savedCrtc dpmsProp : Bool) (ops : List Op) :
    Run.Throughout step SurfaceOk (init output savedCrtc dpmsProp) ops ↔
      Run.Meets step Ok (init output savedCrtc dpmsProp) ops := by
  have hinit := inv_init savedCrtc dpmsProp (Device.createScreens_modes hdev output houtput)
  refine (and_iff_right hinit.surfaceOk).trans (Run.each_iff_meets (I := Inv) ?_ ?_ ops _ hinit)
  · intro s op s' h hok heq
    exact ⟨(inv_step h hok heq).surfaceOk, inv_step h hok heq⟩
  · intro s op h hok
    cases op with
    | destroyNativeWindow => exact ⟨_, rfl, not_surfaceOk_destroyNativeWindow h hok⟩
    | createNativeWindow created => exact absurd trivial hok
    | setCurrentMode modeId => exact absurd trivial hok
    | resizeSurface created => exact absurd trivial hok
    | flip k => exact absurd trivial hok
    | vblank => exact absurd trivial hok
    | pageFlipEvent => exact absurd trivial hok

/-! ## A window and another one -/

/-- The surface of the only screen is resized while a window has it. -/
theorem surface_ok_resized :
    Run.Throughout step SurfaceOk (init Screen.svgaOutput true true)
      [.createNativeWindow true, .flip Screen.allOk, .setCurrentMode 0, .resizeSurface true] := by
  refine (surface_ok_iff Device.twoCrtcs Device.noSettings
    (Device.init.addScreen Screen.svgaOutput) (by decide +kernel) Screen.svgaOutput (by decide)
    true true _).2 ?_
  exact ⟨trivial, fun _ _ => ⟨trivial, fun _ _ => ⟨trivial, fun _ _ => ⟨trivial, fun _ _ => trivial⟩⟩⟩⟩

/-- The window is destroyed, and the screen points to a surface that is destroyed. -/
theorem surface_not_ok :
    ¬ ∀ (drm : Drm) (settings : Settings) (dev : Device),
      Device.createScreens drm settings = some dev → ∀ output ∈ dev.screens,
        ∀ (savedCrtc dpmsProp : Bool) (ops : List Op),
          Run.Throughout step SurfaceOk (init output savedCrtc dpmsProp) ops := by
  intro h
  obtain ⟨-, hrun⟩ := h Device.twoCrtcs Device.noSettings
    (Device.init.addScreen Screen.svgaOutput) (by decide +kernel) Screen.svgaOutput (by decide) true
    true [.createNativeWindow true, .destroyNativeWindow]
  obtain ⟨-, hrun⟩ := hrun _ rfl
  obtain ⟨hok, -⟩ := hrun _ rfl
  exact absurd (hok.live 0 rfl) (by decide)

end KmsWindow

end GreenIsland.Kms

import Mathlib.Data.List.TakeWhile
import GreenIsland.Server.WlShellFocus

/-! The end of a window, and what refers to it (`createWindow`, `takeFocus`).

When a surface is destroyed each of its windows is unregistered and handed to
`deleteLater`.  Neither the manager's focused window nor the parent of another window
is cleared, but before the slot of a transient window returns, the views of its parent
take the keyboard focus of the default seat.  The wl_shell windows follow the focus at
once (`WlShellFocus`), so a window of the parent's surface can become the focused one.

The focused window and the parents of registered windows stay registered windows
(`ReferencesOk`) exactly as long as every step meets `OpOk` (`no_dangling_iff`): a
surface is destroyed only while no other registered window has one of its windows as
its parent, and only while the focused window is not one of them or another window is
activated meanwhile (`Awakens`); and only registered windows are activated.

The seat has a keyboard, and no window's surface is a cursor.  Surfaces are names,
which are not given twice. -/

namespace GreenIsland.Server

open Reference

/-! ## Model -/

/-- The windows with their views, at the default seat. -/
structure SeatWindows (σ : Type) extends WlShellFocus σ where
  /-- the surface that has the keyboard focus -/
  keyboardFocus : Option σ
  destroyed : List σ
  /-- the views of each window -/
  views : WindowId → List Nat
  viewSurface : Nat → Option σ

namespace SeatWindows

section
variable {σ : Type} [DecidableEq σ]

def init (manager : ManagedWindows σ) (viewSurface : Nat → Option σ) : SeatWindows σ where
  toWlShellFocus := WlShellFocus.init manager
  keyboardFocus := none
  destroyed := []
  views := fun _ => []
  viewSurface := viewSurface

def setKeyboardFocus (s : SeatWindows σ) (surface : σ) : Option (SeatWindows σ) :=
  if surface ∈ s.destroyed then some s
  else if s.keyboardFocus = some surface then some s
  else
    (WlShellFocus.focusAll (s.findIn (some surface)) s.manager s.connected).map fun m =>
      { s with manager := m, keyboardFocus := some surface }

def takeFocus (s : SeatWindows σ) (view : Nat) : Option (SeatWindows σ) :=
  match s.viewSurface view with
  | none => some s
  | some surface => s.setKeyboardFocus surface

/-- The views of a transient window's parent take the focus. -/
def activateParent (s : SeatWindows σ) (w : WindowId) : Option (SeatWindows σ) :=
  match (s.manager.window w).type, (s.manager.window w).parentWindow with
  | .transient, some parent =>
    (s.manager.look parent).bind fun _ => (s.views parent).foldlM takeFocus s
  | _, _ => some s

/-- The slot that `createWindow` connects to `surfaceDestroyed`. -/
def surfaceDestroyedSlot (s : SeatWindows σ) (w : WindowId) : Option (SeatWindows σ) :=
  let manager := { s.manager with registry := s.manager.registry.unregisterWindow w }
  (activateParent { s with manager := manager } w).map fun s =>
    { s with manager := { s.manager with doomed := s.manager.doomed ++ [w] } }

/-- Before the slots run the keyboard and the views forget the surface. -/
def forget (s : SeatWindows σ) (surface : σ) : SeatWindows σ :=
  { s with
    keyboardFocus := s.keyboardFocus.filter (· ≠ surface)
    destroyed := surface :: s.destroyed
    viewSurface := fun view => (s.viewSurface view).filter (· ≠ surface) }

/-- The slots run in the order in which they were connected. -/
def surfaceDestroyed (s : SeatWindows σ) (surface : σ) : Option (SeatWindows σ) :=
  (s.manager.windowsOf surface).foldlM surfaceDestroyedSlot (s.forget surface)

/-- A deleted window is disconnected. -/
def runDelete (s : SeatWindows σ) (w : WindowId) : SeatWindows σ :=
  if w ∈ s.manager.doomed then
    { s with manager := s.manager.runDelete w, connected := s.connected.filter (· ≠ w) }
  else s

def addWindowView (s : SeatWindows σ) (w : WindowId) (view : Nat) : SeatWindows σ :=
  if view ∈ s.views w then s
  else { s with views := Function.update s.views w (s.views w ++ [view]) }

def removeWindowView (s : SeatWindows σ) (w : WindowId) (view : Nat) : SeatWindows σ :=
  { s with views := Function.update s.views w ((s.views w).erase view) }

inductive WindowOp (σ : Type)
  | createWindow (surface : σ) (pid : Int)
  /-- `activatedChanged` of an xdg surface -/
  | activated (w : WindowId) (active : Bool)
  | setDefaultToplevel (w : WindowId)
  | setTransient (w : WindowId) (parentSurface : Option σ)
  | setPopup (w : WindowId) (parentSurface : Option σ)
  | xdgSetTransient (w : WindowId) (parentSurface : σ)
  | setType (w : WindowId) (type : WindowType)
  | wlShellSurfaceCreated (surface : σ)
  | wlShellSurfaceDestroyed (surface : σ)
  | addWindowView (w : WindowId) (view : Nat)
  | removeWindowView (w : WindowId) (view : Nat)
  | setViewSurface (view : Nat) (surface : Option σ)
  | takeFocus (view : Nat)
  | surfaceDestroyed (surface : σ)
  | runDelete (w : WindowId)

/-- The window that a request is about. -/
def WindowOp.window : WindowOp σ → Option WindowId
  | .activated w _ => some w
  | .setDefaultToplevel w => some w
  | .setTransient w _ => some w
  | .setPopup w _ => some w
  | .xdgSetTransient w _ => some w
  | .setType w _ => some w
  | .addWindowView w _ => some w
  | .removeWindowView w _ => some w
  | _ => none

/-- The surface that an event is the end of. -/
def WindowOp.ended : WindowOp σ → Option σ
  | .surfaceDestroyed surface => some surface
  | _ => none

def handle (s : SeatWindows σ) : WindowOp σ → Option (SeatWindows σ)
  | .createWindow surface pid => some { s with manager := s.manager.createWindow surface pid }
  | .activated w active => (s.manager.activated w active).map fun m => { s with manager := m }
  | .setDefaultToplevel w => some { s with manager := s.manager.setDefaultToplevel w }
  | .setTransient w parentSurface =>
    some { s with manager := s.manager.setTransient w parentSurface }
  | .setPopup w parentSurface => some { s with manager := s.manager.setPopup w parentSurface }
  | .xdgSetTransient w parentSurface =>
    (s.manager.xdgSetTransient w parentSurface).map fun m => { s with manager := m }
  | .setType w type => some { s with manager := s.manager.setType w type }
  | .wlShellSurfaceCreated surface =>
    some { s with
      wlShellSurfaces := surface :: s.wlShellSurfaces
      connected := s.connected ++ s.manager.windowsOf surface }
  | .wlShellSurfaceDestroyed surface =>
    some { s with wlShellSurfaces := s.wlShellSurfaces.filter (· ≠ surface) }
  | .addWindowView w view => some (s.addWindowView w view)
  | .removeWindowView w view => some (s.removeWindowView w view)
  | .setViewSurface view surface =>
    some { s with viewSurface := Function.update s.viewSurface view surface }
  | .takeFocus view => s.takeFocus view
  | .surfaceDestroyed surface => s.surfaceDestroyed surface
  | .runDelete w => some (s.runDelete w)

/-- Requests for a window that does not exist reach nobody, and a surface is destroyed once. -/
def step (s : SeatWindows σ) (op : WindowOp σ) : Option (SeatWindows σ) :=
  if (∃ w ∈ op.window, ¬ s.manager.Exists w) ∨ ∃ surface ∈ op.ended, surface ∈ s.destroyed then some s
  else s.handle op

/-! ## What is to be kept -/

/-- The focused window and the parents of registered windows are registered. -/
def ReferencesOk (s : SeatWindows σ) : Prop := s.manager.ReferencesOk

/-- The views that take the focus when the window goes. -/
def parentViews (s : SeatWindows σ) (w : WindowId) : List Nat :=
  match (s.manager.window w).type, (s.manager.window w).parentWindow with
  | .transient, some parent => s.views parent
  | _, _ => []

/-- The surfaces that take the focus when the surface goes, one after the other. -/
def takers (s : SeatWindows σ) (surface : σ) : List σ :=
  (((s.manager.windowsOf surface).flatMap s.parentViews).filterMap s.viewSurface).filter
    fun t => t ≠ surface ∧ t ∉ s.destroyed

/-- The wl_shell surfaces among them, from the first one on that does not have the focus. -/
def shellTakers (s : SeatWindows σ) (surface : σ) : List σ :=
  ((s.takers surface).dropWhile fun t => s.keyboardFocus = some t).filter (· ∈ s.wlShellSurfaces)

/-- A window that follows the focus is activated meanwhile: its surface takes the focus, and
the window was not active or another surface takes the focus before it. -/
def Awakens (s : SeatWindows σ) (surface : σ) : Prop :=
  ∃ w ∈ s.connected,
    (s.manager.window w).surface ∈ s.shellTakers surface ∧ (s.manager.window w).active = false ∨
      (s.manager.window w).surface ∈
        (s.shellTakers surface).dropWhile (· = (s.manager.window w).surface)

/-- **The steps that leave no dangling reference.** -/
def OpOk (s : SeatWindows σ) : WindowOp σ → Prop
  | .activated w true => s.manager.Exists w → s.manager.ActivationOk w
  | .surfaceDestroyed surface => surface ∉ s.destroyed →
    (∀ w, s.manager.focusedWindow = some w → w ∈ s.manager.windowsOf surface → s.Awakens surface) ∧
      ∀ w ∈ s.manager.windowsList, w ∉ s.manager.windowsOf surface →
        ∀ parent, (s.manager.window w).parentWindow = some parent →
          parent ∉ s.manager.windowsOf surface
  | _ => True

/-- What the windows are connected to is there, and a window goes with its surface. -/
structure Inv (s : SeatWindows σ) : Prop where
  manager : s.manager.Inv
  connected : ∀ w ∈ s.connected, w < s.manager.created
  doomed : ∀ w ∈ s.manager.doomed, (s.manager.window w).surface ∈ s.destroyed

/-! ## Surfaces that take the focus -/

/-- Some connected window is activated when the surfaces take the focus one after the other:
a window is asleep if it is not active. -/
def Rouses (shell : List σ) (connected : List WindowId) (surfaceOf : WindowId → σ) :
    Option σ → (WindowId → Prop) → List σ → Prop
  | _, _, [] => False
  | focus, asleep, t :: ts =>
    if focus = some t then Rouses shell connected surfaceOf focus asleep ts
    else if t ∈ shell then
      (∃ w ∈ connected, surfaceOf w = t ∧ asleep w) ∨
        Rouses shell connected surfaceOf (some t) (fun w => surfaceOf w ≠ t) ts
    else Rouses shell connected surfaceOf (some t) asleep ts

section
variable {shell : List σ} {connected : List WindowId} {surfaceOf : WindowId → σ} {focus : Option σ}
  {asleep asleep' : WindowId → Prop}

theorem rouses_congr (h : ∀ w ∈ connected, asleep w ↔ asleep' w) (ts : List σ) :
    Rouses shell connected surfaceOf focus asleep ts ↔
      Rouses shell connected surfaceOf focus asleep' ts := by
  induction ts generalizing focus with
  | nil => exact Iff.rfl
  | cons t ts ih =>
    unfold Rouses
    split
    · exact ih
    · split
      · refine or_congr_left (exists_congr fun w => and_congr_right fun hw => ?_)
        exact and_congr_right fun _ => h w hw
      · exact ih

/-- A surface that does not take the focus might as well not have it. -/
theorem rouses_filter {surface : σ} (ts : List σ) (h : ∀ t ∈ ts, t ≠ surface) :
    Rouses shell connected surfaceOf (focus.filter (· ≠ surface)) asleep ts ↔
      Rouses shell connected surfaceOf focus asleep ts := by
  induction ts with
  | nil => exact Iff.rfl
  | cons t ts ih =>
    rw [List.forall_mem_cons] at h
    obtain ⟨ht, hts⟩ := h
    have hiff : focus.filter (· ≠ surface) = some t ↔ focus = some t := by
      rw [Option.filter_eq_some_iff]
      exact and_iff_left (decide_eq_true ht)
    unfold Rouses
    simp only [hiff, ih hts]

/-- Whether a window is woken depends on the shell surfaces that take the focus only. -/
theorem rouses_iff (ts : List σ) :
    Rouses shell connected surfaceOf focus asleep ts ↔ ∃ w ∈ connected,
      surfaceOf w ∈ (ts.dropWhile fun t => focus = some t).filter (· ∈ shell) ∧ asleep w ∨
        surfaceOf w ∈ ((ts.dropWhile fun t => focus = some t).filter (· ∈ shell)).dropWhile
          (· = surfaceOf w) := by
  induction ts generalizing focus asleep with
  | nil => simp [Rouses]
  | cons t ts ih =>
    unfold Rouses
    by_cases hfocus : focus = some t
    · have hdrop := List.dropWhile_cons_of_pos (p := fun u => decide (focus = some u)) (l := ts)
        (decide_eq_true hfocus)
      rw [if_pos hfocus, ih, hdrop]
    · have hdrop := List.dropWhile_cons_of_neg (p := fun u => decide (focus = some u)) (l := ts)
        (by simpa using hfocus)
      rw [if_neg hfocus, hdrop]
      -- what is dropped in front of the rest is `t` itself
      have hsplit : ts.filter (· ∈ shell) =
          (ts.takeWhile fun u => some t = some u).filter (· ∈ shell) ++
            (ts.dropWhile fun u => some t = some u).filter (· ∈ shell) := by
        rw [← List.filter_append, List.takeWhile_append_dropWhile]
      have hfront : ∀ u ∈ (ts.takeWhile fun u => some t = some u).filter (· ∈ shell), u = t := by
        intro u hu
        have hmem := List.mem_takeWhile_imp (List.mem_filter.1 hu).1
        simpa [eq_comm] using hmem
      by_cases hshell : t ∈ shell
      · rw [if_pos hshell, ih, List.filter_cons_of_pos (by simpa using hshell)]
        set later := (ts.dropWhile fun u => some t = some u).filter (· ∈ shell)
        set front := (ts.takeWhile fun u => some t = some u).filter (· ∈ shell)
        rw [hsplit, ← exists_or]
        refine exists_congr fun w => ?_
        rw [← and_or_left]
        refine and_congr_right fun _ => ?_
        by_cases hw : surfaceOf w = t
        · have hdrop : (t :: (front ++ later)).dropWhile (· = t) = later.dropWhile (· = t) := by
            rw [← List.cons_append, List.dropWhile_append_of_pos]
            intro u hu
            rcases List.mem_cons.1 hu with rfl | hu
            · exact decide_eq_true rfl
            · exact decide_eq_true (hfront u hu)
          rw [hw, hdrop]
          simp
        · have hmem : surfaceOf w ∈ t :: (front ++ later) ↔ surfaceOf w ∈ later := by
            have hnot : surfaceOf w ∉ front := fun h => hw (hfront _ h)
            simp [hw, hnot]
          have hstop : (t :: (front ++ later)).dropWhile (· = surfaceOf w) = t :: (front ++ later) :=
            List.dropWhile_cons_of_neg (by simpa [eq_comm] using hw)
          rw [hstop, hmem]
          have hsub : surfaceOf w ∈ later.dropWhile (· = surfaceOf w) → surfaceOf w ∈ later :=
            fun h => (List.dropWhile_sublist _).mem h
          tauto
      · rw [if_neg hshell, ih, List.filter_cons_of_neg (by simpa using hshell)]
        have hnone : (ts.takeWhile fun u => some t = some u).filter (· ∈ shell) = [] := by
          refine List.eq_nil_iff_forall_not_mem.2 fun u hu => ?_
          have hmem := (List.mem_filter.1 hu).2
          rw [hfront u hu] at hmem
          exact hshell (by simpa using hmem)
        rw [hsplit, hnone, List.nil_append]

end

end

/-! ## The focus goes to the parents' views -/

section
variable {σ : Type} {s s' s'' : SeatWindows σ} {w : WindowId}

/-- What stays while the focus moves and windows go. -/
structure SameSeat (s s' : SeatWindows σ) : Prop where
  wlShellSurfaces : s'.wlShellSurfaces = s.wlShellSurfaces
  connected : s'.connected = s.connected
  destroyed : s'.destroyed = s.destroyed
  views : s'.views = s.views
  viewSurface : s'.viewSurface = s.viewSurface
  created : s'.manager.created = s.manager.created
  deleted : s'.manager.deleted = s.manager.deleted
  surface : ∀ v, (s'.manager.window v).surface = (s.manager.window v).surface
  type : ∀ v, (s'.manager.window v).type = (s.manager.window v).type
  parentWindow : ∀ v, (s'.manager.window v).parentWindow = (s.manager.window v).parentWindow

theorem SameSeat.refl (s : SeatWindows σ) : SameSeat s s :=
  ⟨rfl, rfl, rfl, rfl, rfl, rfl, rfl, fun _ => rfl, fun _ => rfl, fun _ => rfl⟩

theorem SameSeat.trans (h : SameSeat s s') (h' : SameSeat s' s'') : SameSeat s s'' where
  wlShellSurfaces := h'.wlShellSurfaces.trans h.wlShellSurfaces
  connected := h'.connected.trans h.connected
  destroyed := h'.destroyed.trans h.destroyed
  views := h'.views.trans h.views
  viewSurface := h'.viewSurface.trans h.viewSurface
  created := h'.created.trans h.created
  deleted := h'.deleted.trans h.deleted
  surface v := (h'.surface v).trans (h.surface v)
  type v := (h'.type v).trans (h.type v)
  parentWindow v := (h'.parentWindow v).trans (h.parentWindow v)

theorem SameSeat.parentThere (h : SameSeat s s') (v : WindowId) :
    s'.manager.ParentThere v ↔ s.manager.ParentThere v := by
  unfold ManagedWindows.ParentThere
  rw [h.type, h.parentWindow, h.deleted]

theorem SameSeat.parentViews (h : SameSeat s s') (v : WindowId) :
    s'.parentViews v = s.parentViews v := by
  unfold SeatWindows.parentViews
  rw [h.type, h.parentWindow, h.views]

/-- The manager's windows follow a focus change. -/
theorem sameSeat_focus {m : ManagedWindows σ} (h : WlShellFocus.SameWindows s.manager m)
    (focus : Option σ) : SameSeat s { s with manager := m, keyboardFocus := focus } where
  wlShellSurfaces := rfl
  connected := rfl
  destroyed := rfl
  views := rfl
  viewSurface := rfl
  created := h.created
  deleted := h.deleted
  surface := h.surface
  type := h.type
  parentWindow := h.parentWindow

/-- A connected window is registered as long as its surface is there. -/
theorem Inv.registered_of_connected (h : Inv s) (hw : w ∈ s.connected)
    (hlive : (s.manager.window w).surface ∉ s.destroyed) : w ∈ s.manager.windowsList :=
  (h.manager.books.listed w).2 ⟨h.connected w hw, fun hdoomed => hlive (h.doomed w hdoomed)⟩

/-- The parents of windows that can take the focus can be looked at. -/
def ParentsThere (s : SeatWindows σ) : Prop :=
  ∀ w ∈ s.connected, (s.manager.window w).surface ∉ s.destroyed → s.manager.ParentThere w

theorem Inv.parentsThere (h : Inv s) : s.ParentsThere := fun _ hw hlive =>
  h.manager.parentThere (h.registered_of_connected hw hlive)

theorem SameSeat.parentsThere (h : SameSeat s s') (hthere : s.ParentsThere) : s'.ParentsThere := by
  intro w hw hlive
  rw [h.connected] at hw
  rw [h.surface, h.destroyed] at hlive
  exact (h.parentThere w).2 (hthere w hw hlive)

/-- The manager made a change that keeps the windows and their surfaces. -/
structure SameSurfaces (m m' : ManagedWindows σ) : Prop where
  created : m'.created = m.created
  doomed : m'.doomed = m.doomed
  surface : ∀ w, (m'.window w).surface = (m.window w).surface

theorem SameSurfaces.trans {m m' m'' : ManagedWindows σ} (h : SameSurfaces m m')
    (h' : SameSurfaces m' m'') : SameSurfaces m m'' where
  created := h'.created.trans h.created
  doomed := h'.doomed.trans h.doomed
  surface w := (h'.surface w).trans (h.surface w)

theorem sameSurfaces_update {m : ManagedWindows σ} (w : WindowId) {state : WindowState σ}
    (h : state.surface = (m.window w).surface) : SameSurfaces m (m.update w state) := by
  refine ⟨rfl, rfl, fun v => ?_⟩
  by_cases hv : v = w
  · subst hv
    rw [ManagedWindows.window_update, h]
  · rw [WlShellFocus.window_update_of_ne hv]

theorem Inv.frame (h : Inv s) {m : ManagedWindows σ} (hm : m.Inv) (hsame : SameSurfaces s.manager m) :
    Inv { s with manager := m } where
  manager := hm
  connected w hw := hsame.created ▸ h.connected w hw
  doomed w hw := (hsame.surface w).symm ▸ h.doomed w (hsame.doomed ▸ hw)

theorem Inv.createWindow (h : Inv s) (surface : σ) (pid : Int) :
    Inv { s with manager := s.manager.createWindow surface pid } where
  manager := ManagedWindows.createWindow_inv h.manager surface pid
  connected w hw := Nat.lt_succ_of_lt (h.connected w hw)
  doomed w hw := by
    have hne : w ≠ s.manager.created := fun heq => Nat.lt_irrefl _ (heq ▸ h.manager.books.doomed w hw)
    show (Function.update s.manager.window s.manager.created _ w).surface ∈ _
    rw [Function.update_of_ne hne]
    exact h.doomed w hw

theorem Inv.runDelete (h : Inv s) (w : WindowId) : Inv (s.runDelete w) := by
  unfold SeatWindows.runDelete
  split
  · have hsame : SameSurfaces s.manager (s.manager.runDelete w) := by
      unfold ManagedWindows.runDelete
      split <;> exact ⟨rfl, rfl, fun _ => rfl⟩
    have hframe := h.frame (ManagedWindows.runDelete_inv h.manager w) hsame
    exact ⟨hframe.manager, fun v hv => hframe.connected v (List.mem_filter.1 hv).1, hframe.doomed⟩
  · exact h

variable [DecidableEq σ]

/-- The surfaces of views that can take the focus. -/
def surfacesOf (s : SeatWindows σ) (views : List Nat) : List σ :=
  (views.filterMap s.viewSurface).filter (· ∉ s.destroyed)

theorem SameSeat.surfacesOf (h : SameSeat s s') (views : List Nat) :
    s'.surfacesOf views = s.surfacesOf views := by
  unfold SeatWindows.surfacesOf
  rw [h.viewSurface, h.destroyed]

/-- A window is activated when the surfaces take the focus. -/
def Wakens (s : SeatWindows σ) (ts : List σ) : Prop :=
  Rouses s.wlShellSurfaces s.connected (fun w => (s.manager.window w).surface) s.keyboardFocus
    (fun w => (s.manager.window w).active = false) ts

/-- The surfaces took the focus: the focused window is the same, and whether one will be activated
depends on the next ones; or one was activated, which is now the focused one. -/
def Moves (s : SeatWindows σ) (ts : List σ) (s' : SeatWindows σ) : Prop :=
  (s'.manager.focusedWindow = s.manager.focusedWindow ∧ ∀ us, s.Wakens (ts ++ us) ↔ s'.Wakens us) ∨
    (∃ w ∈ s.connected, (s.manager.window w).surface ∉ s.destroyed ∧
      s'.manager.focusedWindow = some w) ∧ ∀ us, s.Wakens (ts ++ us)

theorem Moves.trans {ts us : List σ} (hsame : SameSeat s s') (h : Moves s ts s') (h' : Moves s' us s'') :
    Moves s (ts ++ us) s'' := by
  rcases h' with ⟨hkeep', hiff'⟩ | ⟨⟨w, hw, hlive, hfocused⟩, hwakens'⟩
  · rcases h with ⟨hkeep, hiff⟩ | ⟨⟨w, hw, hlive, hfocused⟩, hwakens⟩
    · refine Or.inl ⟨hkeep'.trans hkeep, fun vs => ?_⟩
      rw [List.append_assoc, hiff, hiff']
    · refine Or.inr ⟨⟨w, hw, hlive, hkeep'.trans hfocused⟩, fun vs => ?_⟩
      rw [List.append_assoc]
      exact hwakens _
  · rw [hsame.connected] at hw
    rw [hsame.surface, hsame.destroyed] at hlive
    refine Or.inr ⟨⟨w, hw, hlive, hfocused⟩, fun vs => ?_⟩
    rw [List.append_assoc]
    rcases h with ⟨-, hiff⟩ | ⟨-, hwakens⟩
    · exact (hiff _).2 (hwakens' vs)
    · exact hwakens _

/-- What a step does that leaves the books of the manager alone. -/
structure FocusRun (s : SeatWindows σ) (ts : List σ) (s' : SeatWindows σ) : Prop where
  same : SameSeat s s'
  registry : s'.manager.registry = s.manager.registry
  doomed : s'.manager.doomed = s.manager.doomed
  moves : Moves s ts s'

theorem FocusRun.refl (s : SeatWindows σ) : FocusRun s [] s :=
  ⟨SameSeat.refl s, rfl, rfl, Or.inl ⟨rfl, fun _ => Iff.rfl⟩⟩

theorem FocusRun.trans {ts us : List σ} (h : FocusRun s ts s') (h' : FocusRun s' us s'') :
    FocusRun s (ts ++ us) s'' where
  same := h.same.trans h'.same
  registry := h'.registry.trans h.registry
  doomed := h'.doomed.trans h.doomed
  moves := h.moves.trans h.same h'.moves

/-- **The focus goes to a surface.**  No deleted parent is looked at. -/
theorem setKeyboardFocus_spec (hthere : s.ParentsThere) (surface : σ) :
    ∃ s', s.setKeyboardFocus surface = some s' ∧
      FocusRun s ([surface].filter (· ∉ s.destroyed)) s' := by
  unfold setKeyboardFocus
  by_cases hdestroyed : surface ∈ s.destroyed
  · rw [if_pos hdestroyed, List.filter_cons_of_neg (by simpa using hdestroyed)]
    exact ⟨s, rfl, FocusRun.refl s⟩
  · rw [if_neg hdestroyed, List.filter_cons_of_pos (by simpa using hdestroyed), List.filter_nil]
    by_cases hfocus : s.keyboardFocus = some surface
    · rw [if_pos hfocus]
      refine ⟨s, rfl, SameSeat.refl s, rfl, rfl, Or.inl ⟨rfl, fun us => ?_⟩⟩
      unfold Wakens
      rw [List.singleton_append, Rouses, if_pos hfocus]
    · rw [if_neg hfocus]
      by_cases hshell : surface ∈ s.wlShellSurfaces
      · have hfind : s.findIn (some surface) = some surface :=
          Option.filter_some.trans (if_pos (decide_eq_true hshell))
        obtain ⟨m, hm, hsame, hwindow, hwakes⟩ := WlShellFocus.focusAll_some surface s.connected
          s.manager fun w hw hsurface => hthere w hw (hsurface ▸ hdestroyed)
        rw [hfind, hm]
        refine ⟨_, rfl, sameSeat_focus hsame _, hsame.registry, hsame.doomed, ?_⟩
        rcases hwakes with ⟨hkeep, hall⟩ | ⟨w, hw, hsurface, hasleep, hfocused⟩
        · refine Or.inl ⟨hkeep, fun us => ?_⟩
          have hnone : ¬ ∃ w ∈ s.connected, (s.manager.window w).surface = surface ∧
              (s.manager.window w).active = false := by
            rintro ⟨w, hw, hsurface, hasleep⟩
            rw [hall w hw hsurface] at hasleep
            cases hasleep
          unfold Wakens
          rw [List.singleton_append, Rouses, if_neg hfocus, if_pos hshell, or_iff_right hnone]
          dsimp only
          rw [show (fun w => (m.window w).surface) = fun w => (s.manager.window w).surface from
            funext hsame.surface]
          refine rouses_congr (fun w hw => ?_) us
          rw [hwindow w, if_pos hw]
          simp [WlShellFocus.activeState, eq_comm]
        · refine Or.inr ⟨⟨w, hw, hsurface ▸ hdestroyed, hfocused⟩, fun us => ?_⟩
          unfold Wakens
          rw [List.singleton_append, Rouses, if_neg hfocus, if_pos hshell]
          exact Or.inl ⟨w, hw, hsurface, hasleep⟩
      · have hfind : s.findIn (some surface) = none :=
          Option.filter_some.trans (if_neg (by simpa using hshell))
        rw [hfind, WlShellFocus.focusAll_none]
        refine ⟨_, rfl, sameSeat_focus (WlShellFocus.SameWindows.refl _) _, rfl, rfl,
          Or.inl ⟨rfl, fun us => ?_⟩⟩
        unfold Wakens
        rw [List.singleton_append, Rouses, if_neg hfocus, if_neg hshell]

theorem takeFocus_spec (hthere : s.ParentsThere) (view : Nat) :
    ∃ s', s.takeFocus view = some s' ∧ FocusRun s (s.surfacesOf [view]) s' := by
  unfold takeFocus surfacesOf
  cases hsurface : s.viewSurface view with
  | none =>
    rw [List.filterMap_cons_none hsurface]
    exact ⟨s, rfl, FocusRun.refl s⟩
  | some surface =>
    rw [List.filterMap_cons_some hsurface]
    exact setKeyboardFocus_spec hthere surface

/-- The views take the focus one after the other. -/
theorem takeAll_spec (views : List Nat) (s : SeatWindows σ) (hthere : s.ParentsThere) :
    ∃ s', views.foldlM takeFocus s = some s' ∧ FocusRun s (s.surfacesOf views) s' := by
  induction views generalizing s with
  | nil => exact ⟨s, rfl, FocusRun.refl s⟩
  | cons view views ih =>
    obtain ⟨s₁, hs₁, hrun₁⟩ := takeFocus_spec hthere view
    obtain ⟨s₂, hs₂, hrun₂⟩ := ih s₁ (hrun₁.same.parentsThere hthere)
    refine ⟨s₂, ?_, ?_⟩
    · rw [List.foldlM_cons, hs₁]
      exact hs₂
    · rw [hrun₁.same.surfacesOf] at hrun₂
      have hsplit : s.surfacesOf (view :: views) = s.surfacesOf [view] ++ s.surfacesOf views := by
        unfold surfacesOf
        rw [← List.filter_append, ← List.filterMap_append, List.singleton_append]
      rw [hsplit]
      exact hrun₁.trans hrun₂

theorem activateParent_spec (hthere : s.ParentsThere) (hparent : s.manager.ParentThere w) :
    ∃ s', s.activateParent w = some s' ∧ FocusRun s (s.surfacesOf (s.parentViews w)) s' := by
  unfold activateParent parentViews
  split
  · next parent htype hp =>
    have hlook : s.manager.look parent = some () := if_neg (hparent htype parent hp)
    rw [hlook]
    exact takeAll_spec (s.views parent) s hthere
  · exact ⟨s, rfl, FocusRun.refl s⟩

/-! ## The slots of a surface -/

/-- What is left when the slots of the windows `ws` have run. -/
structure Destroyed (s : SeatWindows σ) (ws : List WindowId) (s' : SeatWindows σ) : Prop where
  same : SameSeat s s'
  doomed : s'.manager.doomed = s.manager.doomed ++ ws
  nodup : s'.manager.windowsList.Nodup
  mem : ∀ v, v ∈ s'.manager.windowsList ↔ v ∈ s.manager.windowsList ∧ v ∉ ws
  moves : Moves s (s.surfacesOf (ws.flatMap s.parentViews)) s'

/-- One slot -/
theorem surfaceDestroyedSlot_spec (hthere : s.ParentsThere) (hparent : s.manager.ParentThere w)
    (hnodup : s.manager.windowsList.Nodup) :
    ∃ s', s.surfaceDestroyedSlot w = some s' ∧ Destroyed s [w] s' := by
  let unregistered : SeatWindows σ :=
    { s with manager := { s.manager with registry := s.manager.registry.unregisterWindow w } }
  obtain ⟨s₁, hs₁, hrun⟩ := activateParent_spec (s := unregistered) (w := w) hthere hparent
  have hlist : s₁.manager.windowsList = s.manager.windowsList.erase w :=
    (congrArg ApplicationManager.windowsList hrun.registry).trans
      (ManagedWindows.windowsList_unregisterWindow _ _)
  refine ⟨_, congrArg (Option.map _) hs₁, ?_, congrArg (· ++ [w]) hrun.doomed, ?_, fun v => ?_, ?_⟩
  · exact { hrun.same with }
  · show s₁.manager.windowsList.Nodup
    rw [hlist]
    exact hnodup.erase w
  · show v ∈ s₁.manager.windowsList ↔ _
    rw [hlist, hnodup.mem_erase_iff, List.mem_singleton, and_comm]
  · rw [List.flatMap_singleton]
    exact hrun.moves

theorem slots_spec (ws : List WindowId) (s : SeatWindows σ) (hthere : s.ParentsThere)
    (hparents : ∀ w ∈ ws, s.manager.ParentThere w) (hnodup : s.manager.windowsList.Nodup) :
    ∃ s', ws.foldlM surfaceDestroyedSlot s = some s' ∧ Destroyed s ws s' := by
  induction ws generalizing s with
  | nil =>
    refine ⟨s, rfl, SameSeat.refl s, (List.append_nil _).symm, hnodup, fun v => by simp, ?_⟩
    exact (FocusRun.refl s).moves
  | cons w ws ih =>
    rw [List.forall_mem_cons] at hparents
    obtain ⟨hw, hws⟩ := hparents
    obtain ⟨s₁, hs₁, hd₁⟩ := surfaceDestroyedSlot_spec hthere hw hnodup
    obtain ⟨s₂, hs₂, hd₂⟩ := ih s₁ (hd₁.same.parentsThere hthere)
      (fun v hv => (hd₁.same.parentThere v).2 (hws v hv)) hd₁.nodup
    refine ⟨s₂, ?_, hd₁.same.trans hd₂.same, ?_, hd₂.nodup, fun v => ?_, ?_⟩
    · rw [List.foldlM_cons, hs₁]
      exact hs₂
    · rw [hd₂.doomed, hd₁.doomed, List.append_assoc, List.singleton_append]
    · rw [hd₂.mem, hd₁.mem, List.mem_singleton, List.mem_cons, not_or, and_assoc]
    · have hmoves := hd₁.moves.trans hd₁.same hd₂.moves
      have hsplit : s.surfacesOf ((w :: ws).flatMap s.parentViews) =
          s.surfacesOf ([w].flatMap s.parentViews) ++ s₁.surfacesOf (ws.flatMap s₁.parentViews) := by
        rw [hd₁.same.surfacesOf, funext hd₁.same.parentViews]
        unfold surfacesOf
        rw [← List.filter_append, ← List.filterMap_append, ← List.flatMap_append, List.singleton_append]
      rw [hsplit]
      exact hmoves

/-! ## The end of a surface -/

theorem surfacesOf_forget (surface : σ) :
    (s.forget surface).surfacesOf ((s.manager.windowsOf surface).flatMap s.parentViews) =
      s.takers surface := by
  unfold surfacesOf takers
  rw [List.filter_filterMap, List.filter_filterMap]
  refine congrArg (List.filterMap · _) (funext fun view => ?_)
  show ((s.viewSurface view).filter (· ≠ surface)).filter (· ∉ surface :: s.destroyed) = _
  rw [Option.filter_filter]
  refine congrArg (Option.filter · _) (funext fun t => ?_)
  by_cases ht : t = surface <;> simp [ht]

/-- **Whether a window is activated** while the surface goes. -/
theorem wakens_forget_iff (surface : σ) :
    (s.forget surface).Wakens (s.takers surface) ↔ s.Awakens surface := by
  have hother : ∀ t ∈ s.takers surface, t ≠ surface := fun t ht =>
    (of_decide_eq_true (List.mem_filter.1 ht).2).1
  unfold Wakens
  exact (rouses_filter _ hother).trans (rouses_iff _)

theorem Inv.parentsThere_forget (h : Inv s) (surface : σ) : (s.forget surface).ParentsThere :=
  fun w hw hlive => h.parentsThere w hw fun hin => hlive (List.mem_cons_of_mem _ hin)

/-- **References after the slots.**  A window that was activated is a registered one. -/
theorem references_destroyed_iff (h : Inv s) {surface : σ} (hnew : surface ∉ s.destroyed)
    (hd : Destroyed (s.forget surface) (s.manager.windowsOf surface) s') :
    ReferencesOk s' ↔ OpOk s (.surfaceDestroyed surface) := by
  have hlive : {w | w ∈ s'.manager.windowsList} =
      {w | w ∈ s.manager.windowsList} \ {w | w ∈ s.manager.windowsOf surface} := by
    ext v
    exact hd.mem v
  have hmoves : Moves (s.forget surface) (s.takers surface) s' := surfacesOf_forget surface ▸ hd.moves
  unfold ReferencesOk ManagedWindows.ReferencesOk
  rw [hlive, funext hd.same.parentWindow]
  refine Iff.trans ?_ (forall_prop_of_true hnew).symm
  rcases hmoves with ⟨hkeep, hiff⟩ | ⟨⟨w, hw, hnotgone, hfocused⟩, hwakens⟩
  · have hnot : ¬ s.Awakens surface := by
      intro hawakens
      exact (hiff []).1 (by rwa [List.append_nil, wakens_forget_iff])
    rw [hkeep]
    refine (noDangling_remove_iff h.manager.references).trans (and_congr_left' ?_)
    exact forall₂_congr fun w _ => ⟨fun hw hin => absurd hin hw, fun hw hin => hnot (hw hin)⟩
  · have hawakens : s.Awakens surface := by
      have hnow := hwakens []
      rwa [List.append_nil, wakens_forget_iff] at hnow
    have hnone : NoDangling {w | w ∈ s.manager.windowsList} none
        fun w => (s.manager.window w).parentWindow := ⟨by rintro a ⟨⟩, h.manager.references.field⟩
    have hregistered := h.registered_of_connected hw fun hin => hnotgone (List.mem_cons_of_mem _ hin)
    have hstays : w ∈ {w | w ∈ s.manager.windowsList} \ {w | w ∈ s.manager.windowsOf surface} := by
      refine ⟨hregistered, fun hin => hnotgone (List.mem_cons.2 (Or.inl ?_))⟩
      exact (of_decide_eq_true (List.mem_filter.1 hin).2).1
    rw [hfocused]
    constructor
    · intro hrefs
      refine ⟨fun _ _ _ => hawakens, fun v hv hstay parent hp => ?_⟩
      exact (hrefs.field v ⟨hv, hstay⟩ parent hp).2
    · rintro ⟨-, hparents⟩
      have hrest := (noDangling_remove_iff hnone).2 ⟨by rintro a ⟨⟩, hparents⟩
      exact (noDangling_root_iff hrest).2 hstays

/-- **The end of a surface.**  The slots return; no reference dangles exactly if no
other window had one of the surface's as its parent, and the focused window was none of
them or another one is activated. -/
theorem surfaceDestroyed_spec (h : Inv s) {surface : σ} (hnew : surface ∉ s.destroyed) :
    ∃ s', s.surfaceDestroyed surface = some s' ∧ (ReferencesOk s' ↔ OpOk s (.surfaceDestroyed surface)) ∧
      (ReferencesOk s' → Inv s') := by
  have hmem : ∀ w ∈ s.manager.windowsOf surface, w ∈ s.manager.windowsList := fun w hw =>
    h.manager.books.mem_of_windowsOf hw
  obtain ⟨s', hs', hd⟩ := slots_spec (s.manager.windowsOf surface) (s.forget surface)
    (h.parentsThere_forget surface) (fun w hw => h.manager.parentThere (hmem w hw)) h.manager.books.nodup
  refine ⟨s', hs', ?_, fun hrefs => ⟨⟨⟨hd.nodup, fun w => ?_, fun w hw => ?_, fun w hw => ?_⟩, hrefs⟩,
    fun w hw => ?_, fun w hw => ?_⟩⟩
  · exact references_destroyed_iff h hnew hd
  · rw [hd.mem, hd.same.created, hd.doomed, List.mem_append, not_or, ← and_assoc]
    exact and_congr_left fun _ => h.manager.books.listed w
  · rw [hd.doomed, List.mem_append] at hw
    rw [hd.same.created]
    rcases hw with hw | hw
    · exact h.manager.books.doomed w hw
    · exact ((h.manager.books.listed w).1 (hmem w hw)).1
  · rw [hd.same.deleted] at hw
    rw [hd.doomed]
    exact List.mem_append_left _ (h.manager.books.deleted w hw)
  · rw [hd.same.connected] at hw
    rw [hd.same.created]
    exact h.connected w hw
  · rw [hd.doomed, List.mem_append] at hw
    rw [hd.same.surface, hd.same.destroyed]
    rcases hw with hw | hw
    · exact List.mem_cons_of_mem _ (h.doomed w hw)
    · have hsurface := (of_decide_eq_true (List.mem_filter.1 hw).2).1
      exact List.mem_cons.2 (Or.inl hsurface)

/-! ## One step -/

/-- The focus goes to a view: a window that is activated is a registered one. -/
theorem Inv.takeFocus (h : Inv s) (view : Nat) : ∃ s', s.takeFocus view = some s' ∧ Inv s' := by
  obtain ⟨s', hs', hrun⟩ := takeFocus_spec h.parentsThere view
  have hlist : s'.manager.windowsList = s.manager.windowsList :=
    congrArg ApplicationManager.windowsList hrun.registry
  have hbooks : s'.manager.Books := by
    have hold := h.manager.books
    refine ⟨?_, fun w => ?_, fun w hw => ?_, fun w hw => ?_⟩
    · rw [hlist]
      exact hold.nodup
    · rw [hlist, hrun.same.created, hrun.doomed]
      exact hold.listed w
    · rw [hrun.same.created]
      exact hold.doomed w (hrun.doomed ▸ hw)
    · rw [hrun.doomed]
      exact hold.deleted w (hrun.same.deleted ▸ hw)
  have hrefs : ReferencesOk s' := by
    unfold ReferencesOk ManagedWindows.ReferencesOk
    rw [hlist, funext hrun.same.parentWindow]
    rcases hrun.moves with ⟨hkeep, -⟩ | ⟨⟨w, hw, hlive, hfocused⟩, -⟩
    · rw [hkeep]
      exact h.manager.references
    · rw [hfocused]
      exact (noDangling_root_iff h.manager.references).2 (h.registered_of_connected hw hlive)
  refine ⟨s', hs', ⟨hbooks, hrefs⟩, fun w hw => ?_, fun w hw => ?_⟩
  · rw [hrun.same.created]
    exact h.connected w (hrun.same.connected ▸ hw)
  · rw [hrun.same.surface, hrun.same.destroyed]
    exact h.doomed w (hrun.doomed ▸ hw)

/-- An activation or its opposite -/
theorem Inv.decides_activated (h : Inv s) (active : Bool) (hex : s.manager.Exists w)
    (hstep : s.step (.activated w active) = s.handle (.activated w active)) :
    Run.Decides step (fun _ _ s' => ReferencesOk s') OpOk Inv s (.activated w active) := by
  have hok : OpOk s (.activated w active) ↔ (active = true → s.manager.ActivationOk w) := by
    cases active with
    | false => exact iff_of_true trivial (by rintro ⟨⟩)
    | true => exact ⟨fun hok _ => hok hex, fun hok _ => hok rfl⟩
  rcases ManagedWindows.activated_decides h.manager w active with ⟨hnone, hnot⟩ | ⟨m, hm, hbooks, hiff⟩
  · refine Or.inl ⟨hstep.trans (congrArg (Option.map _) hnone), mt hok.1 hnot⟩
  · refine Or.inr ⟨_, hstep.trans (congrArg (Option.map _) hm), hiff.trans hok.symm, fun hgood => ?_⟩
    obtain ⟨m', hm', hact⟩ := WlShellFocus.activated_spec (m := s.manager) w active
      fun hactive => (hok.1 hgood hactive).2
    obtain rfl := Option.some.inj (hm.symm.trans hm')
    refine h.frame ⟨hbooks, hiff.2 (hok.1 hgood)⟩ ?_
    exact ⟨hact.same.created, hact.same.doomed, hact.same.surface⟩

/-- Windows that are connected to a new wl_shell surface -/
theorem Inv.wlShellSurfaceCreated (h : Inv s) (surface : σ) :
    Inv { s with
      wlShellSurfaces := surface :: s.wlShellSurfaces
      connected := s.connected ++ s.manager.windowsOf surface } where
  manager := h.manager
  connected w hw := by
    rcases List.mem_append.1 hw with hw | hw
    · exact h.connected w hw
    · exact List.mem_range.1 (List.mem_filter.1 hw).1
  doomed := h.doomed

theorem Inv.xdgSetTransient (h : Inv s) (w : WindowId) (parentSurface : σ) :
    ∃ m, s.manager.xdgSetTransient w parentSurface = some m ∧ Inv { s with manager := m } := by
  obtain ⟨m, hm, hinv⟩ := ManagedWindows.xdgSetTransient_inv h.manager w parentSurface
  refine ⟨m, hm, h.frame hinv ?_⟩
  have hset : SameSurfaces s.manager
      (s.manager.setParentWindow w (s.manager.windowForSurface (some parentSurface))) :=
    sameSurfaces_update w rfl
  unfold ManagedWindows.xdgSetTransient at hm
  dsimp only at hm
  split at hm
  · obtain ⟨-, -, rfl⟩ := Option.map_eq_some_iff.1 hm
    exact hset.trans (sameSurfaces_update w rfl)
  · obtain rfl := Option.some.inj hm
    exact hset

/-- **One step.** -/
theorem Inv.decides (h : Inv s) (op : WindowOp σ) :
    Run.Decides step (fun _ _ s' => ReferencesOk s') OpOk Inv s op := by
  have hkeep : ∀ s', step s op = some s' → Inv s' → OpOk s op →
      Run.Decides step (fun _ _ s' => ReferencesOk s') OpOk Inv s op := fun s' hs hI hok =>
    Run.decides_good hs hI.manager.references hok hI
  by_cases hmiss : (∃ w ∈ op.window, ¬ s.manager.Exists w) ∨ ∃ surface ∈ op.ended, surface ∈ s.destroyed
  · refine hkeep s (if_pos hmiss) h ?_
    rcases hmiss with ⟨w, hw, hex⟩ | ⟨surface, hsurface, hgone⟩
    · cases op with
      | activated v active =>
        obtain rfl := Option.some.inj hw
        cases active with
        | false => trivial
        | true => exact fun hex' => absurd hex' hex
      | surfaceDestroyed => cases hw
      | _ => trivial
    · cases op with
      | surfaceDestroyed v =>
        obtain rfl := Option.some.inj hsurface
        exact fun hnew => absurd hgone hnew
      | _ => cases hsurface
  · have hstep : s.step op = s.handle op := if_neg hmiss
    rw [not_or] at hmiss
    obtain ⟨hex, hnew⟩ := hmiss
    cases op with
    | createWindow surface pid => exact hkeep _ hstep (h.createWindow surface pid) trivial
    | activated w active => exact h.decides_activated active (by simpa [WindowOp.window] using hex) hstep
    | setDefaultToplevel w =>
      have hset : (s.manager.setParentWindow w none).Inv := h.manager.setParentWindow (by rintro p ⟨⟩)
      have hsame : SameSurfaces s.manager (s.manager.setParentWindow w none) := sameSurfaces_update w rfl
      exact hkeep _ hstep (h.frame (hset.update_same _ rfl) (hsame.trans (sameSurfaces_update w rfl)))
        trivial
    | setTransient w parentSurface =>
      have hset := h.manager.setParentWindow (w := w) fun p hp =>
        ManagedWindows.windowForSurface_mem parentSurface hp
      have hsame : SameSurfaces s.manager
          (s.manager.setParentWindow w (s.manager.windowForSurface parentSurface)) :=
        sameSurfaces_update w rfl
      exact hkeep _ hstep (h.frame (hset.update_same _ rfl) (hsame.trans (sameSurfaces_update w rfl)))
        trivial
    | setPopup w parentSurface =>
      have hset := h.manager.setParentWindow (w := w) fun p hp =>
        ManagedWindows.windowForSurface_mem parentSurface hp
      have hsame : SameSurfaces s.manager
          (s.manager.setParentWindow w (s.manager.windowForSurface parentSurface)) :=
        sameSurfaces_update w rfl
      exact hkeep _ hstep (h.frame (hset.update_same _ rfl) (hsame.trans (sameSurfaces_update w rfl)))
        trivial
    | xdgSetTransient w parentSurface =>
      obtain ⟨m, hm, hinv⟩ := h.xdgSetTransient w parentSurface
      exact hkeep _ (hstep.trans (congrArg (Option.map _) hm)) hinv trivial
    | setType w type =>
      exact hkeep _ hstep (h.frame (h.manager.update_same _ rfl) (sameSurfaces_update w rfl)) trivial
    | wlShellSurfaceCreated surface => exact hkeep _ hstep (h.wlShellSurfaceCreated surface) trivial
    | wlShellSurfaceDestroyed surface =>
      exact hkeep _ hstep ⟨h.manager, h.connected, h.doomed⟩ trivial
    | addWindowView w view =>
      refine hkeep _ hstep ?_ trivial
      unfold addWindowView
      split
      · exact h
      · exact ⟨h.manager, h.connected, h.doomed⟩
    | removeWindowView w view => exact hkeep _ hstep ⟨h.manager, h.connected, h.doomed⟩ trivial
    | setViewSurface view surface => exact hkeep _ hstep ⟨h.manager, h.connected, h.doomed⟩ trivial
    | takeFocus view =>
      obtain ⟨s', hs', hinv⟩ := h.takeFocus view
      exact hkeep _ (hstep.trans hs') hinv trivial
    | surfaceDestroyed surface =>
      have hnew : surface ∉ s.destroyed := by simpa [WindowOp.ended] using hnew
      obtain ⟨s', hs', hiff, hinv⟩ := surfaceDestroyed_spec h hnew
      exact Or.inr ⟨s', hstep.trans hs', hiff, fun hok => hinv (hiff.2 hok)⟩
    | runDelete w => exact hkeep _ hstep (h.runDelete w) trivial

/-! ## Results -/

/-- **References over whole runs.**  From a manager without windows: the focused
window and every registered window's parent are registered at all times, and no
deleted window is looked at, if and only if every step meets its condition. -/
theorem no_dangling_iff (windows : WindowId → ClientWindow) (appIdMap : String → Option String)
    (window : WindowId → WindowState σ) (viewSurface : Nat → Option σ) (ops : List (WindowOp σ)) :
    Run.Always step ReferencesOk
        (init (ManagedWindows.init (ApplicationManager.init windows appIdMap) window) viewSurface)
        ops ↔
      Run.Meets step OpOk
        (init (ManagedWindows.init (ApplicationManager.init windows appIdMap) window) viewSurface)
        ops := by
  have hmanager : (ManagedWindows.init (ApplicationManager.init windows appIdMap) window).Inv :=
    ManagedWindows.inv_init _ _ rfl
  have hinit : Inv (init (ManagedWindows.init (ApplicationManager.init windows appIdMap) window)
      viewSurface) := ⟨hmanager, by rintro w ⟨⟩, by rintro w ⟨⟩⟩
  exact Run.always_iff_of_decides (fun s op hI => hI.decides op) ops _ hinit.manager.references hinit

end

/-- Nothing yet -/
def blank : SeatWindows ℕ :=
  init (ManagedWindows.init (ApplicationManager.init (fun _ => ManagedWindows.newClientWindow 0)
    defaultAppIdMap) ManagedWindows.blankWindows) fun _ => none

/-- A dialog that has the focus goes with its surface: the window it was made for is focused. -/
example : ((Run.exec step blank
    [.createWindow 1 100, .wlShellSurfaceCreated 1, .setViewSurface 0 (some 1), .addWindowView 0 0,
      .createWindow 2 100, .wlShellSurfaceCreated 2, .setViewSurface 1 (some 2), .addWindowView 1 1,
      .setTransient 1 (some 1), .takeFocus 1, .surfaceDestroyed 2]).map
        fun s => s.manager.focusedWindow) = some (some 0) := by decide

/-- A window without shell is activated and its surface destroyed: it stays the focused one. -/
theorem focus_dangles :
    ¬ Run.Always step ReferencesOk blank
      [.createWindow 1 100, .activated 0 true, .surfaceDestroyed 1] := by
  rintro ⟨-, s₁, h₁, -, s₂, h₂, -, s₃, h₃, hrefs, -⟩
  obtain rfl := Option.some.inj h₁
  obtain rfl := Option.some.inj h₂
  obtain rfl := Option.some.inj h₃
  have hmem := hrefs.root 0 rfl
  exact absurd (show 0 ∈ ([] : List WindowId) from hmem) (by decide)

end SeatWindows

end GreenIsland.Server

import GreenIsland.Lib.Run
import GreenIsland.Server.ManagedWindows

/-! Requests of a `wl_shell_surface` (`_q_wlShellSurfaceCreated`).

Toplevel, transient, popup, maximized and fullscreen exclude each other: what the
window shows of them should follow from the last request alone (`shellState`).
The handlers overwrite only some of the four fields.  `setMaximized` and
`setFullScreen` leave the type and the parent as they are, `setFullScreen` the
maximized state, and `setPopup` the fullscreen state.

So the window shows its last request after every request if and only if each one
leaves alone only what the one before it set as needed (`follows_last_iff`), and
two such histories with the same last request end in the same state
(`same_last_same_state`). -/

namespace GreenIsland.Server

namespace ManagedWindows

/-! ## Model -/

section
variable {σ : Type}

def setMaximized (m : ManagedWindows σ) (w : WindowId) (maximized : Bool) : ManagedWindows σ :=
  m.update w { m.window w with maximized := maximized }

def setFullscreen (m : ManagedWindows σ) (w : WindowId) (fullscreen : Bool) : ManagedWindows σ :=
  m.update w { m.window w with fullscreen := fullscreen }

end

end ManagedWindows

inductive ShellRequest (σ : Type)
  | setToplevel
  | setTransient (parentSurface : Option σ)
  | setFullscreen
  | setPopup (parentSurface : Option σ)
  | setMaximized
deriving DecidableEq

/-- What a window shows of these requests. -/
structure ShellState where
  type : WindowType
  parentWindow : Option WindowId
  maximized : Bool
  fullscreen : Bool
deriving DecidableEq

/-- A window with the requests for its surface. -/
structure WlShellSurface (σ : Type) where
  manager : ManagedWindows σ
  w : WindowId
  /-- the last request, if there was one -/
  last : Option (ShellRequest σ)

namespace WlShellSurface

section
variable {σ : Type} [DecidableEq σ]

/-- A window is created for a surface. -/
def init (manager : ManagedWindows σ) (surface : σ) (pid : Int) : WlShellSurface σ :=
  ⟨manager.createWindow surface pid, manager.created, none⟩

def handle (s : WlShellSurface σ) : ShellRequest σ → ManagedWindows σ
  | .setToplevel => s.manager.setDefaultToplevel s.w
  | .setTransient parentSurface => s.manager.setTransient s.w parentSurface
  | .setFullscreen => s.manager.setFullscreen s.w true
  | .setPopup parentSurface => s.manager.setPopup s.w parentSurface
  | .setMaximized => (s.manager.setMaximized s.w true).setFullscreen s.w false

def step (s : WlShellSurface σ) (r : ShellRequest σ) : WlShellSurface σ :=
  { s with manager := s.handle r, last := some r }

def state (s : WlShellSurface σ) : ShellState :=
  let window := s.manager.window s.w
  ⟨window.type, window.parentWindow, window.maximized, window.fullscreen⟩

/-! ## What is to be shown -/

/-- What the window has to show after a request; `windowOf` finds the window of a
parent surface. -/
def shellState (windowOf : Option σ → Option WindowId) : Option (ShellRequest σ) → ShellState
  | none => ⟨.unknown, none, false, false⟩
  | some .setToplevel => ⟨.topLevel, none, false, false⟩
  | some (.setTransient parentSurface) => ⟨.transient, windowOf parentSurface, false, false⟩
  | some .setFullscreen => ⟨.topLevel, none, false, true⟩
  | some (.setPopup parentSurface) => ⟨.popup, windowOf parentSurface, false, false⟩
  | some .setMaximized => ⟨.topLevel, none, true, false⟩

/-- **When a request may follow another one**, or be the first. -/
def MayFollow (last : Option (ShellRequest σ)) : ShellRequest σ → Prop
  | .setToplevel | .setTransient _ => True
  | .setPopup _ => last ≠ some .setFullscreen
  | .setMaximized => last = some .setToplevel ∨ last = some .setMaximized ∨ last = some .setFullscreen
  | .setFullscreen => last = some .setToplevel ∨ last = some .setFullscreen

def OpOk (s : WlShellSurface σ) (r : ShellRequest σ) : Prop := MayFollow s.last r

/-- The window shows the last request, and finds its parents as in the beginning. -/
structure Inv (windowOf : Option σ → Option WindowId) (s : WlShellSurface σ) : Prop where
  shown : s.state = shellState windowOf s.last
  windowOf : s.manager.windowForSurface = windowOf

end

/-! ## One request -/

section
variable {σ : Type}

/-- What a request makes of the state: it overwrites some of the fields. -/
def overwrite (windowOf : Option σ → Option WindowId) (state : ShellState) :
    ShellRequest σ → ShellState
  | .setToplevel => ⟨.topLevel, none, false, false⟩
  | .setTransient parentSurface => ⟨.transient, windowOf parentSurface, false, false⟩
  | .setFullscreen => { state with fullscreen := true }
  | .setPopup parentSurface => ⟨.popup, windowOf parentSurface, false, state.fullscreen⟩
  | .setMaximized => { state with maximized := true, fullscreen := false }

/-- **One request.**  What is left of the last request fits exactly if the new one
may follow it. -/
theorem overwrite_eq_iff (windowOf : Option σ → Option WindowId) (last : Option (ShellRequest σ))
    (r : ShellRequest σ) :
    overwrite windowOf (shellState windowOf last) r = shellState windowOf (some r) ↔
      MayFollow last r := by
  rcases last with _ | last
  · cases r <;> simp [overwrite, shellState, MayFollow]
  · cases last <;> cases r <;> simp [overwrite, shellState, MayFollow]

end

section
variable {σ : Type} [DecidableEq σ] {m : ManagedWindows σ} {w : WindowId} {s : WlShellSurface σ}
  {windowOf : Option σ → Option WindowId}

theorem windowForSurface_update {window : WindowState σ}
    (hsurface : window.surface = (m.window w).surface) :
    (m.update w window).windowForSurface = m.windowForSurface := by
  have hsurfaces : ∀ v, ((m.update w window).window v).surface = (m.window v).surface := by
    intro v
    show (Function.update m.window w window v).surface = _
    by_cases hv : v = w
    · subst hv
      rw [Function.update_self, hsurface]
    · rw [Function.update_of_ne hv]
  funext parentSurface
  unfold ManagedWindows.windowForSurface
  simp only [hsurfaces]
  rfl

theorem state_step (s : WlShellSurface σ) (r : ShellRequest σ) :
    (s.step r).state = overwrite s.manager.windowForSurface s.state r := by
  cases r <;>
    simp only [step, state, overwrite, handle, ManagedWindows.setDefaultToplevel,
      ManagedWindows.setTransient, ManagedWindows.setPopup, ManagedWindows.setMaximized,
      ManagedWindows.setFullscreen, ManagedWindows.setParentWindow, ManagedWindows.window_update]

theorem windowForSurface_handle (s : WlShellSurface σ) (r : ShellRequest σ) :
    (s.handle r).windowForSurface = s.manager.windowForSurface := by
  cases r <;>
    simp only [handle, ManagedWindows.setDefaultToplevel, ManagedWindows.setTransient,
      ManagedWindows.setPopup, ManagedWindows.setMaximized, ManagedWindows.setFullscreen,
      ManagedWindows.setParentWindow, windowForSurface_update, ManagedWindows.window_update]

theorem Inv.state_step (h : Inv windowOf s) (r : ShellRequest σ) :
    (s.step r).state = overwrite windowOf (shellState windowOf s.last) r := by
  rw [WlShellSurface.state_step, h.shown, h.windowOf]

theorem Inv.decides (h : Inv windowOf s) (r : ShellRequest σ) :
    Run.Decides (fun s r => some (step s r)) (fun _ r s' => s'.state = shellState windowOf (some r))
      OpOk (Inv windowOf) s r := by
  have hiff := overwrite_eq_iff windowOf s.last r
  rw [← h.state_step r] at hiff
  exact Run.decides_total hiff fun hok =>
    ⟨hiff.2 hok, (windowForSurface_handle s r).trans h.windowOf⟩

theorem inv_init (manager : ManagedWindows σ) (surface : σ) (pid : Int) :
    Inv (manager.createWindow surface pid).windowForSurface (init manager surface pid) := by
  refine ⟨?_, rfl⟩
  unfold state
  dsimp only
  rw [show (init manager surface pid).manager.window (init manager surface pid).w = _ from
    Function.update_self ..]
  rfl

/-- **When the window shows its last request.**  After every request of a run its
type, parent, maximized and fullscreen state are those of that request, if and only
if every request may follow the one before it. -/
theorem follows_last_iff (manager : ManagedWindows σ) (surface : σ) (pid : Int)
    (rs : List (ShellRequest σ)) :
    Run.Along (fun s r => some (step s r))
        (fun _ r s' => s'.state =
          shellState (manager.createWindow surface pid).windowForSurface (some r))
        (init manager surface pid) rs ↔
      Run.Meets (fun s r => some (step s r)) OpOk (init manager surface pid) rs :=
  Run.along_iff_of_decides (fun _ r h => Inv.decides h r) rs _ (inv_init manager surface pid)

/-- Two such runs with the same last request end in the same state. -/
theorem same_last_same_state (manager : ManagedWindows σ) (surface : σ) (pid : Int)
    {rs rs' : List (ShellRequest σ)} {r : ShellRequest σ} {s s' : WlShellSurface σ}
    (hok : Run.Meets (fun s r => some (step s r)) OpOk (init manager surface pid) (rs ++ [r]))
    (hok' : Run.Meets (fun s r => some (step s r)) OpOk (init manager surface pid) (rs' ++ [r]))
    (hs : Run.exec (fun s r => some (step s r)) (init manager surface pid) (rs ++ [r]) = some s)
    (hs' : Run.exec (fun s r => some (step s r)) (init manager surface pid) (rs' ++ [r]) = some s') :
    s.state = s'.state := by
  have halong := Run.along_iff_of_decides (fun _ r h => Inv.decides h r) (rs ++ [r]) _
    (inv_init manager surface pid)
  have halong' := Run.along_iff_of_decides (fun _ r h => Inv.decides h r) (rs' ++ [r]) _
    (inv_init manager surface pid)
  obtain ⟨-, hlast⟩ := Run.along_last rs _ (halong.2 hok) hs
  obtain ⟨-, hlast'⟩ := Run.along_last rs' _ (halong'.2 hok') hs'
  exact hlast.trans hlast'.symm

end

/-- A maximized window goes fullscreen: it is both. -/
theorem maximized_and_fullscreen :
    let manager := ManagedWindows.init
      (ApplicationManager.init (fun _ => ManagedWindows.newClientWindow 0) defaultAppIdMap)
      ManagedWindows.blankWindows
    ¬ Run.Along (fun s r => some (step s r))
      (fun _ r s' => s'.state = shellState (manager.createWindow 1 100).windowForSurface (some r))
      (init manager 1 100) [.setToplevel, .setMaximized, .setFullscreen] := by
  rintro manager ⟨_, ⟨⟩, -, _, ⟨⟩, -, _, ⟨⟩, hshown, -⟩
  have hmaximized := congrArg ShellState.maximized hshown
  cases hmaximized

end WlShellSurface

end GreenIsland.Server

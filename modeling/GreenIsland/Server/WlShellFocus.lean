import GreenIsland.Lib.Run
import GreenIsland.Server.ManagedWindows

/-! Activation of wl_shell windows (`_q_handleFocusChanged`).

wl_shell has no activation, so every window with a wl_shell surface follows the
keyboard focus by a slot of its own.  A slot does nothing unless the focus goes to
a surface with a wl_shell surface; if it does, the slot sets `active` to whether
the surface is the window's, and ends the minimized state of its window.

After a focus change the wl_shell windows whose surface has the focus should be
active, and no others, and only they should have been restored (`Followed`).  That
is so after every focus change if and only if each one meets `OpOk`
(`activation_follows_focus_iff`): when the focus leaves for another surface or for
none, no wl_shell window is active; when it goes to a wl_shell window, the other
ones are not minimized.

Windows are made before the shell surfaces, one for a surface. -/

namespace GreenIsland.Server

/-! ## Model -/

/-- The windows at the default seat. -/
structure WlShellFocus (σ : Type) where
  manager : ManagedWindows σ
  /-- the surfaces that have a `QWaylandWlShellSurface` -/
  wlShellSurfaces : List σ
  /-- the windows connected to `keyboardFocusChanged` -/
  connected : List WindowId

inductive FocusOp (σ : Type)
  | createWindow (surface : σ) (pid : Int)
  | wlShellSurfaceCreated (surface : σ)
  | keyboardFocusChanged (newSurface : Option σ)
  | setMinimized (w : WindowId) (minimized : Bool)
  /-- `activatedChanged` of an xdg surface -/
  | xdgActivated (w : WindowId) (active : Bool)

namespace WlShellFocus

section
variable {σ : Type} [DecidableEq σ]

def init (manager : ManagedWindows σ) : WlShellFocus σ := ⟨manager, [], []⟩

def findIn (s : WlShellFocus σ) (newSurface : Option σ) : Option σ :=
  newSurface.filter fun surface => surface ∈ s.wlShellSurfaces

/-- The slot of one window; the surface was found to be a wl_shell surface or not. -/
def handleFocusChanged (newShellSurface : Option σ) (m : ManagedWindows σ) (w : WindowId) :
    Option (ManagedWindows σ) :=
  match newShellSurface with
  | some surface => m.activated w (surface = (m.window w).surface)
  | none => some m

/-- The slots of the windows, in the order they were connected. -/
def focusAll (newShellSurface : Option σ) (m : ManagedWindows σ) :
    List WindowId → Option (ManagedWindows σ)
  | [] => some m
  | w :: ws => (handleFocusChanged newShellSurface m w).bind fun m => focusAll newShellSurface m ws

def setMinimized (m : ManagedWindows σ) (w : WindowId) (minimized : Bool) : ManagedWindows σ :=
  m.update w { m.window w with minimized := minimized }

/-- A window is made once for a surface, before the shell surface, of which there is
one; minimized and activated are windows that exist, the latter without wl_shell. -/
def Deliverable (s : WlShellFocus σ) : FocusOp σ → Prop
  | .createWindow surface _ => surface ∉ s.wlShellSurfaces ∧
      ∀ w < s.manager.created, (s.manager.window w).surface ≠ surface
  | .wlShellSurfaceCreated surface => surface ∉ s.wlShellSurfaces
  | .keyboardFocusChanged _ => True
  | .setMinimized w _ => w < s.manager.created
  | .xdgActivated w _ =>
    w < s.manager.created ∧ (s.manager.window w).surface ∉ s.wlShellSurfaces

instance (s : WlShellFocus σ) (op : FocusOp σ) : Decidable (s.Deliverable op) := by
  cases op <;> unfold Deliverable <;> infer_instance

def handle (s : WlShellFocus σ) : FocusOp σ → Option (WlShellFocus σ)
  | .createWindow surface pid => some { s with manager := s.manager.createWindow surface pid }
  | .wlShellSurfaceCreated surface =>
    some { s with
      wlShellSurfaces := surface :: s.wlShellSurfaces
      connected := s.connected ++ s.manager.windowsOf surface }
  | .keyboardFocusChanged newSurface =>
    (focusAll (s.findIn newSurface) s.manager s.connected).map fun m => { s with manager := m }
  | .setMinimized w minimized => some { s with manager := setMinimized s.manager w minimized }
  | .xdgActivated w active => (s.manager.activated w active).map fun m => { s with manager := m }

def step (s : WlShellFocus σ) (op : FocusOp σ) : Option (WlShellFocus σ) :=
  if s.Deliverable op then s.handle op else some s

/-! ## What is to be kept -/

def IsWlShell (s : WlShellFocus σ) (w : WindowId) : Prop :=
  w < s.manager.created ∧ (s.manager.window w).surface ∈ s.wlShellSurfaces

instance (s : WlShellFocus σ) (w : WindowId) : Decidable (s.IsWlShell w) :=
  inferInstanceAs (Decidable (_ ∧ _))

def Active (s : WlShellFocus σ) (w : WindowId) : Prop := (s.manager.window w).active = true

instance (s : WlShellFocus σ) (w : WindowId) : Decidable (s.Active w) :=
  inferInstanceAs (Decidable (_ = true))

/-- The window has the focus. -/
def Focused (s : WlShellFocus σ) (newSurface : Option σ) (w : WindowId) : Prop :=
  newSurface = some (s.manager.window w).surface

instance (s : WlShellFocus σ) (newSurface : Option σ) (w : WindowId) :
    Decidable (s.Focused newSurface w) := inferInstanceAs (Decidable (_ = some _))

/-- What a focus change owes. -/
structure Followed (s : WlShellFocus σ) (newSurface : Option σ) (s' : WlShellFocus σ) : Prop where
  active_iff : ∀ w, s.IsWlShell w → (s'.Active w ↔ s.Focused newSurface w)
  single : ∀ w w', s.IsWlShell w → s.IsWlShell w' → s'.Active w → s'.Active w' → w = w'
  minimized : ∀ w, ¬ s.Focused newSurface w →
    (s'.manager.window w).minimized = (s.manager.window w).minimized

/-- What a step owes. -/
def Owed (s : WlShellFocus σ) : FocusOp σ → WlShellFocus σ → Prop
  | .keyboardFocusChanged newSurface, s' => Followed s newSurface s'
  | _, _ => True

/-- **The focus changes after which that is so.** -/
def OpOk (s : WlShellFocus σ) : FocusOp σ → Prop
  | .keyboardFocusChanged newSurface =>
    if s.findIn newSurface = none then ∀ w, s.IsWlShell w → ¬ s.Active w
    else ∀ w, s.IsWlShell w → ¬ s.Focused newSurface w → (s.manager.window w).minimized = false
  | _ => True

/-- One window for a surface, none of them deleted, and the wl_shell ones connected. -/
structure Inv (s : WlShellFocus σ) : Prop where
  unique : ∀ w w', w < s.manager.created → w' < s.manager.created →
    (s.manager.window w).surface = (s.manager.window w').surface → w = w'
  connected : ∀ w, w ∈ s.connected ↔ s.IsWlShell w
  doomed : s.manager.doomed = []
  deleted : s.manager.deleted = []

end

/-! ## Activation of one window -/

section
variable {σ : Type} {m m' m'' : ManagedWindows σ} {w : WindowId}

/-- The same windows, for the same surfaces and with the same parents. -/
structure SameWindows (m m' : ManagedWindows σ) : Prop where
  registry : m'.registry = m.registry
  created : m'.created = m.created
  doomed : m'.doomed = m.doomed
  deleted : m'.deleted = m.deleted
  surface : ∀ v, (m'.window v).surface = (m.window v).surface
  type : ∀ v, (m'.window v).type = (m.window v).type
  parentWindow : ∀ v, (m'.window v).parentWindow = (m.window v).parentWindow

theorem SameWindows.refl (m : ManagedWindows σ) : SameWindows m m :=
  ⟨rfl, rfl, rfl, rfl, fun _ => rfl, fun _ => rfl, fun _ => rfl⟩

theorem SameWindows.trans (h : SameWindows m m') (h' : SameWindows m' m'') : SameWindows m m'' where
  registry := h'.registry.trans h.registry
  created := h'.created.trans h.created
  doomed := h'.doomed.trans h.doomed
  deleted := h'.deleted.trans h.deleted
  surface v := (h'.surface v).trans (h.surface v)
  type v := (h'.type v).trans (h.type v)
  parentWindow v := (h'.parentWindow v).trans (h.parentWindow v)

theorem SameWindows.parentThere (h : SameWindows m m') (v : WindowId) :
    m'.ParentThere v ↔ m.ParentThere v := by
  unfold ManagedWindows.ParentThere
  rw [h.type, h.parentWindow, h.deleted]

theorem window_update_of_ne {state : WindowState σ} {v : WindowId} (hv : v ≠ w) :
    (m.update w state).window v = m.window v :=
  Function.update_of_ne hv ..

theorem sameWindows_update {state : WindowState σ} (hsurface : state.surface = (m.window w).surface)
    (htype : state.type = (m.window w).type)
    (hparent : state.parentWindow = (m.window w).parentWindow) :
    SameWindows m (m.update w state) := by
  refine ⟨rfl, rfl, rfl, rfl, fun v => ?_, fun v => ?_, fun v => ?_⟩
  all_goals
    by_cases hv : v = w
    · subst hv
      rw [ManagedWindows.window_update]
      assumption
    · rw [window_update_of_ne hv]

/-- The window after it was activated or deactivated. -/
def activeState (window : WindowState σ) (active : Bool) : WindowState σ :=
  { window with active := active, minimized := false }

/-- What activation does: it changes that window only, and makes one that was not active the
focused one. -/
structure Activated (m : ManagedWindows σ) (w : WindowId) (active : Bool) (m' : ManagedWindows σ) :
    Prop where
  same : SameWindows m m'
  self : m'.window w = activeState (m.window w) active
  other : ∀ v, v ≠ w → m'.window v = m.window v
  focusedWindow : m'.focusedWindow =
    if active = true ∧ (m.window w).active = false then some w else m.focusedWindow

theorem activated_spec (w : WindowId) (active : Bool) (hthere : active = true → m.ParentThere w) :
    ∃ m', m.activated w active = some m' ∧ Activated m w active m' := by
  have hset : SameWindows m (m.setActive w active) ∧
      (m.setActive w active).window w = { m.window w with active := active } ∧
        (∀ v, v ≠ w → (m.setActive w active).window v = m.window v) ∧
          (m.setActive w active).focusedWindow =
            if active = true ∧ (m.window w).active = false then some w else m.focusedWindow := by
    unfold ManagedWindows.setActive
    split
    · next heq =>
      refine ⟨SameWindows.refl m, by rw [← heq], fun _ _ => rfl, (if_neg ?_).symm⟩
      rintro ⟨hactive, hnot⟩
      rw [heq, hactive] at hnot
      cases hnot
    · next hne =>
      dsimp only
      have hsame : SameWindows m (m.update w { m.window w with active := active }) :=
        sameWindows_update rfl rfl rfl
      split
      · next hactive =>
        have hnot : (m.window w).active = false := by
          rw [hactive] at hne
          exact Bool.eq_false_iff.2 hne
        exact ⟨⟨hsame.registry, hsame.created, hsame.doomed, hsame.deleted, hsame.surface,
          hsame.type, hsame.parentWindow⟩, ManagedWindows.window_update _,
          fun v hv => window_update_of_ne hv, (if_pos ⟨hactive, hnot⟩).symm⟩
      · next hactive =>
        exact ⟨hsame, ManagedWindows.window_update _, fun v hv => window_update_of_ne hv,
          (if_neg fun h => hactive h.1).symm⟩
  obtain ⟨hsame, hself, hother, hfocused⟩ := hset
  unfold ManagedWindows.activated
  dsimp only
  generalize m.setActive w active = m₁ at hsame hself hother hfocused
  have hsame' : SameWindows m₁ (m₁.update w { m₁.window w with minimized := false }) :=
    sameWindows_update rfl rfl rfl
  refine ⟨m₁.update w { m₁.window w with minimized := false }, ?_, hsame.trans hsame', ?_, ?_, hfocused⟩
  · cases active with
    | false => rfl
    | true =>
      have hlook := ManagedWindows.lookAtParent_eq_some.2
        (((hsame.trans hsame').parentThere w).2 (hthere rfl))
      rw [hlook]
      rfl
  · rw [ManagedWindows.window_update, hself]
    rfl
  · intro v hv
    rw [window_update_of_ne hv, hother v hv]

/-! ## The slots of all windows -/

section
variable [DecidableEq σ]

/-- A focus change that is not for a wl_shell surface does nothing. -/
theorem focusAll_none (m : ManagedWindows σ) (ws : List WindowId) : focusAll none m ws = some m := by
  induction ws with
  | nil => rfl
  | cons w ws ih => exact ih

/-- A window of the surface that was not active becomes the focused one, if there is any. -/
def Wakes (surface : σ) (ws : List WindowId) (m m' : ManagedWindows σ) : Prop :=
  (m'.focusedWindow = m.focusedWindow ∧
      ∀ w ∈ ws, (m.window w).surface = surface → (m.window w).active = true) ∨
    ∃ w ∈ ws, (m.window w).surface = surface ∧ (m.window w).active = false ∧
      m'.focusedWindow = some w

/-- Otherwise each window follows it. -/
theorem focusAll_some (surface : σ) (ws : List WindowId) (m : ManagedWindows σ)
    (hthere : ∀ w ∈ ws, (m.window w).surface = surface → m.ParentThere w) :
    ∃ m', focusAll (some surface) m ws = some m' ∧ SameWindows m m' ∧
      (∀ v, m'.window v =
        if v ∈ ws then activeState (m.window v) (surface = (m.window v).surface) else m.window v) ∧
          Wakes surface ws m m' := by
  induction ws generalizing m with
  | nil =>
    exact ⟨m, rfl, SameWindows.refl m, fun v => by rw [if_neg List.not_mem_nil],
      Or.inl ⟨rfl, by rintro w ⟨⟩⟩⟩
  | cons w ws ih =>
    rw [List.forall_mem_cons] at hthere
    obtain ⟨hw, hws⟩ := hthere
    obtain ⟨m₁, hm₁, hact⟩ := activated_spec (m := m) w (surface = (m.window w).surface)
      fun hsurface => hw (of_decide_eq_true hsurface).symm
    obtain ⟨m₂, hm₂, hsame₂, hwindow, hwakes⟩ := ih m₁ fun v hv hsurface =>
      (hact.same.parentThere v).2 (hws v hv ((hact.same.surface v).symm.trans hsurface))
    refine ⟨m₂, Option.bind_eq_some_iff.2 ⟨m₁, hm₁, hm₂⟩, hact.same.trans hsame₂, fun v => ?_, ?_⟩
    · rw [hwindow v, hact.same.surface v]
      by_cases hv : v = w
      · subst hv
        rw [hact.self, if_pos (List.mem_cons_self ..)]
        split <;> rfl
      · rw [hact.other v hv]
        simp only [List.mem_cons, hv, false_or]
    · have hfocused := hact.focusedWindow
      rcases hwakes with ⟨hkeep, hall⟩ | ⟨v, hv, hsurface, hasleep, hv'⟩
      · by_cases hself : surface = (m.window w).surface ∧ (m.window w).active = false
        · rw [if_pos ⟨decide_eq_true hself.1, hself.2⟩] at hfocused
          exact Or.inr ⟨w, List.mem_cons_self, hself.1.symm, hself.2, hkeep.trans hfocused⟩
        · rw [if_neg fun h => hself ⟨of_decide_eq_true h.1, h.2⟩] at hfocused
          refine Or.inl ⟨hkeep.trans hfocused, fun v hv hsurface => ?_⟩
          by_cases hvw : v = w
          · subst hvw
            by_contra hactive
            exact hself ⟨hsurface.symm, Bool.eq_false_iff.2 hactive⟩
          · rw [← hact.other v hvw]
            have hmem := (List.mem_cons.1 hv).resolve_left hvw
            exact hall v hmem ((hact.same.surface v).trans hsurface)
      · rw [hact.same.surface] at hsurface
        have hvw : v ≠ w := by
          rintro rfl
          rw [hact.self, activeState, hsurface, decide_eq_true rfl] at hasleep
          cases hasleep
        rw [hact.other v hvw] at hasleep
        exact Or.inr ⟨v, List.mem_cons_of_mem _ hv, hsurface, hasleep, hv'⟩

end

/-! ## One step -/

variable {s s' : WlShellFocus σ}

theorem IsWlShell.of_same {manager : ManagedWindows σ} (hsame : SameWindows s.manager manager) :
    IsWlShell { s with manager := manager } w ↔ s.IsWlShell w := by
  unfold IsWlShell
  dsimp only
  rw [hsame.created, hsame.surface]

theorem Inv.frame (h : Inv s) {manager : ManagedWindows σ} (hsame : SameWindows s.manager manager) :
    Inv { s with manager := manager } where
  unique w w' hw hw' heq := by
    dsimp only at hw hw' heq
    rw [hsame.created] at hw hw'
    rw [hsame.surface, hsame.surface] at heq
    exact h.unique w w' hw hw' heq
  connected w := (h.connected w).trans (IsWlShell.of_same hsame).symm
  doomed := hsame.doomed.trans h.doomed
  deleted := hsame.deleted.trans h.deleted

/-- No window is deleted, so every parent can be looked at. -/
theorem Inv.parentThere (h : Inv s) (w : WindowId) : s.manager.ParentThere w := by
  intro _ parent _
  rw [h.deleted]
  exact List.not_mem_nil

theorem Inv.createWindow (h : Inv s) {surface : σ} (hnew : surface ∉ s.wlShellSurfaces)
    (hfree : ∀ w < s.manager.created, (s.manager.window w).surface ≠ surface) (pid : Int) :
    Inv { s with manager := s.manager.createWindow surface pid } := by
  have hself : ((s.manager.createWindow surface pid).window s.manager.created).surface = surface := by
    rw [show (s.manager.createWindow surface pid).window s.manager.created = _ from
      Function.update_self ..]
  have hother : ∀ w, w ≠ s.manager.created →
      (s.manager.createWindow surface pid).window w = s.manager.window w :=
    fun w hw => Function.update_of_ne hw ..
  have hcases : ∀ w, w < s.manager.created + 1 →
      w = s.manager.created ∨ w < s.manager.created ∧ w ≠ s.manager.created :=
    fun w hw => by omega
  refine ⟨fun w w' hw hw' heq => ?_, fun w => ?_, h.doomed, h.deleted⟩
  · dsimp only at heq
    rcases hcases w hw with rfl | ⟨hlt, hne⟩ <;> rcases hcases w' hw' with rfl | ⟨hlt', hne'⟩
    · rfl
    · rw [hself, hother w' hne'] at heq
      exact absurd heq.symm (hfree w' hlt')
    · rw [hself, hother w hne] at heq
      exact absurd heq (hfree w hlt)
    · rw [hother w hne, hother w' hne'] at heq
      exact h.unique w w' hlt hlt' heq
  · rw [h.connected w]
    unfold IsWlShell
    show _ ↔ w < s.manager.created + 1 ∧ _
    by_cases hw : w = s.manager.created
    · subst hw
      dsimp only
      rw [hself]
      exact iff_of_false (fun hlt => Nat.lt_irrefl _ hlt.1) fun hmem => hnew hmem.2
    · dsimp only
      rw [hother w hw]
      have hlt : w < s.manager.created ↔ w < s.manager.created + 1 :=
        ⟨Nat.lt_succ_of_lt, fun hlt => Nat.lt_of_le_of_ne (Nat.le_of_lt_succ hlt) hw⟩
      rw [hlt]

variable [DecidableEq σ]

theorem Inv.mem_windowsOf_iff (h : Inv s) (surface : σ) :
    w ∈ s.manager.windowsOf surface ↔
      w < s.manager.created ∧ (s.manager.window w).surface = surface := by
  unfold ManagedWindows.windowsOf
  rw [List.mem_filter, List.mem_range, h.doomed]
  simp

theorem Inv.wlShellSurfaceCreated (h : Inv s) (surface : σ) :
    Inv { s with
      wlShellSurfaces := surface :: s.wlShellSurfaces
      connected := s.connected ++ s.manager.windowsOf surface } where
  unique := h.unique
  connected w := by
    rw [List.mem_append, h.connected, h.mem_windowsOf_iff]
    unfold IsWlShell
    rw [List.mem_cons, ← and_or_left, or_comm]
  doomed := h.doomed
  deleted := h.deleted

/-- The focus goes to a surface without wl_shell surface, or to none. -/
theorem Inv.followed_none_iff {newSurface : Option σ} (hnone : s.findIn newSurface = none) :
    Followed s newSurface s ↔ ∀ w, s.IsWlShell w → ¬ s.Active w := by
  have hnot : ∀ w, s.IsWlShell w → ¬ s.Focused newSurface w := by
    intro w hw hfocused
    obtain ⟨-, hmem⟩ := hw
    have hfilter := Option.filter_eq_none_iff.1 hnone _ hfocused
    exact hfilter (decide_eq_true hmem)
  constructor
  · intro hfollowed w hw hactive
    exact hnot w hw ((hfollowed.active_iff w hw).1 hactive)
  · intro hidle
    refine ⟨fun w hw => iff_of_false (hidle w hw) (hnot w hw), ?_, fun _ _ => rfl⟩
    exact fun w w' hw _ hactive => absurd hactive (hidle w hw)

/-- The focus goes to a wl_shell window, or to a wl_shell surface without window. -/
theorem Inv.followed_some_iff (h : Inv s) {newSurface : Option σ} {surface : σ}
    (hsome : s.findIn newSurface = some surface) {manager : ManagedWindows σ}
    (hwindow : ∀ v, manager.window v =
      if v ∈ s.connected then
        activeState (s.manager.window v) (surface = (s.manager.window v).surface)
      else s.manager.window v) :
    Followed s newSurface { s with manager := manager } ↔
      ∀ w, s.IsWlShell w → ¬ s.Focused newSurface w → (s.manager.window w).minimized = false := by
  obtain ⟨hnew, -⟩ := Option.filter_eq_some_iff.1 hsome
  have hactive : ∀ w, s.IsWlShell w →
      (Active { s with manager := manager } w ↔ s.Focused newSurface w) := by
    intro w hw
    unfold Active Focused
    rw [hwindow w, if_pos ((h.connected w).2 hw), hnew]
    simp [activeState]
  have hminimized : ∀ w, s.IsWlShell w → (manager.window w).minimized = false := by
    intro w hw
    rw [hwindow w, if_pos ((h.connected w).2 hw)]
    rfl
  constructor
  · intro hfollowed w hw hfocused
    rw [← hfollowed.minimized w hfocused]
    exact hminimized w hw
  · intro hshown
    refine ⟨hactive, fun w w' hw hw' ha ha' => ?_, fun w hfocused => ?_⟩
    · have hf := (hactive w hw).1 ha
      have hf' := (hactive w' hw').1 ha'
      exact h.unique w w' hw.1 hw'.1 (Option.some.inj (hf.symm.trans hf'))
    · show (manager.window w).minimized = _
      by_cases hw : s.IsWlShell w
      · rw [hminimized w hw, hshown w hw hfocused]
      · rw [hwindow w, if_neg fun hmem => hw ((h.connected w).1 hmem)]

/-- **A focus change.** -/
theorem Inv.decides_keyboardFocusChanged (h : Inv s) (newSurface : Option σ) :
    Run.Decides step Owed OpOk Inv s (.keyboardFocusChanged newSurface) := by
  have hstep : s.step (.keyboardFocusChanged newSurface) =
      (focusAll (s.findIn newSurface) s.manager s.connected).map fun m => { s with manager := m } :=
    if_pos trivial
  cases hfind : s.findIn newSurface with
  | none =>
    rw [hfind, focusAll_none] at hstep
    have hok : s.OpOk (.keyboardFocusChanged newSurface) ↔ ∀ w, s.IsWlShell w → ¬ s.Active w :=
      iff_of_eq (if_pos hfind)
    exact Or.inr ⟨s, hstep, (Inv.followed_none_iff hfind).trans hok.symm, fun _ => h⟩
  | some surface =>
    obtain ⟨manager, hmanager, hsame, hwindow, -⟩ :=
      focusAll_some surface s.connected s.manager fun w _ _ => h.parentThere w
    rw [hfind, hmanager] at hstep
    have hok : s.OpOk (.keyboardFocusChanged newSurface) ↔
        ∀ w, s.IsWlShell w → ¬ s.Focused newSurface w → (s.manager.window w).minimized = false :=
      iff_of_eq (if_neg (by simp [hfind]))
    refine Or.inr ⟨_, hstep, (h.followed_some_iff hfind hwindow).trans hok.symm, fun _ => ?_⟩
    exact h.frame hsame

theorem Inv.decides (h : Inv s) (op : FocusOp σ) : Run.Decides step Owed OpOk Inv s op := by
  by_cases hdeliverable : s.Deliverable op
  · have hstep : s.step op = s.handle op := if_pos hdeliverable
    cases op with
    | createWindow surface pid =>
      exact Run.decides_good hstep trivial trivial
        (h.createWindow hdeliverable.1 hdeliverable.2 pid)
    | wlShellSurfaceCreated surface =>
      exact Run.decides_good hstep trivial trivial (h.wlShellSurfaceCreated surface)
    | keyboardFocusChanged newSurface => exact h.decides_keyboardFocusChanged newSurface
    | setMinimized w minimized =>
      exact Run.decides_good hstep trivial trivial (h.frame (sameWindows_update rfl rfl rfl))
    | xdgActivated w active =>
      obtain ⟨manager, hmanager, hact⟩ := activated_spec w active fun _ => h.parentThere w
      have hhandle : s.handle (.xdgActivated w active) = _ := congrArg (Option.map _) hmanager
      rw [hhandle] at hstep
      exact Run.decides_good hstep trivial trivial (h.frame hact.same)
  · have hstep : s.step op = some s := if_neg hdeliverable
    cases op with
    | keyboardFocusChanged => exact absurd trivial hdeliverable
    | _ => exact Run.decides_good hstep trivial trivial h

/-- **When activation follows the focus.**  From a manager without windows: after
every focus change the wl_shell windows that have the focus are active, no others
are, and no other window was restored, if and only if every step meets `OpOk`. -/
theorem activation_follows_focus_iff (registry : ApplicationManager)
    (window : WindowId → WindowState σ) (ops : List (FocusOp σ)) :
    Run.Along step Owed (init (ManagedWindows.init registry window)) ops ↔
      Run.Meets step OpOk (init (ManagedWindows.init registry window)) ops := by
  refine Run.along_iff_of_decides (fun _ op h => Inv.decides h op) ops _ ?_
  refine ⟨fun w w' hw => absurd hw (Nat.not_lt_zero w), fun w => ?_, rfl, rfl⟩
  exact iff_of_false List.not_mem_nil fun hw => absurd hw.1 (Nat.not_lt_zero w)

end

/-- The focus goes to no surface: the window that had it stays active. -/
theorem active_without_focus :
    ¬ Run.Along step Owed
      (init (ManagedWindows.init
        (ApplicationManager.init (fun _ => ManagedWindows.newClientWindow 0) defaultAppIdMap)
        ManagedWindows.blankWindows))
      [.createWindow 1 100, .wlShellSurfaceCreated 1, .keyboardFocusChanged (some 1),
        .keyboardFocusChanged none] := by
  rintro ⟨_, ⟨⟩, -, _, ⟨⟩, -, _, ⟨⟩, -, _, ⟨⟩, hfollowed, -⟩
  have hactive := (hfollowed.active_iff 0 (by decide)).1 (by decide)
  cases hactive

end WlShellFocus

end GreenIsland.Server

import GreenIsland.Lib.Reference
import GreenIsland.Server.ApplicationManager

/-! Windows that refer to each other (`ApplicationManager`, `ClientWindow`).

`createWindow` makes a window for a surface and registers it.  The manager keeps
the window that was activated last (`focusedWindow`), and a window keeps the one
that was registered for the parent surface of a transient or popup request
(`parentWindow`).

The requests for a window keep these references to registered windows (`Inv`): a
new window refers to none, and a parent is looked up among the registered windows.
An activated window becomes the focused one, so it has to be registered
(`activated_decides`).

A window that was handed to `deleteLater` can be used until its deletion runs.  A look
at a deleted window is a fault. -/

namespace GreenIsland.Server

open Reference

/-! ## Model -/

/-- `ClientWindow::Type` -/
inductive WindowType
  | unknown
  | topLevel
  | popup
  | transient
deriving DecidableEq

/-- What a `ClientWindow` has beside its appId. -/
structure WindowState (σ : Type) where
  surface : σ
  type : WindowType
  parentWindow : Option WindowId
  active : Bool
  minimized : Bool
  maximized : Bool
  fullscreen : Bool

/-- The manager and its windows, which are numbered as they are created.  `σ`
names the surfaces. -/
structure ManagedWindows (σ : Type) where
  registry : ApplicationManager
  window : WindowId → WindowState σ
  focusedWindow : Option WindowId
  created : Nat
  /-- windows handed to `deleteLater` -/
  doomed : List WindowId
  /-- windows whose deletion has run -/
  deleted : List WindowId

namespace ManagedWindows

section
variable {σ : Type} [DecidableEq σ]

def init (registry : ApplicationManager) (window : WindowId → WindowState σ) : ManagedWindows σ where
  registry := registry
  window := window
  focusedWindow := none
  created := 0
  doomed := []
  deleted := []

def windowsList (m : ManagedWindows σ) : List WindowId := m.registry.windowsList

/-- The window exists: it was created and its deletion has not run. -/
def Exists (m : ManagedWindows σ) (w : WindowId) : Prop := w < m.created ∧ w ∉ m.deleted

instance (m : ManagedWindows σ) (w : WindowId) : Decidable (m.Exists w) :=
  inferInstanceAs (Decidable (_ ∧ _))

def update (m : ManagedWindows σ) (w : WindowId) (state : WindowState σ) : ManagedWindows σ :=
  { m with window := Function.update m.window w state }

def windowForSurface (m : ManagedWindows σ) (surface : Option σ) : Option WindowId :=
  surface.bind fun surface => m.windowsList.find? fun w => (m.window w).surface = surface

/-- A window that belongs to no application yet. -/
def newClientWindow (pid : Int) : ClientWindow := ⟨"", "", pid⟩

def createWindow (m : ManagedWindows σ) (surface : σ) (pid : Int) : ManagedWindows σ :=
  let registry : ApplicationManager :=
    { m.registry with windows := Function.update m.registry.windows m.created (newClientWindow pid) }
  { m with
    registry := registry.registerWindow m.created
    window := Function.update m.window m.created ⟨surface, .unknown, none, false, false, false, false⟩
    created := m.created + 1 }

def setParentWindow (m : ManagedWindows σ) (w : WindowId) (parent : Option WindowId) :
    ManagedWindows σ :=
  m.update w { m.window w with parentWindow := parent }

/-- `setActive`; `activatedChanged` makes an activated window the focused one. -/
def setActive (m : ManagedWindows σ) (w : WindowId) (active : Bool) : ManagedWindows σ :=
  if (m.window w).active = active then m
  else
    let m := m.update w { m.window w with active := active }
    if active then { m with focusedWindow := some w } else m

/-- A window is looked at through a pointer. -/
def look (m : ManagedWindows σ) (w : WindowId) : Option Unit := if w ∈ m.deleted then none else some ()

/-- The parent of a transient window is looked at, if it has one. -/
def lookAtParent (m : ManagedWindows σ) (w : WindowId) : Option Unit :=
  match (m.window w).type, (m.window w).parentWindow with
  | .transient, some parent => m.look parent
  | _, _ => some ()

/-- The window is activated or deactivated; an activated one is raised after its
parent. -/
def activated (m : ManagedWindows σ) (w : WindowId) (active : Bool) : Option (ManagedWindows σ) :=
  let m := m.setActive w active
  let m := m.update w { m.window w with minimized := false }
  if active then (m.lookAtParent w).map fun _ => m else some m

def setDefaultToplevel (m : ManagedWindows σ) (w : WindowId) : ManagedWindows σ :=
  let m := m.setParentWindow w none
  m.update w { m.window w with maximized := false, fullscreen := false, type := .topLevel }

/-- wl_shell's `setTransient`. -/
def setTransient (m : ManagedWindows σ) (w : WindowId) (parentSurface : Option σ) :
    ManagedWindows σ :=
  let m := m.setParentWindow w (m.windowForSurface parentSurface)
  m.update w { m.window w with maximized := false, fullscreen := false, type := .transient }

/-- wl_shell's `setPopup`. -/
def setPopup (m : ManagedWindows σ) (w : WindowId) (parentSurface : Option σ) : ManagedWindows σ :=
  let m := m.setParentWindow w (m.windowForSurface parentSurface)
  m.update w { m.window w with maximized := false, type := .popup }

/-- xdg_shell's `setTransient`; a window without a parent keeps its type. -/
def xdgSetTransient (m : ManagedWindows σ) (w : WindowId) (parentSurface : σ) :
    Option (ManagedWindows σ) :=
  let m := m.setParentWindow w (m.windowForSurface (some parentSurface))
  match (m.window w).parentWindow with
  | some parent => (m.look parent).map fun _ => m.update w { m.window w with type := .transient }
  | none => some m

/-- xdg_shell's `setTopLevel` and `xdgPopupCreated`. -/
def setType (m : ManagedWindows σ) (w : WindowId) (type : WindowType) : ManagedWindows σ :=
  m.update w { m.window w with type := type }

/-- The windows whose slot is connected to the surface. -/
def windowsOf (m : ManagedWindows σ) (surface : σ) : List WindowId :=
  (List.range m.created).filter fun w => (m.window w).surface = surface ∧ w ∉ m.doomed

/-- The deletion of a window that was handed to `deleteLater` runs. -/
def runDelete (m : ManagedWindows σ) (w : WindowId) : ManagedWindows σ :=
  if w ∈ m.doomed ∧ w ∉ m.deleted then { m with deleted := m.deleted ++ [w] } else m

/-! ## What is to be kept -/

/-- The focused window and the parents of registered windows are registered. -/
def ReferencesOk (m : ManagedWindows σ) : Prop :=
  NoDangling {w | w ∈ m.windowsList} m.focusedWindow fun w => (m.window w).parentWindow

/-- If the window is transient, its parent is not deleted. -/
def ParentThere (m : ManagedWindows σ) (w : WindowId) : Prop :=
  (m.window w).type = .transient → ∀ parent, (m.window w).parentWindow = some parent →
    parent ∉ m.deleted

/-- An activated window is registered, unless it was active, and its parent is there. -/
def ActivationOk (m : ManagedWindows σ) (w : WindowId) : Prop :=
  ((m.window w).active = false → w ∈ m.windowsList) ∧ m.ParentThere w

/-- The registered windows are those that were created and not handed to
`deleteLater`. -/
structure Books (m : ManagedWindows σ) : Prop where
  nodup : m.windowsList.Nodup
  listed : ∀ w, w ∈ m.windowsList ↔ w < m.created ∧ w ∉ m.doomed
  doomed : ∀ w ∈ m.doomed, w < m.created
  deleted : ∀ w ∈ m.deleted, w ∈ m.doomed

structure Inv (m : ManagedWindows σ) : Prop where
  books : Books m
  references : ReferencesOk m

end

section
variable {σ : Type} {m m' : ManagedWindows σ} {w : WindowId}

/-! ## Looking at parents -/

theorem Books.not_deleted (h : Books m) (hw : w ∈ m.windowsList) : w ∉ m.deleted := by
  intro hdel
  exact ((h.listed w).1 hw).2 (h.deleted w hdel)

/-- A registered window's parent can be looked at. -/
theorem Inv.parentThere (h : Inv m) (hw : w ∈ m.windowsList) : m.ParentThere w := by
  intro _ parent hp
  exact h.books.not_deleted (h.references.field w hw parent hp)

theorem lookAtParent_eq_some : m.lookAtParent w = some () ↔ m.ParentThere w := by
  unfold lookAtParent ParentThere look
  split
  · next parent htype hp =>
    rw [htype, hp]
    constructor
    · intro h _ p hp'
      obtain rfl := Option.some.inj hp'
      split at h
      · cases h
      · next hdel => exact hdel
    · intro h
      rw [if_neg (h rfl parent rfl)]
  · next h => exact iff_of_true rfl fun htype parent hp => absurd hp (h parent htype)

/-- Without windows there is nothing to refer to. -/
theorem inv_init (registry : ApplicationManager) (window : WindowId → WindowState σ)
    (hempty : registry.windowsList = []) : Inv (init registry window) := by
  refine ⟨⟨?_, fun w => ?_, by rintro w ⟨⟩, by rintro w ⟨⟩⟩, by rintro w ⟨⟩, fun w hw => ?_⟩
  · show registry.windowsList.Nodup
    rw [hempty]
    exact List.nodup_nil
  · show w ∈ registry.windowsList ↔ w < 0 ∧ _
    rw [hempty]
    exact iff_of_false (by rintro ⟨⟩) fun h => Nat.not_lt_zero _ h.1
  · have hw : w ∈ registry.windowsList := hw
    rw [hempty] at hw
    cases hw

/-! ## Requests for one window -/

theorem Books.update (h : Books m) (w : WindowId) (state : WindowState σ) :
    Books (m.update w state) := ⟨h.nodup, h.listed, h.doomed, h.deleted⟩

theorem window_update (state : WindowState σ) : (m.update w state).window w = state :=
  Function.update_self ..

/-- A window may get a registered parent, or none. -/
theorem Inv.update (h : Inv m) (state : WindowState σ)
    (hparent : ∀ p, state.parentWindow = some p → p ∈ m.windowsList) : Inv (m.update w state) := by
  refine ⟨h.books.update w state, ?_⟩
  have hfield := (noDangling_field_iff h.references (a := w)).2 fun _ => hparent
  refine hfield.congr fun v _ => ?_
  show (Function.update m.window w state v).parentWindow = _
  by_cases hv : v = w
  · subst hv
    rw [Function.update_self, Function.update_self]
  · rw [Function.update_of_ne hv, Function.update_of_ne hv]

/-- A window that keeps its parent. -/
theorem references_update_iff {state : WindowState σ}
    (hparent : state.parentWindow = (m.window w).parentWindow) :
    ReferencesOk (m.update w state) ↔ ReferencesOk m := by
  have hfield : (fun v => ((m.update w state).window v).parentWindow) =
      fun v => (m.window v).parentWindow := by
    funext v
    show (Function.update m.window w state v).parentWindow = _
    by_cases hv : v = w
    · subst hv
      rw [Function.update_self, hparent]
    · rw [Function.update_of_ne hv]
  unfold ReferencesOk
  rw [hfield]
  exact Iff.rfl

theorem Inv.update_same (h : Inv m) (state : WindowState σ)
    (hparent : state.parentWindow = (m.window w).parentWindow) : Inv (m.update w state) :=
  ⟨h.books.update w state, (references_update_iff hparent).2 h.references⟩

theorem Inv.setParentWindow (h : Inv m) {parent : Option WindowId}
    (hparent : ∀ p, parent = some p → p ∈ m.windowsList) : Inv (m.setParentWindow w parent) :=
  h.update _ hparent

theorem Inv.created_not_listed (h : Inv m) : m.created ∉ m.windowsList := by
  intro hmem
  have hlt := ((h.books.listed _).1 hmem).1
  exact Nat.lt_irrefl _ hlt

theorem windowsList_createWindow (hnew : m.created ∉ m.windowsList) (surface : σ) (pid : Int) :
    (m.createWindow surface pid).windowsList = m.windowsList ++ [m.created] := by
  show (ApplicationManager.registerWindow _ _).windowsList = _
  unfold ApplicationManager.registerWindow
  rw [if_neg (show m.created ∉ m.registry.windowsList from hnew)]
  dsimp only
  split
  · rfl
  · rfl

theorem createWindow_books (h : Inv m) (surface : σ) (pid : Int) :
    Books (m.createWindow surface pid) := by
  have hnew := h.created_not_listed
  have hlist := windowsList_createWindow hnew surface pid
  refine ⟨?_, fun w => ?_, fun w hw => Nat.lt_succ_of_lt (h.books.doomed w hw), h.books.deleted⟩
  · rw [hlist]
    exact h.books.nodup.append (List.nodup_singleton _) (by simpa using hnew)
  · rw [hlist, List.mem_append, List.mem_singleton, h.books.listed]
    show _ ↔ w < m.created + 1 ∧ w ∉ m.doomed
    constructor
    · rintro (⟨hlt, hd⟩ | rfl)
      · exact ⟨Nat.lt_succ_of_lt hlt, hd⟩
      · exact ⟨Nat.lt_succ_self _, fun hd => Nat.lt_irrefl _ (h.books.doomed _ hd)⟩
    · rintro ⟨hlt, hd⟩
      rcases Nat.lt_or_eq_of_le (Nat.le_of_lt_succ hlt) with hlt | rfl
      · exact Or.inl ⟨hlt, hd⟩
      · exact Or.inr rfl

/-- A new window is registered and refers to nothing. -/
theorem createWindow_inv (h : Inv m) (surface : σ) (pid : Int) : Inv (m.createWindow surface pid) := by
  refine ⟨createWindow_books h surface pid, ?_⟩
  have hlive : {w | w ∈ (m.createWindow surface pid).windowsList} =
      insert m.created {w | w ∈ m.windowsList} := by
    ext v
    show v ∈ (m.createWindow surface pid).windowsList ↔ v = m.created ∨ v ∈ m.windowsList
    rw [windowsList_createWindow h.created_not_listed, List.mem_append, List.mem_singleton, or_comm]
  unfold ReferencesOk
  rw [hlive]
  have hold : ∀ w ∈ {w | w ∈ m.windowsList},
      ((m.createWindow surface pid).window w).parentWindow = (m.window w).parentWindow := by
    intro w hw
    have hne : w ≠ m.created := fun heq => h.created_not_listed (heq ▸ hw)
    show (Function.update m.window m.created _ w).parentWindow = _
    rw [Function.update_of_ne hne]
  refine NoDangling.insert (h.references.congr hold) ?_
  show (Function.update m.window m.created _ m.created).parentWindow = none
  rw [Function.update_self]

/-! ## Activation -/

/-- What activation leaves alone. -/
structure SameBut (m m' : ManagedWindows σ) (w : WindowId) : Prop where
  books : Books m → Books m'
  deleted : m'.deleted = m.deleted
  type : (m'.window w).type = (m.window w).type
  parentWindow : (m'.window w).parentWindow = (m.window w).parentWindow

theorem SameBut.parentThere (h : SameBut m m' w) : m'.ParentThere w ↔ m.ParentThere w := by
  unfold ParentThere
  rw [h.type, h.parentWindow, h.deleted]

theorem setActive_same (w : WindowId) (active : Bool) : SameBut m (m.setActive w active) w := by
  have hupdate : SameBut m (m.update w { m.window w with active := active }) w := by
    refine ⟨fun h => h.update w _, rfl, ?_, ?_⟩
    · rw [window_update]
    · rw [window_update]
  unfold setActive
  split
  · exact ⟨id, rfl, rfl, rfl⟩
  · dsimp only
    split
    · exact ⟨fun h => ⟨h.nodup, h.listed, h.doomed, h.deleted⟩, rfl, hupdate.type,
        hupdate.parentWindow⟩
    · exact hupdate

/-- The window after it was activated or deactivated, before a look at its parent. -/
theorem setMinimized_same (w : WindowId) (active : Bool) :
    SameBut m ((m.setActive w active).update w
      { (m.setActive w active).window w with minimized := false }) w := by
  have hset := setActive_same (m := m) w active
  refine ⟨fun h => (hset.books h).update w _, hset.deleted, ?_, ?_⟩
  · rw [window_update]
    exact hset.type
  · rw [window_update]
    exact hset.parentWindow

/-- An activated window becomes the focused one, so it has to be registered. -/
theorem setActive_references_iff (h : Inv m) (w : WindowId) (active : Bool) :
    ReferencesOk (m.setActive w active) ↔
      (active = true → (m.window w).active = false → w ∈ m.windowsList) := by
  unfold setActive
  split
  · next hsame =>
    refine iff_of_true h.references fun hactive hnot => ?_
    rw [hsame, hactive] at hnot
    cases hnot
  · next hne =>
    have hupdate : Inv (m.update w { m.window w with active := active }) :=
      h.update_same _ rfl
    dsimp only
    split
    · next hactive =>
      have hwas : (m.window w).active = false := by
        rw [hactive] at hne
        exact Bool.eq_false_iff.2 hne
      refine (noDangling_root_iff hupdate.references).trans ⟨fun hw _ _ => hw, fun hw => ?_⟩
      exact hw hactive hwas
    · next hactive => exact iff_of_true hupdate.references fun h' => absurd h' hactive

/-- **Activation.**  It returns and leaves no dangling reference exactly if an
activated window is registered, unless it was active, and its parent is there. -/
theorem activated_decides (h : Inv m) (w : WindowId) (active : Bool) :
    (m.activated w active = none ∧ ¬ (active = true → m.ActivationOk w)) ∨
      ∃ m', m.activated w active = some m' ∧ Books m' ∧
        (ReferencesOk m' ↔ (active = true → m.ActivationOk w)) := by
  have hsame := setMinimized_same (m := m) w active
  have hrefs : ReferencesOk ((m.setActive w active).update w
      { (m.setActive w active).window w with minimized := false }) ↔
        (active = true → (m.window w).active = false → w ∈ m.windowsList) := by
    refine (references_update_iff ?_).trans (setActive_references_iff h w active)
    rfl
  unfold activated
  set m₂ := (m.setActive w active).update w
    { (m.setActive w active).window w with minimized := false }
  dsimp only
  cases active with
  | false =>
    exact Or.inr ⟨m₂, rfl, hsame.books h.books, iff_of_true (hrefs.2 (by rintro ⟨⟩)) (by rintro ⟨⟩)⟩
  | true =>
    rw [if_pos rfl]
    by_cases hp : m.ParentThere w
    · rw [lookAtParent_eq_some.2 (hsame.parentThere.2 hp)]
      refine Or.inr ⟨m₂, rfl, hsame.books h.books, hrefs.trans ⟨fun hw _ => ⟨hw rfl, hp⟩, ?_⟩⟩
      exact fun hok _ => (hok rfl).1
    · refine Or.inl ⟨?_, fun hok => hp (hok rfl).2⟩
      rcases hlook : m₂.lookAtParent w with _ | _
      · rfl
      · exact absurd (hsame.parentThere.1 (lookAtParent_eq_some.1 hlook)) hp

/-! ## Destruction -/

theorem runDelete_inv (h : Inv m) (w : WindowId) : Inv (m.runDelete w) := by
  unfold runDelete
  split
  · next hw =>
    refine ⟨⟨h.books.nodup, h.books.listed, h.books.doomed, fun v hv => ?_⟩, h.references⟩
    rcases List.mem_append.1 hv with hv | hv
    · exact h.books.deleted v hv
    · rw [List.mem_singleton.1 hv]
      exact hw.1
  · exact h

theorem windowsList_unregisterWindow (r : ApplicationManager) (w : WindowId) :
    (r.unregisterWindow w).windowsList = r.windowsList.erase w := by
  unfold ApplicationManager.unregisterWindow
  split
  · next hw => exact (List.erase_of_not_mem hw).symm
  · dsimp only
    split
    · rfl
    · rfl

variable [DecidableEq σ]

/-- Windows that have a slot at a surface are registered. -/
theorem Books.mem_of_windowsOf (h : Books m) {surface : σ} (hw : w ∈ m.windowsOf surface) :
    w ∈ m.windowsList := by
  unfold windowsOf at hw
  rw [List.mem_filter, List.mem_range] at hw
  obtain ⟨hlt, hw⟩ := hw
  exact (h.listed w).2 ⟨hlt, (of_decide_eq_true hw).2⟩

theorem windowForSurface_mem (surface : Option σ) {parent : WindowId}
    (h : m.windowForSurface surface = some parent) : parent ∈ m.windowsList := by
  obtain ⟨s, -, hfind⟩ := Option.bind_eq_some_iff.1 h
  exact List.mem_of_find?_eq_some hfind

/-! ## Requests that look at the parent -/

theorem xdgSetTransient_inv (h : Inv m) (w : WindowId) (parentSurface : σ) :
    ∃ m', m.xdgSetTransient w parentSurface = some m' ∧ Inv m' := by
  have hset : Inv (m.setParentWindow w (m.windowForSurface (some parentSurface))) :=
    h.setParentWindow fun p hp => windowForSurface_mem _ hp
  unfold xdgSetTransient
  dsimp only
  split
  · next parent hp =>
    have hmem : parent ∈ m.windowsList := by
      refine windowForSurface_mem (some parentSurface) (Eq.trans ?_ hp)
      show _ = (Function.update m.window w _ w).parentWindow
      rw [Function.update_self]
    have hlook : look (m.setParentWindow w (m.windowForSurface (some parentSurface))) parent = some () :=
      if_neg (hset.books.not_deleted hmem)
    rw [hlook]
    exact ⟨_, rfl, hset.update_same _ rfl⟩
  · exact ⟨_, rfl, hset⟩

end

/-- Windows before they are created. -/
def blankWindows : WindowId → WindowState ℕ :=
  fun _ => ⟨0, .unknown, none, false, false, false, false⟩

end ManagedWindows

end GreenIsland.Server

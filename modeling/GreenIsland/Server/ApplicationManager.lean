import Mathlib.Data.List.Basic
import Mathlib.Data.List.Nodup
import Mathlib.Logic.Function.Basic
import GreenIsland.Lib.Run
import GreenIsland.Lib.Edge

/-! The application registry of the compositor (`ApplicationManager`).

`windowsList` holds the registered windows, `appIds` the applications they
belong to.  Three operations keep `appIds`: `registerWindow`, `unregisterWindow`
and `_q_appIdChanged`, the slot that a registered window's `appIdChanged` runs.

The registry is meant to announce an application while one of its windows is
registered (`inUse`): `applicationAdded` and `applicationRemoved` are the edges
of `inUse` (`Announced`).  `unregisterWindow` looks for another window of the
same application before it announces the removal; `_q_appIdChanged` does not,
and neither of them treats the empty appId apart.  `OpOk` is the condition on a
call under which this makes no difference, and it is exact: the calls of a run
announce every application correctly if and only if each of them meets it.

Signals are recorded in the order they are emitted; the slots that other
components connect to them do not call back into the registry here.  The icon
name that `setAppId` looks up after its signal plays no part. -/

namespace GreenIsland.Server

open Edge

abbrev WindowId := Nat

/-! ## Model -/

structure ClientWindow where
  appId : String
  prevAppId : String
  pid : Int
deriving DecidableEq

inductive Signal
  | windowCreated (window : WindowId)
  | applicationAdded (appId : String) (pid : Int)
  | applicationRemoved (appId : String) (pid : Int)
  | appIdChanged (window : WindowId)
deriving DecidableEq

structure ApplicationManager where
  /-- every window object, registered or not -/
  windows : WindowId → ClientWindow
  windowsList : List WindowId
  appIds : List String
  appIdMap : String → Option String
  /-- signals emitted so far, oldest first -/
  signals : List Signal

/-- The mapping the constructor fills in. -/
def defaultAppIdMap : String → Option String
  | "org.hawaiios.hawaii-system-preferences" => some "org.hawaiios.SystemPreferences"
  | "org.hawaiios.hawaii-screenshot" => some "org.hawaiios.Screenshot"
  | "org.hawaiios.hawaii-terminal" => some "org.hawaiios.terminal"
  | "org.qterminal.qterminal-qt5" => some "qterminal-qt5"
  | _ => none

/-- `QFileInfo::baseName`: the file name without its path, up to the first dot. -/
def baseName (path : String) : String :=
  String.ofList (((path.toList.reverse.takeWhile (· ≠ '/')).reverse).takeWhile (· ≠ '.'))

namespace ApplicationManager

def init (windows : WindowId → ClientWindow) (appIdMap : String → Option String) :
    ApplicationManager where
  windows := windows
  windowsList := []
  appIds := []
  appIdMap := appIdMap
  signals := []

def emit (m : ApplicationManager) (signal : Signal) : ApplicationManager :=
  { m with signals := m.signals ++ [signal] }

def appIdOf (m : ApplicationManager) (w : WindowId) : String := (m.windows w).appId

/-- `appIds.append` and `applicationAdded` for the window's appId. -/
def addApplication (m : ApplicationManager) (appId : String) (pid : Int) : ApplicationManager :=
  { m with appIds := m.appIds ++ [appId] }.emit (.applicationAdded appId pid)

/-- `appIds.removeOne` and `applicationRemoved`. -/
def removeApplication (m : ApplicationManager) (appId : String) (pid : Int) : ApplicationManager :=
  { m with appIds := m.appIds.erase appId }.emit (.applicationRemoved appId pid)

def registerWindow (m : ApplicationManager) (w : WindowId) : ApplicationManager :=
  if w ∈ m.windowsList then m
  else
    let m := { m with windowsList := m.windowsList ++ [w] }.emit (.windowCreated w)
    if m.appIdOf w ≠ "" ∧ m.appIdOf w ∉ m.appIds then
      m.addApplication (m.appIdOf w) (m.windows w).pid
    else m

def unregisterWindow (m : ApplicationManager) (w : WindowId) : ApplicationManager :=
  if w ∉ m.windowsList then m
  else
    let m := { m with windowsList := m.windowsList.erase w }
    if m.windowsList.any fun curWindow => m.appIdOf curWindow == m.appIdOf w then m
    else m.removeApplication (m.appIdOf w) (m.windows w).pid

/-- `_q_appIdChanged`, with the window that emitted the signal as `sender`. -/
def qAppIdChanged (m : ApplicationManager) (w : WindowId) : ApplicationManager :=
  let window := m.windows w
  let m := if window.prevAppId ∈ m.appIds then m.removeApplication window.prevAppId window.pid else m
  if window.appId ∉ m.appIds then m.addApplication window.appId window.pid else m

/-- The appId a client asks for: the process name when it asks for none.
`cmdline` is what `/proc/<pid>/cmdline` holds, `none` if it cannot be opened. -/
def requestedAppId (appId : String) (cmdline : Option String) : String :=
  if appId = "" then
    match cmdline with
    | some content => baseName (String.ofList (content.toList.takeWhile (· ≠ '\x00')))
    | none => appId
  else appId

/-- Known identifiers are mapped to the correct values. -/
def mapped (m : ApplicationManager) (appId : String) : String := (m.appIdMap appId).getD appId

/-- The window's appId is replaced and the previous one saved. -/
def storeAppId (m : ApplicationManager) (w : WindowId) (newAppId : String) : ApplicationManager :=
  { m with windows := Function.update m.windows w
            { m.windows w with prevAppId := m.appIdOf w, appId := newAppId } }

/-- `ClientWindowPrivate::setAppId`.  The slot runs while the window is
registered: `registerWindow` connects it, `unregisterWindow` disconnects it. -/
def setAppId (m : ApplicationManager) (w : WindowId) (appId : String) (cmdline : Option String) :
    ApplicationManager :=
  let newAppId := requestedAppId appId cmdline
  if m.appIdOf w = newAppId then m
  else
    let m := (m.storeAppId w (m.mapped newAppId)).emit (.appIdChanged w)
    if w ∈ m.windowsList then m.qAppIdChanged w else m

inductive Op
  | registerWindow (w : WindowId)
  | unregisterWindow (w : WindowId)
  | setAppId (w : WindowId) (appId : String) (cmdline : Option String)

def step (m : ApplicationManager) : Op → ApplicationManager
  | .registerWindow w => m.registerWindow w
  | .unregisterWindow w => m.unregisterWindow w
  | .setAppId w appId cmdline => m.setAppId w appId cmdline

/-! ## What the registry is for -/

/-- An application is in use while a registered window has its appId; the empty
appId names no application. -/
def inUse (m : ApplicationManager) (a : String) : Bool :=
  a != "" && m.windowsList.any fun w => m.appIdOf w == a

/-- `true` for each `applicationAdded(a)`, `false` for each `applicationRemoved(a)`. -/
def announcement (a : String) : Signal → Option Bool
  | .applicationAdded b _ => if b = a then some true else none
  | .applicationRemoved b _ => if b = a then some false else none
  | _ => none

def announcements (m : ApplicationManager) (a : String) : List Bool :=
  m.signals.filterMap (announcement a)

/-- `appIds` lists the applications in use, each once. -/
structure RegistryOk (m : ApplicationManager) : Prop where
  nodup : m.appIds.Nodup
  mem_iff : ∀ a, a ∈ m.appIds ↔ m.inUse a = true

/-- What a call owes: `appIds` is right after it, it has announced exactly the
applications that came into use or went out of use, and the announcements of
each application alternate, `applicationAdded` first. -/
structure Announced (m m' : ApplicationManager) : Prop where
  registry : RegistryOk m'
  edges : ∀ a, m'.announcements a = m.announcements a ++ edge (m.inUse a) (m'.inUse a)
  alternates : ∀ a, Alternates true (m'.announcements a)

/-- Another registered window than `w` has the appId `a`. -/
def OtherHas (m : ApplicationManager) (w : WindowId) (a : String) : Prop :=
  ∃ v ∈ m.windowsList, v ≠ w ∧ m.appIdOf v = a

/-- The calls that the registry gets right: a window is not unregistered without
an appId unless another registered one has none either, and a registered window
that changes its appId gets a non-empty one that differs from the one it had,
which no other registered window has. -/
def OpOk (m : ApplicationManager) : Op → Prop
  | .registerWindow _ => True
  | .unregisterWindow w => w ∈ m.windowsList → m.appIdOf w = "" → m.OtherHas w ""
  | .setAppId w appId cmdline =>
    w ∈ m.windowsList → m.appIdOf w ≠ requestedAppId appId cmdline →
      m.mapped (requestedAppId appId cmdline) ≠ "" ∧
        (m.appIdOf w ≠ "" →
          m.mapped (requestedAppId appId cmdline) ≠ m.appIdOf w ∧ ¬ m.OtherHas w (m.appIdOf w))

/-! ## The books: `appIds` and the announcements -/

@[simp] theorem windows_emit (m : ApplicationManager) (g : Signal) :
    (m.emit g).windows = m.windows := rfl

@[simp] theorem appIds_add (m : ApplicationManager) (a : String) (pid : Int) :
    (m.addApplication a pid).appIds = m.appIds ++ [a] := rfl
@[simp] theorem appIds_remove (m : ApplicationManager) (a : String) (pid : Int) :
    (m.removeApplication a pid).appIds = m.appIds.erase a := rfl
@[simp] theorem inUse_add (m : ApplicationManager) (a b : String) (pid : Int) :
    (m.addApplication a pid).inUse b = m.inUse b := rfl
@[simp] theorem inUse_remove (m : ApplicationManager) (a b : String) (pid : Int) :
    (m.removeApplication a pid).inUse b = m.inUse b := rfl

theorem announcements_emit (m : ApplicationManager) (g : Signal) (a : String) :
    (m.emit g).announcements a = m.announcements a ++ (announcement a g).toList := by
  unfold announcements emit
  rw [List.filterMap_append]
  cases h : announcement a g <;> simp [h]

@[simp] theorem announcements_add (m : ApplicationManager) (a b : String) (pid : Int) :
    (m.addApplication a pid).announcements b = m.announcements b ++ if a = b then [true] else [] := by
  rw [addApplication, announcements_emit]
  simp only [announcement]
  split <;> rfl

@[simp] theorem announcements_remove (m : ApplicationManager) (a b : String) (pid : Int) :
    (m.removeApplication a pid).announcements b =
      m.announcements b ++ if a = b then [false] else [] := by
  rw [removeApplication, announcements_emit]
  simp only [announcement]
  split <;> rfl

/-- Storing an appId announces no application by itself. -/
theorem announcements_appIdChanged (m : ApplicationManager) (w : WindowId) (b a : String) :
    ((m.storeAppId w b).emit (.appIdChanged w)).announcements a = m.announcements a :=
  (announcements_emit _ _ a).trans (List.append_nil _)

/-- The books of `m` show the applications `f`, where they showed `p` when the
announcements were `L`. -/
structure Books (p : String → Bool) (L : String → List Bool) (m : ApplicationManager)
    (f : String → Bool) : Prop where
  nodup : m.appIds.Nodup
  mem_iff : ∀ a, a ∈ m.appIds ↔ f a = true
  edges : ∀ a, m.announcements a = L a ++ edge (p a) (f a)

section
variable {p f : String → Bool} {L : String → List Bool} {m m' : ApplicationManager} {a : String}

theorem RegistryOk.books (h : RegistryOk m) : Books m.inUse m.announcements m m.inUse :=
  ⟨h.nodup, h.mem_iff, fun a => by simp [edge]⟩

/-- Windows and other signals are not in the books. -/
theorem Books.congr (h : Books p L m f) (happ : m'.appIds = m.appIds)
    (hann : ∀ a, m'.announcements a = m.announcements a) : Books p L m' f :=
  ⟨happ ▸ h.nodup, fun a => happ ▸ h.mem_iff a, fun a => (hann a).trans (h.edges a)⟩

theorem Books.add (h : Books p L m f) (hp : p a = false) (hf : f a = false) (pid : Int) :
    Books p L (m.addApplication a pid) (Function.update f a true) where
  nodup := by
    have hnot : a ∉ m.appIds := by rw [h.mem_iff, hf]; simp
    simp only [appIds_add]
    exact List.nodup_append.2 ⟨h.nodup, by simp, by simp; rintro b hb rfl; exact hnot hb⟩
  mem_iff b := by
    by_cases hb : b = a
    · simp [hb]
    · simp [h.mem_iff, hb]
  edges b := by
    rw [announcements_add, h.edges]
    by_cases hb : b = a
    · subst hb; simp [edge, hp, hf]
    · simp [Function.update_of_ne hb, Ne.symm hb]

theorem Books.remove (h : Books p L m f) (hp : p a = true) (hf : f a = true) (pid : Int) :
    Books p L (m.removeApplication a pid) (Function.update f a false) where
  nodup := h.nodup.erase a
  mem_iff b := by
    rw [appIds_remove, h.nodup.mem_erase_iff, h.mem_iff]
    by_cases hb : b = a <;> simp [hb]
  edges b := by
    rw [announcements_remove, h.edges]
    by_cases hb : b = a
    · subst hb; simp [edge, hp, hf]
    · simp [Function.update_of_ne hb, Ne.symm hb]

end

/-! ## Who is in use after a call -/

theorem inUse_iff (m : ApplicationManager) (a : String) :
    m.inUse a = true ↔ a ≠ "" ∧ ∃ w ∈ m.windowsList, m.appIdOf w = a := by
  simp [inUse]

theorem inUse_empty (m : ApplicationManager) : m.inUse "" = false := by simp [inUse]

theorem appIdOf_store (m : ApplicationManager) (w v : WindowId) (b : String) :
    (m.storeAppId w b).appIdOf v = if v = w then b else m.appIdOf v := by
  unfold storeAppId appIdOf
  by_cases h : v = w
  · subst h; simp
  · simp [h]

section
variable {m : ApplicationManager} {w : WindowId}

theorem inUse_of_mem (hw : w ∈ m.windowsList) (a : String) :
    m.inUse a = true ↔ a ≠ "" ∧ (m.appIdOf w = a ∨ m.OtherHas w a) := by
  rw [inUse_iff]
  refine and_congr_right fun _ => ⟨?_, ?_⟩
  · rintro ⟨v, hv, rfl⟩
    by_cases h : v = w
    · exact Or.inl (by rw [h])
    · exact Or.inr ⟨v, hv, h, rfl⟩
  · rintro (h | ⟨v, hv, -, h⟩)
    · exact ⟨w, hw, h⟩
    · exact ⟨v, hv, h⟩

theorem inUse_erase (hn : m.windowsList.Nodup) (a : String) :
    { m with windowsList := m.windowsList.erase w }.inUse a = true ↔ a ≠ "" ∧ m.OtherHas w a := by
  rw [inUse_iff]
  refine and_congr_right fun _ => ?_
  simp only [hn.mem_erase_iff, OtherHas]
  constructor
  · rintro ⟨v, ⟨hne, hv⟩, h⟩; exact ⟨v, hv, hne, h⟩
  · rintro ⟨v, hv, hne, h⟩; exact ⟨v, ⟨hne, hv⟩, h⟩

theorem inUse_append (a : String) :
    { m with windowsList := m.windowsList ++ [w] }.inUse a = true ↔
      m.inUse a = true ∨ a ≠ "" ∧ m.appIdOf w = a := by
  simp only [inUse_iff, List.mem_append, List.mem_singleton]
  constructor
  · rintro ⟨ha, v, hv | rfl, h⟩
    · exact Or.inl ⟨ha, v, hv, h⟩
    · exact Or.inr ⟨ha, h⟩
  · rintro (⟨ha, v, hv, h⟩ | ⟨ha, h⟩)
    · exact ⟨ha, v, Or.inl hv, h⟩
    · exact ⟨ha, w, Or.inr rfl, h⟩

theorem inUse_store (hw : w ∈ m.windowsList) (b a : String) :
    (m.storeAppId w b).inUse a = true ↔ a ≠ "" ∧ (b = a ∨ m.OtherHas w a) := by
  have hw' : w ∈ (m.storeAppId w b).windowsList := hw
  rw [inUse_of_mem hw', appIdOf_store, if_pos rfl]
  refine and_congr_right fun _ => or_congr_right ?_
  refine exists_congr fun v => and_congr_right fun _ => and_congr_right fun hne => ?_
  rw [appIdOf_store, if_neg hne]

/-- A window that is not registered can change its appId unnoticed. -/
theorem inUse_store_of_not_mem (hw : w ∉ m.windowsList) (b a : String) :
    (m.storeAppId w b).inUse a = m.inUse a := by
  rw [Bool.eq_iff_iff, inUse_iff, inUse_iff]
  refine and_congr_right fun _ => exists_congr fun v => and_congr_right fun hv => ?_
  have hv' : v ∈ m.windowsList := hv
  rw [appIdOf_store, if_neg (by rintro rfl; exact hw hv')]

/-! ## One call -/

/-- The registry is right, and every application's announcements fit its state. -/
structure Inv (m : ApplicationManager) : Prop where
  windows_nodup : m.windowsList.Nodup
  registry : RegistryOk m
  follows : ∀ a, Follows (m.inUse a) (m.announcements a)

theorem inv_init (windows : WindowId → ClientWindow) (appIdMap : String → Option String) :
    Inv (init windows appIdMap) where
  windows_nodup := List.nodup_nil
  registry := ⟨List.nodup_nil, fun a => by simp [init, inUse]⟩
  follows a := by
    have h : (init windows appIdMap).inUse a = false := by simp [init, inUse]
    rw [h]
    exact follows_nil

theorem Inv.announced {m' : ApplicationManager} (h : Inv m)
    (hb : Books m.inUse m.announcements m' m'.inUse) : Announced m m' where
  registry := ⟨hb.nodup, hb.mem_iff⟩
  edges := hb.edges
  alternates a := by
    rw [hb.edges]
    exact ((h.follows a).append_edge _).1

theorem Inv.of_announced {m' : ApplicationManager} (h : Inv m) (hn : m'.windowsList.Nodup)
    (ha : Announced m m') : Inv m' where
  windows_nodup := hn
  registry := ha.registry
  follows a := by
    rw [ha.edges]
    exact (h.follows a).append_edge _

theorem books_registerWindow (h : Inv m) (w : WindowId) :
    Books m.inUse m.announcements (m.registerWindow w) (m.registerWindow w).inUse := by
  unfold registerWindow
  split
  · exact h.registry.books
  · simp only []
    set m₁ := { m with windowsList := m.windowsList ++ [w] }.emit (.windowCreated w) with hm₁
    have huse : ∀ a, m₁.inUse a = true ↔ m.inUse a = true ∨ a ≠ "" ∧ m.appIdOf w = a := inUse_append
    have hw : m₁.appIdOf w = m.appIdOf w := rfl
    have hbooks : Books m.inUse m.announcements m₁ m.inUse :=
      h.registry.books.congr rfl fun a => (announcements_emit _ _ a).trans (List.append_nil _)
    split
    · next hnew =>
      obtain ⟨hne, hnot⟩ := hnew
      have hold : m.inUse (m₁.appIdOf w) = false := by
        rw [← Bool.not_eq_true, ← h.registry.mem_iff]; exact hnot
      convert hbooks.add hold hold (m₁.windows w).pid using 1
      ext a
      rw [inUse_add, Bool.eq_iff_iff, huse]
      by_cases ha : a = m₁.appIdOf w
      · subst ha; simpa [hw] using Or.inr hne
      · rw [Function.update_of_ne ha]
        exact ⟨fun h => h.resolve_right fun h' => ha (by rw [hw, h'.2]), Or.inl⟩
    · next hnew =>
      convert hbooks using 1
      ext a
      rw [Bool.eq_iff_iff, huse]
      refine ⟨fun h' => h'.elim id ?_, Or.inl⟩
      rintro ⟨hne, rfl⟩
      by_contra hnot
      exact hnew ⟨hne, fun hmem => hnot ((h.registry.mem_iff _).1 hmem)⟩

theorem any_other (hn : m.windowsList.Nodup) (a : String) :
    ((m.windowsList.erase w).any fun v => m.appIdOf v == a) = true ↔ m.OtherHas w a := by
  simp only [List.any_eq_true, beq_iff_eq, hn.mem_erase_iff, OtherHas]
  exact exists_congr fun v => ⟨fun h => ⟨h.1.2, h.1.1, h.2⟩, fun h => ⟨⟨h.2.1, h.1⟩, h.2.2⟩⟩

theorem unregisterWindow_other (hn : m.windowsList.Nodup) (hmem : w ∈ m.windowsList)
    (h : m.OtherHas w (m.appIdOf w)) :
    m.unregisterWindow w = { m with windowsList := m.windowsList.erase w } := by
  unfold unregisterWindow
  rw [if_neg (not_not.2 hmem)]
  exact if_pos ((any_other hn _).2 h)

theorem unregisterWindow_last (hn : m.windowsList.Nodup) (hmem : w ∈ m.windowsList)
    (h : ¬ m.OtherHas w (m.appIdOf w)) :
    m.unregisterWindow w =
      { m with windowsList := m.windowsList.erase w }.removeApplication (m.appIdOf w)
        (m.windows w).pid := by
  unfold unregisterWindow
  rw [if_neg (not_not.2 hmem)]
  exact if_neg fun hany => h ((any_other hn _).1 hany)

theorem books_unregisterWindow (h : Inv m) (hok : OpOk m (.unregisterWindow w)) :
    Books m.inUse m.announcements (m.unregisterWindow w) (m.unregisterWindow w).inUse := by
  by_cases hmem : w ∈ m.windowsList
  swap
  · rw [unregisterWindow, if_pos hmem]
    exact h.registry.books
  have hbooks : Books m.inUse m.announcements { m with windowsList := m.windowsList.erase w } m.inUse :=
    h.registry.books.congr rfl fun _ => rfl
  by_cases hother : m.OtherHas w (m.appIdOf w)
  · rw [unregisterWindow_other h.windows_nodup hmem hother]
    convert hbooks using 1
    ext a
    rw [Bool.eq_iff_iff, inUse_erase h.windows_nodup, inUse_of_mem hmem]
    refine and_congr_right fun _ => ⟨Or.inr, fun h' => h'.elim ?_ id⟩
    rintro rfl
    exact hother
  · rw [unregisterWindow_last h.windows_nodup hmem hother]
    have hne : m.appIdOf w ≠ "" := fun h0 => hother (by rw [h0]; exact hok hmem h0)
    have hold : m.inUse (m.appIdOf w) = true := (inUse_of_mem hmem _).2 ⟨hne, Or.inl rfl⟩
    convert hbooks.remove hold hold (m.windows w).pid using 1
    ext a
    rw [inUse_remove, Bool.eq_iff_iff, inUse_erase h.windows_nodup]
    by_cases ha : a = m.appIdOf w
    · subst ha; simp [hother]
    · rw [Function.update_of_ne ha, inUse_of_mem hmem]
      exact and_congr_right fun _ => ⟨Or.inr, fun h' => h'.resolve_left fun e => ha e.symm⟩

/-- The slot takes the old appId off the books and puts the new one on. -/
theorem books_qAppIdChanged {p : String → Bool} {L : String → List Bool} (h : Books p L m p)
    (hne : (m.windows w).appId ≠ (m.windows w).prevAppId) :
    Books p L (m.qAppIdChanged w)
      (Function.update (Function.update p (m.windows w).prevAppId false) (m.windows w).appId true) := by
  unfold qAppIdChanged
  simp only []
  generalize hm₁ : (if (m.windows w).prevAppId ∈ m.appIds then
    m.removeApplication (m.windows w).prevAppId (m.windows w).pid else m) = m₁
  have hbooks : Books p L m₁ (Function.update p (m.windows w).prevAppId false) := by
    subst hm₁
    split
    · next hin => exact h.remove ((h.mem_iff _).1 hin) ((h.mem_iff _).1 hin) _
    · next hnot =>
      rw [h.mem_iff, Bool.not_eq_true] at hnot
      rw [← hnot, Function.update_eq_self]
      exact h
  split
  · next hnot =>
    rw [hbooks.mem_iff, Bool.not_eq_true] at hnot
    exact hbooks.add (by rwa [Function.update_of_ne hne] at hnot) hnot _
  · next hin =>
    rw [not_not, hbooks.mem_iff] at hin
    rw [← hin, Function.update_eq_self]
    exact hbooks

@[simp] theorem inUse_qAppIdChanged (m : ApplicationManager) (w : WindowId) :
    (m.qAppIdChanged w).inUse = m.inUse := by
  unfold qAppIdChanged
  simp only []
  split <;> split <;> rfl

/-- What is in use when a registered window gives its appId up for `b`. -/
theorem inUse_store_eq {b : String} (hw : w ∈ m.windowsList) (hb : b ≠ "") (hne : b ≠ m.appIdOf w)
    (hother : m.appIdOf w ≠ "" → ¬ m.OtherHas w (m.appIdOf w)) :
    Function.update (Function.update m.inUse (m.appIdOf w) false) b true = (m.storeAppId w b).inUse := by
  ext a
  rw [Bool.eq_iff_iff, inUse_store hw]
  by_cases hab : a = b
  · subst hab; simp [hb]
  rw [Function.update_of_ne hab]
  by_cases ha : a = m.appIdOf w
  · subst ha
    simp only [Function.update_self, Bool.false_eq_true, false_iff]
    rintro ⟨hempty, h | h⟩
    · exact hne h
    · exact hother hempty h
  · rw [Function.update_of_ne ha, inUse_of_mem hw]
    refine and_congr_right fun _ => ⟨fun h => Or.inr ?_, fun h => Or.inr ?_⟩
    · exact h.resolve_left fun e => ha e.symm
    · exact h.resolve_left fun e => hab e.symm

theorem books_setAppId {appId : String} {cmdline : Option String} (h : Inv m)
    (hok : OpOk m (.setAppId w appId cmdline)) :
    Books m.inUse m.announcements (m.setAppId w appId cmdline) (m.setAppId w appId cmdline).inUse := by
  unfold setAppId
  simp only []
  split
  · exact h.registry.books
  next hchanged =>
  set b := m.mapped (requestedAppId appId cmdline) with hb
  set m₁ := (m.storeAppId w b).emit (.appIdChanged w) with hm₁
  have hbooks : Books m.inUse m.announcements m₁ m.inUse :=
    h.registry.books.congr rfl (announcements_appIdChanged m w b)
  split
  · next hmem =>
    have hmem : w ∈ m.windowsList := hmem
    obtain ⟨hbne, hold⟩ := hok hmem hchanged
    have hne : b ≠ m.appIdOf w := by
      by_cases hempty : m.appIdOf w = ""
      · rw [hempty]; exact hbne
      · exact (hold hempty).1
    have hprev : (m₁.windows w).prevAppId = m.appIdOf w := by simp [hm₁, storeAppId]
    have hnew : (m₁.windows w).appId = b := by simp [hm₁, storeAppId]
    have key := books_qAppIdChanged (w := w) hbooks (by rw [hprev, hnew]; exact hne)
    rw [hprev, hnew, inUse_store_eq hmem hbne hne fun hempty => (hold hempty).2] at key
    rwa [inUse_qAppIdChanged]
  · next hmem =>
    -- no slot is connected: nothing is announced, and nothing has to be
    have hmem : w ∉ m.windowsList := hmem
    convert hbooks using 1
    ext a
    exact inUse_store_of_not_mem hmem b a

theorem windows_nodup_step (h : m.windowsList.Nodup) (op : Op) : (m.step op).windowsList.Nodup := by
  cases op with
  | registerWindow w =>
    simp only [step, registerWindow]
    split
    · exact h
    · next hnot =>
      have : (m.windowsList ++ [w]).Nodup :=
        List.nodup_append.2 ⟨h, by simp, by simp; rintro v hv rfl; exact hnot hv⟩
      split <;> exact this
  | unregisterWindow w =>
    simp only [step, unregisterWindow]
    split
    · exact h
    · split <;> exact h.erase w
  | setAppId w appId cmdline =>
    simp only [step, setAppId, qAppIdChanged]
    split
    · exact h
    · split
      · split <;> split <;> exact h
      · exact h

theorem announced_step (h : Inv m) {op : Op} (hok : OpOk m op) : Announced m (m.step op) := by
  cases op with
  | registerWindow w => exact h.announced (books_registerWindow h w)
  | unregisterWindow w => exact h.announced (books_unregisterWindow h hok)
  | setAppId w appId cmdline => exact h.announced (books_setAppId h hok)

/-! ## The condition is exact -/

theorem mem_qAppIdChanged (m : ApplicationManager) (w : WindowId) :
    (m.windows w).appId ∈ (m.qAppIdChanged w).appIds := by
  unfold qAppIdChanged
  simp only []
  generalize (if (m.windows w).prevAppId ∈ m.appIds then
    m.removeApplication (m.windows w).prevAppId (m.windows w).pid else m) = m₁
  split
  · simp
  · next hin => exact not_not.1 hin

/-- The slot announces the removal of the old appId, whoever else has it. -/
theorem announcements_qAppIdChanged (h : (m.windows w).prevAppId ∈ m.appIds) :
    ∃ t, (m.qAppIdChanged w).announcements (m.windows w).prevAppId =
      m.announcements (m.windows w).prevAppId ++ false :: t := by
  unfold qAppIdChanged
  simp only [if_pos h]
  split <;> simp

theorem opOk_unregisterWindow (h : Inv m) (ha : Announced m (m.unregisterWindow w)) :
    OpOk m (.unregisterWindow w) := by
  intro hmem hempty
  by_contra hother
  have hedge := ha.edges ""
  rw [unregisterWindow_last h.windows_nodup hmem (by rwa [hempty]), announcements_remove, hempty,
    inUse_empty, inUse_empty] at hedge
  have := List.append_cancel_left (hedge : m.announcements "" ++ [false] = _)
  simp [edge] at this

theorem opOk_setAppId {appId : String} {cmdline : Option String} (h : Inv m)
    (ha : Announced m (m.setAppId w appId cmdline)) : OpOk m (.setAppId w appId cmdline) := by
  intro hmem hchanged
  unfold setAppId at ha
  simp only [if_neg hchanged] at ha
  set b := m.mapped (requestedAppId appId cmdline) with hb
  set m₁ := (m.storeAppId w b).emit (.appIdChanged w) with hm₁
  have hmem₁ : w ∈ m₁.windowsList := hmem
  rw [if_pos hmem₁] at ha
  have hprev : (m₁.windows w).prevAppId = m.appIdOf w := by simp [hm₁, storeAppId]
  have hnew : (m₁.windows w).appId = b := by simp [hm₁, storeAppId]
  constructor
  · intro hempty
    have hin := mem_qAppIdChanged m₁ w
    rw [hnew, hempty, ha.registry.mem_iff, inUse_empty] at hin
    cases hin
  · intro hne
    have hon : m.inUse (m.appIdOf w) = true := (inUse_of_mem hmem _).2 ⟨hne, Or.inl rfl⟩
    obtain ⟨t, ht⟩ := announcements_qAppIdChanged (m := m₁) (w := w)
      (by rw [hprev]; exact (h.registry.mem_iff _).2 hon)
    -- the removal was announced, so the application has to be out of use
    have hedge := ha.edges (m.appIdOf w)
    rw [hprev] at ht
    rw [ht, hon, announcements_appIdChanged, inUse_qAppIdChanged] at hedge
    have hoff := List.append_cancel_left hedge
    have hnot : ¬ (m.storeAppId w b).inUse (m.appIdOf w) = true := by
      intro hstill
      rw [show m₁.inUse (m.appIdOf w) = true from hstill] at hoff
      simp [edge] at hoff
    rw [inUse_store hmem] at hnot
    exact ⟨fun e => hnot ⟨hne, Or.inl e⟩, fun ho => hnot ⟨hne, Or.inr ho⟩⟩

theorem announced_step_iff (h : Inv m) (op : Op) : Announced m (m.step op) ↔ OpOk m op := by
  refine ⟨fun ha => ?_, announced_step h⟩
  cases op with
  | registerWindow w => trivial
  | unregisterWindow w => exact opOk_unregisterWindow h ha
  | setAppId w appId cmdline => exact opOk_setAppId h ha

end

/-! ## Runs -/

/-- **The registry announces every application exactly when it comes into use
and when it goes out of use, in the runs whose calls all meet `OpOk` and in no
others.** -/
theorem registry_announced_iff (windows : WindowId → ClientWindow)
    (appIdMap : String → Option String) (ops : List Op) :
    Run.Along (fun m op => some (step m op)) (fun m _ m' => Announced m m')
        (init windows appIdMap) ops ↔
      Run.Meets (fun m op => some (step m op)) OpOk (init windows appIdMap) ops := by
  apply Run.along_iff_meets (I := Inv) _ _ _ ops _ (inv_init windows appIdMap)
  · intro m op h hok
    exact ⟨_, rfl, announced_step h hok⟩
  · rintro m op m' h ⟨⟩ ha
    exact h.of_announced (windows_nodup_step h.windows_nodup op) ha
  · rintro m op m' h ⟨⟩ ha
    exact (announced_step_iff h op).1 ha

/-- Two windows of one application; the second one moves on to another: the
application is announced as removed while its first window is still open. -/
theorem registry_not_announced :
    ¬ Run.Along (fun m op => some (step m op)) (fun m _ m' => Announced m m')
        (init (fun _ => ⟨"", "", 0⟩) defaultAppIdMap)
        [.registerWindow 0, .registerWindow 1, .setAppId 0 "editor" none,
          .setAppId 1 "editor" none, .setAppId 1 "viewer" none] := by
  rintro ⟨_, ⟨⟩, -, _, ⟨⟩, -, _, ⟨⟩, -, _, ⟨⟩, -, _, ⟨⟩, ha, -⟩
  exact absurd (ha.registry.mem_iff "editor") (by decide)

end ApplicationManager

end GreenIsland.Server

import GreenIsland.Lib.Changes
import GreenIsland.XWayland.Manager

/-! Pairing of X windows with Wayland surfaces.

The id of the Wayland surface of an X window is told to the window manager over the
connection to the X server, and the surface is created over the one to the Wayland
client; either may come first.  `Want` says what is meant to become of a shell
surface: the id it waits for and the surface it is attached to, from the messages
and the surfaces alone.

Shell surfaces are attached as they want, announce that and nothing else, and wait
on the list only while they are there and have no surface (`Paired`) along exactly
those runs in which every step meets `OpOk` (`paired_iff`): a message that reaches
a shell surface without a surface comes when its surface exists, a message that is
ignored names no surface or the one that is attached, and no surface is created
whose id was named in such a message.  A message that comes first is answered with
the announcement of a null surface. -/

namespace GreenIsland.XWayland

open XWaylandManager

/-! ## Model -/

/-- What is meant to become of a shell surface. -/
structure Want where
  /-- the id that was announced last, until there is a surface with it -/
  asked : Option UInt32
  attached : Option Nat
  /-- the changes of `attached` -/
  changes : List (Option Nat)

namespace Want

/-- `attached` becomes `value`. -/
def record (w : Want) (value : Option Nat) : Want :=
  if w.attached = value then w else { w with attached := value, changes := w.changes ++ [value] }

def attach (w : Want) (surface : Nat) : Want := { w.record (some surface) with asked := none }

/-- The surface is destroyed. -/
def detach (w : Want) (surface : Nat) : Want :=
  if w.attached = some surface then w.record none else w

/-- A message names the id; `surface` is the surface that has it. -/
def ask (w : Want) (id : UInt32) (surface : Option Nat) : Want :=
  match surface with
  | some surface => w.attach surface
  | none => { w with asked := some id }

/-- The window is gone. -/
def cancel (w : Want) : Want := { w with asked := none }

end Want

/-- The window manager and what its shell surfaces want. -/
structure Pairing where
  session : Session
  wants : Nat → Want

namespace Pairing

def init (resourceIdMask resourceIdBase : UInt32) : Pairing :=
  ⟨Session.init resourceIdMask resourceIdBase, fun _ => ⟨none, none, []⟩⟩

def wantsAfter (t : Pairing) : Op → Nat → Want
  | .createNotify window =>
    if t.session.manager.isOurResource window then t.wants
    else Function.update t.wants t.session.manager.made ⟨none, none, []⟩
  | .destroyNotify window =>
    match t.session.windows window with
    | some n => Function.update t.wants n (t.wants n).cancel
    | none => t.wants
  | .clientMessage window id =>
    match t.session.windows window with
    | some n => Function.update t.wants n ((t.wants n).ask id (t.session.manager.resources id))
    | none => t.wants
  | .surfaceCreated id foreign =>
    if foreign then t.wants
    else fun n =>
      if (t.wants n).asked = some id then (t.wants n).attach t.session.manager.created else t.wants n
  | .surfaceDestroyed id =>
    match t.session.manager.resources id with
    | some surface => fun n => (t.wants n).detach surface
    | none => t.wants
  | _ => t.wants

def step (t : Pairing) (op : Op) : Option Pairing :=
  (t.session.step op).map fun session =>
    ⟨session, if t.session.manager.Deliverable op then t.wantsAfter op else t.wants⟩

/-! ## What is to be kept -/

/-- The surface of shell surface `n`. -/
def surface (t : Pairing) (n : Nat) : Option Nat := (t.session.manager.shellSurfaces n).surface

/-- What shell surface `n` announced. -/
def changes (t : Pairing) (n : Nat) : List (Option Nat) := (t.session.manager.shellSurfaces n).changes

def Alive (t : Pairing) (n : Nat) : Prop := t.session.manager.Alive n

instance (t : Pairing) (n : Nat) : Decidable (t.Alive n) :=
  inferInstanceAs (Decidable (t.session.manager.Alive n))

structure Paired (t : Pairing) : Prop where
  attached : ∀ n, t.Alive n → t.surface n = (t.wants n).attached
  announced : ∀ n, t.Alive n → t.changes n = (t.wants n).changes
  /-- what was announced are the changes of the surface, which is null at first -/
  recorded : ∀ n, t.Alive n → Changes.Recorded none (t.changes n) (t.surface n)
  unpaired_nodup : t.session.manager.unpairedWindows.Nodup
  unpaired : ∀ n ∈ t.session.manager.unpairedWindows, t.Alive n ∧ t.surface n = none

/-- The events after which that is so. -/
def EventOk (t : Pairing) : Op → Prop
  | .clientMessage window id => ∀ n, t.session.windows window = some n →
      if t.session.manager.windowsMap window ≠ none ∧ t.surface n = none then
        t.session.manager.resources id ≠ none
      else t.session.manager.resources id = none ∨ t.session.manager.resources id = t.surface n
  | .surfaceCreated id foreign => foreign = false → ∀ n, t.Alive n → (t.wants n).asked ≠ some id
  | _ => True

/-- **When a step keeps the pairing.** -/
def OpOk (t : Pairing) (op : Op) : Prop := t.session.manager.Deliverable op → t.EventOk op

/-! ## The invariant -/

structure Inv (t : Pairing) : Prop where
  base : t.session.Base
  attached : ∀ n, t.Alive n → t.surface n = (t.wants n).attached
  announced : ∀ n, t.Alive n → t.changes n = (t.wants n).changes
  recorded : ∀ n, Changes.Recorded none (t.wants n).changes (t.wants n).attached
  unpaired : t.session.manager.unpairedWindows = []
  created : ∀ n, t.Alive n → ∀ surface, t.surface n = some surface → surface < t.session.manager.created
  resources : ∀ id surface, t.session.manager.resources id = some surface →
    surface < t.session.manager.created

theorem Inv.paired {t : Pairing} (h : Inv t) : Paired t where
  attached := h.attached
  announced := h.announced
  recorded n hn := by
    rw [h.announced n hn, h.attached n hn]
    exact h.recorded n
  unpaired_nodup := by
    rw [h.unpaired]
    exact List.nodup_nil
  unpaired n hn := by
    rw [h.unpaired] at hn
    cases hn

/-- **No null surface first.** -/
theorem Paired.head_ne_none {t : Pairing} (h : Paired t) {n : Nat} (hn : t.Alive n)
    {value : Option Nat} {rest : List (Option Nat)} (hchanges : t.changes n = value :: rest) :
    value ≠ none := by
  have hrecorded := h.recorded n hn
  rw [hchanges] at hrecorded
  exact hrecorded.head_ne

theorem inv_init (resourceIdMask resourceIdBase : UInt32) :
    Inv (init resourceIdMask resourceIdBase) where
  base := Session.base_init _ _
  attached _ _ := rfl
  announced _ _ := rfl
  recorded _ := Changes.recorded_nil none
  unpaired := rfl
  created _ _ _ h := by cases h
  resources _ _ h := by cases h

/-! ## What is wanted -/

section
variable {w : Want}

theorem recorded_record (h : Changes.Recorded none w.changes w.attached) (value : Option Nat) :
    Changes.Recorded none (w.record value).changes (w.record value).attached := by
  unfold Want.record
  split
  · exact h
  · next hne => exact h.append hne

theorem recorded_detach (h : Changes.Recorded none w.changes w.attached) (surface : Nat) :
    Changes.Recorded none (w.detach surface).changes (w.detach surface).attached := by
  unfold Want.detach
  split
  · exact recorded_record h none
  · exact h

theorem recorded_ask (h : Changes.Recorded none w.changes w.attached) (id : UInt32)
    (surface : Option Nat) :
    Changes.Recorded none (w.ask id surface).changes (w.ask id surface).attached := by
  unfold Want.ask
  split
  · exact recorded_record h _
  · exact h

theorem attach_attached (surface : Nat) : (w.attach surface).attached = some surface := by
  unfold Want.attach Want.record
  split
  · next h => exact h
  · rfl

theorem attach_changes_of_eq {surface : Nat} (h : w.attached = some surface) :
    (w.attach surface).changes = w.changes := by
  unfold Want.attach Want.record
  rw [if_pos h]

theorem attach_changes_of_ne {surface : Nat} (h : w.attached ≠ some surface) :
    (w.attach surface).changes = w.changes ++ [some surface] := by
  unfold Want.attach Want.record
  rw [if_neg h]

end

/-! ## A message -/

section
variable {s : XWaylandManager} {n m : Nat} {id : UInt32}

theorem handleSurfaceId_of_ne_none (h : (s.shellSurfaces n).surface ≠ none) :
    s.handleSurfaceId n id = s := if_pos h

/-- The two calls that pair a shell surface, where it has no surface. -/
theorem setSurface_of_none (h : (s.shellSurfaces n).surface = none) (id : UInt32) (value : Option Nat) :
    (setSurface (setSurfaceId (s.shellSurfaces n) id) value).surface = value ∧
      (setSurface (setSurfaceId (s.shellSurfaces n) id) value).changes =
        (s.shellSurfaces n).changes ++ [value] := by
  obtain ⟨hnone, hchanges⟩ : (setSurfaceId (s.shellSurfaces n) id).surface = none ∧
      (setSurfaceId (s.shellSurfaces n) id).changes = (s.shellSurfaces n).changes := by
    unfold setSurfaceId
    split <;> exact ⟨h, rfl⟩
  unfold setSurface
  rw [if_neg (not_not.2 hnone), hchanges]
  exact ⟨rfl, rfl⟩

/-- A shell surface after its message. -/
def answered (s : XWaylandManager) (n : Nat) (id : UInt32) : XWaylandManager :=
  (s.setShellSurface n fun shellSurface => setSurfaceId shellSurface id).setShellSurface n
    fun shellSurface => setSurface shellSurface (s.resources id)

theorem answered_self (s : XWaylandManager) (n : Nat) (id : UInt32) :
    (answered s n id).shellSurfaces n =
      setSurface (setSurfaceId (s.shellSurfaces n) id) (s.resources id) := by
  unfold answered
  rw [setShellSurface_self, setShellSurface_self]

theorem answered_of_ne (s : XWaylandManager) (id : UInt32) (h : m ≠ n) :
    (answered s n id).shellSurfaces m = s.shellSurfaces m := by
  unfold answered
  rw [setShellSurface_of_ne _ h, setShellSurface_of_ne _ h]

theorem handleSurfaceId_of_none (h : (s.shellSurfaces n).surface = none) :
    s.handleSurfaceId n id =
      if s.resources id = none then
        { answered s n id with unpairedWindows := s.unpairedWindows ++ [n] }
      else answered s n id := by
  have hset : ∀ f : ShellSurface → ShellSurface,
      (s.setShellSurface n f).resources id = s.resources id := fun _ => rfl
  unfold handleSurfaceId answered
  rw [if_neg (not_not.2 h)]
  dsimp only
  rw [hset]
  cases s.resources id <;> rfl

end

/-! ## Steps -/

section
variable {t t' : Pairing} {op : Op}

theorem step_of_deliverable {manager : XWaylandManager} (hdeliverable : t.session.manager.Deliverable op)
    (hmanager : t.session.manager.handle op = some manager) :
    t.step op = some ⟨⟨manager, t.session.windowsAfter op⟩, t.wantsAfter op⟩ := by
  unfold step
  rw [Session.step_of_deliverable hdeliverable hmanager, Option.map_some, if_pos hdeliverable]

theorem step_of_not_deliverable (hnot : ¬ t.session.manager.Deliverable op) : t.step op = some t := by
  have hsession : t.session.step op = some t.session := if_neg hnot
  unfold step
  rw [hsession, Option.map_some, if_neg hnot]

theorem decides_of_inv (hstep : t.step op = some t') (hok : t.OpOk op) (h : Inv t') :
    Run.Decides step (fun _ _ t' => Paired t') OpOk Inv t op :=
  Run.decides_good hstep h.paired hok h

/-- An event that is handled and meets its condition keeps the invariant if what it leaves does. -/
theorem Inv.decides_handle (h : Inv t) {manager : XWaylandManager}
    (hdeliverable : t.session.manager.Deliverable op)
    (hmanager : t.session.manager.handle op = some manager) (hok : t.EventOk op)
    (hinv : Session.Base ⟨manager, t.session.windowsAfter op⟩ →
      Inv ⟨⟨manager, t.session.windowsAfter op⟩, t.wantsAfter op⟩) :
    Run.Decides step (fun _ _ t' => Paired t') OpOk Inv t op :=
  decides_of_inv (step_of_deliverable hdeliverable hmanager) (fun _ => hok)
    (hinv (h.base.step (Session.step_of_deliverable hdeliverable hmanager)))

/-- Nothing about the pairing of what is there changes. -/
theorem Inv.keep (h : Inv t) (hbase : t'.session.Base)
    (hsame : ∀ n, t'.Alive n → t.Alive n ∧ t'.surface n = t.surface n ∧ t'.changes n = t.changes n)
    (hwants : ∀ n, (t'.wants n).attached = (t.wants n).attached ∧
      (t'.wants n).changes = (t.wants n).changes)
    (hunpaired : t'.session.manager.unpairedWindows = t.session.manager.unpairedWindows)
    (hcreated : t'.session.manager.created = t.session.manager.created)
    (hresources : t'.session.manager.resources = t.session.manager.resources) : Inv t' where
  base := hbase
  attached n hn := by
    obtain ⟨halive, hsurface, -⟩ := hsame n hn
    rw [hsurface, (hwants n).1]
    exact h.attached n halive
  announced n hn := by
    obtain ⟨halive, -, hchanges⟩ := hsame n hn
    rw [hchanges, (hwants n).2]
    exact h.announced n halive
  recorded n := by
    rw [(hwants n).1, (hwants n).2]
    exact h.recorded n
  unpaired := hunpaired.trans h.unpaired
  created n hn surface hsurface := by
    obtain ⟨halive, hkept, -⟩ := hsame n hn
    rw [hcreated]
    exact h.created n halive surface (hkept.symm.trans hsurface)
  resources id surface hsurface := by
    rw [hresources] at hsurface
    rw [hcreated]
    exact h.resources id surface hsurface

/-- The pairing of one shell surface changes, or begins. -/
theorem Inv.setOne (h : Inv t) {session : Session} {n : Nat} {want : Want} (hbase : session.Base)
    (hsame : ∀ m, m ≠ n → session.manager.Alive m →
      t.Alive m ∧ session.manager.shellSurfaces m = t.session.manager.shellSurfaces m)
    (hattached : (session.manager.shellSurfaces n).surface = want.attached)
    (hannounced : (session.manager.shellSurfaces n).changes = want.changes)
    (hrecorded : Changes.Recorded none want.changes want.attached)
    (hbound : ∀ surface, want.attached = some surface → surface < t.session.manager.created)
    (hunpaired : session.manager.unpairedWindows = t.session.manager.unpairedWindows)
    (hcreated : session.manager.created = t.session.manager.created)
    (hresources : session.manager.resources = t.session.manager.resources) :
    Inv ⟨session, Function.update t.wants n want⟩ := by
  have hself : Function.update t.wants n want n = want := Function.update_self ..
  have hother : ∀ m, m ≠ n → Function.update t.wants n want m = t.wants m := fun m hm =>
    Function.update_of_ne hm ..
  refine ⟨hbase, fun m hm => ?_, fun m hm => ?_, fun m => ?_, hunpaired.trans h.unpaired,
    fun m hm surface hsurface => ?_, fun id surface hsurface => ?_⟩
  · show (session.manager.shellSurfaces m).surface = (Function.update t.wants n want m).attached
    by_cases hmn : m = n
    · rw [hmn, hself, hattached]
    · obtain ⟨halive, hshell⟩ := hsame m hmn hm
      rw [hother m hmn, hshell]
      exact h.attached m halive
  · show (session.manager.shellSurfaces m).changes = (Function.update t.wants n want m).changes
    by_cases hmn : m = n
    · rw [hmn, hself, hannounced]
    · obtain ⟨halive, hshell⟩ := hsame m hmn hm
      rw [hother m hmn, hshell]
      exact h.announced m halive
  · show Changes.Recorded none (Function.update t.wants n want m).changes
      (Function.update t.wants n want m).attached
    by_cases hmn : m = n
    · rw [hmn, hself]
      exact hrecorded
    · rw [hother m hmn]
      exact h.recorded m
  · replace hsurface : (session.manager.shellSurfaces m).surface = some surface := hsurface
    show surface < session.manager.created
    rw [hcreated]
    by_cases hmn : m = n
    · rw [hmn, hattached] at hsurface
      exact hbound surface hsurface
    · obtain ⟨halive, hshell⟩ := hsame m hmn hm
      rw [hshell] at hsurface
      exact h.created m halive surface hsurface
  · replace hsurface : session.manager.resources id = some surface := hsurface
    rw [hresources] at hsurface
    show surface < session.manager.created
    rw [hcreated]
    exact h.resources id surface hsurface

/-- Wants of which one only changes what it asks for. -/
theorem update_asked (wants : Nat → Want) {n : Nat} {w : Want}
    (hattached : w.attached = (wants n).attached) (hchanges : w.changes = (wants n).changes) (m : Nat) :
    (Function.update wants n w m).attached = (wants m).attached ∧
      (Function.update wants n w m).changes = (wants m).changes := by
  by_cases hm : m = n
  · subst hm
    rw [Function.update_self]
    exact ⟨hattached, hchanges⟩
  · rw [Function.update_of_ne hm]
    exact ⟨rfl, rfl⟩

/-! ### Events of X -/

theorem Inv.decides_create (h : Inv t) (window : UInt32) :
    Run.Decides step (fun _ _ t' => Paired t') OpOk Inv t (.createNotify window) := by
  have hmanager : t.session.manager.handle (.createNotify window) =
      some (t.session.manager.handleCreateNotify window) := rfl
  refine h.decides_handle trivial hmanager trivial fun hbase => ?_
  cases hours : t.session.manager.isOurResource window with
  | true =>
    obtain ⟨hsame, -⟩ := Session.createNotify_ours hours
    have hwants : t.wantsAfter (.createNotify window) = t.wants := if_pos hours
    rw [hsame] at hbase
    rw [hsame, hwants]
    exact h.keep hbase (fun n hn => ⟨hn, rfl, rfl⟩) (fun n => ⟨rfl, rfl⟩) rfl rfl rfl
  | false =>
    have hwants : t.wantsAfter (.createNotify window) =
        Function.update t.wants t.session.manager.made ⟨none, none, []⟩ := if_neg (by simp [hours])
    rw [handleCreateNotify_eq hours] at hbase ⊢
    rw [hwants]
    have hnew : Function.update t.session.manager.shellSurfaces t.session.manager.made
        (newShellSurface window) t.session.manager.made = newShellSurface window :=
      Function.update_self ..
    refine h.setOne hbase (fun m hne halive => ?_) ?_ ?_ (Changes.recorded_nil none) (fun _ => nofun)
      rfl rfl rfl
    · have hshell : Function.update t.session.manager.shellSurfaces t.session.manager.made
          (newShellSurface window) m = t.session.manager.shellSurfaces m := Function.update_of_ne hne ..
      obtain ⟨hlt, hthere⟩ := halive
      have hlt : m < t.session.manager.made + 1 := hlt
      exact ⟨⟨by omega, (congrArg ShellSurface.destroyed hshell).symm.trans hthere⟩, hshell⟩
    · exact congrArg ShellSurface.surface hnew
    · exact congrArg ShellSurface.changes hnew

theorem Inv.decides_destroyNotify (h : Inv t) (window : UInt32) :
    Run.Decides step (fun _ _ t' => Paired t') OpOk Inv t (.destroyNotify window) := by
  have hwants : ∀ n, (t.wantsAfter (.destroyNotify window) n).attached = (t.wants n).attached ∧
      (t.wantsAfter (.destroyNotify window) n).changes = (t.wants n).changes := by
    intro n
    cases hn : t.session.windows window with
    | none =>
      have hafter : t.wantsAfter (.destroyNotify window) = t.wants := by simp only [wantsAfter, hn]
      rw [hafter]
      exact ⟨rfl, rfl⟩
    | some m =>
      have hafter : t.wantsAfter (.destroyNotify window) =
          Function.update t.wants m (t.wants m).cancel := by simp only [wantsAfter, hn]
      rw [hafter]
      exact update_asked t.wants (w := (t.wants m).cancel) rfl rfl n
  have key : ∀ manager, t.session.manager.handle (.destroyNotify window) = some manager →
      (∀ n, (manager.shellSurfaces n).surface = t.surface n ∧
        (manager.shellSurfaces n).changes = t.changes n ∧
        (manager.shellSurfaces n).destroyed = (t.session.manager.shellSurfaces n).destroyed) →
      manager.made = t.session.manager.made →
      manager.unpairedWindows = t.session.manager.unpairedWindows →
      manager.created = t.session.manager.created → manager.resources = t.session.manager.resources →
      Run.Decides step (fun _ _ t' => Paired t') OpOk Inv t (.destroyNotify window) := by
    intro manager hmanager hobjects hmade hunpaired hcreated hresources
    refine h.decides_handle trivial hmanager trivial fun hbase => ?_
    refine h.keep hbase (fun n hn => ?_) hwants hunpaired hcreated hresources
    obtain ⟨hsurface, hchanges, hdestroyed⟩ := hobjects n
    obtain ⟨hlt, hthere⟩ := hn
    exact ⟨⟨hmade ▸ hlt, hdestroyed.symm.trans hthere⟩, hsurface, hchanges⟩
  cases hours : t.session.manager.isOurResource window with
  | true => exact key _ (if_pos hours) (fun n => ⟨rfl, rfl, rfl⟩) rfl rfl rfl rfl
  | false =>
    rcases h.base.handleDestroyNotify_eq hours with ⟨-, hsame⟩ | ⟨n, -, -, htaken⟩
    · exact key _ hsame (fun n => ⟨rfl, rfl, rfl⟩) rfl rfl rfl rfl
    · refine key _ htaken (fun m => ?_) rfl rfl rfl rfl
      let marked := t.session.manager.setShellSurface n fun shellSurface =>
        { shellSurface with deleteLater := true }
      show (marked.shellSurfaces m).surface = t.surface m ∧
        (marked.shellSurfaces m).changes = t.changes m ∧
        (marked.shellSurfaces m).destroyed = (t.session.manager.shellSurfaces m).destroyed
      by_cases hm : m = n
      · subst hm
        rw [show marked.shellSurfaces m = _ from setShellSurface_self _]
        exact ⟨rfl, rfl, rfl⟩
      · rw [show marked.shellSurfaces m = _ from setShellSurface_of_ne _ hm]
        exact ⟨rfl, rfl, rfl⟩

theorem Inv.decides_deleted (h : Inv t) (n : Nat) :
    Run.Decides step (fun _ _ t' => Paired t') OpOk Inv t (.deleted n) := by
  by_cases hdeliverable : t.session.manager.Deliverable (.deleted n)
  · refine h.decides_handle hdeliverable rfl trivial fun hbase => ?_
    refine h.keep hbase (fun m hm => ?_) (fun m => ⟨rfl, rfl⟩) rfl rfl rfl
    obtain ⟨hlt, hthere⟩ := hm
    have hne : m ≠ n := by
      rintro rfl
      rw [show _ = true from destroy_destroyed t.session.manager m] at hthere
      cases hthere
    have hother : (t.session.manager.destroy n).shellSurfaces m = t.session.manager.shellSurfaces m :=
      destroy_of_ne hne
    refine ⟨⟨hlt, ?_⟩, congrArg ShellSurface.surface hother, congrArg ShellSurface.changes hother⟩
    exact (congrArg ShellSurface.destroyed hother).symm.trans hthere
  · exact decides_of_inv (step_of_not_deliverable hdeliverable) (fun hd => absurd hd hdeliverable) h

/-! ### Messages -/

theorem wantsAfter_clientMessage {window id : UInt32} {n : Nat}
    (hn : t.session.windows window = some n) :
    t.wantsAfter (.clientMessage window id) =
      Function.update t.wants n ((t.wants n).ask id (t.session.manager.resources id)) := by
  simp only [wantsAfter, hn]

theorem opOk_clientMessage_iff {window : UInt32} (id : UInt32) {n : Nat}
    (hn : t.session.windows window = some n) :
    t.OpOk (.clientMessage window id) ↔
      if t.session.manager.windowsMap window ≠ none ∧ t.surface n = none then
        t.session.manager.resources id ≠ none
      else t.session.manager.resources id = none ∨ t.session.manager.resources id = t.surface n := by
  refine (forall_prop_of_true trivial).trans ⟨fun hok => hok n hn, fun hok m hm => ?_⟩
  obtain rfl := Option.some.inj (hm.symm.trans hn)
  exact hok

/-- A message that is ignored. -/
theorem Inv.decides_ignored (h : Inv t) {window id : UInt32} {n : Nat}
    (hn : t.session.windows window = some n)
    (hsame : t.session.manager.handle (.clientMessage window id) = some t.session.manager)
    (hignored : ¬ (t.session.manager.windowsMap window ≠ none ∧ t.surface n = none)) :
    Run.Decides step (fun _ _ t' => Paired t') OpOk Inv t (.clientMessage window id) := by
  have halive : t.Alive n := (h.base.windows window n hn).1
  have hsurface := h.attached n halive
  have hiff := opOk_clientMessage_iff id hn
  rw [if_neg hignored] at hiff
  have hdeliverable : t.session.manager.Deliverable (.clientMessage window id) := trivial
  have hstep := step_of_deliverable hdeliverable hsame
  have hbase := h.base.step (Session.step_of_deliverable hdeliverable hsame)
  rw [wantsAfter_clientMessage hn] at hstep
  cases hresource : t.session.manager.resources id with
  | none =>
    rw [hresource] at hstep hiff
    refine decides_of_inv hstep (hiff.2 (Or.inl rfl)) ?_
    exact h.keep hbase (fun m hm => ⟨hm, rfl, rfl⟩) (update_asked t.wants rfl rfl) rfl rfl rfl
  | some surface =>
    rw [hresource] at hstep hiff
    by_cases hpaired : t.surface n = some surface
    · have hattached : (t.wants n).attached = some surface := hsurface.symm.trans hpaired
      refine decides_of_inv hstep (hiff.2 (Or.inr hpaired.symm)) ?_
      refine h.keep hbase (fun m hm => ⟨hm, rfl, rfl⟩) (update_asked t.wants ?_ ?_) rfl rfl rfl
      · exact (attach_attached surface).trans hattached.symm
      · exact attach_changes_of_eq hattached
    · refine Run.decides_bad hstep (fun hkept => hpaired ?_) fun hok => ?_
      · have hnew := hkept.attached n halive
        dsimp only at hnew
        rw [Function.update_self] at hnew
        exact hnew.trans (attach_attached surface)
      · rcases hiff.1 hok with hnone | hsome
        · cases hnone
        · exact hpaired hsome.symm

/-- A message that reaches a shell surface without a surface. -/
theorem Inv.decides_taken (h : Inv t) {window id : UInt32} {n : Nat}
    (hn : t.session.windows window = some n)
    (hhandled : t.session.manager.handle (.clientMessage window id) =
      some (t.session.manager.handleSurfaceId n id))
    (hmap : t.session.manager.windowsMap window ≠ none) (hnone : t.surface n = none) :
    Run.Decides step (fun _ _ t' => Paired t') OpOk Inv t (.clientMessage window id) := by
  have halive : t.Alive n := (h.base.windows window n hn).1
  have hunattached : (t.wants n).attached = none := (h.attached n halive).symm.trans hnone
  have hiff := opOk_clientMessage_iff id hn
  rw [if_pos ⟨hmap, hnone⟩] at hiff
  have hdeliverable : t.session.manager.Deliverable (.clientMessage window id) := trivial
  have hstep := step_of_deliverable hdeliverable hhandled
  have hbase := h.base.step (Session.step_of_deliverable hdeliverable hhandled)
  rw [wantsAfter_clientMessage hn] at hstep
  have hframe := frame_handleSurfaceId t.session.manager n id
  obtain ⟨hset, hchanged⟩ := setSurface_of_none hnone id (t.session.manager.resources id)
  cases hresource : t.session.manager.resources id with
  | none =>
    refine Run.decides_bad hstep (fun hkept => ?_) fun hok => hiff.1 hok hresource
    have hannounced := hkept.announced n (hframe.alive_iff.2 halive)
    dsimp only [changes] at hannounced
    rw [handleSurfaceId_of_none hnone, if_pos hresource, Function.update_self] at hannounced
    dsimp only at hannounced
    rw [answered_self, hchanged, hresource] at hannounced
    have hbefore : (t.session.manager.shellSurfaces n).changes = (t.wants n).changes :=
      h.announced n halive
    rw [hbefore] at hannounced
    simp [Want.ask] at hannounced
  | some surface =>
    refine decides_of_inv hstep (hiff.2 (by simp [hresource])) ?_
    have hnotnone : ¬ t.session.manager.resources id = none := by simp [hresource]
    rw [handleSurfaceId_of_none hnone, if_neg hnotnone] at hbase hframe ⊢
    rw [hresource] at hset hchanged ⊢
    have hself : (answered t.session.manager n id).shellSurfaces n =
        setSurface (setSurfaceId (t.session.manager.shellSurfaces n) id) (some surface) := by
      rw [answered_self, hresource]
    refine h.setOne hbase (fun m hne hm => ⟨hframe.alive_iff.1 hm, answered_of_ne _ _ hne⟩) ?_ ?_
      (recorded_ask (h.recorded n) id (some surface)) (fun surface' hsurface' => ?_) rfl rfl rfl
    · show ((answered t.session.manager n id).shellSurfaces n).surface =
        ((t.wants n).attach surface).attached
      rw [hself, hset, attach_attached]
    · show ((answered t.session.manager n id).shellSurfaces n).changes =
        ((t.wants n).attach surface).changes
      have hne : (t.wants n).attached ≠ some surface := by simp [hunattached]
      rw [hself, hchanged, attach_changes_of_ne hne, ← h.announced n halive]
      rfl
    · replace hsurface' : ((t.wants n).attach surface).attached = some surface' := hsurface'
      rw [attach_attached] at hsurface'
      obtain rfl := Option.some.inj hsurface'
      exact h.resources id surface hresource

theorem Inv.decides_clientMessage (h : Inv t) (window id : UInt32) :
    Run.Decides step (fun _ _ t' => Paired t') OpOk Inv t (.clientMessage window id) := by
  rcases h.base.handleClientMessage_eq window id with ⟨hnone, hsame⟩ | ⟨n, hmap, hn, hhandled⟩
  · cases hn : t.session.windows window with
    | none =>
      have hwants : t.wantsAfter (.clientMessage window id) = t.wants := by simp only [wantsAfter, hn]
      have hdeliverable : t.session.manager.Deliverable (.clientMessage window id) := trivial
      have hstep := step_of_deliverable hdeliverable hsame
      rw [hwants] at hstep
      refine decides_of_inv hstep (fun _ n hn' => ?_) h
      rw [hn] at hn'
      cases hn'
    | some n => exact h.decides_ignored hn hsame fun hmapped => hmapped.1 hnone
  · by_cases hsurface : t.surface n = none
    · exact h.decides_taken hn hhandled (by simp [hmap]) hsurface
    · refine h.decides_ignored hn (hhandled.trans ?_) fun htaken => hsurface htaken.2
      rw [handleSurfaceId_of_ne_none hsurface]

/-! ### Surfaces -/

/-- Resources that are created before `k`, when one of them changes. -/
theorem resources_update {resources : UInt32 → Option Nat} {k : Nat} {id : UInt32}
    {value : Option Nat} (h : ∀ id surface, resources id = some surface → surface < k)
    (hvalue : ∀ surface, value = some surface → surface < k) :
    ∀ id' surface, Function.update resources id value id' = some surface → surface < k := by
  intro id' surface hsurface
  by_cases hid : id' = id
  · rw [hid, Function.update_self] at hsurface
    exact hvalue surface hsurface
  · rw [Function.update_of_ne hid] at hsurface
    exact h id' surface hsurface

/-- What exists was created before the next surface. -/
theorem Inv.created_lt (h : Inv t) {n : Nat} (hn : t.Alive n) {surface : Nat}
    (hsurface : t.surface n = some surface) : surface < t.session.manager.created + 1 :=
  Nat.lt_succ_of_lt (h.created n hn surface hsurface)

theorem Inv.resources_lt (h : Inv t) (id : UInt32) (surface : Nat)
    (hsurface : t.session.manager.resources id = some surface) :
    surface < t.session.manager.created + 1 :=
  Nat.lt_succ_of_lt (h.resources id surface hsurface)

/-- A surface of another client. -/
theorem Inv.decides_foreign (h : Inv t) {id : UInt32}
    (hdeliverable : t.session.manager.Deliverable (.surfaceCreated id true)) :
    Run.Decides step (fun _ _ t' => Paired t') OpOk Inv t (.surfaceCreated id true) := by
  let manager : XWaylandManager := { t.session.manager with created := t.session.manager.created + 1 }
  have hmanager : t.session.manager.handle (.surfaceCreated id true) = some manager := rfl
  refine h.decides_handle hdeliverable hmanager (by rintro ⟨⟩) fun hbase => ?_
  exact ⟨hbase, h.attached, h.announced, h.recorded, h.unpaired,
    fun n hn _ hsurface => h.created_lt hn hsurface, h.resources_lt⟩

/-- The wants when the surface with the id is created. -/
theorem recorded_created (h : Inv t) (id : UInt32) (surface n : Nat) :
    Changes.Recorded none
      (if (t.wants n).asked = some id then (t.wants n).attach surface else t.wants n).changes
      (if (t.wants n).asked = some id then (t.wants n).attach surface else t.wants n).attached := by
  split
  · exact recorded_record (h.recorded n) _
  · exact h.recorded n

theorem Inv.decides_named (h : Inv t) {id : UInt32}
    (hdeliverable : t.session.manager.Deliverable (.surfaceCreated id false)) :
    Run.Decides step (fun _ _ t' => Paired t') OpOk Inv t (.surfaceCreated id false) := by
  let manager : XWaylandManager := { t.session.manager with
    created := t.session.manager.created + 1
    resources := Function.update t.session.manager.resources id (some t.session.manager.created) }
  let wants : Nat → Want := fun n =>
    if (t.wants n).asked = some id then (t.wants n).attach t.session.manager.created else t.wants n
  -- nobody is on the list
  have hmanager : t.session.manager.handle (.surfaceCreated id false) = some manager := by
    show manager.pair _ id t.session.manager.unpairedWindows = some manager
    rw [h.unpaired]
    rfl
  have hstep : t.step (.surfaceCreated id false) =
      some ⟨⟨manager, t.session.windows⟩, wants⟩ := step_of_deliverable hdeliverable hmanager
  have hbase := h.base.step (Session.step_of_deliverable hdeliverable hmanager)
  by_cases hasked : ∃ n, t.Alive n ∧ (t.wants n).asked = some id
  · obtain ⟨n, halive, hn⟩ := hasked
    refine Run.decides_bad hstep (fun hkept => ?_) fun hok => hok hdeliverable rfl n halive hn
    have hattached : t.surface n = (wants n).attached := hkept.attached n halive
    rw [show wants n = (t.wants n).attach _ from if_pos hn, attach_attached] at hattached
    exact Nat.lt_irrefl _ (h.created n halive _ hattached)
  · have hsame : ∀ n, t.Alive n → wants n = t.wants n := fun n hn =>
      if_neg fun hid => hasked ⟨n, hn, hid⟩
    refine decides_of_inv hstep (fun _ _ n hn hid => hasked ⟨n, hn, hid⟩) ?_
    refine ⟨hbase, fun n hn => ?_, fun n hn => ?_, recorded_created h id _, h.unpaired,
      fun n hn _ hsurface => h.created_lt hn hsurface, ?_⟩
    · exact (h.attached n hn).trans (congrArg Want.attached (hsame n hn).symm)
    · exact (h.announced n hn).trans (congrArg Want.changes (hsame n hn).symm)
    · refine resources_update h.resources_lt ?_
      rintro _ ⟨⟩
      exact Nat.lt_succ_self _

theorem Inv.decides_surfaceCreated (h : Inv t) (id : UInt32) (foreign : Bool) :
    Run.Decides step (fun _ _ t' => Paired t') OpOk Inv t (.surfaceCreated id foreign) := by
  by_cases hdeliverable : t.session.manager.Deliverable (.surfaceCreated id foreign)
  · cases foreign with
    | true => exact h.decides_foreign hdeliverable
    | false => exact h.decides_named hdeliverable
  · exact decides_of_inv (step_of_not_deliverable hdeliverable) (fun hd => absurd hd hdeliverable) h

/-- A shell surface that is attached as it wants, when a surface is destroyed. -/
theorem detach_spec {shellSurface : ShellSurface} {w : Want}
    (hattached : shellSurface.surface = w.attached) (hannounced : shellSurface.changes = w.changes)
    (surface : Nat) :
    (if shellSurface.surface = some surface then handleSurfaceDestroyed shellSurface
      else shellSurface).surface = (w.detach surface).attached ∧
    (if shellSurface.surface = some surface then handleSurfaceDestroyed shellSurface
      else shellSurface).changes = (w.detach surface).changes := by
  unfold Want.detach Want.record
  by_cases hn : shellSurface.surface = some surface
  · have hw : w.attached = some surface := hattached.symm.trans hn
    have hne : w.attached ≠ none := by simp [hw]
    rw [if_pos hn, if_pos hw, if_neg hne]
    exact ⟨rfl, congrArg (· ++ [none]) hannounced⟩
  · have hw : w.attached ≠ some surface := fun hw => hn (hattached.trans hw)
    rw [if_neg hn, if_neg hw]
    exact ⟨hattached, hannounced⟩

/-- What is attached then was attached before. -/
theorem attached_of_detach {w : Want} {surface surface' : Nat}
    (h : (w.detach surface).attached = some surface') : w.attached = some surface' := by
  unfold Want.detach Want.record at h
  split at h
  · next hw =>
    rw [if_neg (by simp [hw])] at h
    cases h
  · exact h

theorem Inv.decides_surfaceDestroyed (h : Inv t) (id : UInt32) :
    Run.Decides step (fun _ _ t' => Paired t') OpOk Inv t (.surfaceDestroyed id) := by
  have hmanager : t.session.manager.handle (.surfaceDestroyed id) =
      some (t.session.manager.surfaceDestroyed id) := rfl
  refine h.decides_handle trivial hmanager trivial fun hbase => ?_
  have hframe := frame_surfaceDestroyed t.session.manager id
  cases hresource : t.session.manager.resources id with
  | none =>
    have hsame : t.session.manager.surfaceDestroyed id = t.session.manager := by
      simp only [surfaceDestroyed, hresource]
    have hwants : t.wantsAfter (.surfaceDestroyed id) = t.wants := by simp only [wantsAfter, hresource]
    rw [hsame] at hbase ⊢
    rw [hwants]
    exact h.keep hbase (fun n hn => ⟨hn, rfl, rfl⟩) (fun n => ⟨rfl, rfl⟩) rfl rfl rfl
  | some surface =>
    let shellSurfaces : Nat → ShellSurface := fun n =>
      if t.surface n = some surface ∧ t.session.manager.Alive n then
        handleSurfaceDestroyed (t.session.manager.shellSurfaces n)
      else t.session.manager.shellSurfaces n
    have hafter : t.session.manager.surfaceDestroyed id = { t.session.manager with
        resources := Function.update t.session.manager.resources id none
        shellSurfaces := shellSurfaces } := by
      simp only [surfaceDestroyed, hresource]
      rfl
    have hwants : t.wantsAfter (.surfaceDestroyed id) = fun n => (t.wants n).detach surface := by
      simp only [wantsAfter, hresource]
    rw [hafter] at hbase hframe ⊢
    rw [hwants]
    have key : ∀ n, t.Alive n →
        (shellSurfaces n).surface = ((t.wants n).detach surface).attached ∧
          (shellSurfaces n).changes = ((t.wants n).detach surface).changes := by
      intro n halive
      have hshell : shellSurfaces n = if t.surface n = some surface then
          handleSurfaceDestroyed (t.session.manager.shellSurfaces n)
        else t.session.manager.shellSurfaces n := if_congr (and_iff_left halive) rfl rfl
      rw [hshell]
      exact detach_spec (h.attached n halive) (h.announced n halive) surface
    refine ⟨hbase, fun n hn => (key n (hframe.alive_iff.1 hn)).1,
      fun n hn => (key n (hframe.alive_iff.1 hn)).2, fun n => recorded_detach (h.recorded n) surface,
      h.unpaired, fun n hn surface' hsurface' => ?_, resources_update h.resources nofun⟩
    have halive := hframe.alive_iff.1 hn
    have hattached := attached_of_detach ((key n halive).1.symm.trans hsurface')
    exact h.created n halive surface' ((h.attached n halive).trans hattached)

/-- **One step.** -/
theorem Inv.decides (h : Inv t) (op : Op) :
    Run.Decides step (fun _ _ t' => Paired t') OpOk Inv t op := by
  have hquiet : t.session.manager.Deliverable op →
      t.session.manager.handle op = some t.session.manager → t.EventOk op →
      t.session.windowsAfter op = t.session.windows → t.wantsAfter op = t.wants →
      Run.Decides step (fun _ _ t' => Paired t') OpOk Inv t op := by
    intro hdeliverable hmanager hok hwindows hwants
    have hstep := step_of_deliverable hdeliverable hmanager
    rw [hwindows, hwants] at hstep
    exact decides_of_inv hstep (fun _ => hok) h
  cases op with
  | createNotify window => exact h.decides_create window
  | destroyNotify window => exact h.decides_destroyNotify window
  | deleted n => exact h.decides_deleted n
  | mapRequest window => exact hquiet trivial (h.base.handleMapRequest_eq window) trivial rfl rfl
  | unmapNotify window => exact hquiet trivial rfl trivial rfl rfl
  | clientMessage window id => exact h.decides_clientMessage window id
  | surfaceCreated id foreign => exact h.decides_surfaceCreated id foreign
  | surfaceDestroyed id => exact h.decides_surfaceDestroyed id

end

/-! ## Results -/

/-- **Pairing over whole runs.** -/
theorem paired_iff (resourceIdMask resourceIdBase : UInt32) (ops : List Op) :
    Run.Always step Paired (init resourceIdMask resourceIdBase) ops ↔
      Run.Meets step OpOk (init resourceIdMask resourceIdBase) ops := by
  have hinit := inv_init resourceIdMask resourceIdBase
  exact Run.always_iff_of_decides (fun _ op h => Inv.decides h op) ops _ hinit.paired hinit

/-- The message comes before the surface: a null surface is announced. -/
theorem null_surface_announced :
    ¬ Run.Always step Paired (init 0x1fffff 0x200000)
      [.createNotify 0x600003, .clientMessage 0x600003 21, .surfaceCreated 21 false] := by
  rintro ⟨-, t₁, h₁, -, t₂, h₂, hpaired, -⟩
  obtain rfl := Option.some.inj h₁
  obtain rfl := Option.some.inj h₂
  exact absurd (hpaired.announced 0 (by decide)) (by decide)

end Pairing

end GreenIsland.XWayland

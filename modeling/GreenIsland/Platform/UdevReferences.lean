import Mathlib.Algebra.Order.Group.Multiset
import Mathlib.Tactic.Abel
import GreenIsland.Lib.Keyed
import GreenIsland.Lib.Ledger
import GreenIsland.Lib.Run
import GreenIsland.Platform.UdevEnumerate

/-! References to udev devices (`UdevDevice`, `UdevEnumerate`, `UdevMonitor`).

A `UdevDevice` holds a handle and gives it to `udev_device_unref` when it is
destroyed, whatever the handle is.  A scan opens the devices that libudev found,
and a monitor receives one with each event; these are references of their own.
The parent of a device belongs to the device.

A scan loses the reference of each device that it does not look at, and of each
graphics card but one as soon as a primary card is among them (`scan_accounted_iff`).
The monitor loses the device of an event that it has no signal for.  Whoever
destroys the `UdevDevice` of a parent releases a reference that is not its own.
Otherwise all references are accounted for (`references_accounted_iff`). -/

namespace GreenIsland.Platform

open UdevEnumerate

/-! ## Model -/

/-- A `udev_device *`: from `udev_device_new_from_syspath` or
`udev_monitor_receive_device`, with its number, or from `udev_device_get_parent`. -/
inductive UdevHandle
  | acquired (n : Nat)
  | parentOf (child : UdevHandle)
deriving DecidableEq, Repr

def UdevHandle.isAcquired : UdevHandle → Bool
  | .acquired _ => true
  | .parentOf _ => false

/-- A `UdevDevice` that somebody got. -/
structure UdevWrapper where
  id : Nat
  device : UdevHandle
deriving DecidableEq, Repr

/-- The signals of a monitor, with the actions they are for. -/
inductive MonitorSignal
  | deviceAdded
  | deviceRemoved
  | deviceChanged
  | deviceOnlined
  | deviceOfflined
deriving DecidableEq, Repr

def signalOf (action : String) : Option MonitorSignal :=
  if action = "add" then some .deviceAdded
  else if action = "remove" then some .deviceRemoved
  else if action = "change" then some .deviceChanged
  else if action = "online" then some .deviceOnlined
  else if action = "offline" then some .deviceOfflined
  else none

structure UdevReferences where
  /-- the references that were acquired -/
  acquired : List UdevHandle
  /-- the handles that were given to `udev_device_unref` -/
  released : List UdevHandle
  /-- the `UdevDevice`s that were returned or announced, and not destroyed since -/
  wrappers : List UdevWrapper
  /-- how many references were acquired -/
  opened : Nat
  /-- how many `UdevDevice`s were handed out -/
  wrapped : Nat
deriving DecidableEq, Repr

namespace UdevReferences

def init : UdevReferences := ⟨[], [], [], 0, 0⟩

/-- `new UdevDevice(device)`, handed out. -/
def wrap (s : UdevReferences) (device : UdevHandle) : UdevReferences :=
  { s with wrappers := s.wrappers ++ [⟨s.wrapped, device⟩], wrapped := s.wrapped + 1 }

/-- A new reference. -/
def acquire (s : UdevReferences) : UdevReferences :=
  { s with acquired := s.acquired ++ [.acquired s.opened], opened := s.opened + 1 }

def unref (s : UdevReferences) (device : UdevHandle) : UdevReferences :=
  { s with released := s.released ++ [device] }

/-- The devices that a scan opens, with their handles. -/
def openAll (n : Nat) (infos : List UdevInfo) : List (UdevHandle × UdevInfo) :=
  (infos.zipIdx n).map fun p => (.acquired p.2, p.1)

/-- `UdevEnumerate::scan`; `infos` tells of the enumerated devices that could be opened. -/
def scan (s : UdevReferences) (seat : String) (types : UInt32) (infos : List UdevInfo) :
    UdevReferences :=
  let devs := openAll s.opened infos
  let scanned := scanEntries Prod.snd seat types devs
  let s :=
    { s with
      acquired := s.acquired ++ devs.map Prod.fst
      released := s.released ++ scanned.unrefed.map Prod.fst
      opened := s.opened + infos.length }
  ((scanResult scanned).map Prod.fst).foldl wrap s

/-- `UdevDevice::parent`; `hasParent` is whether libudev has one. -/
def parent (s : UdevReferences) (id : Nat) (hasParent : Bool) : UdevReferences :=
  match Keyed.find UdevWrapper.id id s.wrappers with
  | some w => if hasParent then s.wrap (.parentOf w.device) else s
  | none => s

/-- `_q_udevEventHandler`; `received` is the action of the device that was received, if
there was a device and it has an action. -/
def handleEvent (s : UdevReferences) (received : Option (Option String)) : UdevReferences :=
  match received with
  | none => s
  | some action =>
    let dev := UdevHandle.acquired s.opened
    let s := s.acquire
    match action with
    | none => s.unref dev
    | some action =>
      match signalOf action with
      | some _ => s.wrap dev
      | none => s

/-- `~UdevDevice`, of one that somebody got. -/
def destroy (s : UdevReferences) (id : Nat) : UdevReferences :=
  match Keyed.find UdevWrapper.id id s.wrappers with
  | some w => { s with wrappers := s.wrappers.erase w }.unref w.device
  | none => s

end UdevReferences

inductive UdevCall
  | scan (seat : String) (types : UInt32) (infos : List UdevInfo)
  | parent (id : Nat) (hasParent : Bool)
  | event (received : Option (Option String))
  | destroy (id : Nat)
deriving DecidableEq, Repr

namespace UdevReferences

def step (s : UdevReferences) : UdevCall → UdevReferences
  | .scan seat types infos => s.scan seat types infos
  | .parent id hasParent => s.parent id hasParent
  | .event received => s.handleEvent received
  | .destroy id => s.destroy id

/-! ## What is to hold -/

/-- The references that `UdevDevice`s hold. -/
def held (s : UdevReferences) : List UdevHandle :=
  (s.wrappers.map UdevWrapper.device).filter UdevHandle.isAcquired

/-- **Each reference is released once**, by the one who holds it, and nothing else is. -/
structure Accounted (s : UdevReferences) : Prop where
  balanced : Ledger.Balanced s.acquired s.released s.held
  borrowed : ∀ device ∈ s.released, device.isAcquired = true

/-- **What a scan may find.**  The devices of the seat are all taken, and a primary card
is the only card. -/
structure ScanOk (seat : String) (types : UInt32) (infos : List UdevInfo) : Prop where
  taken : ∀ info ∈ infos, role id seat types info ≠ .other
  alone : withRole id seat types .primary infos = [] ∨
    (withRole id seat types .primary infos).length = 1 ∧ withRole id seat types .card infos = []

/-- **The condition.** -/
def CallOk (s : UdevReferences) : UdevCall → Prop
  | .scan seat types infos => ScanOk seat types infos
  | .parent _ _ => True
  | .event received => ∀ action, received = some (some action) → signalOf action ≠ none
  | .destroy id =>
    ∀ w, Keyed.find UdevWrapper.id id s.wrappers = some w → w.device.isAcquired = true

end UdevReferences

/-! ## The handles of a scan -/

namespace UdevEnumerate

variable {Dev : Type} {info : Dev → UdevInfo} {seat : String} {types : UInt32}

/-- The handles that the variables have. -/
def ScanState.handles (s : ScanState Dev) : List Dev :=
  s.unrefed ++ s.list ++ s.drmPrimaryDevice.toList ++ s.drmDevice.toList

/-- The handle that gets lost with a device. -/
def ScanState.lostBy (s : ScanState Dev) (dev : Dev) : Role → List Dev
  | .elsewhere => []
  | .input => []
  | .primary => s.drmPrimaryDevice.toList
  | .card => if s.drmPrimaryDevice.isNone then [] else [dev]
  | .other => [dev]

/-- The handles that get lost, up to the end of the scan. -/
def lost (info : Dev → UdevInfo) (seat : String) (types : UInt32) : ScanState Dev → List Dev → List Dev
  | s, [] => if s.drmPrimaryDevice.isNone then [] else s.drmDevice.toList
  | s, dev :: devs =>
    s.lostBy dev (role info seat types dev) ++
      lost info seat types (s.after dev (role info seat types dev)) devs

/-- A device is kept, given back or lost. -/
theorem handles_after (s : ScanState Dev) (dev : Dev) (r : Role) :
    ((s.after dev r).handles ++ s.lostBy dev r).Perm (s.handles ++ [dev]) := by
  rcases s with ⟨list, drmDevice, drmPrimaryDevice, unrefed⟩
  rw [← Multiset.coe_eq_coe]
  cases r <;> cases drmPrimaryDevice <;>
    simp only [ScanState.handles, ScanState.lostBy, ScanState.after, Option.isNone_none,
      Option.isNone_some, if_true, Bool.false_eq_true, if_false, Option.toList_some,
      Option.toList_none, ← Multiset.coe_add, Multiset.coe_nil] <;>
    abel

/-- **Where the handles go**, those that the variables have and those of the devices
that are still to come. -/
theorem handles_scan (info : Dev → UdevInfo) (seat : String) (types : UInt32) (devs : List Dev) :
    ∀ s : ScanState Dev,
    ((devs.foldl (scanEntry info seat types) s).unrefed ++
      scanResult (devs.foldl (scanEntry info seat types) s) ++ lost info seat types s devs).Perm
      (s.handles ++ devs) := by
  induction devs with
  | nil =>
    rintro ⟨list, drmDevice, drmPrimaryDevice, unrefed⟩
    rw [← Multiset.coe_eq_coe]
    cases drmPrimaryDevice <;>
      simp only [List.foldl_nil, scanResult, lost, ScanState.handles, Option.isNone_none,
        Option.isNone_some, if_true, Bool.false_eq_true, if_false, Option.toList_some,
        Option.toList_none, ← Multiset.coe_add, Multiset.coe_nil] <;>
      abel
  | cons dev devs ih =>
    intro s
    have hrest := ih (s.after dev (role info seat types dev))
    have hdev := handles_after s dev (role info seat types dev)
    rw [List.foldl_cons, scanEntry_eq, lost]
    rw [← Multiset.coe_eq_coe] at hrest hdev ⊢
    rw [← List.singleton_append, ← List.append_assoc s.handles]
    simp only [← Multiset.coe_add] at hrest hdev ⊢
    rw [add_comm (s.lostBy dev _ : Multiset Dev), ← add_assoc, hrest, add_right_comm, hdev]

/-- All handles are given back or returned if none is lost, ... -/
theorem perm_of_lost {devs : List Dev} (h : lost info seat types ⟨[], none, none, []⟩ devs = []) :
    devs.Perm ((scanEntries info seat types devs).unrefed ++
      scanResult (scanEntries info seat types devs)) := by
  have hall := handles_scan info seat types devs ⟨[], none, none, []⟩
  rw [h, List.append_nil] at hall
  exact hall.symm

/-- ... and otherwise there are too few of them. -/
theorem lost_of_length {devs : List Dev}
    (h : devs.length = ((scanEntries info seat types devs).unrefed ++
      scanResult (scanEntries info seat types devs)).length) :
    lost info seat types ⟨[], none, none, []⟩ devs = [] := by
  have hall := handles_scan info seat types devs ⟨[], none, none, []⟩
  have hlength := hall.length_eq
  rw [List.length_append] at hlength
  exact List.eq_nil_of_length_eq_zero (Nat.add_eq_left.1 (hlength.trans h))

theorem withRole_cons (r : Role) (dev : Dev) (devs : List Dev) :
    withRole info seat types r (dev :: devs) =
      if role info seat types dev = r then dev :: withRole info seat types r devs
      else withRole info seat types r devs := by
  unfold withRole
  rw [List.filter_cons]
  simp

theorem withRole_eq_nil {r : Role} {devs : List Dev} :
    withRole info seat types r devs = [] ↔ ∀ dev ∈ devs, role info seat types dev ≠ r := by
  unfold withRole
  rw [List.filter_eq_nil_iff]
  simp

theorem lost_cons_eq_nil {s : ScanState Dev} {dev : Dev} {devs : List Dev} :
    lost info seat types s (dev :: devs) = [] ↔ s.lostBy dev (role info seat types dev) = [] ∧
      lost info seat types (s.after dev (role info seat types dev)) devs = [] := by
  rw [lost, List.append_eq_nil_iff]

/-- **After a primary card** no other card may come, and none may have been kept. -/
theorem lost_of_some (devs : List Dev) : ∀ {s : ScanState Dev}, s.drmPrimaryDevice.isNone = false →
    (lost info seat types s devs = [] ↔ s.drmDevice = none ∧
      withRole info seat types .other devs = [] ∧ withRole info seat types .primary devs = [] ∧
      withRole info seat types .card devs = []) := by
  induction devs with
  | nil =>
    intro s hsome
    rw [lost, hsome]
    cases s.drmDevice <;> simp [withRole]
  | cons dev devs ih =>
    intro s hsome
    obtain ⟨primary, hprimary⟩ : ∃ primary, s.drmPrimaryDevice = some primary := by
      cases hp : s.drmPrimaryDevice with
      | none => rw [hp] at hsome; cases hsome
      | some primary => exact ⟨primary, rfl⟩
    rw [lost_cons_eq_nil, withRole_cons, withRole_cons, withRole_cons]
    cases role info seat types dev with
    | elsewhere => simp [ScanState.lostBy, ScanState.after, ih, hsome]
    | input => simp [ScanState.lostBy, ScanState.after, ih, hsome]
    | primary => simp [ScanState.lostBy, hprimary]
    | card => simp [ScanState.lostBy, hprimary]
    | other => simp [ScanState.lostBy]

/-- **Before it** all cards may come but the primary one, which may be the only one. -/
theorem lost_of_none (devs : List Dev) : ∀ {s : ScanState Dev}, s.drmPrimaryDevice = none →
    (lost info seat types s devs = [] ↔ withRole info seat types .other devs = [] ∧
      (withRole info seat types .primary devs = [] ∨ s.drmDevice = none ∧
        (withRole info seat types .primary devs).length = 1 ∧
        withRole info seat types .card devs = [])) := by
  induction devs with
  | nil =>
    intro s hnone
    rw [lost, hnone]
    simp [withRole]
  | cons dev devs ih =>
    intro s hnone
    rw [lost_cons_eq_nil, withRole_cons, withRole_cons, withRole_cons]
    cases role info seat types dev with
    | elsewhere => simp [ScanState.lostBy, ScanState.after, ih, hnone]
    | input => simp [ScanState.lostBy, ScanState.after, ih, hnone]
    | primary =>
      have hafter : (s.after dev .primary).drmPrimaryDevice.isNone = false := rfl
      rw [lost_of_some devs hafter]
      simp [ScanState.lostBy, ScanState.after, hnone]
      tauto
    | card =>
      have hafter : (s.after dev .card).drmPrimaryDevice = none ∧
          (s.after dev .card).drmDevice = some dev := by
        simp [ScanState.after, hnone]
      rw [ih hafter.1, hafter.2]
      simp [ScanState.lostBy, hnone]
    | other => simp [ScanState.lostBy]

end UdevEnumerate

/-! ## Scans -/

namespace UdevReferences

theorem openAll_infos (n : Nat) (infos : List UdevInfo) : (openAll n infos).map Prod.snd = infos := by
  unfold openAll
  rw [List.map_map]
  exact List.zipIdx_map_fst n infos

theorem isAcquired_openAll {n : Nat} {infos : List UdevInfo} :
    ∀ device ∈ (openAll n infos).map Prod.fst, device.isAcquired = true := by
  intro device hdevice
  obtain ⟨dev, hdev, rfl⟩ := List.mem_map.1 hdevice
  obtain ⟨p, -, rfl⟩ := List.mem_map.1 hdev
  rfl

/-- The condition, for the devices with their handles. -/
theorem lost_openAll (seat : String) (types : UInt32) (n : Nat) (infos : List UdevInfo) :
    lost Prod.snd seat types ⟨[], none, none, []⟩ (openAll n infos) = [] ↔ ScanOk seat types infos := by
  have hrole : ∀ r, (withRole Prod.snd seat types r (openAll n infos)).map Prod.snd =
      withRole id seat types r infos := by
    intro r
    conv_rhs => rw [← openAll_infos n infos]
    unfold withRole
    rw [List.filter_map]
    rfl
  have hnil : ∀ r, withRole Prod.snd seat types r (openAll n infos) = [] ↔
      withRole id seat types r infos = [] := by
    intro r
    rw [← hrole, List.map_eq_nil_iff]
  have hlength : ∀ r, (withRole Prod.snd seat types r (openAll n infos)).length =
      (withRole id seat types r infos).length := by
    intro r
    rw [← hrole, List.length_map]
  rw [lost_of_none _ rfl, hnil, hnil, hnil, hlength, and_iff_right rfl, withRole_eq_nil]
  exact ⟨fun h => ⟨h.1, h.2⟩, fun h => ⟨h.1, h.2⟩⟩

theorem wrap_held (s : UdevReferences) (device : UdevHandle) :
    (s.wrap device).held = s.held ++ if device.isAcquired then [device] else [] := by
  unfold held wrap
  rw [List.map_append, List.filter_append, List.map_singleton, List.filter_cons, List.filter_nil]

/-- Handles are wrapped one after the other. -/
theorem foldl_wrap (devices : List UdevHandle) : ∀ s : UdevReferences,
    (devices.foldl wrap s).acquired = s.acquired ∧ (devices.foldl wrap s).released = s.released ∧
      (devices.foldl wrap s).held = s.held ++ devices.filter UdevHandle.isAcquired := by
  induction devices with
  | nil => exact fun s => ⟨rfl, rfl, (List.append_nil _).symm⟩
  | cons device devices ih =>
    intro s
    obtain ⟨hacquired, hreleased, hheld⟩ := ih (s.wrap device)
    refine ⟨hacquired, hreleased, ?_⟩
    rw [List.foldl_cons, hheld, wrap_held, List.append_assoc, List.filter_cons]
    split
    · rfl
    · rfl

/-- What a scan adds to the books. -/
theorem scan_books (s : UdevReferences) (seat : String) (types : UInt32) (infos : List UdevInfo) :
    (s.scan seat types infos).acquired = s.acquired ++ (openAll s.opened infos).map Prod.fst ∧
    (s.scan seat types infos).released = s.released ++
      (scanEntries Prod.snd seat types (openAll s.opened infos)).unrefed.map Prod.fst ∧
    (s.scan seat types infos).held = s.held ++
      (scanResult (scanEntries Prod.snd seat types (openAll s.opened infos))).map Prod.fst := by
  obtain ⟨hacquired, hreleased, hheld⟩ := foldl_wrap
    ((scanResult (scanEntries Prod.snd seat types (openAll s.opened infos))).map Prod.fst)
    { s with
      acquired := s.acquired ++ (openAll s.opened infos).map Prod.fst
      released := s.released ++
        (scanEntries Prod.snd seat types (openAll s.opened infos)).unrefed.map Prod.fst
      opened := s.opened + infos.length }
  refine ⟨hacquired, hreleased, hheld.trans ?_⟩
  refine congrArg (s.held ++ ·) (List.filter_eq_self.2 fun device hdevice => ?_)
  obtain ⟨dev, hdev, rfl⟩ := List.mem_map.1 hdevice
  have hall := handles_scan Prod.snd seat types (openAll s.opened infos) ⟨[], none, none, []⟩
  have hmem := hall.mem_iff.1 (List.mem_append_left _ (List.mem_append_right _ hdev))
  exact isAcquired_openAll _ (List.mem_map_of_mem hmem)

/-- **A scan** leaves all references accounted for if none of its handles is lost. -/
theorem scan_accounted_iff {s : UdevReferences} (h : s.Accounted) (seat : String) (types : UInt32)
    (infos : List UdevInfo) : (s.scan seat types infos).Accounted ↔ ScanOk seat types infos := by
  obtain ⟨hacquired, hreleased, hheld⟩ := scan_books s seat types infos
  have hbalanced : Ledger.Balanced (s.scan seat types infos).acquired
      (s.scan seat types infos).released (s.scan seat types infos).held ↔
      ((openAll s.opened infos).map Prod.fst).Perm
        (((scanEntries Prod.snd seat types (openAll s.opened infos)).unrefed ++
          scanResult (scanEntries Prod.snd seat types (openAll s.opened infos))).map Prod.fst) := by
    rw [hacquired, hreleased, hheld, List.map_append]
    exact Ledger.balanced_append_iff h.balanced
  constructor
  · intro h'
    have hlength := (hbalanced.1 h'.balanced).length_eq
    rw [List.length_map, List.length_map] at hlength
    exact (lost_openAll seat types s.opened infos).1 (lost_of_length hlength)
  · intro hok
    have hperm := perm_of_lost ((lost_openAll seat types s.opened infos).2 hok)
    refine ⟨hbalanced.2 (hperm.map Prod.fst), ?_⟩
    rw [hreleased]
    refine List.forall_mem_append.2 ⟨h.borrowed, fun device hdevice => ?_⟩
    obtain ⟨dev, hdev, rfl⟩ := List.mem_map.1 hdevice
    exact isAcquired_openAll _ (List.mem_map_of_mem (hperm.mem_iff.2 (List.mem_append_left _ hdev)))

/-! ## The other calls -/

theorem parent_accounted {s : UdevReferences} (h : s.Accounted) (id : Nat) (hasParent : Bool) :
    (s.parent id hasParent).Accounted := by
  unfold parent
  split
  · split
    · refine ⟨?_, h.borrowed⟩
      rw [wrap_held]
      exact (List.append_nil s.held).symm ▸ h.balanced
    · exact h
  · exact h

/-- **An event** leaves them accounted for if there is a signal for it. -/
theorem event_accounted_iff {s : UdevReferences} (h : s.Accounted) (received : Option (Option String)) :
    (s.handleEvent received).Accounted ↔
      ∀ action, received = some (some action) → signalOf action ≠ none := by
  rcases received with _ | _ | action
  · exact iff_of_true h fun _ heq => by cases heq
  · refine iff_of_true ⟨h.balanced.takeGiveBack _, ?_⟩ fun _ heq => by cases heq
    exact List.forall_mem_append.2 ⟨h.borrowed, List.forall_mem_singleton.2 rfl⟩
  · have hiff : (∀ a, some (some action) = some (some a) → signalOf a ≠ none) ↔
        signalOf action ≠ none := by simp
    rw [hiff]
    unfold handleEvent
    dsimp only
    split
    · next signal hsignal =>
      rw [hsignal]
      refine iff_of_true ⟨?_, h.borrowed⟩ (Option.some_ne_none _)
      rw [wrap_held]
      exact h.balanced.take _
    · next hsignal =>
      refine iff_of_false (fun h' => ?_) (fun hne => hne hsignal)
      exact Ledger.not_balanced_lost h.balanced h'.balanced

/-- **A destruction**, if it is not of the `UdevDevice` of a parent. -/
theorem destroy_accounted_iff {s : UdevReferences} (h : s.Accounted) (id : Nat) :
    (s.destroy id).Accounted ↔
      ∀ w, Keyed.find UdevWrapper.id id s.wrappers = some w → w.device.isAcquired = true := by
  unfold destroy
  split
  · next w hfind =>
    have hmem : w ∈ s.wrappers := List.mem_of_find?_eq_some hfind
    have hiff : (∀ w', some w = some w' → w'.device.isAcquired = true) ↔
        w.device.isAcquired = true := by simp
    rw [hfind, hiff]
    have hperm : s.held.Perm ((w :: s.wrappers.erase w).map UdevWrapper.device |>.filter
        UdevHandle.isAcquired) := ((List.perm_cons_erase hmem).map _).filter _
    constructor
    · intro h'
      exact h'.borrowed _ (List.mem_append_right _ (List.mem_singleton_self _))
    · intro hacquired
      rw [List.map_cons, List.filter_cons, if_pos hacquired] at hperm
      refine ⟨(Ledger.balanced_giveBack_iff h.balanced).2 hperm, ?_⟩
      exact List.forall_mem_append.2 ⟨h.borrowed, List.forall_mem_singleton.2 hacquired⟩
  · next hnone =>
    refine iff_of_true h fun w hw => ?_
    rw [hnone] at hw
    cases hw

/-- **When references are accounted for.**  In the runs in which every call meets its
condition. -/
theorem references_accounted_iff (calls : List UdevCall) :
    Run.Always (fun s call => some (step s call)) Accounted init calls ↔
      Run.Meets (fun s call => some (step s call)) CallOk init calls := by
  have hinit : init.Accounted := ⟨Ledger.balanced_nil, fun _ h => by cases h⟩
  refine Run.always_iff_of_decides (I := Accounted) ?_ calls init hinit hinit
  intro s call h
  have hiff : (s.step call).Accounted ↔ s.CallOk call := by
    cases call with
    | scan seat types infos => exact scan_accounted_iff h seat types infos
    | parent id hasParent => exact iff_of_true (parent_accounted h id hasParent) trivial
    | event received => exact event_accounted_iff h received
    | destroy id => exact destroy_accounted_iff h id
  exact Run.decides_total hiff hiff.2

/-- A scan for input devices comes to a device without a node. -/
theorem references_accounted_fails :
    ¬ Run.Always (fun s call => some (step s call)) Accounted init
      [.scan "seat0" UdevDevice.inputDeviceMask [⟨"", "", none⟩]] := by
  rintro ⟨-, s, hs, hok, -⟩
  obtain rfl := Option.some.inj hs
  have hlength := hok.balanced.length_eq
  revert hlength
  decide +kernel

end UdevReferences

end GreenIsland.Platform

import GreenIsland.Lib.Keyed
import GreenIsland.Lib.Recycled
import GreenIsland.Lib.Run

/-! The globals that a client knows (`Registry`).

The server announces a global under a numeric name, with the name of its interface
and a version, and removes it by the numeric name alone.  So what kind of global was
removed is looked up in the list of the interfaces.  Names are used again.

The events so far make a history (`Recycled`).  Along every run of events that the
server may send, the list is what is live in the history, each removal emits the
signal of the kind under which the name was last announced, and `interfacesRemoved`
is emitted by the removals that leave the list empty (`books_kept`).  The kinds are those
of the protocol (`nameToInterface_eq_iff`). -/

namespace GreenIsland.Client

/-! ## Model -/

/-- `Registry::Interface` -/
inductive Interface
  | unknown
  | compositor
  | fullscreenShell
  | output
  | outputManagement
  | screencaster
  | screenshooter
  | seat
  | shm
deriving DecidableEq, Repr

def nameToInterface (interface : String) : Interface :=
  if interface = "wl_compositor" then .compositor
  else if interface = "zwp_fullscreen_shell_v1" then .fullscreenShell
  else if interface = "wl_output" then .output
  else if interface = "greenisland_outputmanagement" then .outputManagement
  else if interface = "greenisland_screencaster" then .screencaster
  else if interface = "greenisland_screenshooter" then .screenshooter
  else if interface = "wl_seat" then .seat
  else if interface = "wl_shm" then .shm
  else .unknown

structure InterfaceInfo where
  interface : Interface
  name : UInt32
  version : UInt32
deriving DecidableEq, Repr

inductive RegistrySignal
  | interfaceAnnounced (interface : String) (name version : UInt32)
  | interfaceRemoved (name : UInt32)
  | interfacesRemoved
  | compositorAnnounced (name version : UInt32)
  | compositorRemoved (name : UInt32)
  | fullscreenShellAnnounced (name version : UInt32)
  | fullscreenShellRemoved (name : UInt32)
  | outputAnnounced (name version : UInt32)
  | outputRemoved (name : UInt32)
  | seatAnnounced (name version : UInt32)
  | seatRemoved (name : UInt32)
  | shmAnnounced (name version : UInt32)
  | shmRemoved (name : UInt32)
  | outputManagementAnnounced (name version : UInt32)
  | outputManagementRemoved (name : UInt32)
  | screencasterAnnounced (name version : UInt32)
  | screencasterRemoved (name : UInt32)
  | screenshooterAnnounced (name version : UInt32)
  | screenshooterRemoved (name : UInt32)
deriving DecidableEq, Repr

/-- The signal of the kind, in `handleAnnounce`. -/
def announcedSignals (name version : UInt32) : Interface → List RegistrySignal
  | .compositor => [.compositorAnnounced name version]
  | .fullscreenShell => [.fullscreenShellAnnounced name version]
  | .output => [.outputAnnounced name version]
  | .outputManagement => [.outputManagementAnnounced name version]
  | .screencaster => [.screencasterAnnounced name version]
  | .screenshooter => [.screenshooterAnnounced name version]
  | .seat => [.seatAnnounced name version]
  | .shm => [.shmAnnounced name version]
  | .unknown => []

/-- The signal of the kind, in `handleRemove`. -/
def removedSignals (name : UInt32) : Interface → List RegistrySignal
  | .compositor => [.compositorRemoved name]
  | .fullscreenShell => [.fullscreenShellRemoved name]
  | .output => [.outputRemoved name]
  | .outputManagement => [.outputManagementRemoved name]
  | .screencaster => [.screencasterRemoved name]
  | .screenshooter => [.screenshooterRemoved name]
  | .seat => [.seatRemoved name]
  | .shm => [.shmRemoved name]
  | .unknown => []

structure RegistryPrivate where
  interfaces : List InterfaceInfo
deriving DecidableEq, Repr

namespace RegistryPrivate

def handleAnnounce (d : RegistryPrivate) (interface : String) (name version : UInt32) :
    RegistryPrivate × List RegistrySignal :=
  let i := nameToInterface interface
  (⟨d.interfaces ++ [⟨i, name, version⟩]⟩,
    .interfaceAnnounced interface name version :: announcedSignals name version i)

/-- The loop ends at the first entry with the name. -/
def handleRemove (d : RegistryPrivate) (name : UInt32) : RegistryPrivate × List RegistrySignal :=
  let interfaces := Keyed.erase InterfaceInfo.name name d.interfaces
  let removed := match Keyed.find InterfaceInfo.name name d.interfaces with
    | some info => removedSignals name info.interface
    | none => []
  (⟨interfaces⟩,
    removed ++ [.interfaceRemoved name] ++ if interfaces.length = 0 then [.interfacesRemoved] else [])

end RegistryPrivate

/-- The events of a `wl_registry`. -/
inductive RegistryEvent
  | globalAnnounce (interface : String) (name version : UInt32)
  | globalRemove (name : UInt32)
deriving DecidableEq, Repr

def RegistryPrivate.handle (d : RegistryPrivate) :
    RegistryEvent → RegistryPrivate × List RegistrySignal
  | .globalAnnounce interface name version => d.handleAnnounce interface name version
  | .globalRemove name => d.handleRemove name

/-! ## The names -/

/-- The interface that the protocol's files name so -/
def Interface.protocolName : Interface → Option String
  | .unknown => none
  | .compositor => some "wl_compositor"
  | .fullscreenShell => some "zwp_fullscreen_shell_v1"
  | .output => some "wl_output"
  | .outputManagement => some "greenisland_outputmanagement"
  | .screencaster => some "greenisland_screencaster"
  | .screenshooter => some "greenisland_screenshooter"
  | .seat => some "wl_seat"
  | .shm => some "wl_shm"

theorem protocolName_nameToInterface {interface : String}
    (h : nameToInterface interface ≠ .unknown) :
    (nameToInterface interface).protocolName = some interface := by
  unfold nameToInterface at h ⊢
  split_ifs at h ⊢ with h₁ h₂ h₃ h₄ h₅ h₆ h₇ h₈
  all_goals first | exact absurd rfl h | subst_vars; rfl

theorem nameToInterface_of_protocolName {interface : String} {i : Interface}
    (h : i.protocolName = some interface) : nameToInterface interface = i := by
  cases i <;> cases h <;> decide

/-- **The table of names.**  Each kind has one name, and every other name is unknown. -/
theorem nameToInterface_eq_iff (interface : String) (i : Interface) :
    nameToInterface interface = i ↔ i.protocolName = some interface ∨
      i = .unknown ∧ ∀ j : Interface, j.protocolName ≠ some interface := by
  constructor
  · rintro rfl
    by_cases hknown : nameToInterface interface = .unknown
    · refine .inr ⟨hknown, fun j hj => ?_⟩
      rw [nameToInterface_of_protocolName hj] at hknown
      rw [hknown] at hj
      cases hj
    · exact .inl (protocolName_nameToInterface hknown)
  · rintro (h | ⟨rfl, h⟩)
    · exact nameToInterface_of_protocolName h
    · by_contra hknown
      exact h _ (protocolName_nameToInterface hknown)

/-! ## Runs -/

/-- What the server did with a name. -/
def RegistryEvent.named : RegistryEvent → Recycled.Event UInt32 (String × UInt32)
  | .globalAnnounce interface name version => .give name (interface, version)
  | .globalRemove name => .withdraw name

/-- The registry, with all events that were received and the signals of the last one. -/
structure RegistryRun where
  history : List (Recycled.Event UInt32 (String × UInt32))
  registry : RegistryPrivate
  emitted : List RegistrySignal

namespace RegistryRun

def init : RegistryRun where
  history := []
  registry := ⟨[]⟩
  emitted := []

def receive (r : RegistryRun) (e : RegistryEvent) : RegistryRun where
  history := r.history ++ [e.named]
  registry := (r.registry.handle e).1
  emitted := (r.registry.handle e).2

def step (r : RegistryRun) (e : RegistryEvent) : Option RegistryRun := some (r.receive e)

/-- The server announces a global under a free name, and removes one that it announced. -/
def Sendable (r : RegistryRun) (e : RegistryEvent) : Prop := Recycled.Proper r.history e.named

instance (r : RegistryRun) (e : RegistryEvent) : Decidable (r.Sendable e) :=
  inferInstanceAs (Decidable (Recycled.Proper r.history e.named))

end RegistryRun

/-! ## Specification -/

/-- The kind and the name that a removal signal of a kind is about. -/
def RegistrySignal.removes : RegistrySignal → Option (Interface × UInt32)
  | .compositorRemoved name => some (.compositor, name)
  | .fullscreenShellRemoved name => some (.fullscreenShell, name)
  | .outputRemoved name => some (.output, name)
  | .seatRemoved name => some (.seat, name)
  | .shmRemoved name => some (.shm, name)
  | .outputManagementRemoved name => some (.outputManagement, name)
  | .screencasterRemoved name => some (.screencaster, name)
  | .screenshooterRemoved name => some (.screenshooter, name)
  | _ => none

/-- A global that is announced as `x`, in the list of the client. -/
def infoOf (x : UInt32 × String × UInt32) : InterfaceInfo := ⟨nameToInterface x.2.1, x.1, x.2.2⟩

/-- The removal of a global of the kind `i`; there is no signal for unknown kinds. -/
def removalOf (name : UInt32) (i : Interface) : List (Interface × UInt32) :=
  if i = .unknown then [] else [(i, name)]

/-- What the signals of an event say about removed globals, after the history `h`. -/
def removals (h : List (Recycled.Event UInt32 (String × UInt32))) :
    RegistryEvent → List (Interface × UInt32)
  | .globalAnnounce _ _ _ => []
  | .globalRemove name =>
    match Recycled.last name h with
    | some (interface, _) => removalOf name (nameToInterface interface)
    | none => []

/-- How often `interfacesRemoved` is due when an event leaves the list `interfaces`. -/
def timesEmptied (interfaces : List InterfaceInfo) : RegistryEvent → Nat
  | .globalAnnounce _ _ _ => 0
  | .globalRemove _ => if interfaces = [] then 1 else 0

/-- **The books after an event.** -/
structure BooksOk (r : RegistryRun) (e : RegistryEvent) (r' : RegistryRun) : Prop where
  interfaces : r'.registry.interfaces = (Recycled.live (r.history ++ [e.named])).map infoOf
  removed : r'.emitted.filterMap RegistrySignal.removes = removals r.history e
  interfacesRemoved :
    r'.emitted.count .interfacesRemoved = timesEmptied r'.registry.interfaces e

/-! ## Lemmas -/

theorem removes_announcedSignals (name version : UInt32) (i : Interface) :
    (announcedSignals name version i).filterMap RegistrySignal.removes = [] := by
  cases i <;> rfl

theorem removes_removedSignals (name : UInt32) (i : Interface) :
    (removedSignals name i).filterMap RegistrySignal.removes = removalOf name i := by
  cases i <;> rfl

theorem count_announcedSignals (name version : UInt32) (i : Interface) :
    (announcedSignals name version i).count .interfacesRemoved = 0 := by
  cases i <;> rfl

theorem count_removedSignals (name : UInt32) (i : Interface) :
    (removedSignals name i).count .interfacesRemoved = 0 := by
  cases i <;> rfl

/-- The list is what is live, and no name is in use twice. -/
structure RegistryRun.Recorded (r : RegistryRun) : Prop where
  interfaces : r.registry.interfaces = (Recycled.live r.history).map infoOf
  sound : Recycled.Sound r.history

section
variable {r : RegistryRun}

theorem RegistryRun.Recorded.map_name (hr : r.Recorded) :
    r.registry.interfaces.map InterfaceInfo.name = Recycled.names r.history := by
  rw [hr.interfaces, List.map_map]
  rfl

theorem RegistryRun.Recorded.nodup (hr : r.Recorded) :
    (r.registry.interfaces.map InterfaceInfo.name).Nodup := by
  rw [hr.map_name]
  exact hr.sound.nodup

/-- A global in use is found under its name, with its kind. -/
theorem RegistryRun.Recorded.find_eq (hr : r.Recorded) {x : UInt32 × String × UInt32}
    (hx : x ∈ Recycled.live r.history) :
    Keyed.find InterfaceInfo.name x.1 r.registry.interfaces = some (infoOf x) := by
  have hmem : infoOf x ∈ r.registry.interfaces := by
    rw [hr.interfaces]
    exact List.mem_map_of_mem hx
  exact Keyed.find_of_mem hr.nodup hmem

theorem booksOk_handleAnnounce (hr : r.Recorded) (interface : String) (name version : UInt32) :
    BooksOk r (.globalAnnounce interface name version)
      (r.receive (.globalAnnounce interface name version)) where
  interfaces := by
    show r.registry.interfaces ++ [infoOf (name, interface, version)] = _
    rw [hr.interfaces, RegistryEvent.named, Recycled.live_concat_give, List.map_append]
    rfl
  removed := removes_announcedSignals name version (nameToInterface interface)
  interfacesRemoved := count_announcedSignals name version (nameToInterface interface)

theorem booksOk_handleRemove (hr : r.Recorded) {name : UInt32}
    (hname : name ∈ Recycled.names r.history) :
    BooksOk r (.globalRemove name) (r.receive (.globalRemove name)) := by
  obtain ⟨x, hx, rfl⟩ := List.mem_map.1 hname
  have hfind := hr.find_eq hx
  have hlast := hr.sound.last_of_mem x hx
  have hinterfaces : (r.receive (.globalRemove x.1)).registry.interfaces =
      (Recycled.live (r.history ++ [RegistryEvent.named (.globalRemove x.1)])).map infoOf := by
    show Keyed.erase InterfaceInfo.name x.1 r.registry.interfaces = _
    rw [Keyed.erase_eq_filter hr.nodup, RegistryEvent.named, Recycled.live_concat_withdraw,
      hr.interfaces, List.filter_map]
    rfl
  have hemitted : (r.receive (.globalRemove x.1)).emitted =
      removedSignals x.1 (nameToInterface x.2.1) ++ [.interfaceRemoved x.1] ++
        if (r.receive (.globalRemove x.1)).registry.interfaces.length = 0 then [.interfacesRemoved]
        else [] := by
    simp only [RegistryRun.receive, RegistryPrivate.handle, RegistryPrivate.handleRemove, hfind]
    rfl
  refine ⟨hinterfaces, ?_, ?_⟩
  · rw [hemitted, List.filterMap_append, List.filterMap_append, removes_removedSignals, removals,
      hlast]
    split
    · exact (List.append_nil _).trans (List.append_nil _)
    · exact (List.append_nil _).trans (List.append_nil _)
  · rw [hemitted, List.count_append, List.count_append, count_removedSignals, timesEmptied]
    simp only [List.length_eq_zero_iff]
    split
    · rfl
    · rfl

/-- What one event does. -/
theorem booksOk_receive (hr : r.Recorded) {e : RegistryEvent} (he : r.Sendable e) :
    BooksOk r e (r.receive e) := by
  cases e with
  | globalAnnounce interface name version => exact booksOk_handleAnnounce hr interface name version
  | globalRemove name => exact booksOk_handleRemove hr he

end

/-! ## The book-keeping -/

/-- **The list is what was announced and not removed, in order; each removal emits the
signal of the kind under which the name was last announced; and `interfacesRemoved` is
emitted by the removals that leave the list empty.** -/
theorem books_kept (es : List RegistryEvent)
    (hes : Run.Meets RegistryRun.step RegistryRun.Sendable .init es) :
    Run.Along RegistryRun.step BooksOk .init es := by
  refine Run.along_of_meets (I := RegistryRun.Recorded) ?_ es .init ⟨rfl, Recycled.sound_nil⟩ hes
  intro r e hr he
  have hbooks := booksOk_receive hr he
  exact ⟨r.receive e, rfl, hbooks, hbooks.interfaces, hr.sound.concat he⟩

/-- A seat is removed, and its name is announced again for an interface without a signal. -/
theorem books_kept_reused :
    Run.Along RegistryRun.step BooksOk .init
      [.globalAnnounce "wl_shm" 1 1, .globalAnnounce "wl_seat" 2 4, .globalRemove 2,
        .globalAnnounce "xdg_shell" 2 1, .globalRemove 1, .globalRemove 2] :=
  books_kept _ (by decide +kernel)

end GreenIsland.Client

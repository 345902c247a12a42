import Mathlib.Data.List.Induction

/-! The scan of devices (`UdevEnumerate`).

The constructor tells libudev what to look for; `scan` goes through what libudev
found, in whatever order that is, drops the devices of other seats, keeps the event
nodes, and chooses one graphics card: the last one, or the last one that the
firmware used for booting, if the primary card is wanted and there is such a card.

Both ask for kinds of devices with `testFlag` of a mask, which holds only if all
types of the mask were requested: the six types of input devices, of which a caller
may want just one; and the mask of video devices is the generic type, without the
primary one.  So the scan selects what was asked for (`Selects`) exactly if none or
all of the input types were requested, and the primary card only together with the
generic one, or there is nothing to select (`selects_iff`). -/

namespace GreenIsland.Platform

/-! ## Model -/

namespace UdevDevice

def unknownDevice : UInt32 := 0x00
def keyboardDevice : UInt32 := 0x01
def mouseDevice : UInt32 := 0x02
def touchpadDevice : UInt32 := 0x04
def touchscreenDevice : UInt32 := 0x08
def tabletDevice : UInt32 := 0x10
def joystickDevice : UInt32 := 0x20
def genericVideoDevice : UInt32 := 0x40
def primaryVideoDevice : UInt32 := 0x80

def inputDeviceMask : UInt32 :=
  keyboardDevice ||| mouseDevice ||| touchpadDevice ||| touchscreenDevice ||| tabletDevice |||
    joystickDevice

def videoDeviceMask : UInt32 := genericVideoDevice

end UdevDevice

open UdevDevice

/-- `QFlags::testFlag` of `UdevDevice::DeviceTypes` -/
def testFlag (types flag : UInt32) : Bool := types &&& flag == flag && (flag != 0 || types == flag)

/-- What libudev tells of a device; a null string is an empty one. -/
structure UdevInfo where
  /-- the property `ID_SEAT` -/
  idSeat : String
  devnode : String
  /-- the attribute `boot_vga` of the parent on the PCI bus, if there is such a parent -/
  bootVga : Option String
deriving DecidableEq, Repr

inductive UdevMatch
  | subsystem (name : String)
  | sysname (pattern : String)
  | property (name value : String)
deriving DecidableEq, Repr

/-- `QString::startsWith` -/
def startsWith (node start : String) : Bool := start.toList.isPrefixOf node.toList

namespace UdevEnumerate

/-- What the constructor asks libudev for. -/
def matchesOf (types : UInt32) : List UdevMatch :=
  (if testFlag types inputDeviceMask then [.subsystem "input"] else []) ++
  (if testFlag types videoDeviceMask then [.subsystem "drm", .sysname "card[0-9]*"] else []) ++
  (if testFlag types keyboardDevice then
    [.property "ID_INPUT_KEYBOARD" "1", .property "ID_INPUT_KEY" "1"] else []) ++
  (if testFlag types mouseDevice then [.property "ID_INPUT_MOUSE" "1"] else []) ++
  (if testFlag types touchpadDevice then [.property "ID_INPUT_TOUCHPAD" "1"] else []) ++
  (if testFlag types touchscreenDevice then [.property "ID_INPUT_TOUCHSCREEN" "1"] else []) ++
  (if testFlag types tabletDevice then [.property "ID_INPUT_TABLET" "1"] else []) ++
  (if testFlag types joystickDevice then [.property "ID_INPUT_JOYSTICK" "1"] else [])

/-- libudev; `Dev` are the handles of devices. -/
structure Libudev (Dev : Type) where
  /-- whether `udev_enumerate_new` succeeds -/
  enumerateNew : Bool
  /-- the paths of the devices that match, if the scan succeeds -/
  scanDevices : List UdevMatch → Option (List String)
  newFromSyspath : String → Option Dev
  info : Dev → UdevInfo

/-- The variables of `scan`. -/
structure ScanState (Dev : Type) where
  list : List Dev
  drmDevice : Option Dev
  drmPrimaryDevice : Option Dev
  /-- the handles that were given to `udev_device_unref` -/
  unrefed : List Dev

variable {Dev : Type} (info : Dev → UdevInfo) (seat : String) (types : UInt32)

/-- `seat` is the value of `XDG_SEAT`. -/
def onSeat (dev : Dev) : Bool :=
  (if (info dev).idSeat.isEmpty then "seat0" else (info dev).idSeat) == seat

def isEventNode (dev : Dev) : Bool := startsWith (info dev).devnode "/dev/input/event"

def isCardNode (dev : Dev) : Bool := startsWith (info dev).devnode "/dev/dri/card"

/-- It has a parent on the PCI bus whose `boot_vga` is 1. -/
def isBootVga (dev : Dev) : Bool := (info dev).bootVga == some "1"

/-- An event node is added to the list. -/
def addInput (s : ScanState Dev) (dev : Dev) : ScanState Dev :=
  if testFlag types inputDeviceMask && isEventNode info dev then { s with list := s.list ++ [dev] }
  else s

/-- A card becomes one of the candidates. -/
def considerCard (s : ScanState Dev) (dev : Dev) : ScanState Dev :=
  if testFlag types videoDeviceMask && isCardNode info dev then
    let s :=
      if testFlag types primaryVideoDevice && isBootVga info dev then
        { s with drmPrimaryDevice := some dev }
      else s
    if s.drmPrimaryDevice.isNone then
      { s with unrefed := s.unrefed ++ s.drmDevice.toList, drmDevice := some dev }
    else s
  else s

/-- The body of the loop, for a device that could be opened. -/
def scanEntry (s : ScanState Dev) (dev : Dev) : ScanState Dev :=
  if !onSeat info seat dev then { s with unrefed := s.unrefed ++ [dev] }
  else considerCard info types (addInput info types s dev) dev

/-- The variables after the loop. -/
def scanEntries (devs : List Dev) : ScanState Dev :=
  devs.foldl (scanEntry info seat types) ⟨[], none, none, []⟩

/-- Any card is added to the list. -/
def scanResult (s : ScanState Dev) : List Dev :=
  match s.drmPrimaryDevice with
  | some dev => s.list ++ [dev]
  | none => s.list ++ s.drmDevice.toList

/-- The devices that libudev enumerates. -/
def enumerated (udev : Libudev Dev) : List Dev :=
  ((if udev.enumerateNew then udev.scanDevices (matchesOf types) else none).getD []).filterMap
    udev.newFromSyspath

def scan (udev : Libudev Dev) : List Dev :=
  if !udev.enumerateNew then []
  else
    match udev.scanDevices (matchesOf types) with
    | none => []
    | some syspaths =>
      scanResult (scanEntries udev.info seat types (syspaths.filterMap udev.newFromSyspath))

/-! ## What is asked for -/

def inputTypes : List UInt32 :=
  [keyboardDevice, mouseDevice, touchpadDevice, touchscreenDevice, tabletDevice, joystickDevice]

/-- At least one input type was requested. -/
def wantsInput : Bool := inputTypes.any (testFlag types)

/-- A video type was requested. -/
def wantsVideo : Bool := testFlag types genericVideoDevice || testFlag types primaryVideoDevice

/-- The event nodes of the seat. -/
def eventNodes (devs : List Dev) : List Dev :=
  devs.filter fun dev => onSeat info seat dev && isEventNode info dev

/-- The cards of the seat. -/
def cards (devs : List Dev) : List Dev :=
  devs.filter fun dev => onSeat info seat dev && isCardNode info dev

/-- **What a scan is to select** of the devices. -/
structure Selects (devs result : List Dev) : Prop where
  input : result.filter (isEventNode info) =
    if wantsInput types then eventNodes info seat devs else []
  card : wantsVideo types = true → cards info seat devs ≠ [] →
    ∃ card ∈ cards info seat devs, result.filter (isCardNode info) = [card] ∧
      (testFlag types primaryVideoDevice = true →
        (∃ boot ∈ cards info seat devs, isBootVga info boot = true) → isBootVga info card = true)

/-- **The condition.**  All or none of the input types are requested, and the primary
card not without the generic type, unless there is nothing to select. -/
structure SelectOk (devs : List Dev) : Prop where
  input : (∀ t ∈ inputTypes, testFlag types t = true) ∨ (∀ t ∈ inputTypes, testFlag types t = false) ∨
    eventNodes info seat devs = []
  card : testFlag types primaryVideoDevice = true →
    testFlag types genericVideoDevice = true ∨ cards info seat devs = []

/-! ## The loop -/

/-- What the loop makes of a device. -/
inductive Role
  | elsewhere
  | input
  | primary
  | card
  | other
deriving DecidableEq, Repr

def role (dev : Dev) : Role :=
  if !onSeat info seat dev then .elsewhere
  else if testFlag types inputDeviceMask && isEventNode info dev then .input
  else if testFlag types videoDeviceMask && isCardNode info dev then
    if testFlag types primaryVideoDevice && isBootVga info dev then .primary else .card
  else .other

/-- The variables after a device. -/
def ScanState.after (s : ScanState Dev) (dev : Dev) : Role → ScanState Dev
  | .elsewhere => { s with unrefed := s.unrefed ++ [dev] }
  | .input => { s with list := s.list ++ [dev] }
  | .primary => { s with drmPrimaryDevice := some dev }
  | .card =>
    if s.drmPrimaryDevice.isNone then
      { s with unrefed := s.unrefed ++ s.drmDevice.toList, drmDevice := some dev }
    else s
  | .other => s

section
variable {info seat types} {s : ScanState Dev} {dev : Dev}

theorem not_isCardNode (h : isEventNode info dev = true) : isCardNode info dev = false := by
  refine Bool.eq_false_iff.2 fun hcard => ?_
  have hevent := List.isPrefixOf_iff_prefix.1 h
  rcases List.prefix_or_prefix_of_prefix hevent (List.isPrefixOf_iff_prefix.1 hcard) with h' | h'
  · exact absurd h' (by decide)
  · exact absurd h' (by decide)

theorem considerCard_not (h : (testFlag types videoDeviceMask && isCardNode info dev) = false) :
    considerCard info types s dev = s := by
  unfold considerCard
  rw [h]
  rfl

/-- **What the body does** depends on the role of the device. -/
theorem scanEntry_eq : scanEntry info seat types s dev = s.after dev (role info seat types dev) := by
  unfold scanEntry role
  split
  · rfl
  · unfold addInput
    split
    · next hinput =>
      obtain ⟨-, hnode⟩ := Bool.and_eq_true_iff.1 hinput
      refine considerCard_not ?_
      rw [not_isCardNode hnode, Bool.and_false]
    · split
      · next hcard =>
        unfold considerCard
        rw [if_pos hcard]
        split
        · rfl
        · rfl
      · next hcard => exact considerCard_not (Bool.not_eq_true _ ▸ hcard)

theorem scanEntries_concat (devs : List Dev) : scanEntries info seat types (devs ++ [dev]) =
    (scanEntries info seat types devs).after dev (role info seat types dev) := by
  unfold scanEntries
  rw [List.foldl_append, List.foldl_cons, List.foldl_nil, scanEntry_eq]

end

theorem after_card (s : ScanState Dev) (dev : Dev) : (s.after dev .card).list = s.list ∧
    (s.after dev .card).drmPrimaryDevice = s.drmPrimaryDevice ∧
    (s.drmPrimaryDevice = none → (s.after dev .card).drmDevice = some dev) := by
  unfold ScanState.after
  dsimp only
  split
  · exact ⟨rfl, rfl, fun _ => rfl⟩
  · next hsome => exact ⟨rfl, rfl, fun hnone => absurd (by rw [hnone]; rfl) hsome⟩

/-- The devices with a role, in their order. -/
def withRole (r : Role) (devs : List Dev) : List Dev :=
  devs.filter fun dev => role info seat types dev = r

section
variable {info seat types}

theorem withRole_concat (r : Role) (devs : List Dev) (dev : Dev) :
    withRole info seat types r (devs ++ [dev]) =
      withRole info seat types r devs ++ if role info seat types dev = r then [dev] else [] := by
  unfold withRole
  rw [List.filter_append, List.filter_cons, List.filter_nil]
  simp

/-- **After the loop.**  The list has the event nodes, the last primary card is kept, and
where there was none the last card. -/
theorem scanEntries_spec (info : Dev → UdevInfo) (seat : String) (types : UInt32) (devs : List Dev) :
    (scanEntries info seat types devs).list = withRole info seat types .input devs ∧
    (scanEntries info seat types devs).drmPrimaryDevice =
      (withRole info seat types .primary devs).getLast? ∧
    ((withRole info seat types .primary devs) = [] →
      (scanEntries info seat types devs).drmDevice =
        (withRole info seat types .card devs).getLast?) := by
  induction devs using List.reverseRecOn with
  | nil => exact ⟨rfl, rfl, fun _ => rfl⟩
  | append_singleton devs dev ih =>
    obtain ⟨hlist, hprimary, hcard⟩ := ih
    rw [scanEntries_concat, withRole_concat, withRole_concat, withRole_concat]
    cases hrole : role info seat types dev with
    | elsewhere => simpa [ScanState.after] using ⟨hlist, hprimary, hcard⟩
    | input => simpa [ScanState.after] using ⟨hlist, hprimary, hcard⟩
    | other => simpa [ScanState.after] using ⟨hlist, hprimary, hcard⟩
    | primary => simpa [ScanState.after] using hlist
    | card =>
      obtain ⟨hlist', hprimary', hcard'⟩ := after_card (scanEntries info seat types devs) dev
      rw [hlist', hprimary', hlist, hprimary]
      simp only [reduceCtorEq, if_false, if_true, List.append_nil, List.getLast?_concat, true_and]
      intro hnone
      rw [hcard' (by rw [hprimary, hnone]; rfl)]

/-- **What the scan returns**: the event nodes and one card. -/
theorem scanResult_eq (devs : List Dev) : scanResult (scanEntries info seat types devs) =
    withRole info seat types .input devs ++
      ((withRole info seat types .primary devs).getLast?.or
        (withRole info seat types .card devs).getLast?).toList := by
  obtain ⟨hlist, hprimary, hcard⟩ := scanEntries_spec info seat types devs
  unfold scanResult
  rw [hlist, hprimary]
  cases hlast : (withRole info seat types .primary devs).getLast? with
  | none => rw [hcard (List.getLast?_eq_none_iff.1 hlast), Option.none_or]
  | some dev => rfl

end

/-! ## Masks -/

theorem testFlag_iff {types flag : UInt32} (h : flag ≠ 0) :
    testFlag types flag = true ↔ types &&& flag = flag := by
  unfold testFlag
  rw [Bool.and_eq_true_iff, beq_iff_eq, bne_iff_ne.2 h, Bool.true_or, and_iff_left rfl]

/-- Bits that are set in a word with which all bits of another are set. -/
theorem and_of_and {w a c : UInt32} (h : w &&& c = c) (hac : c &&& a = a) : w &&& a = a := by
  calc w &&& a = w &&& (c &&& a) := by rw [hac]
    _ = w &&& c &&& a := (UInt32.and_assoc ..).symm
    _ = a := by rw [h, hac]

theorem or_and_left (a b : UInt32) : (a ||| b) &&& a = a := by
  rw [← UInt32.toBitVec_inj, UInt32.toBitVec_and, UInt32.toBitVec_or]
  ext i
  simp
  exact Or.inl

/-- **All bits of two flags** are set if those of each are. -/
theorem and_or_iff (w a b : UInt32) : w &&& (a ||| b) = a ||| b ↔ w &&& a = a ∧ w &&& b = b := by
  constructor
  · intro h
    exact ⟨and_of_and h (or_and_left a b), and_of_and h (UInt32.or_comm b a ▸ or_and_left b a)⟩
  · rintro ⟨ha, hb⟩
    rw [← UInt32.toBitVec_inj] at ha hb ⊢
    rw [UInt32.toBitVec_and, UInt32.toBitVec_or, BitVec.and_or_distrib_left]
    rw [UInt32.toBitVec_and] at ha hb
    rw [ha, hb]

/-- **The mask holds if every type of it was requested.** -/
theorem testFlag_inputDeviceMask (types : UInt32) : testFlag types inputDeviceMask = true ↔
    ∀ t ∈ inputTypes, testFlag types t = true := by
  have hone : ∀ t ∈ inputTypes, (testFlag types t = true ↔ types &&& t = t) := by
    intro t ht
    refine testFlag_iff ?_
    rintro rfl
    exact absurd ht (by decide)
  rw [testFlag_iff (by decide), forall₂_congr hone]
  unfold inputDeviceMask inputTypes
  simp only [and_or_iff, List.forall_mem_cons, List.not_mem_nil, false_implies, implies_true,
    and_assoc, and_true]

/-! ## What is selected -/

section
variable {info seat types}

theorem mem_withRole {r : Role} {devs : List Dev} {dev : Dev} :
    dev ∈ withRole info seat types r devs ↔ dev ∈ devs ∧ role info seat types dev = r := by
  unfold withRole
  rw [List.mem_filter, decide_eq_true_iff]

/-- The role of a card of the seat, once cards are looked at. -/
theorem role_of_card {dev : Dev} (hgeneric : testFlag types videoDeviceMask = true)
    (hseat : onSeat info seat dev = true) (hcard : isCardNode info dev = true) :
    role info seat types dev =
      if testFlag types primaryVideoDevice && isBootVga info dev then .primary else .card := by
  have hevent : isEventNode info dev = false := by
    refine Bool.eq_false_iff.2 fun hevent => ?_
    rw [not_isCardNode hevent] at hcard
    cases hcard
  unfold role
  rw [hseat, hevent, hgeneric, hcard, Bool.and_false]
  rfl

/-- A device with the role of a card is one. -/
theorem card_of_role {dev : Dev}
    (h : role info seat types dev = .primary ∨ role info seat types dev = .card) :
    testFlag types videoDeviceMask = true ∧ onSeat info seat dev = true ∧
      isCardNode info dev = true := by
  unfold role at h
  cases hseat : onSeat info seat dev with
  | false => simp [hseat] at h
  | true =>
    rw [hseat, if_neg (by decide)] at h
    split at h
    · simp at h
    · split at h
      · next hcard =>
        obtain ⟨hmask, hnode⟩ := Bool.and_eq_true_iff.1 hcard
        exact ⟨hmask, rfl, hnode⟩
      · simp at h

/-- A device that is no event node to be listed has another role than one. -/
theorem input_of_role {dev : Dev} : role info seat types dev = .input ↔
    testFlag types inputDeviceMask = true ∧ onSeat info seat dev = true ∧
      isEventNode info dev = true := by
  have hrest : ∀ b b' : Bool,
      (if b then if b' then Role.primary else .card else .other) ≠ Role.input := by decide
  unfold role
  cases onSeat info seat dev with
  | false => simp
  | true =>
    rw [if_neg (by decide)]
    split
    · next hinput => exact iff_of_true rfl ((Bool.and_eq_true_iff.1 hinput).imp_right fun h => ⟨rfl, h⟩)
    · next hinput =>
      refine iff_of_false (hrest _ _) ?_
      rintro ⟨hmask, -, hnode⟩
      exact hinput (Bool.and_eq_true_iff.2 ⟨hmask, hnode⟩)

/-- The event nodes that are listed. -/
theorem withRole_input (devs : List Dev) : withRole info seat types .input devs =
    if testFlag types inputDeviceMask then eventNodes info seat devs else [] := by
  unfold withRole eventNodes
  split
  · next hmask =>
    refine List.filter_congr fun dev _ => ?_
    rw [Bool.eq_iff_iff, decide_eq_true_iff, input_of_role, Bool.and_eq_true_iff, and_iff_right hmask]
  · next hmask =>
    refine List.filter_eq_nil_iff.2 fun dev _ h => ?_
    exact hmask (input_of_role.1 (of_decide_eq_true h)).1

/-- The card that is chosen, if there is one. -/
def chosen (info : Dev → UdevInfo) (seat : String) (types : UInt32) (devs : List Dev) : Option Dev :=
  (withRole info seat types .primary devs).getLast?.or (withRole info seat types .card devs).getLast?

theorem role_of_chosen {devs : List Dev} {dev : Dev} (h : chosen info seat types devs = some dev) :
    dev ∈ devs ∧ (role info seat types dev = .primary ∨ role info seat types dev = .card) := by
  rcases Option.or_eq_some_iff.1 h with h | ⟨-, h⟩
  · obtain ⟨hmem, hrole⟩ := mem_withRole.1 (List.mem_of_getLast? h)
    exact ⟨hmem, Or.inl hrole⟩
  · obtain ⟨hmem, hrole⟩ := mem_withRole.1 (List.mem_of_getLast? h)
    exact ⟨hmem, Or.inr hrole⟩

/-- What is returned is the event nodes and the card, each among its kind. -/
theorem filter_result (info : Dev → UdevInfo) (seat : String) (types : UInt32) (devs : List Dev) :
    (scanResult (scanEntries info seat types devs)).filter (isEventNode info) =
      withRole info seat types .input devs ∧
    (scanResult (scanEntries info seat types devs)).filter (isCardNode info) =
      (chosen info seat types devs).toList := by
  have hinput : ∀ dev ∈ withRole info seat types .input devs, isEventNode info dev = true :=
    fun dev hdev => (input_of_role.1 (mem_withRole.1 hdev).2).2.2
  have hcard : ∀ dev ∈ (chosen info seat types devs).toList, isCardNode info dev = true := by
    intro dev hdev
    exact (card_of_role (role_of_chosen (Option.mem_toList.1 hdev)).2).2.2
  have hno : ∀ dev, isCardNode info dev = true → ¬ isEventNode info dev = true := by
    intro dev hcard hevent
    rw [not_isCardNode hevent] at hcard
    cases hcard
  rw [scanResult_eq]
  show (_ ++ (chosen info seat types devs).toList).filter _ = _ ∧
    (_ ++ (chosen info seat types devs).toList).filter _ = _
  rw [List.filter_append, List.filter_append]
  constructor
  · rw [List.filter_eq_self.2 hinput,
      List.filter_eq_nil_iff.2 fun dev hdev => hno dev (hcard dev hdev), List.append_nil]
  · rw [List.filter_eq_self.2 hcard,
      List.filter_eq_nil_iff.2 fun dev hdev h => hno dev h (hinput dev hdev), List.nil_append]

/-- A card of the seat is chosen, ... -/
theorem exists_chosen (hgeneric : testFlag types genericVideoDevice = true) {devs : List Dev}
    (hcards : cards info seat devs ≠ []) : ∃ card, chosen info seat types devs = some card := by
  obtain ⟨card, hcard⟩ := List.exists_mem_of_ne_nil _ hcards
  obtain ⟨hmem, hcard⟩ := List.mem_filter.1 hcard
  obtain ⟨hseat, hnode⟩ := Bool.and_eq_true_iff.1 hcard
  have hrole := role_of_card hgeneric hseat hnode
  refine Option.ne_none_iff_exists'.1 fun hnone => ?_
  obtain ⟨hprimary, hother⟩ := Option.or_eq_none_iff.1 hnone
  rw [List.getLast?_eq_none_iff] at hprimary hother
  split at hrole
  · exact absurd (mem_withRole.2 ⟨hmem, hrole⟩) (hprimary ▸ List.not_mem_nil)
  · exact absurd (mem_withRole.2 ⟨hmem, hrole⟩) (hother ▸ List.not_mem_nil)

/-- ... one that was used for booting if the primary one is wanted, ... -/
theorem isBootVga_chosen (hgeneric : testFlag types genericVideoDevice = true)
    (hprimary : testFlag types primaryVideoDevice = true) {devs : List Dev} {boot card : Dev}
    (hboot : boot ∈ cards info seat devs) (hvga : isBootVga info boot = true)
    (hchosen : chosen info seat types devs = some card) : isBootVga info card = true := by
  obtain ⟨hmem, hboot⟩ := List.mem_filter.1 hboot
  obtain ⟨hseat, hnode⟩ := Bool.and_eq_true_iff.1 hboot
  have hrole := role_of_card hgeneric hseat hnode
  rw [hprimary, hvga, Bool.and_true, if_pos rfl] at hrole
  have hne : withRole info seat types .primary devs ≠ [] :=
    List.ne_nil_of_mem (mem_withRole.2 ⟨hmem, hrole⟩)
  unfold chosen at hchosen
  rw [List.getLast?_eq_some_getLast hne, Option.some_or] at hchosen
  obtain rfl := Option.some.inj hchosen
  have hlast := (mem_withRole.1 (List.getLast_mem hne)).2
  have hcard := card_of_role (Or.inl hlast)
  rw [role_of_card hcard.1 hcard.2.1 hcard.2.2, hprimary, Bool.true_and] at hlast
  split at hlast
  · assumption
  · cases hlast

/-- ... and none without the generic type. -/
theorem chosen_eq_none (hgeneric : testFlag types genericVideoDevice = false) (devs : List Dev) :
    chosen info seat types devs = none := by
  refine Option.eq_none_iff_forall_ne_some.2 fun card hchosen => ?_
  have hmask : testFlag types genericVideoDevice = true := (card_of_role (role_of_chosen hchosen).2).1
  rw [hgeneric] at hmask
  cases hmask

theorem input_iff (devs : List Dev) :
    withRole info seat types .input devs = (if wantsInput types then eventNodes info seat devs else []) ↔
      (∀ t ∈ inputTypes, testFlag types t = true) ∨ (∀ t ∈ inputTypes, testFlag types t = false) ∨
        eventNodes info seat devs = [] := by
  have hnone : (∀ t ∈ inputTypes, testFlag types t = false) ↔ wantsInput types = false := by
    unfold wantsInput
    rw [List.any_eq_false]
    exact forall₂_congr fun t _ => Bool.eq_false_iff
  rw [withRole_input, ← testFlag_inputDeviceMask, hnone]
  cases hmask : testFlag types inputDeviceMask with
  | false =>
    cases wantsInput types with
    | false => simp
    | true =>
      show [] = eventNodes info seat devs ↔ false = true ∨ true = false ∨ eventNodes info seat devs = []
      rw [eq_comm]
      simp
  | true =>
    have hwants : wantsInput types = true := by
      refine List.any_eq_true.2 ⟨keyboardDevice, List.mem_cons_self, ?_⟩
      exact (testFlag_inputDeviceMask types).1 hmask _ List.mem_cons_self
    simp [hwants]

theorem selects_iff_of_entries (devs : List Dev) :
    Selects info seat types devs (scanResult (scanEntries info seat types devs)) ↔
      SelectOk info seat types devs := by
  obtain ⟨hinput, hcard⟩ := filter_result info seat types devs
  constructor
  · intro h
    refine ⟨(input_iff devs).1 (hinput.symm.trans h.input), fun hprimary => ?_⟩
    cases hgeneric : testFlag types genericVideoDevice with
    | true => exact Or.inl rfl
    | false =>
      refine Or.inr (of_not_not fun hne => ?_)
      have hwants : wantsVideo types = true := by rw [wantsVideo, hprimary, Bool.or_true]
      obtain ⟨card, -, hresult, -⟩ := h.card hwants hne
      rw [hcard, chosen_eq_none hgeneric] at hresult
      cases hresult
  · intro h
    refine ⟨hinput.trans ((input_iff devs).2 h.input), fun hwants hne => ?_⟩
    have hgeneric : testFlag types genericVideoDevice = true := by
      rcases Bool.or_eq_true_iff.1 hwants with hgeneric | hprimary
      · exact hgeneric
      · exact (h.card hprimary).resolve_right hne
    obtain ⟨card, hchosen⟩ := exists_chosen hgeneric hne
    obtain ⟨hmem, hrole⟩ := role_of_chosen hchosen
    obtain ⟨-, hseat, hnode⟩ := card_of_role hrole
    refine ⟨card, List.mem_filter.2 ⟨hmem, Bool.and_eq_true_iff.2 ⟨hseat, hnode⟩⟩, ?_, ?_⟩
    · rw [hcard, hchosen, Option.toList_some]
    · rintro hprimary ⟨boot, hboot, hvga⟩
      exact isBootVga_chosen hgeneric hprimary hboot hvga hchosen

end

theorem scan_eq (udev : Libudev Dev) :
    scan seat types udev = scanResult (scanEntries udev.info seat types (enumerated types udev)) := by
  unfold scan enumerated
  cases udev.enumerateNew with
  | false => rfl
  | true =>
    cases udev.scanDevices (matchesOf types) with
    | none => rfl
    | some syspaths => rfl

/-- **When a scan selects what was asked for.** -/
theorem selects_iff (udev : Libudev Dev) (seat : String) (types : UInt32) :
    Selects udev.info seat types (enumerated types udev) (scan seat types udev) ↔
      SelectOk udev.info seat types (enumerated types udev) := by
  rw [scan_eq]
  exact selects_iff_of_entries _

/-- A keyboard is asked for, and there is one. -/
theorem selects_fails :
    ¬ Selects (fun _ => ⟨"", "/dev/input/event0", none⟩) "seat0" keyboardDevice [()]
      (scan "seat0" keyboardDevice
        ⟨true, fun _ => some ["/sys/class/input/event0"], fun _ => some (),
          fun _ => ⟨"", "/dev/input/event0", none⟩⟩) := by
  intro h
  have hinput := h.input
  revert hinput
  decide +kernel

end UdevEnumerate

end GreenIsland.Platform

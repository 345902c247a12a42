import Mathlib.Data.List.Nodup
import GreenIsland.Lib.Run
import GreenIsland.Lib.WordSet
import GreenIsland.Qt.Basic

/-! CRTC allocation of the KMS device (`EglFSKmsDevice`).

`createScreens` goes through the connectors of the device.  For each one
`crtcForConnector` looks for a CRTC that one of the connector's encoders allows
and that no screen has, `screenForConnector` chooses a mode and makes the
screen.

What is allocated is kept in a word, and CRTCs are entered by their object id,
not by their position: two CRTCs whose ids are congruent modulo 32 share a bit.
No CRTC is given to two screens, whatever the ids are; but a connector is refused
a free CRTC when the bit of every CRTC that it may use is taken.  `TurnOk` says
when that does not happen, and it is exact (`crtcs_allocated_iff`).

A shift by 32 or more has no defined result in C++; here it is what the shift
instructions of x86 and 64-bit Arm make of it, the count modulo 32. -/

namespace GreenIsland.Kms

open WordSet

/-! ## Model -/

/-- `drmModeModeInfo` -/
structure ModeInfo where
  clock : UInt32
  hdisplay : UInt16
  hsyncStart : UInt16
  hsyncEnd : UInt16
  htotal : UInt16
  hskew : UInt16
  vdisplay : UInt16
  vsyncStart : UInt16
  vsyncEnd : UInt16
  vtotal : UInt16
  vscan : UInt16
  vrefresh : UInt32
  flags : UInt32
  type : UInt32
  name : String
deriving DecidableEq

/-- `memset(&crtc_mode, 0, sizeof crtc_mode)` -/
def ModeInfo.zero : ModeInfo := ⟨0, 0, 0, 0, 0, 0, 0, 0, 0, 0, 0, 0, 0, 0, ""⟩

/-- `DRM_MODE_TYPE_PREFERRED` -/
def modeTypePreferred : UInt32 := 8

/-- `DRM_MODE_DISCONNECTED` -/
def modeDisconnected : UInt32 := 2

structure Encoder where
  crtcId : UInt32
  possibleCrtcs : UInt32

structure Connector where
  connectorId : UInt32
  connectorType : UInt32
  connectorTypeId : UInt32
  connection : UInt32
  encoders : List UInt32
  modes : List ModeInfo

/-- `drmModeCrtc`, with the mode if it is valid. -/
structure Crtc where
  mode : Option ModeInfo

/-- What DRM reports about the device. -/
structure Drm where
  crtcs : List UInt32
  crtcs_le : crtcs.length ≤ 32
  connectors : List UInt32
  getConnector : UInt32 → Option Connector
  getEncoder : UInt32 → Option Encoder
  getCrtc : UInt32 → Option Crtc

/-- The output settings, and what the C library makes of a mode text that is not
a word: `sscanf` with `%dx%d`, and `parseModeline`. -/
structure Settings where
  mode : String → Option String
  scanSize : String → Option QSize
  parseModeline : String → Option ModeInfo

inductive OutputConfiguration
  | off
  | preferred
  | current
  | mode (size : QSize)
  | modeline (mode : ModeInfo)
deriving DecidableEq

structure Output where
  name : String
  connectorId : UInt32
  crtcId : UInt32
  mode : Int
  preferredMode : Int
  modes : List ModeInfo
deriving DecidableEq

structure Device where
  crtcAllocator : UInt32
  connectorAllocator : UInt32
  /-- the outputs of the screens, oldest first -/
  screens : List Output
deriving DecidableEq

def Device.init : Device := ⟨0, 0, []⟩

def connectorTypeNames : List String :=
  ["None", "VGA", "DVI", "DVI", "DVI", "Composite", "TV", "LVDS", "CTV", "DIN", "DP", "HDMI",
    "HDMI", "TV", "eDP"]

def nameForConnector (connector : Connector) : String :=
  connectorTypeNames[connector.connectorType.toNat]?.getD "UNKNOWN" ++
    toString connector.connectorTypeId.toNat

/-- The mode text of the output. -/
def Settings.modeText (settings : Settings) (connector : Connector) : String :=
  ((settings.mode (nameForConnector connector)).getD "preferred").toLower

def Settings.configuration (settings : Settings) (text : String) : OutputConfiguration :=
  if text = "off" then .off
  else if text = "preferred" then .preferred
  else if text = "current" then .current
  else
    match settings.scanSize text with
    | some size => .mode size
    | none =>
      match settings.parseModeline text with
      | some mode => .modeline mode
      | none => .preferred

/-- The mode that is set on the connector's CRTC, zero if there is none.  The
connector's id is used as an encoder's; `none` if the CRTC cannot be got. -/
def Drm.crtcMode (drm : Drm) (connector : Connector) : Option ModeInfo :=
  match drm.getEncoder connector.connectorId with
  | none => some ModeInfo.zero
  | some encoder => (drm.getCrtc encoder.crtcId).map fun crtc => crtc.mode.getD ModeInfo.zero

/-- Indices into the modes of a connector, -1 for none. -/
structure Candidates where
  preferred : Int
  current : Int
  configured : Int
  best : Int

/-- The body of the loop over the modes. -/
def Candidates.consider (configuration : OutputConfiguration) (crtcMode : ModeInfo)
    (modes : List ModeInfo) (c : Candidates) (i : Nat) : Candidates :=
  let m := modes.getD i ModeInfo.zero
  let configured :=
    match configuration with
    | .mode size => m.hdisplay.toNat = size.width && m.vdisplay.toNat = size.height
    | _ => false
  let best :=
    if c.best < 0 then (i : Int)
    else
      let bestMode := modes.getD c.best.toNat ModeInfo.zero
      if bestMode.hdisplay < m.hdisplay && bestMode.vdisplay < m.vdisplay then (i : Int)
      else c.best
  { preferred := if m.type &&& modeTypePreferred != 0 then i else c.preferred
    current := if crtcMode = m then i else c.current
    configured := if configured then i else c.configured
    best := best }

/-- The modes of the output with the candidates among them: the connector's, from
the last one to the first, then a modeline and the CRTC's mode.  The index of
the latter is computed from the length of the mode text. -/
def candidates (configuration : OutputConfiguration) (text : String) (crtcMode : ModeInfo)
    (listed : List ModeInfo) : List ModeInfo × Candidates :=
  let c := (List.range listed.length).reverse.foldl
    (Candidates.consider configuration crtcMode listed) ⟨-1, -1, -1, -1⟩
  let (modes, c) :=
    match configuration with
    | .modeline mode => (listed ++ [mode], { c with configured := listed.length })
    | _ => (listed, c)
  let (modes, c) :=
    if c.current < 0 ∧ crtcMode.clock ≠ 0 then
      (modes ++ [crtcMode], { c with current := (text.utf8ByteSize : Int) - 1 })
    else (modes, c)
  (modes, if configuration = .current then { c with configured := c.current } else c)

def Candidates.selected (c : Candidates) : Int :=
  if c.configured ≥ 0 then c.configured
  else if c.best ≥ 0 then c.best
  else if c.preferred ≥ 0 then c.preferred
  else if c.current ≥ 0 then c.current
  else -1

namespace Device

/-- The position of a CRTC that the connector can use, `none` for -1. -/
def crtcForConnector (dev : Device) (drm : Drm) (connector : Connector) : Option Nat :=
  connector.encoders.findSome? fun id =>
    (drm.getEncoder id).bind fun encoder =>
      (List.range drm.crtcs.length).find? fun j =>
        mem encoder.possibleCrtcs j.toUInt32 && !mem dev.crtcAllocator (drm.crtcs.getD j 0)

/-- The screen is made and its objects are allocated. -/
def addScreen (dev : Device) (output : Output) : Device where
  crtcAllocator := insert dev.crtcAllocator output.crtcId
  connectorAllocator := insert dev.connectorAllocator output.connectorId
  screens := dev.screens ++ [output]

/-- `screenForConnector`; the device is left alone when there is no screen. -/
def screenForConnector (dev : Device) (drm : Drm) (settings : Settings) (connector : Connector) :
    Option Device :=
  match dev.crtcForConnector drm connector with
  | none => some dev
  | some crtc =>
    let text := settings.modeText connector
    let configuration := settings.configuration text
    let crtcId := drm.crtcs.getD crtc 0
    if configuration = .off then some dev
    else if configuration = .preferred ∧ connector.connection = modeDisconnected then some dev
    else
      match drm.crtcMode connector with
      | none => some dev
      | some crtcMode =>
        let (modes, c) := candidates configuration text crtcMode connector.modes
        if c.selected < 0 then some dev
        else
          (qAt modes c.selected).map fun _ =>
            dev.addScreen ⟨nameForConnector connector, connector.connectorId, crtcId, c.selected,
              c.preferred, modes⟩

/-- One turn of the loop of `createScreens`. -/
def turn (drm : Drm) (settings : Settings) (dev : Device) (connectorId : UInt32) : Option Device :=
  match drm.getConnector connectorId with
  | none => some dev
  | some connector => dev.screenForConnector drm settings connector

/-- `createScreens` -/
def createScreens (drm : Drm) (settings : Settings) : Option Device :=
  Run.exec (turn drm settings) init drm.connectors

end Device

/-! ## Exclusive and complete allocation -/

/-- A CRTC that one of the connector's encoders allows. -/
def Allowed (drm : Drm) (connector : Connector) (crtcId : UInt32) : Prop :=
  ∃ id ∈ connector.encoders, ∃ encoder, drm.getEncoder id = some encoder ∧
    ∃ j : Nat, drm.crtcs[j]? = some crtcId ∧ encoder.possibleCrtcs.toNat.testBit j = true

namespace Device

def crtcIds (dev : Device) : List UInt32 := dev.screens.map Output.crtcId

/-- No two screens share a CRTC, and the connector was refused one only if all it
could have used were in use. -/
structure Allocated (drm : Drm) (dev : Device) (connectorId : UInt32) (dev' : Device) : Prop where
  exclusive : dev'.crtcIds.Nodup
  refused : ∀ connector, drm.getConnector connectorId = some connector →
    dev.crtcForConnector drm connector = none →
      ∀ crtcId, Allowed drm connector crtcId → crtcId ∈ dev.crtcIds

/-- If a CRTC that the connector can use is free, there is one whose id is not
congruent to that of a CRTC in use. -/
def TurnOk (drm : Drm) (dev : Device) (connectorId : UInt32) : Prop :=
  ∀ connector, drm.getConnector connectorId = some connector →
    (∃ crtcId, Allowed drm connector crtcId ∧ crtcId ∉ dev.crtcIds) →
      ∃ crtcId, Allowed drm connector crtcId ∧
        ∀ used ∈ dev.crtcIds, used.toNat % 32 ≠ crtcId.toNat % 32

/-! ## One connector -/

variable {drm : Drm} {settings : Settings} {dev dev' : Device} {connector : Connector}

/-- The mask of an encoder asks for positions, which are below 32. -/
theorem mem_position (w : UInt32) {j : Nat} (hj : j < 32) :
    mem w j.toUInt32 = w.toNat.testBit j := by
  have hmod : j.toUInt32.toNat % 32 = j := by
    rw [show j.toUInt32.toNat = j % 2 ^ 32 from rfl]
    omega
  rw [mem_eq, hmod]
  rfl

/-- **Refusal.**  A connector is refused when the bits of all the CRTCs that it can
use are set. -/
theorem crtcForConnector_eq_none_iff (drm : Drm) (dev : Device) (connector : Connector) :
    dev.crtcForConnector drm connector = none ↔
      ∀ crtcId, Allowed drm connector crtcId → mem dev.crtcAllocator crtcId = true := by
  unfold crtcForConnector
  simp only [List.findSome?_eq_none_iff, Option.bind_eq_none_iff, List.find?_eq_none, List.mem_range,
    Bool.and_eq_true, Bool.not_eq_true', not_and, Bool.not_eq_false]
  constructor
  · rintro h crtcId ⟨id, hid, encoder, hencoder, j, hj, hbit⟩
    obtain ⟨hlt, rfl⟩ := List.getElem?_eq_some_iff.1 hj
    have hmem := h id hid encoder hencoder j hlt
      (by rw [mem_position _ (by have := drm.crtcs_le; omega), hbit])
    rwa [List.getD_eq_getElem?_getD, List.getElem?_eq_getElem hlt, Option.getD_some] at hmem
  · intro h id hid encoder hencoder j hlt hbit
    rw [mem_position _ (by have := drm.crtcs_le; omega)] at hbit
    rw [List.getD_eq_getElem?_getD, List.getElem?_eq_getElem hlt, Option.getD_some]
    exact h _ ⟨id, hid, encoder, hencoder, j, List.getElem?_eq_getElem hlt, hbit⟩

/-- The bit of the CRTC that is chosen is clear. -/
theorem crtcForConnector_free {j : Nat} (h : dev.crtcForConnector drm connector = some j) :
    mem dev.crtcAllocator (drm.crtcs.getD j 0) = false := by
  obtain ⟨id, -, hid⟩ := List.exists_of_findSome?_eq_some h
  obtain ⟨encoder, -, hj⟩ := Option.bind_eq_some_iff.1 hid
  have hboth := List.find?_some hj
  rw [Bool.and_eq_true, Bool.not_eq_true'] at hboth
  exact hboth.2

/-- What one turn can do: nothing, or make a screen with a CRTC whose bit is clear and
a mode that is in range. -/
theorem turn_cases {connectorId : UInt32} (h : turn drm settings dev connectorId = some dev') :
    dev' = dev ∨ ∃ output, mem dev.crtcAllocator output.crtcId = false ∧
      qAt output.modes output.mode ≠ none ∧ dev' = dev.addScreen output := by
  unfold turn at h
  split at h
  · exact .inl (Option.some.inj h).symm
  · unfold screenForConnector at h
    split at h
    · exact .inl (Option.some.inj h).symm
    next crtc hcrtc =>
      simp only at h
      split_ifs at h
      · exact .inl (Option.some.inj h).symm
      · exact .inl (Option.some.inj h).symm
      · split at h
        · exact .inl (Option.some.inj h).symm
        · split_ifs at h
          · exact .inl (Option.some.inj h).symm
          · obtain ⟨mode, hmode, hdev⟩ := Option.map_eq_some_iff.1 h
            refine .inr ⟨_, ?_, ?_, hdev.symm⟩
            · exact crtcForConnector_free hcrtc
            · exact hmode.symm ▸ Option.some_ne_none mode

/-! ## All connectors -/

/-- The word holds the ids of the CRTCs in use, of which no two are the same, and the
mode of a screen is one of its modes. -/
structure Inv (dev : Device) : Prop where
  allocator : Holds dev.crtcAllocator dev.crtcIds
  nodup : dev.crtcIds.Nodup
  modes : ∀ output ∈ dev.screens, qAt output.modes output.mode ≠ none

theorem inv_init : Inv init := ⟨holds_nil, List.nodup_nil, fun _ h => absurd h List.not_mem_nil⟩

theorem crtcIds_addScreen (dev : Device) (output : Output) :
    (dev.addScreen output).crtcIds = dev.crtcIds ++ [output.crtcId] := by
  simp [crtcIds, addScreen]

/-- **A turn.**  A CRTC whose bit is clear is not in use. -/
theorem inv_turn {connectorId : UInt32} (h : Inv dev)
    (hturn : turn drm settings dev connectorId = some dev') : Inv dev' := by
  rcases turn_cases hturn with rfl | ⟨output, hfree, hmode, rfl⟩
  · exact h
  · refine ⟨?_, ?_, ?_⟩
    · rw [crtcIds_addScreen]
      exact h.allocator.insert output.crtcId
    · rw [crtcIds_addScreen, ← List.concat_eq_append]
      refine h.nodup.concat fun hin => ?_
      rw [h.allocator.mem hin] at hfree
      cases hfree
    · intro o ho
      rcases List.mem_append.1 ho with ho | ho
      · exact h.modes o ho
      · rwa [List.mem_singleton.1 ho]

/-- The screens that `createScreens` makes have different CRTCs. -/
theorem createScreens_exclusive (h : createScreens drm settings = some dev) : dev.crtcIds.Nodup :=
  (Run.exec_inv (fun _ _ _ => inv_turn) drm.connectors init inv_init h).nodup

/-- The mode of a screen that `createScreens` makes is one of its modes. -/
theorem createScreens_modes (h : createScreens drm settings = some dev) :
    ∀ output ∈ dev.screens, qAt output.modes output.mode ≠ none :=
  (Run.exec_inv (fun _ _ _ => inv_turn) drm.connectors init inv_init h).modes

/-- A refusal is justified exactly when the turn is good. -/
theorem allocated_iff_turnOk {connectorId : UInt32} (h : Inv dev)
    (hturn : turn drm settings dev connectorId = some dev') :
    Allocated drm dev connectorId dev' ↔ TurnOk drm dev connectorId := by
  constructor
  · rintro ⟨-, hrefused⟩ connector hconnector ⟨crtcId, hallowed, hfree⟩
    have hsome : ¬ dev.crtcForConnector drm connector = none := fun hnone =>
      hfree (hrefused connector hconnector hnone crtcId hallowed)
    rw [crtcForConnector_eq_none_iff] at hsome
    push Not at hsome
    obtain ⟨c, hc, hclear⟩ := hsome
    refine ⟨c, hc, fun used hused hcongr => hclear ?_⟩
    exact (h.allocator c).2 ⟨used, hused, hcongr⟩
  · intro hok
    refine ⟨(inv_turn h hturn).nodup, fun connector hconnector hnone crtcId hallowed => ?_⟩
    rw [crtcForConnector_eq_none_iff] at hnone
    by_contra hfree
    obtain ⟨c, hc, hclear⟩ := hok connector hconnector ⟨crtcId, hallowed, hfree⟩
    obtain ⟨used, hused, hcongr⟩ := (h.allocator c).1 (hnone c hc)
    exact hclear used hused hcongr

/-- **CRTC allocation.**  Over all the connectors of the device no two screens get
the same CRTC and none is refused a free one, exactly when every turn is good. -/
theorem crtcs_allocated_iff (drm : Drm) (settings : Settings) :
    Run.Each (turn drm settings) (Allocated drm) init drm.connectors ↔
      Run.Each (turn drm settings) (fun dev id _ => TurnOk drm dev id) init drm.connectors :=
  Run.each_congr (fun _ _ _ => inv_turn) (fun _ _ _ => allocated_iff_turnOk) drm.connectors init
    inv_init

/-! ## Two CRTCs with one bit -/

def svga : ModeInfo := { ModeInfo.zero with clock := 40000, hdisplay := 800, vdisplay := 600 }

/-- Two connectors, and two CRTCs with the ids 33 and 65: either connector can use
either CRTC. -/
def twoCrtcs : Drm where
  crtcs := [33, 65]
  crtcs_le := by decide
  connectors := [70, 71]
  getConnector := fun id => some ⟨id, 11, id - 69, 1, [60], [svga]⟩
  getEncoder := fun id => if id = 60 then some ⟨0, 3⟩ else none
  getCrtc := fun _ => none

/-- No output is configured. -/
def noSettings : Settings := ⟨fun _ => none, fun _ => none, fun _ => none⟩

/-- The first connector takes CRTC 33, the second is refused CRTC 65. -/
theorem crtcs_not_allocated :
    ¬ ∀ (drm : Drm) (settings : Settings),
      Run.Each (turn drm settings) (Allocated drm) init drm.connectors := by
  intro h
  have hfirst : turn twoCrtcs noSettings init 70 =
      some (init.addScreen ⟨"HDMI1", 70, 33, 0, -1, [svga]⟩) := by decide +kernel
  obtain ⟨-, hrun⟩ := h twoCrtcs noSettings _ hfirst
  have hsecond : turn twoCrtcs noSettings (init.addScreen ⟨"HDMI1", 70, 33, 0, -1, [svga]⟩) 71 =
      some (init.addScreen ⟨"HDMI1", 70, 33, 0, -1, [svga]⟩) := by decide +kernel
  obtain ⟨hallocated, -⟩ := hrun _ hsecond
  have hin := hallocated.refused _ rfl (by decide) 65 ⟨60, by decide, _, rfl, 1, rfl, by decide⟩
  revert hin
  decide

end Device

end GreenIsland.Kms

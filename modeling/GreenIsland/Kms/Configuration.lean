import Mathlib.Data.List.ReduceOption
import Mathlib.Logic.Function.Basic
import GreenIsland.Kms.Device
import GreenIsland.Qt.Json

/-! The configuration file of the KMS plugin (`EglFSKmsIntegration`).

`saveConfiguration` replaces the member `kms` of the JSON object in the file, in
which it names the mode of each screen: `preferred`, or its size.
`loadConfiguration` reads the file, and `screenForConnector` chooses a mode by what
it says.

What is owed (`RoundTrip`): the file holds the object that was to be written, and
with what is loaded from it every screen's connector gets a mode with the size and
the refresh rate of the screen's.  That is so exactly under `SaveOk`
(`round_trip_iff`):

* what is left of the old content is blank: the file is written over, and not made
  shorter;
* the modes agree that the texts lead to: `preferred` leads to the mode that the
  search for the largest one stops at, and a size to the first mode that has it,
  whatever its rate. -/

namespace GreenIsland.Kms

open QJsonValue

/-! ## Model -/

/-- Qt's JSON reader and writer. -/
structure QtJson where
  fromJson : List UInt8 → QJsonDocument
  toJson : QJsonObject → List UInt8
  numbers : QtNumbers

/-- Size and rate of a mode, as the screen has them. -/
def ModeInfo.size (m : ModeInfo) : QSize := ⟨m.hdisplay.toNat, m.vdisplay.toNat⟩

def ModeInfo.refreshRate (m : ModeInfo) : Nat := if 0 < m.vrefresh then m.vrefresh.toNat else 60

/-- A screen with the connector that it is for, when its configuration is saved. -/
structure SavedScreen where
  connector : Connector
  output : Output
  name_eq : output.name = nameForConnector connector
  /-- the mode that is current -/
  mode : ModeInfo
  mode_eq : qAt output.modes output.mode = some mode

namespace SavedScreen

def isPreferred (screen : SavedScreen) : Bool := screen.output.mode == screen.output.preferredMode

def sizeText (screen : SavedScreen) : String :=
  toString screen.mode.hdisplay.toNat ++ "x" ++ toString screen.mode.vdisplay.toNat

def modeText (screen : SavedScreen) : String :=
  if screen.isPreferred then "preferred" else screen.sizeText

/-- The screen's entry in `outputs`. -/
def entry (screen : SavedScreen) : QJsonObject :=
  QJsonObject.insert (QJsonObject.insert [] "name" (.string screen.output.name)) "mode"
    (.string screen.modeText)

end SavedScreen

structure Integration where
  hwCursor : Bool
  pbuffers : Bool
  devicePath : String
  separateScreens : Bool
  outputSettings : String → Option QJsonObject

namespace Integration

def fresh : Integration := ⟨true, false, "", false, fun _ => none⟩

def insertOutput (numbers : QtNumbers) (outputSettings : String → Option QJsonObject)
    (output : QJsonValue) : String → Option QJsonObject :=
  let settings := toObject (some output)
  if settings.contains "name" then
    Function.update outputSettings (variantToString numbers (settings.value "name")) (some settings)
  else outputSettings

/-- `loadConfiguration`; the content is `none` if the file cannot be opened. -/
def loadConfiguration (qt : QtJson) (s : Integration) (content : Option (List UInt8)) : Integration :=
  match content with
  | none => s
  | some content =>
    let doc := qt.fromJson content
    if !doc.isObject || !doc.toObject.contains "kms" then s
    else
      let object := toObject (doc.toObject.value "kms")
      { hwCursor := toBool (object.value "hwcursor") s.hwCursor
        pbuffers := toBool (object.value "pbuffers") s.pbuffers
        devicePath := toString (object.value "device")
        separateScreens := toBool (object.value "separateScreens") s.separateScreens
        outputSettings :=
          (toArray (object.value "outputs")).foldl (insertOutput qt.numbers) s.outputSettings }

/-- The new value of `kms`.  The device is the one that the file had; a screen is
`none` if it has no handle. -/
def savedSettings (s : Integration) (root : QJsonObject) (screens : List (Option SavedScreen)) :
    QJsonObject :=
  let map := QJsonObject.insert [] "hwcursor" (.bool s.hwCursor)
  let map := map.insert "pbuffers" (.bool s.pbuffers)
  let devicePath := toString ((toObject (root.value "kms")).value "device")
  let map := if devicePath ≠ "" then map.insert "device" (.string devicePath) else map
  let map := map.insert "separateScreens" (.bool s.separateScreens)
  map.insert "outputs" (.array (screens.reduceOption.map fun screen => .object screen.entry))

/-- The object that is to be written, given the content that was read. -/
def savedRoot (qt : QtJson) (s : Integration) (screens : List (Option SavedScreen))
    (content : List UInt8) : QJsonObject :=
  let root := (qt.fromJson content).toObject
  root.insert "kms" (.object (s.savedSettings root screens))

/-- `QFile::write` at the start of a file. -/
def overwrite (content data : List UInt8) : List UInt8 := data ++ content.drop data.length

/-- `saveConfiguration`, from the file's old content to its new one. -/
def saveConfiguration (qt : QtJson) (s : Integration) (screens : List (Option SavedScreen))
    (content : List UInt8) : List UInt8 :=
  overwrite content (qt.toJson (s.savedRoot qt screens content))

/-- What `screenForConnector` sees of the settings. -/
def settings (s : Integration) (numbers : QtNumbers) (scanSize : String → Option QSize)
    (parseModeline : String → Option ModeInfo) : Settings where
  mode name := ((s.outputSettings name).bind fun settings => settings.value "mode").map fun v =>
    variantToString numbers (some v)
  scanSize := scanSize
  parseModeline := parseModeline

end Integration

/-! ## What is owed -/

/-- A mode has the size and the refresh rate of another one. -/
def ModeInfo.Agrees (m m' : ModeInfo) : Prop := m.size = m'.size ∧ m.refreshRate = m'.refreshRate

instance (m m' : ModeInfo) : Decidable (m.Agrees m') := inferInstanceAs (Decidable (_ ∧ _))

/-- A screen is made for the saved one's connector, with a mode that agrees. -/
def Reselected (dev : Device) (drm : Drm) (settings : Settings) (screen : SavedScreen) : Prop :=
  ∃ output mode,
    dev.screenForConnector drm settings screen.connector = some (dev.addScreen output) ∧
      qAt output.modes output.mode = some mode ∧ mode.Agrees screen.mode

/-- The mode that the search for the largest one stops at: it goes from the last to
the first and takes a mode that is larger than its best in both dimensions. -/
def largest : List ModeInfo → Option ModeInfo
  | [] => none
  | m :: modes =>
    match largest modes with
    | none => some m
    | some best => if best.hdisplay < m.hdisplay && best.vdisplay < m.vdisplay then some m else some best

/-- The mode that the saved text of a screen leads to among those of a connector. -/
def SavedScreen.leadsTo (screen : SavedScreen) (modes : List ModeInfo) : Option ModeInfo :=
  if screen.isPreferred then largest modes
  else (modes.find? fun m => m.size = screen.mode.size).or (largest modes)

/-- Connectors may share a name: the last one's text counts. -/
def lastNamed (screens : List SavedScreen) (name : String) : Option SavedScreen :=
  screens.reverse.find? fun screen => screen.output.name = name

/-- What JSON allows between its tokens. -/
def isBlank (b : UInt8) : Bool := b == 0x20 || b == 0x09 || b == 0x0a || b == 0x0d

/-- A screen's connector has a CRTC that can be had, is connected if that matters,
and gets a mode that agrees. -/
structure ConnectorOk (dev : Device) (drm : Drm) (text : SavedScreen) (screen : SavedScreen) :
    Prop where
  crtc : dev.crtcForConnector drm screen.connector ≠ none
  crtcMode : drm.crtcMode screen.connector ≠ none
  connected : text.isPreferred = true → screen.connector.connection ≠ modeDisconnected
  mode : ∃ m, text.leadsTo screen.connector.modes = some m ∧ m.Agrees screen.mode

/-- What is owed by a save, for the screens that are saved, to those who load the
file: `device` is the device when it is a connector's turn. -/
structure RoundTrip (qt : QtJson) (scanSize : String → Option QSize)
    (parseModeline : String → Option ModeInfo) (s : Integration) (screens : List (Option SavedScreen))
    (content : List UInt8) (device : Connector → Device) (drm : Drm) : Prop where
  file : qt.fromJson (s.saveConfiguration qt screens content) =
    .object (s.savedRoot qt screens content)
  modes : ∀ screen ∈ screens.reduceOption,
    Reselected (device screen.connector) drm
      ((Integration.fresh.loadConfiguration qt
        (some (s.saveConfiguration qt screens content))).settings qt.numbers scanSize parseModeline)
      screen

/-- **The saves that do so.** -/
structure SaveOk (qt : QtJson) (s : Integration) (screens : List (Option SavedScreen))
    (content : List UInt8) (device : Connector → Device) (drm : Drm) : Prop where
  blank : ∀ b ∈ content.drop (qt.toJson (s.savedRoot qt screens content)).length, isBlank b = true
  connectors : ∀ screen ∈ screens.reduceOption,
    ∀ text ∈ lastNamed screens.reduceOption screen.output.name,
      ConnectorOk (device screen.connector) drm text screen

/-! ## What is loaded -/

section
variable {screens : List SavedScreen} {screen : SavedScreen} {name : String}

theorem lastNamed_append (screens : List SavedScreen) (screen : SavedScreen) (name : String) :
    lastNamed (screens ++ [screen]) name =
      if screen.output.name = name then some screen else lastNamed screens name := by
  unfold lastNamed
  rw [List.reverse_append, List.reverse_singleton, List.singleton_append, List.find?_cons]
  by_cases h : screen.output.name = name <;> simp [h]

/-- Every screen's name has a text. -/
theorem lastNamed_of_mem (h : screen ∈ screens) :
    ∃ text, lastNamed screens screen.output.name = some text := by
  refine Option.isSome_iff_exists.1 (List.find?_isSome.2 ⟨screen, List.mem_reverse.2 h, ?_⟩)
  exact decide_eq_true rfl

theorem mem_of_lastNamed {text : SavedScreen} (h : lastNamed screens name = some text) :
    text ∈ screens := List.mem_reverse.1 (List.mem_of_find?_eq_some h)

theorem value_entry_name (screen : SavedScreen) :
    screen.entry.value "name" = some (.string screen.output.name) := by
  unfold SavedScreen.entry
  rw [QJsonObject.value_insert_of_ne _ (by decide), QJsonObject.value_insert_self]

theorem value_entry_mode (screen : SavedScreen) :
    screen.entry.value "mode" = some (.string screen.modeText) :=
  QJsonObject.value_insert_self ..

/-- The last entry with a name stays. -/
theorem outputSettings_foldl (numbers : QtNumbers) (screens : List SavedScreen)
    (settings : String → Option QJsonObject) (name : String) :
    (screens.map fun screen => QJsonValue.object screen.entry).foldl
        (Integration.insertOutput numbers) settings name =
      ((lastNamed screens name).map SavedScreen.entry).or (settings name) := by
  induction screens using List.reverseRecOn with
  | nil => rfl
  | append_singleton screens screen ih =>
    have hname : screen.entry.contains "name" = true := by
      unfold QJsonObject.contains
      rw [value_entry_name]
      rfl
    rw [List.map_append, List.foldl_append, lastNamed_append, List.map_singleton, List.foldl_cons,
      List.foldl_nil, Integration.insertOutput]
    simp only [QJsonValue.toObject, hname, value_entry_name]
    by_cases h : screen.output.name = name
    · subst h
      rw [if_pos rfl]
      exact Function.update_self ..
    · rw [if_neg h, ← ih]
      exact Function.update_of_ne (Ne.symm h) ..

/-- **Loading what was saved.** -/
theorem mode_loaded {qt : QtJson} {s : Integration} {screens : List (Option SavedScreen)}
    {content : List UInt8}
    (hfile : qt.fromJson (s.saveConfiguration qt screens content) =
      .object (s.savedRoot qt screens content))
    (scanSize : String → Option QSize) (parseModeline : String → Option ModeInfo) (name : String) :
    ((Integration.fresh.loadConfiguration qt
        (some (s.saveConfiguration qt screens content))).settings qt.numbers scanSize
          parseModeline).mode name =
      (lastNamed screens.reduceOption name).map SavedScreen.modeText := by
  set root := (qt.fromJson content).toObject with hroot
  have hkms : (s.savedRoot qt screens content).value "kms" =
      some (.object (s.savedSettings root screens)) := QJsonObject.value_insert_self ..
  have hcontains : (s.savedRoot qt screens content).contains "kms" = true := by
    unfold QJsonObject.contains
    rw [hkms]
    rfl
  have houtputs : (s.savedSettings root screens).value "outputs" =
      some (.array (screens.reduceOption.map fun screen => .object screen.entry)) :=
    QJsonObject.value_insert_self ..
  unfold Integration.loadConfiguration
  simp only [hfile, QJsonDocument.isObject, QJsonDocument.toObject, hcontains, hkms,
    QJsonValue.toObject, houtputs, QJsonValue.toArray, Bool.not_true, Bool.or_self,
    Bool.false_eq_true, if_false, Integration.settings, outputSettings_foldl, Integration.fresh]
  cases lastNamed screens.reduceOption name with
  | none => rfl
  | some text =>
    show Option.map _ (text.entry.value "mode") = _
    rw [value_entry_mode]
    rfl

end

/-! ## The texts of modes -/

theorem toLower_of_isDigit {c : Char} (h : c.isDigit = true) : c.toLower = c := by
  unfold Char.toLower
  refine dif_neg fun hupper => ?_
  rw [Char.isDigit, Bool.and_eq_true, decide_eq_true_eq, decide_eq_true_eq] at h
  exact absurd (UInt32.le_trans hupper.1 h.2) (by decide)

theorem isDigit_of_mem_toString {n : Nat} {c : Char} (h : c ∈ (toString n).toList) :
    c.isDigit = true := by
  rw [show toString n = n.repr from rfl, Nat.toList_repr] at h
  exact Nat.isDigit_of_mem_toDigits (by decide) (by decide) h

namespace SavedScreen

theorem mem_sizeText {screen : SavedScreen} {c : Char} (h : c ∈ screen.sizeText.toList) :
    c.isDigit = true ∨ c = 'x' := by
  unfold sizeText at h
  rw [String.toList_append, String.toList_append, List.mem_append, List.mem_append] at h
  rcases h with (h | h) | h
  · exact Or.inl (isDigit_of_mem_toString h)
  · exact Or.inr (List.mem_singleton.1 h)
  · exact Or.inl (isDigit_of_mem_toString h)

theorem toLower_sizeText (screen : SavedScreen) : screen.sizeText.toLower = screen.sizeText := by
  refine String.toList_inj.1 ?_
  show (screen.sizeText.map Char.toLower).toList = screen.sizeText.toList
  rw [String.toList_map]
  refine (List.map_congr_left fun c hc => ?_).trans (List.map_id _)
  rcases mem_sizeText hc with h | rfl
  · exact toLower_of_isDigit h
  · rfl

/-- A size is not one of the words. -/
theorem sizeText_ne {screen : SavedScreen} {word : String} {c : Char} (hc : c ∈ word.toList)
    (hdigit : c.isDigit = false) (hx : c ≠ 'x') : screen.sizeText ≠ word := by
  rintro rfl
  rcases mem_sizeText hc with h | h
  · exact Bool.false_ne_true (hdigit.symm.trans h)
  · exact hx h

theorem le_utf8ByteSize_sizeText (screen : SavedScreen) : 2 ≤ screen.sizeText.utf8ByteSize := by
  have hwidth : (toString screen.mode.hdisplay.toNat).utf8ByteSize ≠ 0 :=
    mt String.utf8ByteSize_eq_zero_iff.1 Nat.repr_ne_empty
  have hx : ("x" : String).utf8ByteSize = 1 := by decide
  unfold sizeText
  rw [String.utf8ByteSize_append, String.utf8ByteSize_append, hx]
  omega

/-- What the text of a screen asks for. -/
def configuration (screen : SavedScreen) : OutputConfiguration :=
  if screen.isPreferred then .preferred else .mode screen.mode.size

theorem toLower_modeText (screen : SavedScreen) : screen.modeText.toLower = screen.modeText := by
  unfold modeText
  split
  · refine String.toList_inj.1 ?_
    show (String.map Char.toLower _).toList = _
    rw [String.toList_map]
    decide
  · exact toLower_sizeText screen

theorem le_utf8ByteSize_modeText (screen : SavedScreen) : 2 ≤ screen.modeText.utf8ByteSize := by
  unfold modeText
  split
  · decide
  · exact le_utf8ByteSize_sizeText screen

theorem configuration_modeText {screen : SavedScreen} {settings : Settings}
    (hscan : settings.scanSize screen.sizeText = some screen.mode.size) :
    settings.configuration screen.modeText = screen.configuration := by
  unfold modeText SavedScreen.configuration
  split
  · rfl
  · have hoff : screen.sizeText ≠ "off" :=
      sizeText_ne (List.mem_of_mem_head? (a := 'o') rfl) (by decide) (by decide)
    have hpreferred : screen.sizeText ≠ "preferred" :=
      sizeText_ne (List.mem_of_mem_head? (a := 'p') rfl) (by decide) (by decide)
    have hcurrent : screen.sizeText ≠ "current" :=
      sizeText_ne (List.mem_of_mem_head? (a := 'c') rfl) (by decide) (by decide)
    unfold Settings.configuration
    rw [if_neg hoff, if_neg hpreferred, if_neg hcurrent, hscan]

end SavedScreen

/-! ## The choice of a mode -/

section
variable {modes listed : List ModeInfo} {configuration : OutputConfiguration} {crtcMode : ModeInfo}

/-- The mode is one that the configuration asks for by its size. -/
def OutputConfiguration.fits (configuration : OutputConfiguration) (m : ModeInfo) : Bool :=
  match configuration with
  | .mode size => m.hdisplay.toNat = size.width && m.vdisplay.toNat = size.height
  | _ => false

/-- An index is that of the mode that was found, or negative. -/
def Picks (modes : List ModeInfo) (i : Int) : Option ModeInfo → Prop
  | none => i < 0
  | some m => 0 ≤ i ∧ modes[i.toNat]? = some m

theorem picks_self {k : Nat} (hk : k < modes.length) : Picks modes (k : Int) (some modes[k]) :=
  ⟨Int.natCast_nonneg k, by rw [Int.toNat_natCast]; exact List.getElem?_eq_getElem hk⟩

theorem Picks.ne_none {i : Int} {found : Option ModeInfo} (h : Picks modes i found) (hi : 0 ≤ i) :
    ∃ m, found = some m ∧ modes[i.toNat]? = some m := by
  cases found with
  | none => exact absurd hi (Int.not_le.2 h)
  | some m => exact ⟨m, rfl, h.2⟩

theorem Picks.eq_none {i : Int} {found : Option ModeInfo} (h : Picks modes i found) (hi : i < 0) :
    found = none := by
  cases found with
  | none => rfl
  | some m => exact absurd h.1 (Int.not_le.2 hi)

/-- **Loop rule.**  The loop goes from the last mode to the first: what it says of the
modes behind `k` has to become what it says of those from `k` on. -/
theorem foldl_drop {P : Candidates → List ModeInfo → Prop} (hnil : P ⟨-1, -1, -1, -1⟩ [])
    (hturn : ∀ (c : Candidates) (k : Nat), k < modes.length → P c (modes.drop (k + 1)) →
      P (c.consider configuration crtcMode modes k) (modes.drop k)) :
    P ((List.range modes.length).reverse.foldl
      (Candidates.consider configuration crtcMode modes) ⟨-1, -1, -1, -1⟩) modes := by
  let turn (i : Nat) (c : Candidates) := c.consider configuration crtcMode modes i
  have hloop : ∀ n k, k + n = modes.length →
      P ((List.range' k n).foldr turn ⟨-1, -1, -1, -1⟩) (modes.drop k) := by
    intro n
    induction n with
    | zero =>
      intro k hk
      rw [List.drop_eq_nil_of_le (by omega)]
      exact hnil
    | succ n ih =>
      intro k hk
      rw [List.range'_succ, List.foldr_cons]
      exact hturn _ k (by omega) (ih (k + 1) (by omega))
  rw [List.foldl_reverse, List.range_eq_range']
  exact hloop modes.length 0 (Nat.zero_add _)

theorem getD_eq_getElem {k : Nat} (hk : k < modes.length) : modes.getD k ModeInfo.zero = modes[k] := by
  rw [List.getD_eq_getElem?_getD, List.getElem?_eq_getElem hk, Option.getD_some]

/-- A candidate that every mode with a property replaces is the first such mode. -/
theorem foldl_finds {index : Candidates → Int} {p : ModeInfo → Bool}
    (hnone : index ⟨-1, -1, -1, -1⟩ < 0)
    (hturn : ∀ (c : Candidates) (k : Nat) (hk : k < modes.length),
      index (c.consider configuration crtcMode modes k) = if p modes[k] then (k : Int) else index c) :
    Picks modes (index ((List.range modes.length).reverse.foldl
      (Candidates.consider configuration crtcMode modes) ⟨-1, -1, -1, -1⟩)) (modes.find? p) := by
  refine foldl_drop (P := fun c rest => Picks modes (index c) (rest.find? p)) hnone ?_
  intro c k hk hrest
  rw [List.drop_eq_getElem_cons hk, List.find?_cons, hturn c k hk]
  by_cases hp : p modes[k] = true
  · rw [if_pos hp, hp]
    exact picks_self hk
  · rw [if_neg hp, Bool.eq_false_iff.2 hp]
    exact hrest

/-- The search for the largest mode, at `k`. -/
theorem consider_best {k : Nat} (hk : k < modes.length) {c : Candidates}
    (hbest : Picks modes c.best (largest (modes.drop (k + 1)))) :
    Picks modes (c.consider configuration crtcMode modes k).best (largest (modes.drop k)) := by
  rw [List.drop_eq_getElem_cons hk]
  unfold Candidates.consider largest
  dsimp only
  rw [getD_eq_getElem hk]
  cases hrest : largest (modes.drop (k + 1)) with
  | none =>
    rw [hrest] at hbest
    rw [if_pos (show c.best < 0 from hbest)]
    exact picks_self hk
  | some best =>
    rw [hrest] at hbest
    have hbestMode : modes.getD c.best.toNat ModeInfo.zero = best := by
      rw [List.getD_eq_getElem?_getD, hbest.2, Option.getD_some]
    rw [if_neg (Int.not_lt.2 hbest.1), hbestMode]
    dsimp only
    split
    · exact picks_self hk
    · exact hbest

/-- The loop over the modes. -/
theorem foldl_picks (configuration : OutputConfiguration) (crtcMode : ModeInfo)
    (modes : List ModeInfo) :
    Picks modes ((List.range modes.length).reverse.foldl
        (Candidates.consider configuration crtcMode modes) ⟨-1, -1, -1, -1⟩).configured
          (modes.find? configuration.fits) ∧
      Picks modes ((List.range modes.length).reverse.foldl
        (Candidates.consider configuration crtcMode modes) ⟨-1, -1, -1, -1⟩).best (largest modes) := by
  have hnone : (-1 : Int) < 0 := by decide
  constructor
  · refine foldl_finds hnone fun c k hk => ?_
    unfold Candidates.consider OutputConfiguration.fits
    rewrite [getD_eq_getElem hk]
    cases configuration <;> rfl
  · exact foldl_drop (P := fun c rest => Picks modes c.best (largest rest)) hnone
      fun c k hk hbest => consider_best hk hbest

/-- The candidate for the mode of the CRTC. -/
theorem foldl_current (configuration : OutputConfiguration) (crtcMode : ModeInfo)
    (modes : List ModeInfo) :
    Picks modes ((List.range modes.length).reverse.foldl
      (Candidates.consider configuration crtcMode modes) ⟨-1, -1, -1, -1⟩).current
        (modes.find? fun m => decide (crtcMode = m)) := by
  refine foldl_finds (by decide) fun c k hk => ?_
  unfold Candidates.consider
  rw [getD_eq_getElem hk]
  simp only [decide_eq_true_eq]

theorem largest_eq_none (h : largest modes = none) : modes = [] := by
  cases modes with
  | nil => rfl
  | cons m modes =>
    unfold largest at h
    split at h
    · cases h
    · split at h <;> cases h

/-- The mode that a configuration leads to. -/
def OutputConfiguration.leadsTo (configuration : OutputConfiguration) (modes : List ModeInfo) :
    Option ModeInfo := (modes.find? configuration.fits).or (largest modes)

theorem leadsTo_configuration (screen : SavedScreen) (modes : List ModeInfo) :
    screen.configuration.leadsTo modes = screen.leadsTo modes := by
  unfold SavedScreen.configuration SavedScreen.leadsTo OutputConfiguration.leadsTo
  split
  · have hnone : modes.find? (OutputConfiguration.fits .preferred) = none :=
      List.find?_eq_none.2 fun m _ => Bool.false_ne_true
    rw [hnone, Option.none_or]
  · have hfits : OutputConfiguration.fits (.mode screen.mode.size) =
        fun m => decide (m.size = screen.mode.size) := by
      funext m
      unfold OutputConfiguration.fits ModeInfo.size
      rw [Bool.eq_iff_iff]
      simp
    rw [hfits]

/-- What becomes of the modes and the candidates after the loop. -/
theorem candidates_eq (hcurrent : configuration ≠ .current)
    (hmodeline : ∀ m, configuration ≠ .modeline m) (text : String) (crtcMode : ModeInfo)
    (listed : List ModeInfo) :
    let c := (List.range listed.length).reverse.foldl
      (Candidates.consider configuration crtcMode listed) ⟨-1, -1, -1, -1⟩
    candidates configuration text crtcMode listed =
      if c.current < 0 ∧ crtcMode.clock ≠ 0 then
        (listed ++ [crtcMode], { c with current := (text.utf8ByteSize : Int) - 1 })
      else (listed, c) := by
  unfold candidates
  cases configuration with
  | current => exact absurd rfl hcurrent
  | modeline m => exact absurd rfl (hmodeline m)
  | off => simp only [reduceCtorEq, if_false]
  | preferred => simp only [reduceCtorEq, if_false]
  | mode size => simp only [reduceCtorEq, if_false]

/-- An index selects a mode, or it selects none. -/
def Selects (modes : List ModeInfo) (i : Int) : Option ModeInfo → Prop
  | some m => 0 ≤ i ∧ qAt modes i = some m
  | none => i < 0 ∨ qAt modes i = none

/-- The configured mode comes first, then the largest one; what is appended to the
modes does not matter then. -/
theorem selects_of_picks {c : Candidates} {m : ModeInfo}
    (hconfigured : Picks listed c.configured (listed.find? configuration.fits))
    (hbest : Picks listed c.best (largest listed))
    (hleads : configuration.leadsTo listed = some m) (current : Int) (appended : List ModeInfo) :
    Selects (listed ++ appended) { c with current := current }.selected (some m) := by
  have hprefix : ∀ {i : Int}, 0 ≤ i → listed[i.toNat]? = some m →
      Selects (listed ++ appended) i (some m) := by
    intro i hi hm
    refine ⟨hi, ?_⟩
    rw [qAt_of_nonneg hi, List.getElem?_append_left (List.getElem?_eq_some_iff.1 hm).1, hm]
  unfold OutputConfiguration.leadsTo at hleads
  unfold Candidates.selected
  by_cases h : c.configured ≥ 0
  · obtain ⟨m', hm', hget⟩ := hconfigured.ne_none h
    rw [hm', Option.some_or] at hleads
    obtain rfl := Option.some.inj hleads
    simp only [h, if_true]
    exact hprefix h hget
  · rw [hconfigured.eq_none (Int.not_le.1 h), Option.none_or] at hleads
    rw [hleads] at hbest
    simp only [h, if_false, hbest.1, ge_iff_le, if_true]
    exact hprefix hbest.1 hbest.2

/-- What a configuration leads to is selected. -/
theorem candidates_leads (hcurrent : configuration ≠ .current)
    (hmodeline : ∀ m, configuration ≠ .modeline m) (text : String) (crtcMode : ModeInfo)
    {m : ModeInfo} (hleads : configuration.leadsTo listed = some m) :
    Selects (candidates configuration text crtcMode listed).1
      (candidates configuration text crtcMode listed).2.selected (some m) := by
  obtain ⟨hconfigured, hbest⟩ := foldl_picks configuration crtcMode listed
  have hchosen := candidates_eq hcurrent hmodeline text crtcMode listed
  dsimp only at hchosen
  set c := (List.range listed.length).reverse.foldl
    (Candidates.consider configuration crtcMode listed) ⟨-1, -1, -1, -1⟩ with hc
  rw [hchosen]
  have hselects := selects_of_picks hconfigured hbest hleads
  split
  · exact hselects _ [crtcMode]
  · have hsame := hselects c.current []
    rwa [List.append_nil] at hsame

/-- **The choice.**  Words other than `current`, and sizes, lead to one of the listed
modes if there are any. -/
theorem candidates_selected {text : String} (htext : 2 ≤ text.utf8ByteSize)
    (hcurrent : configuration ≠ .current) (hmodeline : ∀ m, configuration ≠ .modeline m)
    (crtcMode : ModeInfo) (listed : List ModeInfo) :
    Selects (candidates configuration text crtcMode listed).1
      (candidates configuration text crtcMode listed).2.selected (configuration.leadsTo listed) := by
  cases hleads : configuration.leadsTo listed with
  | some m => exact candidates_leads hcurrent hmodeline text crtcMode hleads
  | none =>
    have hnil : listed = [] :=
      largest_eq_none (Option.or_eq_none_iff.1 hleads).2
    subst hnil
    rw [candidates_eq hcurrent hmodeline text crtcMode []]
    rw [List.length_nil, List.range_zero, List.reverse_nil, List.foldl_nil]
    split
    · -- the index of the CRTC's mode comes from the text, and is out of range
      have hselected : (⟨-1, (text.utf8ByteSize : Int) - 1, -1, -1⟩ : Candidates).selected =
          (text.utf8ByteSize : Int) - 1 := by
        have h : (text.utf8ByteSize : Int) - 1 ≥ 0 := by omega
        unfold Candidates.selected
        simp only [h, if_true]
        rfl
      right
      dsimp only
      rw [hselected, qAt_of_nonneg (by omega), List.nil_append]
      exact List.getElem?_eq_none (by simp; omega)
    · exact Or.inl (by decide)

end

/-! ## The round trip -/

section
variable {dev : Device} {drm : Drm} {settings : Settings} {screen text : SavedScreen}

theorem addScreen_ne (dev : Device) (output : Output) : dev.addScreen output ≠ dev := fun h => by
  have hlength := congrArg (fun d : Device => d.screens.length) h
  simp [Device.addScreen] at hlength

theorem addScreen_inj {output output' : Output} (h : dev.addScreen output = dev.addScreen output') :
    output = output' := by
  have hscreens := congrArg Device.screens h
  exact List.singleton_inj.1 (List.append_cancel_left hscreens)

/-- A connector that is passed over has no screen. -/
theorem not_made {connector : Connector} {P : ModeInfo → Prop}
    (h : dev.screenForConnector drm settings connector = some dev) :
    ¬ ∃ output mode, dev.screenForConnector drm settings connector = some (dev.addScreen output) ∧
      qAt output.modes output.mode = some mode ∧ P mode := by
  rintro ⟨output, mode, hscreen, -⟩
  exact addScreen_ne dev output (Option.some.inj (hscreen.symm.trans h))

theorem configuration_eq_preferred : text.configuration = .preferred ↔ text.isPreferred = true := by
  unfold SavedScreen.configuration
  split
  · next h => exact iff_of_true rfl h
  · next h => exact iff_of_false (fun heq => by cases heq) h

theorem configuration_ne {configuration : OutputConfiguration} (hword : configuration ≠ .preferred)
    (hsize : ∀ size, configuration ≠ .mode size) : text.configuration ≠ configuration := by
  unfold SavedScreen.configuration
  split
  · exact hword.symm
  · exact (hsize _).symm

/-- A connector that is not passed over. -/
theorem screenForConnector_eq {connector : Connector} {crtc : Nat} {crtcMode : ModeInfo}
    (hcrtc : dev.crtcForConnector drm connector = some crtc)
    (hoff : settings.configuration (settings.modeText connector) ≠ .off)
    (hskip : ¬ (settings.configuration (settings.modeText connector) = .preferred ∧
      connector.connection = modeDisconnected))
    (hcrtcMode : drm.crtcMode connector = some crtcMode) :
    let chosen := candidates (settings.configuration (settings.modeText connector))
      (settings.modeText connector) crtcMode connector.modes
    dev.screenForConnector drm settings connector =
      if chosen.2.selected < 0 then some dev
      else (qAt chosen.1 chosen.2.selected).map fun _ =>
        dev.addScreen ⟨nameForConnector connector, connector.connectorId, drm.crtcs.getD crtc 0,
          chosen.2.selected, chosen.2.preferred, chosen.1⟩ := by
  unfold Device.screenForConnector
  simp only [hcrtc, hoff, if_false, hskip, hcrtcMode]

/-- The screen that is made, if any, has the mode that was selected. -/
theorem made_iff {connector : Connector} {name : String} {connectorId crtcId : UInt32}
    {i preferred : Int} {modes : List ModeInfo} {selected : Option ModeInfo} {P : ModeInfo → Prop}
    (hselects : Selects modes i selected)
    (hscreen : dev.screenForConnector drm settings connector =
      if i < 0 then some dev
      else (qAt modes i).map fun _ =>
        dev.addScreen ⟨name, connectorId, crtcId, i, preferred, modes⟩) :
    (∃ output mode, dev.screenForConnector drm settings connector = some (dev.addScreen output) ∧
        qAt output.modes output.mode = some mode ∧ P mode) ↔
      ∃ m, selected = some m ∧ P m := by
  cases selected with
  | none =>
    refine iff_of_false ?_ ?_
    · by_cases hi : i < 0
      · rw [if_pos hi] at hscreen
        exact not_made hscreen
      · rw [if_neg hi, hselects.resolve_left hi] at hscreen
        rintro ⟨output, mode, hsome, -⟩
        cases hscreen.symm.trans hsome
    · rintro ⟨m, hm, -⟩
      cases hm
  | some m =>
    rw [if_neg (Int.not_lt.2 hselects.1), hselects.2] at hscreen
    constructor
    · rintro ⟨output, mode, hsome, hmode, hP⟩
      have houtput := addScreen_inj (Option.some.inj (hscreen.symm.trans hsome))
      subst houtput
      obtain rfl := Option.some.inj (hmode.symm.trans hselects.2)
      exact ⟨mode, rfl, hP⟩
    · rintro ⟨m', hm', hP⟩
      obtain rfl := Option.some.inj hm'
      exact ⟨_, m, hscreen, hselects.2, hP⟩

/-- **One connector**, whose text is that of a saved screen. -/
theorem reselected_iff
    (hmode : settings.mode (nameForConnector screen.connector) = some text.modeText)
    (hscan : settings.scanSize text.sizeText = some text.mode.size) :
    Reselected dev drm settings screen ↔ ConnectorOk dev drm text screen := by
  have htext : settings.modeText screen.connector = text.modeText := by
    unfold Settings.modeText
    rw [hmode, Option.getD_some, SavedScreen.toLower_modeText]
  have hconfiguration : settings.configuration text.modeText = text.configuration :=
    SavedScreen.configuration_modeText hscan
  have hoff : text.configuration ≠ .off := configuration_ne nofun nofun
  have hcurrent : text.configuration ≠ .current := configuration_ne nofun nofun
  have hmodeline : ∀ m, text.configuration ≠ .modeline m := fun m => configuration_ne nofun nofun
  cases hcrtc : dev.crtcForConnector drm screen.connector with
  | none =>
    refine iff_of_false (not_made ?_) fun hok => hok.crtc hcrtc
    unfold Device.screenForConnector
    rw [hcrtc]
  | some crtc =>
  by_cases hskipped : text.isPreferred = true ∧ screen.connector.connection = modeDisconnected
  · refine iff_of_false (not_made ?_) fun hok => hok.connected hskipped.1 hskipped.2
    unfold Device.screenForConnector
    simp only [hcrtc, htext, hconfiguration, hoff, if_false]
    rw [if_pos ⟨configuration_eq_preferred.2 hskipped.1, hskipped.2⟩]
  have hskip : ¬ (text.configuration = .preferred ∧ screen.connector.connection = modeDisconnected) :=
    fun h => hskipped ⟨configuration_eq_preferred.1 h.1, h.2⟩
  cases hcrtcMode : drm.crtcMode screen.connector with
  | none =>
    refine iff_of_false (not_made ?_) fun hok => hok.crtcMode hcrtcMode
    unfold Device.screenForConnector
    simp only [hcrtc, htext, hconfiguration, hoff, if_false, hskip, hcrtcMode]
  | some crtcMode =>
  rw [← hconfiguration, ← htext] at hoff hskip
  have hscreen := screenForConnector_eq hcrtc hoff hskip hcrtcMode
  rw [htext, hconfiguration] at hscreen
  have hselects := candidates_selected (SavedScreen.le_utf8ByteSize_modeText text) hcurrent hmodeline
    crtcMode screen.connector.modes
  rw [leadsTo_configuration] at hselects
  unfold Reselected
  rw [made_iff hselects hscreen]
  constructor
  · intro hagrees
    exact ⟨Option.ne_none_iff_exists'.2 ⟨crtc, hcrtc⟩,
      Option.ne_none_iff_exists'.2 ⟨crtcMode, hcrtcMode⟩, fun h h' => hskipped ⟨h, h'⟩, hagrees⟩
  · intro hok
    exact hok.mode

end

/-- Qt reads what it wrote, with nothing but blanks behind it. -/
def QtJson.Reads (qt : QtJson) (o : QJsonObject) : Prop :=
  ∀ rest, qt.fromJson (qt.toJson o ++ rest) = .object o ↔ ∀ b ∈ rest, isBlank b = true

/-- **A save is loaded again** with the modes that were current, exactly under `SaveOk`. -/
theorem round_trip_iff (qt : QtJson) (scanSize : String → Option QSize)
    (parseModeline : String → Option ModeInfo) (s : Integration) (screens : List (Option SavedScreen))
    (content : List UInt8) (device : Connector → Device) (drm : Drm)
    (hreads : qt.Reads (s.savedRoot qt screens content))
    (hscan : ∀ screen ∈ screens.reduceOption, scanSize screen.sizeText = some screen.mode.size) :
    RoundTrip qt scanSize parseModeline s screens content device drm ↔
      SaveOk qt s screens content device drm := by
  have hfile : qt.fromJson (s.saveConfiguration qt screens content) =
        .object (s.savedRoot qt screens content) ↔
      ∀ b ∈ content.drop (qt.toJson (s.savedRoot qt screens content)).length, isBlank b = true :=
    hreads _
  have hconnector : qt.fromJson (s.saveConfiguration qt screens content) =
        .object (s.savedRoot qt screens content) →
      ∀ screen, ∀ text ∈ lastNamed screens.reduceOption screen.output.name,
        (Reselected (device screen.connector) drm
          ((Integration.fresh.loadConfiguration qt
            (some (s.saveConfiguration qt screens content))).settings qt.numbers scanSize
              parseModeline) screen ↔
          ConnectorOk (device screen.connector) drm text screen) := by
    intro hfile screen text htext
    refine reselected_iff ?_ (hscan text (mem_of_lastNamed htext))
    rw [mode_loaded hfile, ← screen.name_eq, show lastNamed _ _ = some text from htext]
    rfl
  constructor
  · intro h
    exact ⟨hfile.1 h.file, fun screen hscreen text htext =>
      (hconnector h.file screen text htext).1 (h.modes screen hscreen)⟩
  · intro h
    have hread := hfile.2 h.blank
    refine ⟨hread, fun screen hscreen => ?_⟩
    obtain ⟨text, htext⟩ := lastNamed_of_mem hscreen
    exact (hconnector hread screen text htext).2 (h.connectors screen hscreen text htext)

/-! ## One screen -/

/-- `HDMI1` of two CRTCs, with the given modes. -/
def hdmi (modes : List ModeInfo) : Connector := ⟨70, 11, 1, 1, [60], modes⟩

/-- A screen of `HDMI1` whose first mode is current. -/
def hdmiScreen (preferredMode : Int) (mode : ModeInfo) (modes : List ModeInfo) : SavedScreen where
  connector := hdmi (mode :: modes)
  output := ⟨"HDMI1", 70, 33, 0, preferredMode, mode :: modes⟩
  name_eq := (by decide +kernel : "HDMI1" = nameForConnector (hdmi []))
  mode := mode
  mode_eq := rfl

/-- What is written for one screen of `HDMI1`. -/
def hdmiText (mode : String) : String :=
  "\x7b\n    \"kms\": \x7b\n        \"hwcursor\": true,\n        \"outputs\": [\n" ++
    "            \x7b\n                \"mode\": \"" ++ mode ++
      "\",\n                \"name\": \"HDMI1\"\n            \x7d\n        ],\n" ++
        "        \"pbuffers\": false,\n        \"separateScreens\": false\n    \x7d\n\x7d\n"

/-- Qt for the given screen, saved to a new file: what is written is its text, and
that, with blanks behind it, is all that can be read. -/
def qtOf (screen : SavedScreen) : QtJson where
  fromJson content :=
    let written := (hdmiText screen.modeText).toUTF8.toList
    if content.take written.length = written ∧ (content.drop written.length).all isBlank then
      .object (QJsonObject.insert [] "kms"
        (.object (Integration.fresh.savedSettings [] [some screen])))
    else .null
  toJson _ := (hdmiText screen.modeText).toUTF8.toList
  numbers := ⟨fun _ => 0, fun _ => ""⟩

theorem qtOf_reads {screen : SavedScreen} (hwritten : (hdmiText screen.modeText).toUTF8.toList ≠ []) :
    (qtOf screen).Reads (Integration.fresh.savedRoot (qtOf screen) [some screen] []) := by
  have hnew : (qtOf screen).fromJson [] = .null := by
    refine if_neg fun h => hwritten ?_
    exact h.1.symm.trans (List.take_nil)
  have hroot : Integration.fresh.savedRoot (qtOf screen) [some screen] [] =
      QJsonObject.insert [] "kms" (.object (Integration.fresh.savedSettings [] [some screen])) := by
    unfold Integration.savedRoot
    rw [hnew]
    rfl
  intro rest
  rw [hroot]
  show (if _ then _ else _) = _ ↔ _
  simp only [List.take_left', List.drop_left', qtOf, true_and, List.all_eq_true]
  constructor
  · intro h
    by_contra hnot
    rw [if_neg hnot] at h
    cases h
  · exact fun h => if_pos h

/-- A screen without a preferred mode, saved to a new file. -/
theorem round_trip_size :
    RoundTrip (qtOf (hdmiScreen (-1) Device.svga []))
      (fun text => if text = "800x600" then some ⟨800, 600⟩ else none) (fun _ => none)
      Integration.fresh [some (hdmiScreen (-1) Device.svga [])] [] (fun _ => Device.init)
      Device.twoCrtcs := by
  have hwritten : (hdmiText (hdmiScreen (-1) Device.svga []).modeText).toUTF8.toList ≠ [] := by
    decide +kernel
  refine (round_trip_iff _ _ _ _ _ _ _ _ (qtOf_reads hwritten) ?_).2 ⟨fun b hb => ?_, ?_⟩
  · intro screen hscreen
    obtain rfl := List.mem_singleton.1 hscreen
    decide +kernel
  · rw [List.drop_nil] at hb
    cases hb
  · intro screen hscreen text htext
    obtain rfl := List.mem_singleton.1 hscreen
    obtain rfl := List.mem_singleton.1 (mem_of_lastNamed htext)
    exact ⟨by decide +kernel, by decide +kernel, by decide +kernel, _, rfl, by decide +kernel⟩

/-- The largest mode of HDMI1. -/
def xga : ModeInfo := { ModeInfo.zero with clock := 65000, hdisplay := 1024, vdisplay := 768 }

/-- The mode that HDMI1 prefers. -/
def preferredSvga : ModeInfo := { Device.svga with type := modeTypePreferred }

/-- The preferred mode of a screen is current, and saved as such: with what is loaded
from the file its larger mode is chosen. -/
theorem preferred_not_reselected :
    (qtOf (hdmiScreen 0 preferredSvga [xga])).Reads
        (Integration.fresh.savedRoot (qtOf (hdmiScreen 0 preferredSvga [xga]))
          [some (hdmiScreen 0 preferredSvga [xga])] []) ∧
      ¬ RoundTrip (qtOf (hdmiScreen 0 preferredSvga [xga]))
        (fun text => if text = "800x600" then some ⟨800, 600⟩ else none) (fun _ => none)
        Integration.fresh [some (hdmiScreen 0 preferredSvga [xga])] [] (fun _ => Device.init)
        Device.twoCrtcs := by
  have hwritten : (hdmiText (hdmiScreen 0 preferredSvga [xga]).modeText).toUTF8.toList ≠ [] := by
    decide +kernel
  refine ⟨qtOf_reads hwritten, fun h => ?_⟩
  have hmode := mode_loaded h.file (fun text => if text = "800x600" then some ⟨800, 600⟩ else none)
    (fun _ => none) "HDMI1"
  have hname : nameForConnector (hdmiScreen 0 preferredSvga [xga]).connector = "HDMI1" :=
    (hdmiScreen 0 preferredSvga [xga]).name_eq.symm
  have hok := (reselected_iff (hname ▸ hmode) (by decide +kernel)).1
    (h.modes _ (List.mem_singleton_self _))
  obtain ⟨m, hm, hagrees⟩ := hok.mode
  obtain rfl : xga = m := Option.some.inj ((by decide +kernel :
    some xga = (hdmiScreen 0 preferredSvga [xga]).leadsTo [preferredSvga, xga]).trans hm)
  exact absurd hagrees (by decide +kernel)

end GreenIsland.Kms

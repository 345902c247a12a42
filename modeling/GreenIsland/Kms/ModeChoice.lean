import GreenIsland.Kms.Configuration
import GreenIsland.Kms.ModeText

/-! The mode of a new screen (`screenForConnector`).

What is owed for a connected connector with modes, for which there is a CRTC
(`ChoosesWell`): a screen is made, the index of its mode is one of its modes', and
the mode is what the text asks for (`Asks`, `Means`): the one that the connector's CRTC
has, one of a size, a modeline, or one that is flagged as preferred.

Sizes and modelines are served always.  Two things go wrong otherwise
(`ChoiceOk`, `mode_choice_iff`):

* `preferred` leads to the largest mode, which is looked at before the preferred one;
* the CRTC's mode is looked up with the connector's id for an encoder's, and when it
  is not among the modes its index is that of the last letter of `current`. -/

namespace GreenIsland.Kms

/-! ## Model -/

def ModeInfo.isPreferred (m : ModeInfo) : Bool := m.type &&& modeTypePreferred != 0

/-- The mode that is set on the CRTC of the encoder, if there is a valid one. -/
def Drm.programmed (drm : Drm) (encoderId : UInt32) : Option ModeInfo :=
  (drm.getEncoder encoderId).bind fun encoder => (drm.getCrtc encoder.crtcId).bind Crtc.mode

/-- The text that is set for the connector's output, in small letters. -/
def askedText (mode : String → Option String) (connector : Connector) : String :=
  match mode (nameForConnector connector) with
  | none => "preferred"
  | some text => text.toLower

/-- A connected connector with modes that gets a CRTC and is not turned off, when
it is its turn. -/
structure ConnectorTurn where
  dev : Device
  drm : Drm
  /-- the decimal point of the locale -/
  point : Char
  /-- what the memory of a modeline holds -/
  memory : ModeInfo
  mode : String → Option String
  connector : Connector
  /-- the encoder that the connector is attached to -/
  encoderId : UInt32
  crtc : dev.crtcForConnector drm connector ≠ none
  connected : connector.connection ≠ modeDisconnected
  listed : connector.modes ≠ []
  on : askedText mode connector ≠ "off"

namespace ConnectorTurn

def settings (t : ConnectorTurn) : Settings := settingsOf t.point t.memory t.mode

def text (t : ConnectorTurn) : String := askedText t.mode t.connector

def programmed (t : ConnectorTurn) : Option ModeInfo := t.drm.programmed t.encoderId

/-- What the text asks for. -/
def AsksFor (t : ConnectorTurn) (configuration : OutputConfiguration) : Prop :=
  Asks t.point t.memory t.text configuration

end ConnectorTurn

/-! ## What is owed -/

/-- A mode is what the configuration asks for. -/
def OutputConfiguration.Means (listed : List ModeInfo) (programmed : Option ModeInfo)
    (m : ModeInfo) : OutputConfiguration → Prop
  | .off => False
  | .preferred => (∃ m' ∈ listed, m'.isPreferred = true) → m ∈ listed ∧ m.isPreferred = true
  | .current => ∀ m', programmed = some m' → m = m'
  | .mode size => (∃ m' ∈ listed, m'.size = size) → m.size = size
  | .modeline m' => m = m'

/-- A screen is made whose mode is what was asked for. -/
def ConnectorTurn.ChoosesWell (t : ConnectorTurn) : Prop :=
  ∃ output mode,
    t.dev.screenForConnector t.drm t.settings t.connector = some (t.dev.addScreen output) ∧
      qAt output.modes output.mode = some mode ∧
      ∀ configuration, t.AsksFor configuration →
        configuration.Means t.connector.modes t.programmed mode

/-- The mode that is found when the connector's id is taken for an encoder's: zero without such
an encoder, and without a mode on the encoder's CRTC. -/
def LooksUp (drm : Drm) (connector : Connector) (crtcMode : ModeInfo) : Prop :=
  drm.getEncoder connector.connectorId = none ∧ crtcMode = ModeInfo.zero ∨
    ∃ encoder crtc, drm.getEncoder connector.connectorId = some encoder ∧
      drm.getCrtc encoder.crtcId = some crtc ∧ crtcMode = crtc.mode.getD ModeInfo.zero

/-- The mode that was looked up leads to the one that is set: it is this one and it is
listed; or nothing was found and it is the largest one; or it is where the last
letter of `current` points to. -/
def CurrentOk (listed : List ModeInfo) (programmed : Option ModeInfo) (crtcMode : ModeInfo) : Prop :=
  if crtcMode ∈ listed then ∀ m, programmed = some m → crtcMode = m
  else if crtcMode.clock = 0 then ∀ m, programmed = some m → largest listed = some m
  else 6 ≤ listed.length ∧ ∀ m, programmed = some m → (listed ++ [crtcMode])[6]? = some m

/-- **The turns that do so.** -/
structure ConnectorTurn.ChoiceOk (t : ConnectorTurn) (crtcMode : ModeInfo) : Prop where
  lookup : LooksUp t.drm t.connector crtcMode
  preferred : t.AsksFor .preferred → (∃ m ∈ t.connector.modes, m.isPreferred = true) →
    ∃ m, largest t.connector.modes = some m ∧ m.isPreferred = true
  current : t.text = "current" → CurrentOk t.connector.modes t.programmed crtcMode

/-! ## The choice -/

section
variable {listed : List ModeInfo} {crtcMode : ModeInfo} {configuration : OutputConfiguration}

/-- The mode that `current` leads to. -/
def currentEntry (text : String) (crtcMode : ModeInfo) (listed : List ModeInfo) : Option ModeInfo :=
  if crtcMode ∈ listed then some crtcMode
  else if crtcMode.clock = 0 then largest listed
  else (listed ++ [crtcMode])[text.utf8ByteSize - 1]?

theorem find_eq_of_mem (h : crtcMode ∈ listed) :
    listed.find? (fun m => decide (crtcMode = m)) = some crtcMode := by
  cases hfind : listed.find? fun m => decide (crtcMode = m) with
  | none => exact absurd (by simp) (List.find?_eq_none.1 hfind crtcMode h)
  | some m =>
    have hm := List.find?_some hfind
    rw [of_decide_eq_true hm]

theorem find_eq_none_of_not_mem (h : crtcMode ∉ listed) :
    listed.find? (fun m => decide (crtcMode = m)) = none := by
  refine List.find?_eq_none.2 fun m hm heq => h ?_
  rwa [of_decide_eq_true heq]

theorem selected_of_configured {c : Candidates} (h : 0 ≤ c.configured) :
    c.selected = c.configured := by
  unfold Candidates.selected
  rw [if_pos h]

/-- Without a configured mode the largest one is selected. -/
theorem selects_best {c : Candidates} {m : ModeInfo} (hconfigured : c.configured < 0)
    (hbest : Picks listed c.best (some m)) : Selects listed c.selected (some m) := by
  unfold Candidates.selected
  rw [if_neg (Int.not_le.2 hconfigured), if_pos hbest.1]
  exact ⟨hbest.1, (qAt_of_nonneg hbest.1).trans hbest.2⟩

theorem selects_of_lt {modes : List ModeInfo} {k : Nat} (hk : k < modes.length) :
    Selects modes (k : Int) (some modes[k]) := by
  refine ⟨Int.natCast_nonneg k, ?_⟩
  rw [qAt_of_nonneg (Int.natCast_nonneg k), Int.toNat_natCast]
  exact List.getElem?_eq_getElem hk

/-- A position in the modes, or one behind them. -/
theorem selects_getElem? (modes : List ModeInfo) (k : Nat) : Selects modes (k : Int) modes[k]? := by
  by_cases hk : k < modes.length
  · rw [List.getElem?_eq_getElem hk]
    exact selects_of_lt hk
  · rw [List.getElem?_eq_none (Nat.le_of_not_lt hk)]
    right
    rw [qAt_of_nonneg (Int.natCast_nonneg k), Int.toNat_natCast]
    exact List.getElem?_eq_none (Nat.le_of_not_lt hk)

/-- **`current`.**  Its index is that of the CRTC's mode if it is listed. -/
theorem candidates_current {text : String} (htext : 0 < text.utf8ByteSize) (crtcMode : ModeInfo)
    (hlisted : listed ≠ []) :
    Selects (candidates .current text crtcMode listed).1
      (candidates .current text crtcMode listed).2.selected (currentEntry text crtcMode listed) := by
  have hcurrent := foldl_current .current crtcMode listed
  obtain ⟨-, hbest⟩ := foldl_picks .current crtcMode listed
  unfold candidates currentEntry
  dsimp only
  set c := (List.range listed.length).reverse.foldl
    (Candidates.consider .current crtcMode listed) ⟨-1, -1, -1, -1⟩ with hc
  by_cases hmem : crtcMode ∈ listed
  · rw [find_eq_of_mem hmem] at hcurrent
    have hkeep : ¬ (c.current < 0 ∧ crtcMode.clock ≠ 0) := fun h => Int.not_lt.2 hcurrent.1 h.1
    rw [if_pos hmem, if_neg hkeep, if_pos rfl]
    rw [selected_of_configured hcurrent.1]
    exact ⟨hcurrent.1, (qAt_of_nonneg hcurrent.1).trans hcurrent.2⟩
  · rw [find_eq_none_of_not_mem hmem] at hcurrent
    have hnone : c.current < 0 := hcurrent
    rw [if_neg hmem]
    by_cases hclock : crtcMode.clock = 0
    · have hkeep : ¬ (c.current < 0 ∧ crtcMode.clock ≠ 0) := fun h => h.2 hclock
      rw [if_pos hclock, if_neg hkeep, if_pos rfl]
      obtain ⟨m, hm⟩ := Option.ne_none_iff_exists'.1 (mt largest_eq_none hlisted)
      rw [hm] at hbest ⊢
      exact selects_best hnone hbest
    · rw [if_neg hclock, if_pos ⟨hnone, hclock⟩, if_pos rfl]
      have hlast : (text.utf8ByteSize : Int) - 1 = ((text.utf8ByteSize - 1 : Nat) : Int) := by omega
      rw [selected_of_configured (by dsimp only; omega)]
      dsimp only
      rw [hlast]
      exact selects_getElem? _ _

/-- **A modeline** is appended, and its index is the one behind the listed modes. -/
theorem candidates_modeline (text : String) (m crtcMode : ModeInfo) (listed : List ModeInfo) :
    Selects (candidates (.modeline m) text crtcMode listed).1
      (candidates (.modeline m) text crtcMode listed).2.selected (some m) := by
  have hlast : ∀ appended : List ModeInfo, ((listed ++ [m]) ++ appended)[listed.length]? = some m := by
    intro appended
    rw [List.append_assoc, List.getElem?_append_right (Nat.le_refl _), Nat.sub_self]
    rfl
  have hlength : (0 : Int) ≤ listed.length := Int.natCast_nonneg _
  unfold candidates
  simp only [reduceCtorEq, if_false]
  split
  · rw [selected_of_configured hlength]
    have h := selects_getElem? ((listed ++ [m]) ++ [crtcMode]) listed.length
    rwa [hlast] at h
  · rw [selected_of_configured hlength]
    have h := selects_getElem? ((listed ++ [m]) ++ []) listed.length
    rwa [hlast, List.append_nil] at h

/-- The mode that a configuration other than `off` leads to. -/
def OutputConfiguration.entry (configuration : OutputConfiguration) (text : String)
    (crtcMode : ModeInfo) (listed : List ModeInfo) : Option ModeInfo :=
  match configuration with
  | .current => currentEntry text crtcMode listed
  | .modeline m => some m
  | configuration => configuration.leadsTo listed

theorem candidates_words (hcurrent : configuration ≠ .current)
    (hmodeline : ∀ m, configuration ≠ .modeline m) (text : String) (crtcMode : ModeInfo)
    (hlisted : listed ≠ []) :
    Selects (candidates configuration text crtcMode listed).1
      (candidates configuration text crtcMode listed).2.selected (configuration.leadsTo listed) := by
  have hsome : configuration.leadsTo listed ≠ none := fun h =>
    hlisted (largest_eq_none (Option.or_eq_none_iff.1 h).2)
  obtain ⟨m, hm⟩ := Option.ne_none_iff_exists'.1 hsome
  rw [hm]
  exact candidates_leads hcurrent hmodeline text crtcMode hm

/-- **The choice**, for every configuration. -/
theorem candidates_entry {text : String} (htext : configuration = .current → 0 < text.utf8ByteSize)
    (crtcMode : ModeInfo) (hlisted : listed ≠ []) :
    Selects (candidates configuration text crtcMode listed).1
      (candidates configuration text crtcMode listed).2.selected
        (configuration.entry text crtcMode listed) := by
  cases configuration with
  | current => exact candidates_current (htext rfl) crtcMode hlisted
  | modeline m => exact candidates_modeline text m crtcMode listed
  | off => exact candidates_words (by simp) (by simp) text crtcMode hlisted
  | preferred => exact candidates_words (by simp) (by simp) text crtcMode hlisted
  | mode size => exact candidates_words (by simp) (by simp) text crtcMode hlisted

/-! ## What was asked for -/

theorem largest_mem {m : ModeInfo} (h : largest listed = some m) : m ∈ listed := by
  induction listed generalizing m with
  | nil => cases h
  | cons first rest ih =>
    unfold largest at h
    split at h
    · obtain rfl := Option.some.inj h
      exact List.mem_cons_self
    · next best hbest =>
      split at h
      · obtain rfl := Option.some.inj h
        exact List.mem_cons_self
      · obtain rfl := Option.some.inj h
        exact List.mem_cons_of_mem _ (ih hbest)

theorem fits_mode_iff {size : QSize} {m : ModeInfo} :
    (OutputConfiguration.mode size).fits m = true ↔ m.size = size := by
  unfold OutputConfiguration.fits ModeInfo.size
  obtain ⟨width, height⟩ := size
  simp

/-- A size is that of the mode it leads to, if one has it. -/
theorem mode_means {size : QSize} {programmed : Option ModeInfo} (hlisted : listed ≠ []) :
    ∃ m, (OutputConfiguration.mode size).leadsTo listed = some m ∧
      (OutputConfiguration.mode size).Means listed programmed m := by
  unfold OutputConfiguration.leadsTo
  cases hfind : listed.find? (OutputConfiguration.mode size).fits with
  | some m =>
    refine ⟨m, Option.some_or, fun _ => ?_⟩
    exact fits_mode_iff.1 (List.find?_some hfind)
  | none =>
    obtain ⟨m, hm⟩ := Option.ne_none_iff_exists'.1 (mt largest_eq_none hlisted)
    refine ⟨m, by rw [Option.none_or, hm], ?_⟩
    rintro ⟨m', hm', hsize⟩
    exact absurd (fits_mode_iff.2 hsize) (List.find?_eq_none.1 hfind m' hm')

theorem preferred_means_iff {programmed : Option ModeInfo} (hlisted : listed ≠ []) :
    (∃ m, OutputConfiguration.preferred.leadsTo listed = some m ∧
        OutputConfiguration.preferred.Means listed programmed m) ↔
      ((∃ m ∈ listed, m.isPreferred = true) →
        ∃ m, largest listed = some m ∧ m.isPreferred = true) := by
  have hleads : OutputConfiguration.preferred.leadsTo listed = largest listed := by
    have hnone : listed.find? (OutputConfiguration.fits .preferred) = none :=
      List.find?_eq_none.2 fun m _ => Bool.false_ne_true
    unfold OutputConfiguration.leadsTo
    rw [hnone, Option.none_or]
  rw [hleads]
  constructor
  · rintro ⟨m, hm, hmeans⟩ hflagged
    exact ⟨m, hm, (hmeans hflagged).2⟩
  · intro h
    obtain ⟨m, hm⟩ := Option.ne_none_iff_exists'.1 (mt largest_eq_none hlisted)
    refine ⟨m, hm, fun hflagged => ⟨largest_mem hm, ?_⟩⟩
    obtain ⟨m', hm', hpreferred⟩ := h hflagged
    obtain rfl := Option.some.inj (hm.symm.trans hm')
    exact hpreferred

theorem current_means_iff {text : String} (htext : text.utf8ByteSize = 7)
    {programmed : Option ModeInfo} (hlisted : listed ≠ []) :
    (∃ m, currentEntry text crtcMode listed = some m ∧
        OutputConfiguration.current.Means listed programmed m) ↔
      CurrentOk listed programmed crtcMode := by
  unfold currentEntry CurrentOk OutputConfiguration.Means
  split
  · simp only [Option.some.injEq, exists_eq_left']
  · split
    · obtain ⟨best, hbest⟩ := Option.ne_none_iff_exists'.1 (mt largest_eq_none hlisted)
      simp only [hbest, Option.some.injEq, exists_eq_left']
    · rw [htext]
      constructor
      · rintro ⟨m, hm, hprogrammed⟩
        have hlt := (List.getElem?_eq_some_iff.1 hm).1
        rw [List.length_append, List.length_singleton] at hlt
        refine ⟨by omega, fun m' hm' => ?_⟩
        rw [← hprogrammed m' hm']
        exact hm
      · rintro ⟨hlength, hprogrammed⟩
        have hlt : 6 < (listed ++ [crtcMode]).length := by
          rw [List.length_append, List.length_singleton]
          omega
        refine ⟨_, List.getElem?_eq_getElem hlt, fun m hm => ?_⟩
        exact Option.some.inj ((List.getElem?_eq_getElem hlt).symm.trans (hprogrammed m hm))

end

/-! ## Results -/

namespace ConnectorTurn

section
variable (t : ConnectorTurn)

/-- The configuration that the text is read as. -/
def configuration : OutputConfiguration := t.settings.configuration t.text

theorem asksFor_iff {configuration : OutputConfiguration} :
    t.AsksFor configuration ↔ t.configuration = configuration := asks_iff

theorem modeText_eq : t.settings.modeText t.connector = t.text := by
  unfold Settings.modeText text askedText
  show ((t.mode (nameForConnector t.connector)).getD "preferred").toLower = _
  cases t.mode (nameForConnector t.connector) with
  | none => decide +kernel
  | some text => rfl

theorem lookup_iff {crtcMode : ModeInfo} :
    t.drm.crtcMode t.connector = some crtcMode ↔ LooksUp t.drm t.connector crtcMode := by
  unfold Drm.crtcMode LooksUp
  cases t.drm.getEncoder t.connector.connectorId with
  | none => simp [eq_comm]
  | some encoder => simp [eq_comm]

theorem not_off : t.configuration ≠ .off := by
  rw [ne_eq, ← asksFor_iff]
  intro h
  cases h with
  | off h => exact t.on h

/-- Only one word stands for the mode of the CRTC. -/
theorem current_iff : t.configuration = .current ↔ t.text = "current" := by
  rw [← asksFor_iff]
  constructor
  · rintro ⟨⟩
    assumption
  · exact .current

theorem text_of_current (h : t.configuration = .current) : t.text.utf8ByteSize = 7 := by
  rw [t.current_iff.1 h]
  decide +kernel

/-- The screen that is made has the mode that the configuration leads to. -/
theorem chooses_iff : t.ChoosesWell ↔ ∃ crtcMode, LooksUp t.drm t.connector crtcMode ∧
    ∃ m, t.configuration.entry t.text crtcMode t.connector.modes = some m ∧
      t.configuration.Means t.connector.modes t.programmed m := by
  obtain ⟨crtc, hcrtc⟩ := Option.ne_none_iff_exists'.1 t.crtc
  have hon : t.settings.configuration (t.settings.modeText t.connector) ≠ .off := by
    rw [modeText_eq]
    exact t.not_off
  have hskip : ¬ (t.settings.configuration (t.settings.modeText t.connector) = .preferred ∧
      t.connector.connection = modeDisconnected) := fun h => t.connected h.2
  unfold ChoosesWell
  simp only [asksFor_iff, forall_eq', ← lookup_iff]
  cases hlookup : t.drm.crtcMode t.connector with
  | none =>
    refine iff_of_false (not_made ?_) (by rintro ⟨_, h, -⟩; cases h)
    unfold Device.screenForConnector
    simp only [hcrtc, hon, if_false, hskip, hlookup]
  | some crtcMode =>
    have htext : t.configuration = .current → 0 < t.text.utf8ByteSize := fun h => by
      rw [t.text_of_current h]
      decide
    have hmade := screenForConnector_eq hcrtc hon hskip hlookup
    rw [modeText_eq] at hmade
    rw [made_iff (candidates_entry htext crtcMode t.listed) hmade]
    simp only [Option.some.injEq, exists_eq_left']

end

/-- **Choice of a mode.**  The screen of a connector gets the mode that was asked for if
and only if the CRTC's mode that is looked up leads to the one that is set, in the case
that it is asked for, and the largest mode is preferred, in the case that a preferred
one is asked for and there is one. -/
theorem mode_choice_iff (t : ConnectorTurn) :
    t.ChoosesWell ↔ ∃ crtcMode, t.ChoiceOk crtcMode := by
  rw [chooses_iff]
  refine exists_congr fun crtcMode => ?_
  have hok : t.ChoiceOk crtcMode ↔ LooksUp t.drm t.connector crtcMode ∧
      (t.configuration = .preferred → (∃ m ∈ t.connector.modes, m.isPreferred = true) →
        ∃ m, largest t.connector.modes = some m ∧ m.isPreferred = true) ∧
      (t.configuration = .current → CurrentOk t.connector.modes t.programmed crtcMode) := by
    rw [← asksFor_iff, current_iff]
    exact ⟨fun h => ⟨h.lookup, h.preferred, h.current⟩, fun h => ⟨h.1, h.2.1, h.2.2⟩⟩
  rw [hok]
  refine and_congr_right fun _ => ?_
  cases hconfiguration : t.configuration with
  | off => exact absurd hconfiguration t.not_off
  | preferred =>
    refine (preferred_means_iff t.listed).trans ?_
    simp
  | current =>
    refine (current_means_iff (t.text_of_current hconfiguration) t.listed).trans ?_
    simp
  | mode size =>
    refine iff_of_true (mode_means t.listed) ?_
    simp
  | modeline m =>
    refine iff_of_true ⟨m, rfl, rfl⟩ ?_
    simp

/-- A connector with two modes, of which the smaller one is preferred, and no settings. -/
def preferredSmaller : ConnectorTurn where
  dev := Device.init
  drm := Device.twoCrtcs
  point := '.'
  memory := ModeInfo.zero
  mode := fun _ => none
  connector := hdmi [preferredSvga, xga]
  encoderId := 60
  crtc := by decide +kernel
  connected := by decide
  listed := by decide
  on := by decide

/-- The larger mode is chosen. -/
theorem preferred_not_chosen : ¬ preferredSmaller.ChoosesWell := by
  rw [chooses_iff]
  rintro ⟨crtcMode, -, m, hm, hmeans⟩
  have hconfiguration : preferredSmaller.configuration = .preferred := by decide +kernel
  rw [hconfiguration] at hm hmeans
  obtain rfl : xga = m := Option.some.inj hm
  obtain ⟨-, hpreferred⟩ := hmeans ⟨_, List.mem_cons_self, by decide +kernel⟩
  revert hpreferred
  decide +kernel

/-- The connector is attached to an encoder with a mode on its CRTC, and `current` is set. -/
def currentUnlisted : ConnectorTurn where
  dev := Device.init
  drm := { Device.twoCrtcs with getCrtc := fun _ => some ⟨some xga⟩ }
  point := '.'
  memory := ModeInfo.zero
  mode := fun _ => some "current"
  connector := hdmi [Device.svga]
  encoderId := 60
  crtc := by decide +kernel
  connected := by decide
  listed := by decide
  on := by decide +kernel

/-- The listed mode is chosen, since no encoder has the connector's id. -/
theorem current_not_chosen : ¬ currentUnlisted.ChoosesWell := by
  rw [chooses_iff]
  rintro ⟨crtcMode, hlookup, m, hm, hmeans⟩
  have hconfiguration : currentUnlisted.configuration = .current := by decide +kernel
  rw [hconfiguration] at hm hmeans
  obtain rfl : ModeInfo.zero = crtcMode := Option.some.inj ((lookup_iff _).2 hlookup)
  obtain rfl : Device.svga = m := Option.some.inj hm
  exact absurd (hmeans xga rfl) (by decide +kernel)

end ConnectorTurn

end GreenIsland.Kms

import GreenIsland.Kms.Device
import GreenIsland.Lib.Scanf

/-! The mode text of an output (`screenForConnector`, `parseModeline`).

A text is one of three words, a size such as `1024x768`, a modeline, or it is invalid,
which stands for `preferred`.  `Asks` says so of every text, by the grammar of sizes
and modelines and without the functions that read them; `asks_iff` is that the code
reads what is asked for.

`sscanf` takes numbers of any length.  One that does not fit has no defined result in
C; here it is what the GNU library makes of it, the nearest `long` cut to the type that
it is stored in.  Likewise the clock of a modeline, which is a `float` that is stored as
an integer, is clamped. -/

namespace GreenIsland.Kms

open Scanf

/-! ## Model -/

/-- The characters that a C function sees of the text. -/
def constData (text : String) : List Char := text.toList.takeWhile (· ≠ Char.ofNat 0)

/-- The nearest `long` -/
def toLong (n : Int) : Int := max (-2 ^ 63) (min n (2 ^ 63 - 1))

/-- A number that is stored by `%d`. -/
def toInt (n : Int) : Int := (toLong n).bmod (2 ^ 32)

/-- A number that is stored by `%hd`. -/
def toShort (n : Int) : UInt16 := UInt16.ofInt (toLong n)

def scanShort : Conversion UInt16 := toShort <$> integer

/-- `"%dx%d"` -/
def scanSizeFormat : Conversion QSize := do
  let width ← integer
  literal 'x'
  let height ← integer
  return ⟨toInt width, toInt height⟩

def scanSize (text : String) : Option QSize := (scanSizeFormat (constData text)).map Prod.fst

/-- What is scanned of a modeline. -/
structure ScannedModeline where
  fclock : Float32
  hdisplay : UInt16
  hsyncStart : UInt16
  hsyncEnd : UInt16
  htotal : UInt16
  vdisplay : UInt16
  vsyncStart : UInt16
  vsyncEnd : UInt16
  vtotal : UInt16
  hsync : List Char
  vsync : List Char

/-- `"%f %hd %hd %hd %hd %hd %hd %hd %hd %15s %15s"` -/
def scanModelineFormat (point : Char) : Conversion ScannedModeline := do
  let fclock ← fraction point
  let hdisplay ← scanShort
  let hsyncStart ← scanShort
  let hsyncEnd ← scanShort
  let htotal ← scanShort
  let vdisplay ← scanShort
  let vsyncStart ← scanShort
  let vsyncEnd ← scanShort
  let vtotal ← scanShort
  let hsync ← word 15
  let vsync ← word 15
  return ⟨fclock, hdisplay, hsyncStart, hsyncEnd, htotal, vdisplay, vsyncStart, vsyncEnd, vtotal,
    hsync, vsync⟩

/-- `DRM_MODE_TYPE_USERDEF` -/
def modeTypeUserdef : UInt32 := 32

/-- `DRM_MODE_FLAG_PHSYNC`, `NHSYNC`, `PVSYNC` and `NVSYNC` -/
def modeFlagPhsync : UInt32 := 1
def modeFlagNhsync : UInt32 := 2
def modeFlagPvsync : UInt32 := 4
def modeFlagNvsync : UInt32 := 8

def hsyncFlag (hsync : List Char) : Option UInt32 :=
  if hsync = "+hsync".toList then some modeFlagPhsync
  else if hsync = "-hsync".toList then some modeFlagNhsync
  else none

def vsyncFlag (vsync : List Char) : Option UInt32 :=
  if vsync = "+vsync".toList then some modeFlagPvsync
  else if vsync = "-vsync".toList then some modeFlagNvsync
  else none

/-- `parseModeline`; `mode` is what the memory holds, the name is left as it is.  `point`
is the decimal point of the locale. -/
def parseModeline (point : Char) (mode : ModeInfo) (text : String) : Option ModeInfo := do
  let (scanned, _) ← scanModelineFormat point (constData text)
  let hflag ← hsyncFlag scanned.hsync
  let vflag ← vsyncFlag scanned.vsync
  return { mode with
    type := modeTypeUserdef
    hskew := 0
    vscan := 0
    vrefresh := 0
    flags := 0 ||| hflag ||| vflag
    hdisplay := scanned.hdisplay
    hsyncStart := scanned.hsyncStart
    hsyncEnd := scanned.hsyncEnd
    htotal := scanned.htotal
    vdisplay := scanned.vdisplay
    vsyncStart := scanned.vsyncStart
    vsyncEnd := scanned.vsyncEnd
    vtotal := scanned.vtotal
    clock := (scanned.fclock * 1000).toUInt32 }

/-- The output settings, with the C library's reading of the texts. -/
def settingsOf (point : Char) (memory : ModeInfo) (mode : String → Option String) : Settings :=
  ⟨mode, scanSize, parseModeline point memory⟩

/-! ## What a text asks for -/

/-- **A size**: two numbers with an `x` between them; what comes behind is not looked at. -/
def SizeText (text : String) (size : QSize) : Prop :=
  ∃ width height mid rest, Integer (constData text) width ('x' :: mid) ∧ Integer mid height rest ∧
    size = ⟨toInt width, toInt height⟩

/-- Numbers one after the other -/
inductive Timings : List Char → List UInt16 → List Char → Prop
  | nil (text : List Char) : Timings text [] text
  | cons {text mid rest : List Char} {n : Int} {timings : List UInt16} (h : Integer text n mid)
      (hrest : Timings mid timings rest) : Timings text (toShort n :: timings) rest

/-- A word with a sign, and the flags for it. -/
inductive Polarity (name : String) (positive negative : UInt32) : List Char → UInt32 → Prop
  | positive : Polarity name positive negative ('+' :: name.toList) positive
  | negative : Polarity name positive negative ('-' :: name.toList) negative

/-- In the order of a modeline -/
def ModeInfo.timings (m : ModeInfo) : List UInt16 :=
  [m.hdisplay, m.hsyncStart, m.hsyncEnd, m.htotal, m.vdisplay, m.vsyncStart, m.vsyncEnd, m.vtotal]

/-- **A modeline**: the clock in megahertz, the timings, and the polarities of the
synchronization signals. -/
def ModelineText (point : Char) (name : String) (text : String) (m : ModeInfo) : Prop :=
  ∃ clock hsync vsync hflag vflag r₁ r₂ r₃ r₄,
    Fraction point (constData text) clock r₁ ∧ Timings r₁ m.timings r₂ ∧ Word 15 r₂ hsync r₃ ∧
      Word 15 r₃ vsync r₄ ∧ Polarity "hsync" modeFlagPhsync modeFlagNhsync hsync hflag ∧
        Polarity "vsync" modeFlagPvsync modeFlagNvsync vsync vflag ∧
          m = { m with
            type := modeTypeUserdef
            hskew := 0
            vscan := 0
            vrefresh := 0
            flags := hflag ||| vflag
            clock := (clock * 1000).toUInt32
            name := name }

def words : List String := ["off", "preferred", "current"]

/-- **What a text asks for**; one that is invalid asks for what `preferred` does. -/
inductive Asks (point : Char) (memory : ModeInfo) (text : String) : OutputConfiguration → Prop
  | off (h : text = "off") : Asks point memory text .off
  | preferred (h : text = "preferred") : Asks point memory text .preferred
  | current (h : text = "current") : Asks point memory text .current
  | mode {size : QSize} (hword : text ∉ words) (h : SizeText text size) :
      Asks point memory text (.mode size)
  | modeline {m : ModeInfo} (hword : text ∉ words) (hsize : ∀ size, ¬ SizeText text size)
      (h : ModelineText point memory.name text m) : Asks point memory text (.modeline m)
  | invalid (hword : text ∉ words) (hsize : ∀ size, ¬ SizeText text size)
      (hmodeline : ∀ m, ¬ ModelineText point memory.name text m) : Asks point memory text .preferred

/-! ## What the code reads -/

theorem reads_scanShort :
    Reads scanShort fun text t rest => ∃ n, Integer text n rest ∧ t = toShort n :=
  reads_map reads_integer toShort

theorem scanSize_eq_some_iff {text : String} {size : QSize} :
    scanSize text = some size ↔ SizeText text size := by
  have hreads := reads_bind reads_integer fun width => reads_bind (reads_literal 'x') fun _ =>
    reads_bind reads_integer fun height => reads_pure (⟨toInt width, toInt height⟩ : QSize)
  unfold scanSize SizeText
  rw [Option.map_eq_some_iff]
  constructor
  · rintro ⟨⟨size, rest⟩, hscan, rfl⟩
    obtain ⟨width, mid, hwidth, _, mid', rfl, height, _, hheight, rfl, rfl⟩ :=
      (hreads _ _ _).1 hscan
    exact ⟨width, height, mid', rest, hwidth, hheight, rfl⟩
  · rintro ⟨width, height, mid, rest, hwidth, hheight, rfl⟩
    refine ⟨(_, rest), (hreads _ _ _).2 ?_, rfl⟩
    exact ⟨width, _, hwidth, (), mid, rfl, height, rest, hheight, rfl, rfl⟩

/-- The two words for a signal -/
theorem polarity_iff {name : String} {positive negative flag : UInt32} {word : List Char} :
    Polarity name positive negative word flag ↔
      (if word = '+' :: name.toList then some positive
        else if word = '-' :: name.toList then some negative else none) = some flag := by
  constructor
  · rintro (_ | _)
    · rw [if_pos rfl]
    · rw [if_neg (by simp), if_pos rfl]
  · intro h
    split at h
    · next hword =>
      obtain rfl := Option.some.inj h
      exact hword ▸ .positive
    · split at h
      · next hword =>
        obtain rfl := Option.some.inj h
        exact hword ▸ .negative
      · cases h

theorem hsyncFlag_eq_some_iff {hsync : List Char} {flag : UInt32} :
    hsyncFlag hsync = some flag ↔ Polarity "hsync" modeFlagPhsync modeFlagNhsync hsync flag := by
  rw [polarity_iff, ← show "+hsync".toList = '+' :: "hsync".toList by decide,
    ← show "-hsync".toList = '-' :: "hsync".toList by decide]
  exact Iff.rfl

theorem vsyncFlag_eq_some_iff {vsync : List Char} {flag : UInt32} :
    vsyncFlag vsync = some flag ↔ Polarity "vsync" modeFlagPvsync modeFlagNvsync vsync flag := by
  rw [polarity_iff, ← show "+vsync".toList = '+' :: "vsync".toList by decide,
    ← show "-vsync".toList = '-' :: "vsync".toList by decide]
  exact Iff.rfl

/-- What the format of a modeline reads -/
theorem scanModelineFormat_iff {point : Char} {text : List Char} {s : ScannedModeline}
    {rest : List Char} :
    scanModelineFormat point text = some (s, rest) ↔ ∃ r₁ r₂ r₃, Fraction point text s.fclock r₁ ∧
      Timings r₁ [s.hdisplay, s.hsyncStart, s.hsyncEnd, s.htotal, s.vdisplay, s.vsyncStart,
        s.vsyncEnd, s.vtotal] r₂ ∧ Word 15 r₂ s.hsync r₃ ∧ Word 15 r₃ s.vsync rest := by
  have hreads := reads_bind (reads_fraction point) fun fclock =>
    reads_bind reads_scanShort fun hdisplay => reads_bind reads_scanShort fun hsyncStart =>
    reads_bind reads_scanShort fun hsyncEnd => reads_bind reads_scanShort fun htotal =>
    reads_bind reads_scanShort fun vdisplay => reads_bind reads_scanShort fun vsyncStart =>
    reads_bind reads_scanShort fun vsyncEnd => reads_bind reads_scanShort fun vtotal =>
    reads_bind (reads_word 15) fun hsync => reads_bind (reads_word 15) fun vsync =>
    reads_pure (⟨fclock, hdisplay, hsyncStart, hsyncEnd, htotal, vdisplay, vsyncStart, vsyncEnd,
      vtotal, hsync, vsync⟩ : ScannedModeline)
  refine (hreads _ _ _).trans ?_
  constructor
  · rintro ⟨fclock, r₁, hclock, _, m₁, ⟨n₁, h₁, rfl⟩, _, m₂, ⟨n₂, h₂, rfl⟩, _, m₃, ⟨n₃, h₃, rfl⟩,
      _, m₄, ⟨n₄, h₄, rfl⟩, _, m₅, ⟨n₅, h₅, rfl⟩, _, m₆, ⟨n₆, h₆, rfl⟩, _, m₇, ⟨n₇, h₇, rfl⟩,
      _, r₂, ⟨n₈, h₈, rfl⟩, hsync, r₃, hhsync, vsync, _, hvsync, rfl, rfl⟩
    refine ⟨r₁, r₂, r₃, hclock, ?_, hhsync, hvsync⟩
    exact .cons h₁ (.cons h₂ (.cons h₃ (.cons h₄ (.cons h₅ (.cons h₆ (.cons h₇ (.cons h₈ (.nil _))))))))
  · rintro ⟨r₁, r₂, r₃, hclock, htimings, hhsync, hvsync⟩
    obtain ⟨fclock, a₁, a₂, a₃, a₄, a₅, a₆, a₇, a₈, hsync, vsync⟩ := s
    obtain _ | ⟨h₁, htimings⟩ := htimings
    obtain _ | ⟨h₂, htimings⟩ := htimings
    obtain _ | ⟨h₃, htimings⟩ := htimings
    obtain _ | ⟨h₄, htimings⟩ := htimings
    obtain _ | ⟨h₅, htimings⟩ := htimings
    obtain _ | ⟨h₆, htimings⟩ := htimings
    obtain _ | ⟨h₇, htimings⟩ := htimings
    obtain _ | ⟨h₈, ⟨⟩⟩ := htimings
    exact ⟨_, _, hclock, _, _, ⟨_, h₁, rfl⟩, _, _, ⟨_, h₂, rfl⟩, _, _, ⟨_, h₃, rfl⟩, _, _,
      ⟨_, h₄, rfl⟩, _, _, ⟨_, h₅, rfl⟩, _, _, ⟨_, h₆, rfl⟩, _, _, ⟨_, h₇, rfl⟩, _, _,
      ⟨_, h₈, rfl⟩, _, _, hhsync, _, _, hvsync, rfl, rfl⟩

theorem parseModeline_eq_some_iff {point : Char} {memory m : ModeInfo} {text : String} :
    parseModeline point memory text = some m ↔ ModelineText point memory.name text m := by
  unfold parseModeline ModelineText
  simp only [Option.bind_eq_bind, Option.bind_eq_some_iff, Option.pure_def, Option.some.injEq]
  constructor
  · rintro ⟨⟨s, rest⟩, hscan, hflag, hhflag, vflag, hvflag, rfl⟩
    obtain ⟨r₁, r₂, r₃, hclock, htimings, hhsync, hvsync⟩ := scanModelineFormat_iff.1 hscan
    refine ⟨s.fclock, s.hsync, s.vsync, hflag, vflag, r₁, r₂, r₃, rest, hclock, htimings, hhsync,
      hvsync, hsyncFlag_eq_some_iff.1 hhflag, vsyncFlag_eq_some_iff.1 hvflag, ?_⟩
    rw [UInt32.zero_or]
  · rintro ⟨clock, hsync, vsync, hflag, vflag, r₁, r₂, r₃, rest, hclock, htimings, hhsync, hvsync,
      hhflag, hvflag, hm⟩
    let s : ScannedModeline := ⟨clock, m.hdisplay, m.hsyncStart, m.hsyncEnd, m.htotal, m.vdisplay,
      m.vsyncStart, m.vsyncEnd, m.vtotal, hsync, vsync⟩
    refine ⟨(s, rest), scanModelineFormat_iff.2 ⟨r₁, r₂, r₃, hclock, htimings, hhsync, hvsync⟩,
      hflag, hsyncFlag_eq_some_iff.2 hhflag, vflag, vsyncFlag_eq_some_iff.2 hvflag, ?_⟩
    rw [hm, UInt32.zero_or]

theorem not_mem_words_iff {text : String} :
    text ∉ words ↔ text ≠ "off" ∧ text ≠ "preferred" ∧ text ≠ "current" := by
  simp [words]

/-- **The code reads what a text asks for.** -/
theorem asks_iff {point : Char} {memory : ModeInfo} {mode : String → Option String} {text : String}
    {configuration : OutputConfiguration} :
    Asks point memory text configuration ↔
      (settingsOf point memory mode).configuration text = configuration := by
  have hsize : ∀ size, SizeText text size ↔ (settingsOf point memory mode).scanSize text = some size :=
    fun _ => scanSize_eq_some_iff.symm
  have hmodeline : ∀ m, ModelineText point memory.name text m ↔
      (settingsOf point memory mode).parseModeline text = some m :=
    fun _ => parseModeline_eq_some_iff.symm
  unfold Settings.configuration
  constructor
  · rintro (rfl | rfl | rfl | ⟨hword, h⟩ | ⟨hword, hnone, h⟩ | ⟨hword, hnone, hnot⟩)
    · rw [if_pos rfl]
    · rw [if_neg (by decide), if_pos rfl]
    · rw [if_neg (by decide), if_neg (by decide), if_pos rfl]
    all_goals
      obtain ⟨hoff, hpreferred, hcurrent⟩ := not_mem_words_iff.1 hword
      rw [if_neg hoff, if_neg hpreferred, if_neg hcurrent]
    · rw [(hsize _).1 h]
    · simp only [hsize, ← Option.eq_none_iff_forall_ne_some] at hnone
      rw [hnone, (hmodeline _).1 h]
    · simp only [hsize, ← Option.eq_none_iff_forall_ne_some] at hnone
      simp only [hmodeline, ← Option.eq_none_iff_forall_ne_some] at hnot
      rw [hnone, hnot]
  · rintro rfl
    split
    · next hoff => exact .off hoff
    · next hoff =>
      split
      · next hpreferred => exact .preferred hpreferred
      · next hpreferred =>
        split
        · next hcurrent => exact .current hcurrent
        · next hcurrent =>
          have hword := not_mem_words_iff.2 ⟨hoff, hpreferred, hcurrent⟩
          split
          · next size hsome => exact .mode hword ((hsize size).2 hsome)
          · next hnone =>
            have hnosize : ∀ size, ¬ SizeText text size := fun size h => by
              rw [(hsize size).1 h] at hnone
              cases hnone
            split
            · next m hsome => exact .modeline hword hnosize ((hmodeline m).2 hsome)
            · next hnot =>
              refine .invalid hword hnosize fun m h => ?_
              rw [(hmodeline m).1 h] at hnot
              cases hnot

/-- A modeline and what it stands for. -/
example : parseModeline '.' ModeInfo.zero
    "148.5 1920 2008 2052 2200 1080 1084 1089 1125 +hsync +vsync" = some { ModeInfo.zero with
      clock := 148500, hdisplay := 1920, hsyncStart := 2008, hsyncEnd := 2052, htotal := 2200,
      vdisplay := 1080, vsyncStart := 1084, vsyncEnd := 1089, vtotal := 1125, flags := 5,
      type := 32 } := by decide +kernel

end GreenIsland.Kms

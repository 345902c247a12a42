import GreenIsland.Lib.Run
import GreenIsland.Server.Screencaster

/-! Screenshots (`Screenshot`).

The compositor selects the surface or the area of a screenshot and announces its
size with `setup`; the client asks with `record` for a copy of the image into one of
its buffers.  A record should end with `done`, after a copy that stays within the
buffer and the image, or with `failed`; and the screenshot of a window for which a
surface was selected should be set up and recorded (`Served`).

`served_iff` says in which runs this holds.  `selectSurface` refuses every surface:
its condition, that the type is not one of two, is true of all types.  So the
screenshot of a window is never set up, and a record of it that passes the checks
goes through a null pointer.  A buffer that is not in shared memory is asked for its
data before it is looked at.  And how much is copied is the buffer's size, whatever
the size of the image.  Nor is the window of an output looked at, or the result of a
grab: without one the event loop that waits for the image is never left.

What is asked for while that event loop runs counts as asked for after the record. -/

namespace GreenIsland.Server

/-! ## Model -/

abbrev Effects := UInt32

inductive CaptureType
  | captureOutput
  | captureActiveWindow
  | captureWindow
  | captureArea
deriving DecidableEq

/-- `WL_SHM_FORMAT_ARGB8888` -/
def screenshotFormat : UInt32 := 0

/-- A buffer in shared memory, as `wl_shm` lets clients create them. -/
structure WlShmBuffer extends WlShmLayout where
  /-- `wl_shm_buffer_get_data` returns no null pointer -/
  data : Bool
deriving DecidableEq

/-- What a record finds on the screen. -/
structure Scene where
  /-- the size of the output's geometry -/
  output : QSize
  /-- the output has a window -/
  window : Bool
  /-- the surface has a view, which is an item -/
  view : Bool
  /-- `grabToImage` has a result, which becomes ready -/
  grabbed : Bool
  /-- how many bytes the grabbed image has; `none` if it is null -/
  image : Option Nat
deriving DecidableEq

structure Screenshot where
  captureType : CaptureType
  effects : Effects
  output : Option Nat
  selectedSurface : Option Nat
  selectedArea : Option Nat
deriving DecidableEq

/-- What a screenshot sends, and what it copies. -/
inductive ScreenshotMsg
  | setup (width height stride : Int) (format : UInt32)
  | copied (count : Int)
  | done
  | failed (error : Int)
deriving DecidableEq

def CaptureType.isWindow : CaptureType → Bool
  | captureActiveWindow => true
  | captureWindow => true
  | _ => false

namespace Screenshot

def create (type : CaptureType) (effects : Effects) (output : Option Nat) : Screenshot :=
  ⟨type, effects, output, none, none⟩

def selectSurface (s : Screenshot) (surface : Option Nat) : Screenshot :=
  if s.captureType ≠ .captureActiveWindow ∨ s.captureType ≠ .captureWindow then s
  else { s with selectedSurface := surface }

def selectArea (s : Screenshot) (area : Option Nat) : Screenshot :=
  if s.captureType ≠ .captureArea then s else { s with selectedArea := area }

def sendSetup (size : QSize) : List ScreenshotMsg :=
  [.setup size.width size.height (qint32 (size.width * 4)) screenshotFormat]

/-- The sizes are those of the output, the surface and the area. -/
def setup (s : Screenshot) (output surface area : QSize) : Option (List ScreenshotMsg) :=
  match s.captureType with
  | .captureOutput => s.output.map fun _ => sendSetup output
  | .captureActiveWindow | .captureWindow =>
    match s.selectedSurface with
    | none => some []
    | some _ => some (sendSetup surface)
  | .captureArea =>
    match s.selectedSurface with
    | none => some []
    | some _ => s.selectedArea.map fun _ => sendSetup area

/-- The image is dumped into the buffer. -/
def dump (buffer : WlShmBuffer) (image : Option Nat) : List ScreenshotMsg :=
  match image with
  | none => [.failed badBuffer]
  | some _ => [.copied (qint32 (buffer.height * buffer.stride)), .done]

/-- `grabItem`, for a buffer that the image goes to: without a result of the grab it
waits for ever. -/
def grabItem (buffer : WlShmBuffer) (scene : Scene) : Option (List ScreenshotMsg) :=
  if scene.grabbed then some (dump buffer scene.image) else none

/-- The image of what is captured, for a buffer that was verified. -/
def capture (s : Screenshot) (buffer : WlShmBuffer) (scene : Scene) : Option (List ScreenshotMsg) :=
  match s.captureType with
  | .captureOutput => s.output.bind fun _ =>
    if buffer.width < scene.output.width ∨ buffer.height < scene.output.height then
      some [.failed badBuffer]
    else if scene.window then some (dump buffer scene.image)
    else none
  | .captureActiveWindow | .captureWindow =>
    s.selectedSurface.bind fun _ => if scene.view then grabItem buffer scene else none
  | .captureArea => s.selectedArea.bind fun _ => grabItem buffer scene

/-- `none` is a null pointer that is dereferenced, or a wait without an end; a buffer
that is not in shared memory is `none` as well. -/
def record (s : Screenshot) (buffer : Option WlShmBuffer) (scene : Scene) :
    Option (List ScreenshotMsg) := do
  -- the data are asked for before the pointer is looked at
  let buffer ← buffer
  if buffer.data = false then some [.failed badBuffer]
  else if buffer.stride ≠ qint32 (buffer.width * 4) then some [.failed badBuffer]
  else if buffer.format ≠ screenshotFormat then some [.failed badBuffer]
  else s.capture buffer scene

end Screenshot

/-! ## Runs -/

/-- The calls of the compositor and the requests of the client. -/
inductive ScreenshotOp
  | selectSurface (surface : Option Nat)
  | selectArea (area : Option Nat)
  | setup (output surface area : QSize)
  | record (buffer : Option WlShmBuffer) (scene : Scene)
deriving DecidableEq

/-- A screenshot, what it has sent, and whether a surface was selected for it. -/
structure Capture where
  screenshot : Screenshot
  sent : List ScreenshotMsg
  chosen : Bool
deriving DecidableEq

namespace Capture

def init (type : CaptureType) (effects : Effects) (output : Option Nat) : Capture :=
  ⟨Screenshot.create type effects output, [], false⟩

def send (s : Capture) (msgs : List ScreenshotMsg) : Capture := { s with sent := s.sent ++ msgs }

def step (s : Capture) : ScreenshotOp → Option Capture
  | .selectSurface surface => some { s with
      screenshot := s.screenshot.selectSurface surface
      chosen := s.screenshot.captureType.isWindow && surface.isSome }
  | .selectArea area => some { s with screenshot := s.screenshot.selectArea area }
  | .setup output surface area => (s.screenshot.setup output surface area).map s.send
  | .record buffer scene => (s.screenshot.record buffer scene).map s.send

/-- The buffer passes the checks that do not depend on what is captured. -/
def Verified (b : WlShmBuffer) : Prop :=
  b.data = true ∧ b.stride = qint32 (b.width * 4) ∧ b.format = screenshotFormat

/-- The image has all the bytes that are copied. -/
def Large (b : WlShmBuffer) (image : Option Nat) : Prop := ∀ bytes ∈ image, b.bytes ≤ bytes

/-- A surface was selected, and nothing is wrong with the buffer and the image. -/
def Recordable (s : Capture) (b : WlShmBuffer) (scene : Scene) : Prop :=
  s.chosen = true ∧ Verified b ∧ (scene.view = true ∧ scene.grabbed = true) ∧
    scene.image.isSome = true ∧ Large b scene.image

/-- What a call should do, if it returns. -/
def Served (s : Capture) (op : ScreenshotOp) (s' : Capture) : Prop :=
  match op with
  | .setup _ surface _ => s.chosen = true → s' = s.send (Screenshot.sendSetup surface)
  | .record buffer scene => ∃ b, buffer = some b ∧
    ((s' = s.send [.failed badBuffer] ∧ ¬ s.Recordable b scene) ∨
      ∃ bytes count, scene.image = some bytes ∧ s' = s.send [.copied count, .done] ∧
        0 ≤ count ∧ count ≤ b.bytes ∧ count ≤ bytes)
  | _ => True

/-- What a call must meet for this. -/
def OpOk (s : Capture) : ScreenshotOp → Prop
  | .setup _ _ _ =>
    (s.screenshot.captureType = .captureOutput → s.screenshot.output.isSome = true) ∧ s.chosen = false
  | .record buffer scene => ∃ b, buffer = some b ∧ (Verified b →
    match s.screenshot.captureType with
    | .captureOutput => s.screenshot.output.isSome = true ∧
        (scene.output.width ≤ b.width → scene.output.height ≤ b.height →
          scene.window = true ∧ Large b scene.image)
    | .captureActiveWindow | .captureWindow => False
    | .captureArea =>
      s.screenshot.selectedArea.isSome = true ∧ scene.grabbed = true ∧ Large b scene.image)
  | _ => True

/-- What all calls keep. -/
structure Inv (s : Capture) : Prop where
  /-- no surface is ever selected -/
  selectedSurface_eq : s.screenshot.selectedSurface = none
  isWindow : s.chosen = true → s.screenshot.captureType.isWindow = true

end Capture

/-! ## The calls -/

namespace Screenshot

variable {s : Screenshot} {b : WlShmBuffer}

/-- No type is both. -/
theorem selectSurface_eq (surface : Option Nat) : s.selectSurface surface = s := by
  unfold selectSurface
  refine if_pos ?_
  by_cases h : s.captureType = .captureActiveWindow
  · exact Or.inr (h ▸ nofun)
  · exact Or.inl h

theorem selectArea_selectedSurface (area : Option Nat) :
    (s.selectArea area).selectedSurface = s.selectedSurface := by
  unfold selectArea
  split <;> rfl

theorem selectArea_captureType (area : Option Nat) :
    (s.selectArea area).captureType = s.captureType := by
  unfold selectArea
  split <;> rfl

theorem record_of_verified (scene : Scene) (h : Capture.Verified b) :
    s.record (some b) scene = s.capture b scene := by
  obtain ⟨hdata, hstride, hformat⟩ := h
  show (if _ then _ else if _ then _ else if _ then _ else _) = _
  rw [if_neg (by simp [hdata]), if_neg (not_not_intro hstride), if_neg (not_not_intro hformat)]

theorem record_of_not_verified (scene : Scene) (h : ¬ Capture.Verified b) :
    s.record (some b) scene = some [.failed badBuffer] := by
  show (if _ then _ else if _ then _ else if _ then _ else _) = _
  split_ifs with hdata hstride hformat
  · rfl
  · rfl
  · rfl
  · exact absurd ⟨eq_true_of_ne_false hdata, not_not.1 hstride, not_not.1 hformat⟩ h

/-- Nothing is lost when the number of bytes is computed. -/
theorem bytes_eq (b : WlShmBuffer) : qint32 (b.height * b.stride) = b.bytes ∧ 0 ≤ b.bytes := by
  have hpos : 0 < b.height * b.stride :=
    Int.mul_pos b.height_pos (Int.lt_of_lt_of_le b.width_pos b.width_le)
  have hfit := b.bytes_fit
  exact ⟨qint32_of_fits ⟨by omega, hfit⟩, Int.le_of_lt hpos⟩

end Screenshot

namespace Capture

variable {s : Capture} {b : WlShmBuffer} {scene : Scene}

theorem send_inj {msgs msgs' : List ScreenshotMsg} (h : s.send msgs = s.send msgs') : msgs = msgs' :=
  List.append_cancel_left (congrArg Capture.sent h)

theorem served_failed (h : ¬ s.Recordable b scene) :
    s.Served (.record (some b) scene) (s.send [.failed badBuffer]) :=
  ⟨b, rfl, Or.inl ⟨rfl, h⟩⟩

/-- The buffer's bytes are copied; that is right when the image has as many. -/
theorem served_dump_iff :
    s.Served (.record (some b) scene) (s.send (Screenshot.dump b scene.image)) ↔
      Large b scene.image := by
  obtain ⟨hcount, hpos⟩ := Screenshot.bytes_eq b
  unfold Screenshot.dump
  cases himage : scene.image with
  | none =>
    refine iff_of_true (served_failed fun h => ?_) nofun
    have hsome := h.2.2.2.1
    rw [himage] at hsome
    cases hsome
  | some bytes =>
    dsimp only
    rw [hcount]
    constructor
    · rintro ⟨_, -, ⟨hfailed, -⟩ | ⟨bytes', count, himage', hcopied, -, -, hle⟩⟩
      · cases send_inj hfailed
      · obtain rfl : bytes = bytes' := Option.some.inj (himage.symm.trans himage')
        cases send_inj hcopied
        rintro _ ⟨⟩
        exact hle
    · intro hlarge
      exact ⟨b, rfl, Or.inr ⟨bytes, b.bytes, himage, rfl, hpos, Int.le_refl _, hlarge bytes rfl⟩⟩

abbrev Decides : Capture → ScreenshotOp → Prop := Run.Decides step Served OpOk Inv

theorem Inv.send (h : s.Inv) (msgs : List ScreenshotMsg) : (s.send msgs).Inv :=
  ⟨h.selectedSurface_eq, h.isWindow⟩

theorem decides_selectSurface (h : s.Inv) (surface : Option Nat) :
    Decides s (.selectSurface surface) := by
  refine Run.decides_good rfl trivial trivial ⟨?_, ?_⟩
  · show (s.screenshot.selectSurface surface).selectedSurface = none
    rw [Screenshot.selectSurface_eq]
    exact h.selectedSurface_eq
  · intro hchosen
    show (s.screenshot.selectSurface surface).captureType.isWindow = true
    rw [Screenshot.selectSurface_eq]
    exact (Bool.and_eq_true_iff.1 hchosen).1

theorem decides_selectArea (h : s.Inv) (area : Option Nat) : Decides s (.selectArea area) := by
  refine Run.decides_good rfl trivial trivial ⟨?_, fun hchosen => ?_⟩
  · show (s.screenshot.selectArea area).selectedSurface = none
    rw [Screenshot.selectArea_selectedSurface]
    exact h.selectedSurface_eq
  · show (s.screenshot.selectArea area).captureType.isWindow = true
    rw [Screenshot.selectArea_captureType]
    exact h.isWindow hchosen

/-- A surface is selected for windows only. -/
theorem Inv.chosen_eq (h : s.Inv) (hnot : s.screenshot.captureType.isWindow = false) :
    s.chosen = false := by
  by_contra hchosen
  rw [h.isWindow (eq_true_of_ne_false hchosen)] at hnot
  cases hnot

/-- An output is set up, if there is one. -/
theorem decides_setup_output (h : s.Inv) (htype : s.screenshot.captureType = .captureOutput)
    (output surface area : QSize) : Decides s (.setup output surface area) := by
  have hchosen : s.chosen = false := h.chosen_eq (by rw [htype]; rfl)
  have hsetup : s.screenshot.setup output surface area =
      s.screenshot.output.map fun _ => Screenshot.sendSetup output := by
    unfold Screenshot.setup
    rw [htype]
  cases houtput : s.screenshot.output with
  | none =>
    refine Or.inl ⟨?_, fun hok => ?_⟩
    · show (s.screenshot.setup output surface area).map s.send = none
      rw [hsetup, houtput]
      rfl
    · have hsome := hok.1 htype
      rw [houtput] at hsome
      cases hsome
  | some o =>
    have hs : s.step (.setup output surface area) = some (s.send (Screenshot.sendSetup output)) := by
      show (s.screenshot.setup output surface area).map s.send = _
      rw [hsetup, houtput]
      rfl
    refine Run.decides_good hs (fun hnot => ?_) ⟨fun _ => by rw [houtput]; rfl, hchosen⟩ (h.send _)
    rw [hchosen] at hnot
    cases hnot

/-- No surface is selected, so nothing is sent for the other types. -/
theorem step_setup_of_ne (h : s.Inv) (htype : s.screenshot.captureType ≠ .captureOutput)
    (output surface area : QSize) :
    s.step (.setup output surface area) = some (s.send []) := by
  have hsetup : s.screenshot.setup output surface area = some [] := by
    unfold Screenshot.setup
    rw [h.selectedSurface_eq]
    cases hcase : s.screenshot.captureType with
    | captureOutput => exact absurd hcase htype
    | captureActiveWindow => rfl
    | captureWindow => rfl
    | captureArea => rfl
  show (s.screenshot.setup output surface area).map s.send = _
  rw [hsetup]
  rfl

theorem decides_setup (h : s.Inv) (output surface area : QSize) :
    Decides s (.setup output surface area) := by
  by_cases htype : s.screenshot.captureType = .captureOutput
  · exact decides_setup_output h htype output surface area
  · have hs := step_setup_of_ne h htype output surface area
    cases hchosen : s.chosen with
    | true =>
      refine Run.decides_bad hs (fun hserved => ?_) fun hok => ?_
      · cases send_inj (hserved hchosen)
      · exact Bool.false_ne_true (hok.2.symm.trans hchosen)
    | false =>
      refine Run.decides_good hs (fun hnot => ?_) ⟨fun hnot => absurd hnot htype, hchosen⟩ (h.send _)
      exact absurd (hchosen.symm.trans hnot) Bool.false_ne_true

/-- What `decides_record` is about once the buffer is verified. -/
theorem step_record_of_verified (h : s.Inv) (hb : Verified b) (scene : Scene) :
    s.step (.record (some b) scene) =
      match s.screenshot.captureType with
      | .captureOutput => s.screenshot.output.bind fun _ =>
          if b.width < scene.output.width ∨ b.height < scene.output.height then
            some (s.send [.failed badBuffer])
          else if scene.window then some (s.send (Screenshot.dump b scene.image))
          else none
      | .captureActiveWindow | .captureWindow => none
      | .captureArea => s.screenshot.selectedArea.bind fun _ =>
          if scene.grabbed then some (s.send (Screenshot.dump b scene.image)) else none := by
  show (s.screenshot.record (some b) scene).map s.send = _
  rw [Screenshot.record_of_verified scene hb]
  unfold Screenshot.capture
  cases s.screenshot.captureType with
  | captureOutput =>
    cases s.screenshot.output with
    | none => rfl
    | some o =>
      refine (apply_ite (Option.map s.send) _ _ _).trans (congrArg (ite _ _) ?_)
      exact apply_ite (Option.map s.send) _ _ _
  | captureActiveWindow =>
    rw [h.selectedSurface_eq]
    rfl
  | captureWindow =>
    rw [h.selectedSurface_eq]
    rfl
  | captureArea =>
    cases s.screenshot.selectedArea with
    | none => rfl
    | some a => exact apply_ite (Option.map s.send) _ _ _

theorem opOk_record_of_verified (s : Capture) (hb : Verified b) (scene : Scene) :
    s.OpOk (.record (some b) scene) ↔
      match s.screenshot.captureType with
      | .captureOutput => s.screenshot.output.isSome = true ∧
          (scene.output.width ≤ b.width → scene.output.height ≤ b.height →
            scene.window = true ∧ Large b scene.image)
      | .captureActiveWindow | .captureWindow => False
      | .captureArea =>
        s.screenshot.selectedArea.isSome = true ∧ scene.grabbed = true ∧ Large b scene.image := by
  constructor
  · rintro ⟨_, ⟨⟩, hok⟩
    exact hok hb
  · exact fun hok => ⟨b, rfl, fun _ => hok⟩

theorem decides_record_of_verified (h : s.Inv) (hb : Verified b) (scene : Scene) :
    Decides s (.record (some b) scene) := by
  have hs := step_record_of_verified h hb scene
  have hok := opOk_record_of_verified s hb scene
  cases htype : s.screenshot.captureType with
  | captureOutput =>
    rw [htype] at hs hok
    cases houtput : s.screenshot.output with
    | none =>
      rw [houtput] at hs hok
      exact Or.inl ⟨hs, fun hop => Bool.false_ne_true (hok.1 hop).1⟩
    | some o =>
      rw [houtput] at hs hok
      by_cases hsmall : b.width < scene.output.width ∨ b.height < scene.output.height
      · -- the output does not fit into the buffer
        have hs : s.step (.record (some b) scene) = some (s.send [.failed badBuffer]) :=
          hs.trans (if_pos hsmall)
        have hchosen : s.chosen = false := h.chosen_eq (by rw [htype]; rfl)
        refine Run.decides_good hs (served_failed fun hr => ?_) (hok.2 ⟨rfl, ?_⟩) (h.send _)
        · exact Bool.false_ne_true (hchosen.symm.trans hr.1)
        · omega
      · have hfits : scene.output.width ≤ b.width ∧ scene.output.height ≤ b.height := by omega
        replace hs := hs.trans (if_neg hsmall)
        cases hwindow : scene.window with
        | false =>
          rw [hwindow] at hs hok
          exact Or.inl ⟨hs, fun hop => Bool.false_ne_true ((hok.1 hop).2 hfits.1 hfits.2).1⟩
        | true =>
          rw [hwindow] at hs hok
          refine Or.inr ⟨_, hs, served_dump_iff.trans ⟨fun hlarge => ?_, fun hop => ?_⟩,
            fun _ => h.send _⟩
          · exact hok.2 ⟨rfl, fun _ _ => ⟨rfl, hlarge⟩⟩
          · exact ((hok.1 hop).2 hfits.1 hfits.2).2
  | captureActiveWindow =>
    rw [htype] at hs hok
    exact Or.inl ⟨hs, hok.1⟩
  | captureWindow =>
    rw [htype] at hs hok
    exact Or.inl ⟨hs, hok.1⟩
  | captureArea =>
    rw [htype] at hs hok
    cases harea : s.screenshot.selectedArea with
    | none =>
      rw [harea] at hs hok
      exact Or.inl ⟨hs, fun hop => Bool.false_ne_true (hok.1 hop).1⟩
    | some area =>
      rw [harea] at hs hok
      cases hgrabbed : scene.grabbed with
      | false =>
        rw [hgrabbed] at hs hok
        exact Or.inl ⟨hs, fun hop => Bool.false_ne_true (hok.1 hop).2.1⟩
      | true =>
        rw [hgrabbed] at hs hok
        refine Or.inr ⟨_, hs, served_dump_iff.trans (hok.trans ?_).symm, fun _ => h.send _⟩
        exact (and_iff_right rfl).trans (and_iff_right rfl)

theorem decides_record (h : s.Inv) (buffer : Option WlShmBuffer) (scene : Scene) :
    Decides s (.record buffer scene) := by
  cases buffer with
  | none =>
    refine Or.inl ⟨rfl, ?_⟩
    rintro ⟨_, ⟨⟩, -⟩
  | some b =>
    by_cases hb : Verified b
    · exact decides_record_of_verified h hb scene
    · have hs : s.step (.record (some b) scene) = some (s.send [.failed badBuffer]) := by
        show (s.screenshot.record (some b) scene).map s.send = _
        rw [Screenshot.record_of_not_verified scene hb]
        rfl
      exact Run.decides_good hs (served_failed fun hr => hb hr.2.1)
        ⟨b, rfl, fun hnot => absurd hnot hb⟩ (h.send _)

theorem decides (s : Capture) (op : ScreenshotOp) (h : s.Inv) : Decides s op := by
  cases op with
  | selectSurface surface => exact decides_selectSurface h surface
  | selectArea area => exact decides_selectArea h area
  | setup output surface area => exact decides_setup h output surface area
  | record buffer scene => exact decides_record h buffer scene

/-! ## Results -/

theorem inv_init (type : CaptureType) (effects : Effects) (output : Option Nat) :
    (init type effects output).Inv := ⟨rfl, nofun⟩

/-- **Screenshots.**  Along a run no null pointer is dereferenced, every record is
answered by `failed` or copies no more bytes than the buffer and the image have, and a
window is set up and recorded once a surface was selected, if and only if the calls
meet `OpOk`. -/
theorem served_iff (type : CaptureType) (effects : Effects) (output : Option Nat)
    (ops : List ScreenshotOp) :
    Run.Along step Served (init type effects output) ops ↔
      Run.Meets step OpOk (init type effects output) ops :=
  Run.along_iff_of_decides decides ops _ (inv_init type effects output)

/-- A window is never set up. -/
theorem window_not_set_up :
    ¬ Run.Along step Served (init .captureWindow 0 none)
      [.selectSurface (some 1), .setup ⟨0, 0⟩ ⟨64, 32⟩ ⟨0, 0⟩] := by
  rintro ⟨s₁, hs₁, -, s₂, hs₂, hserved, -⟩
  obtain rfl := Option.some.inj hs₁
  obtain rfl := Option.some.inj hs₂
  exact absurd (hserved rfl) (by decide)

/-- A larger buffer than the output gets what lies behind the image. -/
theorem reads_behind_image :
    ¬ Run.Along step Served (init .captureOutput 0 (some 1))
      [.record (some ⟨⟨⟨100, 100, 400, 0⟩, by decide, by decide, by decide, by decide⟩, true⟩)
        ⟨⟨80, 60⟩, true, false, false, some 19200⟩] := by
  rintro ⟨s₁, hs₁, ⟨_, ⟨⟩, ⟨hfailed, -⟩ | ⟨bytes, count, himage, hcopied, -, -, hle⟩⟩, -⟩
  · obtain rfl := Option.some.inj hs₁
    exact absurd hfailed (by decide)
  · obtain rfl := Option.some.inj hs₁
    obtain rfl : 19200 = bytes := Option.some.inj himage
    have hcount : some (ScreenshotMsg.copied 40000) = some (.copied count) :=
      congrArg (fun s => s.sent.head?) hcopied
    cases hcount
    exact absurd hle (by decide)

end Capture

end GreenIsland.Server

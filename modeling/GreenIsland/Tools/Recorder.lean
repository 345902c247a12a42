import GreenIsland.Lib.SelfDelimiting
import Mathlib.Data.List.Forall2

/-! The recordings of the screencaster tool (`Recorder`).

The magic number is streamed in the constructor, before `open` gives the stream its
device, and is lost.  `image.bits()` is a pointer to bytes; the stream has no operator
for it, the pointer becomes a `bool` and one byte is written.  So no file is a recording
(`not_recorded`), and of the frames it tells the time, the size, the stride and whether
the image is null, but no pixel (`file_eq_iff`). -/

namespace GreenIsland.Tools

/-! ## Streams -/

inductive ByteOrder
  | bigEndian
  | littleEndian
deriving DecidableEq

def littleEndian (x : UInt32) : List UInt8 :=
  [x.toUInt8, (x >>> 8).toUInt8, (x >>> 16).toUInt8, (x >>> 24).toUInt8]

def ByteOrder.bytes : ByteOrder → UInt32 → List UInt8
  | .bigEndian, x => (Tools.littleEndian x).reverse
  | .littleEndian, x => Tools.littleEndian x

structure QDataStream where
  byteOrder : ByteOrder
  /-- the stream has a device -/
  device : Bool
deriving DecidableEq

structure QFile where
  isOpen : Bool
  content : List UInt8
deriving DecidableEq

/-- The stream of a recorder writes to its file. -/
structure Recorder where
  stream : QDataStream
  file : QFile
deriving DecidableEq

/-- A frame, with the size as its width and height. -/
structure Frame where
  time : UInt32
  width : Int32
  height : Int32
  stride : Int32
  /-- the bytes behind `image.bits()`, `none` for the null pointer -/
  bits : Option (List UInt8)
deriving DecidableEq

namespace Recorder

/-- A write without a device is ignored. -/
def put (r : Recorder) (bytes : List UInt8) : Recorder :=
  if r.stream.device then { r with file := { r.file with content := r.file.content ++ bytes } }
  else r

def putUInt32 (r : Recorder) (x : UInt32) : Recorder := r.put (r.stream.byteOrder.bytes x)

def putInt32 (r : Recorder) (x : Int32) : Recorder := r.putUInt32 x.toUInt32

/-- A `QSize`: two numbers, from version 2 of the stream on. -/
def putSize (r : Recorder) (width height : Int32) : Recorder :=
  (r.putInt32 width).putInt32 height

def putBool (r : Recorder) (b : Bool) : Recorder := r.put [b.toUInt8]

/-! ## The recorder -/

def videoMagic : UInt32 := 0x47434150

/-- The constructor.  `content` is what the file has on the disk. -/
def init (content : List UInt8) : Recorder :=
  let r : Recorder := { stream := ⟨.bigEndian, false⟩, file := ⟨false, content⟩ }
  let r := { r with stream := { r.stream with byteOrder := .littleEndian } }
  r.putUInt32 videoMagic

/-- `answer` is whether the file can be opened for writing. -/
def «open» (r : Recorder) (answer : Bool) : Bool × Recorder :=
  let result := !r.file.isOpen && answer
  if result then
    (result, { stream := { r.stream with device := true }, file := ⟨true, []⟩ })
  else
    (result, r)

/-- A pointer to bytes is streamed as whether it is not null. -/
def write (r : Recorder) (frame : Frame) : Recorder :=
  (((r.putUInt32 frame.time).putSize frame.width frame.height).putInt32 frame.stride).putBool
    frame.bits.isSome

end Recorder

/-! ## Code words -/

theorem littleEndian_injective : Function.Injective littleEndian := by
  intro x y h
  simp only [littleEndian, List.cons.injEq, and_true] at h
  obtain ⟨h0, h1, h2, h3⟩ := h
  have h0' := congrArg UInt8.toNat h0
  have h1' := congrArg UInt8.toNat h1
  have h2' := congrArg UInt8.toNat h2
  have h3' := congrArg UInt8.toNat h3
  simp [Nat.shiftRight_eq_div_pow] at h0' h1' h2' h3'
  refine UInt32.toNat_inj.1 ?_
  have hx := x.toNat_lt
  have hy := y.toNat_lt
  omega

theorem selfDelimiting_littleEndian : SelfDelimiting littleEndian :=
  SelfDelimiting.of_length 4 (fun _ => rfl) littleEndian_injective

theorem toUInt32_injective : Function.Injective Int32.toUInt32 := by
  rintro ⟨x⟩ ⟨y⟩ rfl
  rfl

theorem selfDelimiting_int32 : SelfDelimiting fun x : Int32 => littleEndian x.toUInt32 :=
  selfDelimiting_littleEndian.comp toUInt32_injective

theorem selfDelimiting_bool : SelfDelimiting fun b : Bool => [b.toUInt8] := by
  refine SelfDelimiting.of_length 1 (fun _ => rfl) ?_
  show ∀ b b' : Bool, [b.toUInt8] = [b'.toUInt8] → b = b'
  decide

/-- Time, width, height and stride. -/
abbrev Header := UInt32 × Int32 × Int32 × Int32

def Frame.header (f : Frame) : Header := (f.time, f.width, f.height, f.stride)

def encodeHeader (h : Header) : List UInt8 :=
  littleEndian h.1 ++ (littleEndian h.2.1.toUInt32 ++ (littleEndian h.2.2.1.toUInt32 ++
    littleEndian h.2.2.2.toUInt32))

theorem selfDelimiting_header : SelfDelimiting encodeHeader :=
  selfDelimiting_littleEndian.pair (selfDelimiting_int32.pair (selfDelimiting_int32.pair
    selfDelimiting_int32))

/-- What is written of a frame: its header and whether it has an image. -/
def Frame.record (f : Frame) : Header × Bool := (f.header, f.bits.isSome)

def encode (r : Header × Bool) : List UInt8 := encodeHeader r.1 ++ [r.2.toUInt8]

theorem selfDelimiting_encode : SelfDelimiting encode :=
  selfDelimiting_header.pair selfDelimiting_bool

theorem encode_ne_nil (r : Header × Bool) : encode r ≠ [] :=
  List.append_ne_nil_of_right_ne_nil _ (List.cons_ne_nil _ _)

/-! ## The file -/

/-- The stream of a recorder that was opened. -/
def Recorder.Ready (r : Recorder) : Prop := r.stream = ⟨.littleEndian, true⟩

theorem Recorder.Ready.write {r : Recorder} (h : r.Ready) (f : Frame) :
    r.write f = { r with file := ⟨r.file.isOpen, r.file.content ++ encode f.record⟩ } := by
  obtain ⟨stream, isOpen, content⟩ := r
  obtain rfl : stream = ⟨.littleEndian, true⟩ := h
  simp [Recorder.write, Recorder.putSize, Recorder.putInt32, Recorder.putUInt32,
    Recorder.putBool, Recorder.put, ByteOrder.bytes, encode, encodeHeader, Frame.record, Frame.header]

theorem Recorder.Ready.writes {r : Recorder} (h : r.Ready) (frames : List Frame) :
    frames.foldl Recorder.write r = { r with file :=
      ⟨r.file.isOpen, r.file.content ++ (frames.map Frame.record).flatMap encode⟩ } := by
  induction frames generalizing r with
  | nil => simp
  | cons f frames ih =>
    rw [List.foldl_cons, h.write f]
    refine (ih (r := { r with file := ⟨r.file.isOpen, r.file.content ++ encode f.record⟩ }) h).trans ?_
    simp

/-- The magic number is lost. -/
theorem open_init (content : List UInt8) :
    (Recorder.init content).open true = (true, ⟨⟨.littleEndian, true⟩, ⟨true, []⟩⟩) := rfl

/-- The file after frames were written to a recorder that could be opened. -/
def recording (content : List UInt8) (frames : List Frame) : List UInt8 :=
  (frames.foldl Recorder.write ((Recorder.init content).open true).2).file.content

theorem recording_eq (content : List UInt8) (frames : List Frame) :
    recording content frames = (frames.map Frame.record).flatMap encode := by
  have hready : ((Recorder.init content).open true).2.Ready := by
    rw [open_init]
    rfl
  rw [recording, hready.writes, open_init, List.nil_append]

/-- **What a file tells.** -/
theorem file_eq_iff (content content' : List UInt8) (frames frames' : List Frame) :
    recording content frames = recording content' frames' ↔
      frames.map Frame.record = frames'.map Frame.record := by
  rw [recording_eq, recording_eq]
  exact (selfDelimiting_encode.flatMap_injective encode_ne_nil).eq_iff

/-! ## Recordings -/

/-- As many bytes of the image as the stride and the height say. -/
def ImageBytes (f : Frame) (pixels : List UInt8) : Prop :=
  (pixels.length : Int) = f.stride.toInt * f.height.toInt ∧ pixels <+: f.bits.getD []

/-- The headers, each followed by the bytes of its image. -/
def frameBytes (frames : List Frame) (images : List (List UInt8)) : List UInt8 :=
  (List.zipWith (fun f pixels => encodeHeader f.header ++ pixels) frames images).flatten

/-- The file is the magic number and the frames. -/
def Recorded (frames : List Frame) (file : List UInt8) : Prop :=
  ∃ images, List.Forall₂ ImageBytes frames images ∧
    file = littleEndian Recorder.videoMagic ++ frameBytes frames images

/-- A recording can be decoded: it tells the headers and the images. -/
theorem frameBytes_injective {frames frames' : List Frame} {images images' : List (List UInt8)}
    (h : List.Forall₂ ImageBytes frames images) (h' : List.Forall₂ ImageBytes frames' images')
    (heq : frameBytes frames images = frameBytes frames' images') :
    frames.map Frame.header = frames'.map Frame.header ∧ images = images' := by
  have hne (header : Header) (rest : List UInt8) : encodeHeader header ++ rest ≠ [] :=
    List.cons_ne_nil _ _
  induction h generalizing frames' images' with
  | nil =>
    cases h' with
    | nil => exact ⟨rfl, rfl⟩
    | cons => exact absurd (List.append_eq_nil_iff.1 heq.symm).1 (hne _ _)
  | @cons f pixels frames images hpixels _ ih =>
    cases h' with
    | nil => exact absurd (List.append_eq_nil_iff.1 heq).1 (hne _ _)
    | @cons f' pixels' frames' images' hpixels' hrest =>
      simp only [frameBytes, List.zipWith_cons_cons, List.flatten_cons, List.append_assoc] at heq
      obtain ⟨hheader, heq⟩ := selfDelimiting_header _ _ _ _ heq
      -- the header says how long the image is
      have hlength : pixels.length = pixels'.length := by
        have hstride : f.stride = f'.stride := congrArg (fun h => h.2.2.2) hheader
        have hheight : f.height = f'.height := congrArg (fun h => h.2.2.1) hheader
        refine Int.ofNat_inj.1 ?_
        rw [hpixels.1, hpixels'.1, hstride, hheight]
      obtain ⟨himage, heq⟩ := List.append_inj heq hlength
      obtain ⟨hheaders, himages⟩ := ih hrest heq
      rw [List.map_cons, List.map_cons, hheader, hheaders, himage, himages]
      exact ⟨rfl, rfl⟩

theorem toUInt8_ne_magic : ∀ b : Bool, b.toUInt8 ≠ Recorder.videoMagic.toUInt8 := by
  decide

/-- **No file is a recording.** -/
theorem not_recorded (content : List UInt8) (frames : List Frame) :
    ¬ Recorded frames (recording content frames) := by
  rintro ⟨images, himages, hfile⟩
  rw [recording_eq] at hfile
  cases himages with
  | nil => exact absurd (congrArg List.length hfile) (by decide)
  | @cons f pixels frames images _ _ =>
    simp only [frameBytes, List.map_cons, List.flatMap_cons, List.zipWith_cons_cons,
      List.flatten_cons, encode, encodeHeader, Frame.record, Frame.header, List.append_assoc] at hfile
    -- every number is read where the one in front of it is expected
    have hword := selfDelimiting_littleEndian
    obtain ⟨htime, hfile⟩ := hword _ _ _ _ hfile
    obtain ⟨hwidth, hfile⟩ := hword _ _ _ _ hfile
    obtain ⟨hheight, hfile⟩ := hword _ _ _ _ hfile
    obtain ⟨hstride, hfile⟩ := hword _ _ _ _ hfile
    rw [hstride, hheight, hwidth, htime] at hfile
    exact toUInt8_ne_magic f.bits.isSome (List.cons.inj hfile).1

/-- Two frames with different pixels: neither file is a recording, and both are the same. -/
theorem recording_no_pixels :
    ¬ Recorded [⟨0, 1, 1, 4, some [1, 2, 3, 4]⟩] (recording [] [⟨0, 1, 1, 4, some [1, 2, 3, 4]⟩]) ∧
      recording [] [⟨0, 1, 1, 4, some [1, 2, 3, 4]⟩] =
        recording [] [⟨0, 1, 1, 4, some [5, 6, 7, 8]⟩] := by
  refine ⟨?_, by decide⟩
  rintro ⟨images, -, hfile⟩
  have hhead : some 0 = some Recorder.videoMagic.toUInt8 := congrArg List.head? hfile
  exact absurd hhead (by decide)

/-! ## The tool -/

structure Application where
  /-- `none` when the frames are saved as images -/
  recorder : Option Recorder
  maxFrames : Int
  curFrame : Int
  /-- `quit` was called -/
  quit : Bool

/-- A frame that was recorded, with the image of its buffer, and whether it is upside down. -/
structure RecordedFrame where
  frame : Frame
  yInverted : Bool

section
-- the rows of an image, from the last one to the first
variable (mirrored : List UInt8 → List UInt8)

/-- The frame that is written. -/
def RecordedFrame.upright (e : RecordedFrame) : Frame :=
  if e.yInverted then { e.frame with bits := e.frame.bits.map mirrored } else e.frame

/-- The handler of `frameRecorded`. -/
def Application.frameRecorded (a : Application) (e : RecordedFrame) : Application :=
  let curFrame := a.curFrame + 1
  { a with
    curFrame
    recorder := a.recorder.map fun r => r.write (e.upright mirrored)
    quit := a.quit || (0 < a.maxFrames && a.maxFrames ≤ curFrame) }

/-- Every frame is written, in order and once. -/
theorem recorder_frameRecorded (a : Application) (events : List RecordedFrame) :
    (events.foldl (Application.frameRecorded mirrored) a).recorder =
      a.recorder.map fun r => (events.map (RecordedFrame.upright mirrored)).foldl Recorder.write r := by
  induction events generalizing a with
  | nil => simp
  | cons e events ih =>
    rw [List.foldl_cons, ih]
    simp [Application.frameRecorded, Function.comp_def]

/-- The file of the tool is that of the frames it was sent. -/
theorem file_frameRecorded (content : List UInt8) (a : Application)
    (ha : a.recorder = some ((Recorder.init content).open true).2) (events : List RecordedFrame) :
    (events.foldl (Application.frameRecorded mirrored) a).recorder.map (·.file.content) =
      some (recording content (events.map (RecordedFrame.upright mirrored))) := by
  rw [recorder_frameRecorded, ha]
  rfl

end

end GreenIsland.Tools

import GreenIsland.Lib.Trim
import Mathlib.Logic.Function.Basic

/-! The selection of the compositor (`DataDeviceManager`), and how its data is retained.

When it is told to, the compositor reads all data of a new selection, one format after the other.
For each it makes a pipe and hands the write end to the client of the source; the calls that come to
that say whether the pipe can be made.  A read that is no longer wanted goes on until the client
has closed its end.

`QMimeData` keeps a list of URLs for `text/uri-list` and the bytes for every other format.  What Qt
makes of texts, images, colours and URLs when a client asks for them is a parameter
(`MimeConversions`).

Sources, data devices and descriptors are numbers that are not used again; a pipe holds any number
of bytes.  A call of the client names what exists, else nothing comes of it.  `step` is `none` when a
destroyed source or a null pointer is used. -/

namespace GreenIsland.Compositor

/-- `manager` says whether `m_manager` is set. -/
structure DataSource where
  time : Nat
  mimeTypes : List String
  manager : Bool
deriving DecidableEq, Repr

/-- What is kept of a format: its bytes, or the texts that URLs were made from -/
inductive MimeValue where
  | bytes (bytes : List UInt8)
  | urls (urls : List (List UInt8))
deriving DecidableEq, Repr

namespace MimeValue

/-- What `QByteArray::trimmed` leaves out -/
def isSpace (byte : UInt8) : Bool := byte = 32 || (9 ≤ byte && byte ≤ 13)

/-- The URLs are the lines; a zero at the end is left out, and so are lines of spaces. -/
def urlLines (bytes : List UInt8) : List (List UInt8) :=
  let bytes := if bytes.getLast? = some 0 then bytes.dropLast else bytes
  ((bytes.splitOn 10).map (Trim.trim isSpace)).filter fun url => !url.isEmpty

/-- What `QMimeData::setData` keeps -/
def ofBytes (format : String) (bytes : List UInt8) : MimeValue :=
  if format = "text/uri-list" then .urls (urlLines bytes) else .bytes bytes

end MimeValue

/-- `QMimeData`: the formats in the order in which they were set -/
abbrev MimeData := List (String × MimeValue)

namespace MimeData

def setData (data : MimeData) (format : String) (bytes : List UInt8) : MimeData :=
  data.filter (fun entry => entry.1 ≠ format) ++ [(format, .ofBytes format bytes)]

def formats (data : MimeData) : List String := data.map Prod.fst

def value (mimeData : MimeData) (format : String) : Option MimeValue :=
  (mimeData.find? fun entry => entry.1 = format).map Prod.snd

/-- `data` of a format whose bytes are kept; empty if there is no such format -/
def data (mimeData : MimeData) (format : String) : List UInt8 :=
  match mimeData.value format with
  | some (.bytes bytes) => bytes
  | _ => []

def urls (mimeData : MimeData) : List (List UInt8) :=
  match mimeData.value "text/uri-list" with
  | some (.urls urls) => urls
  | _ => []

def hasImage (mimeData : MimeData) : Bool := mimeData.formats.contains "application/x-qt-image"

end MimeData

/-- Qt's conversions: `text().toUtf8()`, the image written in the format that is asked for, the name
of the colour, and the encoded URL -/
structure MimeConversions where
  text : MimeData → List UInt8
  image : MimeData → String → List UInt8
  color : MimeData → List UInt8
  url : List UInt8 → List UInt8

/-- The format is that of an image. -/
def isImageFormat (mimeType : String) : Bool :=
  mimeType = "application/x-qt-image" || "image/".toList.isPrefixOf mimeType.toList

/-- `QWaylandMimeHelper::getByteArray` -/
def getByteArray (qt : MimeConversions) (mimeData : MimeData) (mimeType : String) : List UInt8 :=
  if mimeType = "text/plain" then qt.text mimeData
  else if mimeData.hasImage ∧ isImageFormat mimeType then qt.image mimeData mimeType
  else if mimeType = "application/x-color" then qt.color mimeData
  else if mimeType = "text/uri-list" then mimeData.urls.flatMap fun url => qt.url url ++ [10]
  else mimeData.data mimeType

/-- A pipe, of which the client has the write end.  `source`, `mimeType` and `written` tell what it is
for and all that was ever written. -/
structure Pipe where
  unread : List UInt8
  readEnd : Bool
  writeEnd : Bool
  source : Nat
  mimeType : String
  written : List UInt8
deriving DecidableEq, Repr

/-- `DataDeviceManager`, with the sources that exist and the pipes.  `fed` is what
`retainedSelectionReceived` was called with, `offered` what the compositor itself has offered. -/
structure DataDeviceManager where
  sources : Nat → Option DataSource
  nextSource : Nat
  currentSelectionSource : Option Nat
  retainSelection : Bool
  retainedData : MimeData
  retainedReadNotifier : Option Nat
  obsoleteRetainedReadNotifiers : List Nat
  retainedReadIndex : Nat
  retainedReadBuf : List UInt8
  compositorOwnsSelection : Bool
  pipes : Nat → Option Pipe
  nextFd : Nat
  fed : List MimeData
  offered : List (Nat × List String)

namespace DataDeviceManager

def new : DataDeviceManager where
  sources := fun _ => none
  nextSource := 0
  currentSelectionSource := none
  retainSelection := false
  retainedData := []
  retainedReadNotifier := none
  obsoleteRetainedReadNotifiers := []
  retainedReadIndex := 0
  retainedReadBuf := []
  compositorOwnsSelection := false
  pipes := fun _ => none
  nextFd := 0
  fed := []
  offered := []

def putPipe (w : DataDeviceManager) (fd : Nat) (pipe : Pipe) : DataDeviceManager :=
  { w with pipes := Function.update w.pipes fd (some pipe) }

/-! ## Reading -/

def feedRetainedSelectionData (w : DataDeviceManager) : DataDeviceManager :=
  if w.retainSelection then { w with fed := w.fed ++ [w.retainedData] } else w

/-- A read that is not exhausted goes on. -/
def finishReadFromClient (w : DataDeviceManager) : DataDeviceManager :=
  { w with
    obsoleteRetainedReadNotifiers := w.obsoleteRetainedReadNotifiers ++ w.retainedReadNotifier.toList
    retainedReadNotifier := none }

def clearReadBuf (w : DataDeviceManager) : DataDeviceManager := { w with retainedReadBuf := [] }

/-- The source is sent a new pipe for the format. -/
def request (w : DataDeviceManager) (s : Nat) (mimeType : String) : DataDeviceManager :=
  { w.putPipe w.nextFd ⟨[], true, true, s, mimeType, []⟩ with
    nextFd := w.nextFd + 1
    retainedReadNotifier := some w.nextFd }

/-- The next format; `piped` says whether the pipe can be made. -/
def retain (w : DataDeviceManager) (piped : Bool) : Option DataDeviceManager := do
  let s ← w.currentSelectionSource
  let source ← w.sources s
  let w := w.finishReadFromClient
  match source.mimeTypes[w.retainedReadIndex]? with
  | none => return w.feedRetainedSelectionData
  | some mimeType =>
    let w := w.clearReadBuf
    return if piped then w.request s mimeType else w

/-- `readFromClient`.  What is read of an obsolete pipe is dropped. -/
def readFromClient (w : DataDeviceManager) (fd : Nat) (piped : Bool) : Option DataDeviceManager := do
  let pipe ← w.pipes fd
  if fd ∈ w.obsoleteRetainedReadNotifiers then
    if pipe.writeEnd then
      return w.putPipe fd { pipe with unread := [] }
    else
      return { w.putPipe fd { pipe with unread := [], readEnd := false } with
        obsoleteRetainedReadNotifiers := w.obsoleteRetainedReadNotifiers.erase fd }
  else if pipe.unread ≠ [] then
    return { w.putPipe fd { pipe with unread := pipe.unread.drop 4096 } with
      retainedReadBuf := w.retainedReadBuf ++ pipe.unread.take 4096 }
  else if pipe.writeEnd then
    return w
  else
    let w := { w.putPipe fd { pipe with readEnd := false } with retainedReadNotifier := none }
    let s ← w.currentSelectionSource
    let source ← w.sources s
    let mimeType ← source.mimeTypes[w.retainedReadIndex]?
    let data := w.retainedData.setData mimeType w.retainedReadBuf
    retain { w with retainedData := data, retainedReadIndex := w.retainedReadIndex + 1 } piped

/-! ## The selection -/

/-- An older selection is refused. -/
def setCurrentSelectionSource (w : DataDeviceManager) (s : Option Nat) (piped : Bool) :
    Option DataDeviceManager :=
  match s with
  | none =>
    some { w.finishReadFromClient with compositorOwnsSelection := false, currentSelectionSource := none }
  | some s => do
    let source ← w.sources s
    let older ← match w.currentSelectionSource with
      | none => some false
      | some current => (w.sources current).map fun current => decide (source.time < current.time)
    if older then return w
    let w := { w.finishReadFromClient with
      compositorOwnsSelection := false
      currentSelectionSource := some s
      sources := Function.update w.sources s (some { source with manager := true }) }
    if w.retainSelection then retain { w with retainedData := [], retainedReadIndex := 0 } piped
    else return w

/-- `create_data_source`, at the time `currentTimeMsecs` -/
def createDataSource (w : DataDeviceManager) (time : Nat) : DataDeviceManager :=
  { w with
    sources := Function.update w.sources w.nextSource (some ⟨time, [], false⟩)
    nextSource := w.nextSource + 1 }

def offer (w : DataDeviceManager) (s : Nat) (mimeType : String) : DataDeviceManager :=
  match w.sources s with
  | none => w
  | some source =>
    let offering := { source with mimeTypes := source.mimeTypes ++ [mimeType] }
    { w with sources := Function.update w.sources s (some offering) }

/-- `~DataSource` and `sourceDestroyed` -/
def destroySource (w : DataDeviceManager) (s : Nat) : DataDeviceManager :=
  match w.sources s with
  | none => w
  | some source =>
    let w := if source.manager ∧ w.currentSelectionSource = some s then w.finishReadFromClient else w
    { w with sources := Function.update w.sources s none }

def offerFromCompositorToClient (w : DataDeviceManager) (device : Nat) : DataDeviceManager :=
  if w.compositorOwnsSelection then { w with offered := w.offered ++ [(device, w.retainedData.formats)] }
  else w

/-- `offerRetainedSelection`, for the data device of a client -/
def offerRetainedSelection (w : DataDeviceManager) (device : Nat) : DataDeviceManager :=
  if w.retainedData.formats = [] then w
  else { w with compositorOwnsSelection := true }.offerFromCompositorToClient device

/-- `overrideSelection`.  `mimeData` are the formats with what `data()` returns for them; `focus` is,
for a client that has the keyboard focus, its data device. -/
def overrideSelection (w : DataDeviceManager) (mimeData : List (String × List UInt8))
    (focus : Option (Option Nat)) : Option DataDeviceManager :=
  if mimeData = [] then some w
  else
    let retainedData := mimeData.foldl (fun (data : MimeData) entry => data.setData entry.1 entry.2) []
    let fed := { w with retainedData := retainedData }.feedRetainedSelectionData
    let w := { fed with compositorOwnsSelection := true }
    match focus with
    | none => some w
    | some device => device.map w.offerFromCompositorToClient

/-- `comp_receive`: what a client is written that reads from the compositor's offer -/
def compReceive (qt : MimeConversions) (w : DataDeviceManager) (mimeType : String) : List UInt8 :=
  getByteArray qt w.retainedData mimeType

/-! ## The client's end of a pipe -/

def write (w : DataDeviceManager) (fd : Nat) (bytes : List UInt8) : DataDeviceManager :=
  match w.pipes fd with
  | none => w
  | some pipe =>
    if pipe.writeEnd ∧ pipe.readEnd then
      w.putPipe fd { pipe with unread := pipe.unread ++ bytes, written := pipe.written ++ bytes }
    else w

def closeWriteEnd (w : DataDeviceManager) (fd : Nat) : DataDeviceManager :=
  match w.pipes fd with
  | none => w
  | some pipe => w.putPipe fd { pipe with writeEnd := false }

/-- The notifiers that exist -/
def notifiers (w : DataDeviceManager) : List Nat :=
  w.retainedReadNotifier.toList ++ w.obsoleteRetainedReadNotifiers

end DataDeviceManager

inductive SelectionCall where
  | createDataSource (time : Nat)
  | offer (s : Nat) (mimeType : String)
  | destroySource (s : Nat)
  | setCurrentSelectionSource (s : Option Nat) (piped : Bool)
  | setRetainedSelectionEnabled (enabled : Bool)
  | overrideSelection (mimeData : List (String × List UInt8)) (focus : Option (Option Nat))
  | offerRetainedSelection (device : Nat)
  | write (fd : Nat) (bytes : List UInt8)
  | closeWriteEnd (fd : Nat)
  | activated (fd : Nat) (piped : Bool)
deriving DecidableEq, Repr

namespace DataDeviceManager

def step (w : DataDeviceManager) : SelectionCall → Option DataDeviceManager
  | .createDataSource time => some (w.createDataSource time)
  | .offer s mimeType => some (w.offer s mimeType)
  | .destroySource s => some (w.destroySource s)
  | .setCurrentSelectionSource none piped => w.setCurrentSelectionSource none piped
  | .setCurrentSelectionSource (some s) piped =>
    if (w.sources s).isSome then w.setCurrentSelectionSource (some s) piped else some w
  | .setRetainedSelectionEnabled enabled => some { w with retainSelection := enabled }
  | .overrideSelection mimeData focus => w.overrideSelection mimeData focus
  | .offerRetainedSelection device => some (w.offerRetainedSelection device)
  | .write fd bytes => some (w.write fd bytes)
  | .closeWriteEnd fd => some (w.closeWriteEnd fd)
  | .activated fd piped => if fd ∈ w.notifiers then w.readFromClient fd piped else some w

end DataDeviceManager

end GreenIsland.Compositor

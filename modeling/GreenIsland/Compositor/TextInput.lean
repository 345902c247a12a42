import GreenIsland.Qt.Geometry
import GreenIsland.Qt.String

/-! What an input method writes, from the compositor to the client
(`QWaylandTextInput::sendInputMethodEvent`, `QWaylandInputMethodEventBuilder`).

The compositor knows the text around the cursor as the client told it, and edits its copy along with
each event that it sends.  Positions are counted in UTF-16 units on both sides and in UTF-8 bytes
on the way.  The client's builder collects the messages and makes an event of them.  What hands
them to the builder and what its events do to the client's text is a parameter
(`TextInputClient`), with what is documented of them (`TextInputClient.Lawful`).

* `index_round_trip`: a position comes back, forwards and backwards. -/

namespace GreenIsland.Compositor

/-! ## Events and messages -/

inductive UnderlineStyle where
  | singleUnderline
  | waveUnderline
deriving DecidableEq, Repr

/-- `QTextCharFormat`, as far as `addPreeditStyling` sets it -/
structure TextCharFormat where
  bold : Bool
  underlineStyle : UnderlineStyle
  underlineRed : Bool
deriving DecidableEq, Repr

/-- `QInputMethodEvent::AttributeType` -/
inductive AttributeType where
  | textFormat
  | cursor
  | language
  | ruby
  | selection
deriving DecidableEq, Repr

/-- `QInputMethodEvent::Attribute` -/
structure Attribute where
  type : AttributeType
  start : Int
  length : Int
  value : Option TextCharFormat
deriving DecidableEq, Repr

/-- `QInputMethodEvent` -/
structure InputMethodEvent where
  preeditString : QString
  attributes : List Attribute
  commitString : QString
  replacementStart : Int
  replacementLength : Int
deriving DecidableEq, Repr

/-- The events of `zwp_text_input_v2` that carry text, which is in UTF-8 -/
inductive TextInputMessage where
  | deleteSurroundingText (beforeLength afterLength : Nat)
  | cursorPosition (index anchor : Int)
  | commitString (text : List UInt8)
  | preeditCursor (index : Int)
  | preeditStyling (index length style : Nat)
  | preeditString (text commit : List UInt8)
deriving DecidableEq, Repr

/-- What `QInputMethod::queryFocusObject` says on the client's side -/
structure FocusObject where
  surroundingText : QString
  cursorPosition : Int
  anchorPosition : Int
  absolutePosition : Int
deriving DecidableEq, Repr

/-! ## The builder -/

/-- `QWaylandInputMethodEventBuilder` -/
structure EventBuilder where
  anchor : Int
  cursor : Int
  deleteBefore : Nat
  deleteAfter : Nat
  preeditCursor : Int
  preeditStyles : List Attribute

namespace EventBuilder

/-- The constructor, and `reset` -/
def new : EventBuilder := ⟨0, 0, 0, 0, 0, []⟩

def indexFromWayland (text : QString) (length base : Int) : Int :=
  if length = 0 then base
  else if length < 0 then
    let utf8 := (text.left base).toUtf8
    (QString.fromUtf8 (utf8.take (max (utf8.length + length) 0).toNat)).length
  else
    let utf8 := (text.mid base (-1)).toUtf8
    (QString.fromUtf8 (utf8.take length.toNat)).length + base

def indexToWayland (text : QString) (length base : Int) : Int := (text.mid base length).toUtf8.length

def setCursorPosition (b : EventBuilder) (index anchor : Int) : EventBuilder :=
  { b with cursor := index, anchor := anchor }

def setDeleteSurroundingText (b : EventBuilder) (beforeLength afterLength : Nat) : EventBuilder :=
  { b with deleteBefore := beforeLength, deleteAfter := afterLength }

/-- The formats of a style; the fourth case goes on into the fifth. -/
def formats : Nat → List TextCharFormat
  | 0 | 1 => [⟨false, .singleUnderline, false⟩]
  | 2 | 3 => [⟨true, .singleUnderline, false⟩]
  | 4 => [⟨false, .singleUnderline, false⟩, ⟨false, .waveUnderline, true⟩]
  | 5 => [⟨false, .waveUnderline, true⟩]
  | _ => []

def addPreeditStyling (b : EventBuilder) (index length style : Nat) : EventBuilder :=
  { b with preeditStyles := b.preeditStyles ++
      (formats style).map fun format => ⟨.textFormat, index, length, some format⟩ }

def setPreeditCursor (b : EventBuilder) (index : Int) : EventBuilder := { b with preeditCursor := index }

/-- The lengths are unsigned, and negated as such. -/
def replacementForDeleteSurrounding (b : EventBuilder) (f : FocusObject) : Int × Int :=
  if b.deleteBefore = 0 ∧ b.deleteAfter = 0 then (0, 0)
  else
    let selectionStart := min f.cursorPosition f.anchorPosition
    let selectionEnd := max f.cursorPosition f.anchorPosition
    let deleteBefore := selectionStart -
      indexFromWayland f.surroundingText (qint32 (-b.deleteBefore)) selectionStart
    let deleteAfter :=
      indexFromWayland f.surroundingText (qint32 b.deleteAfter) selectionEnd - selectionEnd
    (-deleteBefore, deleteBefore + deleteAfter)

def buildCommit (b : EventBuilder) (f : FocusObject) (text : QString) : InputMethodEvent :=
  let replacement := b.replacementForDeleteSurrounding f
  let attributes :=
    if b.cursor ≠ 0 ∨ b.anchor ≠ 0 then
      let absoluteOffset := f.absolutePosition - f.cursorPosition
      let position := min f.anchorPosition f.cursorPosition + replacement.1
      let cursorAfterCommit := position + text.length
      let surrounding := f.surroundingText.replace position
        ((f.anchorPosition - f.cursorPosition).natAbs + replacement.2) text
      [⟨.selection, indexFromWayland surrounding b.cursor cursorAfterCommit + absoluteOffset,
        indexFromWayland surrounding b.anchor cursorAfterCommit + absoluteOffset, none⟩]
    else []
  ⟨[], attributes, text, replacement.1, replacement.2⟩

/-- The body of the loop over `m_preeditStyles` -/
def styleFromWayland (text : QString) (attr : Attribute) : Attribute :=
  let start := indexFromWayland text attr.start 0
  { attr with start := start, length := indexFromWayland text (attr.start + attr.length) 0 - start }

def buildPreedit (b : EventBuilder) (f : FocusObject) (text : QString) : InputMethodEvent :=
  let cursor :=
    if b.preeditCursor < 0 then [⟨.cursor, 0, 0, none⟩]
    else if 0 < b.preeditCursor then [⟨.cursor, indexFromWayland text b.preeditCursor 0, 1, none⟩]
    else []
  let styles := b.preeditStyles.map (styleFromWayland text)
  let replacement := b.replacementForDeleteSurrounding f
  ⟨text, cursor ++ styles, [], replacement.1, replacement.2⟩

end EventBuilder

/-! ## The client -/

/-- A client in a state of `σ`: its builder, what its focus object answers, the events that this was
sent so far, and what becomes of a message -/
structure TextInputClient (σ : Type) where
  builder : σ → EventBuilder
  focus : σ → FocusObject
  delivered : σ → List InputMethodEvent
  receive : σ → TextInputMessage → σ

/-- What the event replaces is in the text. -/
def FocusObject.Covers (f : FocusObject) (event : InputMethodEvent) : Prop :=
  let position := min f.anchorPosition f.cursorPosition + event.replacementStart
  let count := (f.anchorPosition - f.cursorPosition).natAbs + event.replacementLength
  0 ≤ position ∧ 0 ≤ count ∧ position + count ≤ f.surroundingText.length

/-- The event has edited the text: the selection, and what is replaced around it, has made way for the
committed text, and the cursor is behind that.  The builder too takes the text to be like this. -/
structure FocusObject.Edited (f : FocusObject) (event : InputMethodEvent) (f' : FocusObject) :
    Prop where
  surroundingText : f'.surroundingText = f.surroundingText.replace
    (min f.anchorPosition f.cursorPosition + event.replacementStart)
    ((f.anchorPosition - f.cursorPosition).natAbs + event.replacementLength) event.commitString
  cursorPosition : f'.cursorPosition =
    min f.anchorPosition f.cursorPosition + event.replacementStart + event.commitString.length
  anchorPosition : f'.anchorPosition = f'.cursorPosition

namespace TextInputClient

variable {σ : Type}

/-- The message only concerns the builder. -/
structure Tells (C : TextInputClient σ) (c : σ) (message : TextInputMessage)
    (builder : EventBuilder) : Prop where
  builder : C.builder (C.receive c message) = builder
  focus : C.focus (C.receive c message) = C.focus c
  delivered : C.delivered (C.receive c message) = C.delivered c

/-- The message completes an event, which is sent to the focus object.  The builder is reset. -/
structure Sends (C : TextInputClient σ) (c : σ) (message : TextInputMessage)
    (event : InputMethodEvent) : Prop where
  builder : C.builder (C.receive c message) = .new
  focus : (∀ attr ∈ event.attributes, attr.type ≠ .selection) → (C.focus c).Covers event →
    (C.focus c).Edited event (C.focus (C.receive c message))
  delivered : C.delivered (C.receive c message) = C.delivered c ++ [event]

/-- Each message is handed to the builder, and the focus object is edited as is documented for
`QInputMethodEvent`. -/
structure Lawful (C : TextInputClient σ) : Prop where
  deleteSurroundingText : ∀ c before after, C.Tells c (.deleteSurroundingText before after)
    ((C.builder c).setDeleteSurroundingText before after)
  cursorPosition : ∀ c index anchor, C.Tells c (.cursorPosition index anchor)
    ((C.builder c).setCursorPosition index anchor)
  preeditCursor : ∀ c index, C.Tells c (.preeditCursor index) ((C.builder c).setPreeditCursor index)
  preeditStyling : ∀ c index length style, C.Tells c (.preeditStyling index length style)
    ((C.builder c).addPreeditStyling index length style)
  commitString : ∀ c text, C.Sends c (.commitString text)
    ((C.builder c).buildCommit (C.focus c) (QString.fromUtf8 text))
  preeditString : ∀ c text commit, C.Sends c (.preeditString text commit)
    ((C.builder c).buildPreedit (C.focus c) (QString.fromUtf8 text))

end TextInputClient

/-! ## The compositor -/

/-- The text of `QWaylandTextInputClientState` -/
structure SurroundingText where
  surroundingText : QString
  cursorPosition : Int
  anchorPosition : Int
deriving DecidableEq, Repr

namespace SurroundingText

open EventBuilder (indexToWayland)

/-- The selection is gone. -/
def removeSelection (s : SurroundingText) : SurroundingText where
  surroundingText := s.surroundingText.remove (min s.cursorPosition s.anchorPosition)
    (s.cursorPosition - s.anchorPosition).natAbs
  cursorPosition := min s.cursorPosition s.anchorPosition
  anchorPosition := 0

/-- `qBound` -/
def bound (least x greatest : Int) : Int := max least (min greatest x)

def removeReplacement (s : SurroundingText) (start length : Int) : SurroundingText :=
  let position := bound 0 (s.cursorPosition + start) s.surroundingText.length
  { s with
    cursorPosition := position
    surroundingText :=
      s.surroundingText.remove position (min length (s.surroundingText.length - position)) }

def insertCommit (s : SurroundingText) (text : QString) : SurroundingText where
  surroundingText := s.surroundingText.insert s.cursorPosition text
  cursorPosition := s.cursorPosition + text.length
  anchorPosition := s.cursorPosition + text.length

def hasReplacement (event : InputMethodEvent) : Bool :=
  0 < event.replacementLength ∨ event.replacementStart ≠ 0

/-- The text without the selection and without what the event replaces, and with the new text -/
def afterCommit (s : SurroundingText) (event : InputMethodEvent) : SurroundingText :=
  (if hasReplacement event
    then s.removeSelection.removeReplacement event.replacementStart event.replacementLength
    else s.removeSelection).insertCommit event.commitString

/-- Other replacements are warned about. -/
def deleteMessages (s : SurroundingText) (event : InputMethodEvent) : List TextInputMessage :=
  if hasReplacement event ∧ event.replacementStart ≤ 0 ∧
      -event.replacementStart ≤ event.replacementLength then
    let selectionStart := min s.cursorPosition s.anchorPosition
    let selectionEnd := max s.cursorPosition s.anchorPosition
    [.deleteSurroundingText
      (indexToWayland s.surroundingText (-event.replacementStart)
        (selectionStart + event.replacementStart)).toNat
      (indexToWayland s.surroundingText (event.replacementLength + event.replacementStart)
        selectionEnd).toNat]
  else []

/-- The first loop over the attributes: the position is set before the difference is taken. -/
def selectionMessages (s : SurroundingText) :
    List Attribute → SurroundingText × List TextInputMessage
  | [] => (s, [])
  | attr :: attributes =>
    if attr.type = .selection then
      let s := { s with cursorPosition := attr.start, anchorPosition := attr.length }
      let cursor := indexToWayland s.surroundingText (attr.start - s.cursorPosition).natAbs
        (min attr.start s.cursorPosition)
      let anchor := indexToWayland s.surroundingText (attr.length - s.cursorPosition).natAbs
        (min attr.length s.cursorPosition)
      let message := TextInputMessage.cursorPosition
        (if attr.start < s.cursorPosition then -cursor else cursor)
        (if attr.length < s.cursorPosition then -anchor else anchor)
      let rest := s.selectionMessages attributes
      (rest.1, message :: rest.2)
    else s.selectionMessages attributes

/-- The second loop over the attributes -/
def preeditMessage (preedit : QString) (attr : Attribute) : Option TextInputMessage :=
  match attr.type with
  | .cursor => some (.preeditCursor (indexToWayland preedit attr.start 0))
  | .textFormat => some (.preeditStyling (indexToWayland preedit attr.start 0).toNat
      (indexToWayland preedit attr.length attr.start).toNat 0)
  | _ => none

/-- `sendInputMethodEvent`, while a client has the focus: the messages, and the new state -/
def sendInputMethodEvent (s : SurroundingText) (event : InputMethodEvent) :
    List TextInputMessage × SurroundingText :=
  let selected := (s.afterCommit event).selectionMessages event.attributes
  (s.deleteMessages event ++ selected.2 ++ [.commitString event.commitString.toUtf8] ++
      event.attributes.filterMap (preeditMessage event.preeditString) ++
      [.preeditString event.preeditString.toUtf8 event.preeditString.toUtf8],
    selected.1)

end SurroundingText

/-! ## Positions on the way -/

namespace EventBuilder

variable {text : QString} {n m : Nat}

/-- The units from one position to another -/
def piece (text : QString) (n m : Nat) : QString := (text.drop n).take (m - n)

theorem take_append_piece (hle : n ≤ m) : text.take n ++ piece text n m = text.take m := by
  rw [piece, ← List.take_add, Nat.add_sub_cancel' hle]

theorem piece_append_drop (hle : n ≤ m) : piece text n m ++ text.drop m = text.drop n := by
  have hdrop : text.drop m = (text.drop n).drop (m - n) := by
    rw [List.drop_drop, Nat.add_sub_cancel' hle]
  rw [hdrop, piece, List.take_append_drop]

theorem indexToWayland_eq (hle : n ≤ m) (hm : m ≤ text.length) :
    indexToWayland text (m - n) n = (piece text n m).toUtf8.length := by
  have hsub : (m : Int) - n = ((m - n : Nat) : Int) := by omega
  rw [indexToWayland, hsub, QString.mid_of_le (by omega)]
  rfl

theorem toUtf8_drop (hle : n ≤ m) (haligned : text.Aligned m) :
    QString.toUtf8 (text.drop n) = (piece text n m).toUtf8 ++ QString.toUtf8 (text.drop m) := by
  rw [← piece_append_drop hle, QString.toUtf8_append]
  intro u hu
  refine haligned u ?_
  rw [← take_append_piece hle, List.getLast?_append, hu]
  rfl

theorem toUtf8_take (hle : n ≤ m) (haligned : text.Aligned n) :
    QString.toUtf8 (text.take m) = QString.toUtf8 (text.take n) ++ (piece text n m).toUtf8 := by
  rw [← take_append_piece hle, QString.toUtf8_append]
  intro u hu v hv
  refine haligned u hu v ?_
  rw [piece, List.head?_take] at hv
  split at hv
  · cases hv
  · exact hv

theorem length_piece (hle : n ≤ m) (hm : m ≤ text.length) : (piece text n m).length = m - n := by
  rw [piece, List.length_take, List.length_drop]
  omega

/-- There are bytes just if there are units. -/
theorem length_toUtf8_eq_zero (hle : n ≤ m) (hm : m ≤ text.length) :
    (piece text n m).toUtf8.length = 0 ↔ n = m := by
  rw [List.length_eq_zero_iff, QString.toUtf8_eq_nil, ← List.length_eq_zero_iff, length_piece hle hm]
  omega

theorem noNul_piece (hnul : text.NoNul) : (piece text n m).NoNul :=
  hnul.mono fun _ hu => List.mem_of_mem_drop (List.mem_of_mem_take hu)

theorem index_forward (hnul : text.NoNul) (hle : n ≤ m) (hm : m ≤ text.length)
    (haligned : text.Aligned m) (hbom : QString.NoBom (text.drop n)) :
    indexFromWayland text (indexToWayland text (m - n) n) n = m := by
  have hzero := length_toUtf8_eq_zero hle hm
  rw [indexToWayland_eq hle hm, indexFromWayland]
  by_cases heq : n = m
  · rw [if_pos (by omega), heq]
  · rw [if_neg (by omega), if_neg (by omega), QString.mid_rest (by omega), toUtf8_drop hle haligned]
    simp only [Int.toNat_natCast]
    have hpiece : (piece text n m).NoBom := hbom.take _
    rw [List.take_left, QString.length_fromUtf8_toUtf8 hpiece (noNul_piece hnul), length_piece hle hm]
    omega

theorem index_backward (hnul : text.NoNul) (hle : n ≤ m) (hm : m ≤ text.length)
    (haligned : text.Aligned n) (hbom : text.NoBom) :
    indexFromWayland text (-indexToWayland text (m - n) n) m = n := by
  have hzero := length_toUtf8_eq_zero hle hm
  rw [indexToWayland_eq hle hm, indexFromWayland]
  by_cases heq : n = m
  · rw [if_pos (by omega), heq]
  · rw [if_neg (by omega), if_pos (by omega), QString.left_natCast, toUtf8_take hle haligned]
    have hlength : (max (((QString.toUtf8 (text.take n) ++ (piece text n m).toUtf8).length : Int) +
        -((piece text n m).toUtf8.length : Int)) 0).toNat = (QString.toUtf8 (text.take n)).length := by
      rw [List.length_append]
      omega
    simp only [hlength]
    have hbefore : QString.NoNul (text.take n) := hnul.mono (List.take_subset n text)
    rw [List.take_left, QString.length_fromUtf8_toUtf8 (hbom.take n) hbefore, List.length_take]
    omega

/-- **Positions come back**: what one side counts in bytes from a position on, or back from it, the
other side finds, unless a surrogate pair is split, there is a null character in the text, or what
is counted begins with a byte order mark. -/
theorem index_round_trip (text : QString) (n m : Nat) (hnul : text.NoNul) (hle : n ≤ m)
    (hm : m ≤ text.length) :
    (text.Aligned m → QString.NoBom (text.drop n) →
        indexFromWayland text (indexToWayland text (m - n) n) n = m) ∧
      (text.Aligned n → text.NoBom →
        indexFromWayland text (-indexToWayland text (m - n) n) m = n) :=
  ⟨index_forward hnul hle hm, index_backward hnul hle hm⟩

/-- A musical symbol takes two units and four bytes, an umlaut one unit and two bytes. -/
theorem index_round_trip_clef :
    let text : QString := [0x61, 0xD834, 0xDD1E, 0xFC, 0x62]
    indexToWayland text 3 1 = 6 ∧ indexFromWayland text (indexToWayland text (4 - 1) 1) 1 = 4 ∧
      indexFromWayland text (-indexToWayland text (4 - 1) 1) 4 = 1 :=
  ⟨by decide, (index_round_trip _ 1 4 (by decide) (by decide) (by decide)).1 (by decide) (by decide),
    (index_round_trip _ 1 4 (by decide) (by decide) (by decide)).2 (by decide) (by decide)⟩

end EventBuilder

end GreenIsland.Compositor

import GreenIsland.Compositor.TextInput
import GreenIsland.Lib.Run

/-! What an input method writes arrives.

The compositor edits its copy of the client's text along with each event that it sends, and does not
wait for the client to tell the text again.  `TextInputSession.events_arrive` says that this is right:
an event that replaces nothing, or text around the selection, arrives as it was sent, and the copy
stays the client's text, over any number of events, for every client that is lawful.

A selection in an event is lost, since the compositor takes the difference of the new position to
itself.  Such events are not among those. -/

namespace GreenIsland.Compositor

/-! ## One event -/

namespace SurroundingText

open EventBuilder

variable {s : SurroundingText} {f f' : FocusObject} {event : InputMethodEvent} {a b j k n m : Nat}

def selectionStart (s : SurroundingText) : Int := min s.cursorPosition s.anchorPosition

def selectionEnd (s : SurroundingText) : Int := max s.cursorPosition s.anchorPosition

/-- The cursor and the anchor are in the text. -/
structure Valid (s : SurroundingText) : Prop where
  start_nonneg : 0 ≤ s.selectionStart
  end_le : s.selectionEnd ≤ s.surroundingText.length

/-- The client has the same text. -/
structure Agrees (s : SurroundingText) (f : FocusObject) : Prop extends s.Valid where
  surroundingText : f.surroundingText = s.surroundingText
  cursorPosition : f.cursorPosition = s.cursorPosition
  anchorPosition : f.anchorPosition = s.anchorPosition

/-- What the event replaces begins before the selection and ends behind it. -/
def Around (s : SurroundingText) (event : InputMethodEvent) : Prop :=
  event.replacementStart ≤ 0 ∧ -event.replacementStart ≤ event.replacementLength ∧
    0 ≤ s.selectionStart + event.replacementStart ∧
    s.selectionEnd + (event.replacementLength + event.replacementStart) ≤ s.surroundingText.length ∧
    s.surroundingText.Aligned (s.selectionStart + event.replacementStart).toNat ∧
    s.surroundingText.Aligned
      (s.selectionEnd + (event.replacementLength + event.replacementStart)).toNat ∧
    s.surroundingText.NoNul ∧ s.surroundingText.NoBom ∧
    QString.NoBom (s.surroundingText.drop s.selectionEnd.toNat)

/-- The event replaces nothing, or text around the selection. -/
def Replaces (s : SurroundingText) (event : InputMethodEvent) : Prop :=
  event.replacementStart = 0 ∧ event.replacementLength = 0 ∨
    s.Around event ∧ 3 * s.surroundingText.length < 2 ^ 31

/-- The numbers of an event that replaces text around the selection: the selection goes from `a` to
`b`, and `k` units before it and `j` units behind it are replaced. -/
structure Span (s : SurroundingText) (event : InputMethodEvent) (a b j k : Nat) : Prop where
  selectionStart : s.selectionStart = a
  selectionEnd : s.selectionEnd = b
  start : event.replacementStart = -(k : Int)
  length : event.replacementLength = k + j
  le_start : k ≤ a
  start_le : a ≤ b
  end_le : b + j ≤ s.surroundingText.length

theorem Replaces.span (h : s.Replaces event) (hvalid : s.Valid) : ∃ a b j k, s.Span event a b j k := by
  have hle : s.selectionStart ≤ s.selectionEnd := by
    unfold selectionStart selectionEnd
    omega
  have hstart := hvalid.start_nonneg
  have hend := hvalid.end_le
  refine ⟨s.selectionStart.toNat, s.selectionEnd.toNat,
    (event.replacementLength + event.replacementStart).toNat, (-event.replacementStart).toNat, ?_⟩
  rcases h with ⟨hnothing, hlength⟩ | ⟨⟨hfirst, hsecond, hbegin, hfinish, -⟩, -⟩
  · constructor <;> omega
  · constructor <;> omega

/-- **The text after the event**: what was before, what is new, and what was behind. -/
theorem Span.afterCommit_eq (h : s.Span event a b j k) :
    s.afterCommit event =
      ⟨s.surroundingText.take (a - k) ++ event.commitString ++ s.surroundingText.drop (b + j),
        (a - k : Nat) + event.commitString.length, (a - k : Nat) + event.commitString.length⟩ := by
  have hle := h.le_start
  have hab := h.start_le
  have hend := h.end_le
  have hselection : s.removeSelection =
      ⟨s.surroundingText.take a ++ s.surroundingText.drop b, a, 0⟩ := by
    have hlength : (s.cursorPosition - s.anchorPosition).natAbs = b - a := by
      have hstart := h.selectionStart
      have hfinish := h.selectionEnd
      unfold SurroundingText.selectionStart at hstart
      unfold SurroundingText.selectionEnd at hfinish
      omega
    have hmin : min s.cursorPosition s.anchorPosition = a := h.selectionStart
    rw [removeSelection, hmin, hlength, QString.remove_of_le (by omega), Nat.add_sub_cancel' hab]
  have hlength : (s.surroundingText.take a ++ s.surroundingText.drop b).length =
      a + (s.surroundingText.length - b) := by
    rw [List.length_append, List.length_take, List.length_drop]
    omega
  have htake : (s.surroundingText.take a ++ s.surroundingText.drop b).take (a - k) =
      s.surroundingText.take (a - k) := by
    rw [List.take_append_of_le_length (by rw [List.length_take]; omega), List.take_take]
    congr 1
    omega
  have hdrop : (s.surroundingText.take a ++ s.surroundingText.drop b).drop (a + j) =
      s.surroundingText.drop (b + j) := by
    have hwhole : (s.surroundingText.take a).length = a := by
      rw [List.length_take]
      omega
    rw [List.drop_append, hwhole, List.drop_of_length_le (by omega), List.nil_append, List.drop_drop,
      Nat.add_sub_cancel_left]
  have hremoved : (if hasReplacement event
      then s.removeSelection.removeReplacement event.replacementStart event.replacementLength
      else s.removeSelection) =
      ⟨s.surroundingText.take (a - k) ++ s.surroundingText.drop (b + j), (a - k : Nat), 0⟩ := by
    split
    · rw [hselection, removeReplacement]
      have hposition : bound 0 ((a : Int) + event.replacementStart)
          (s.surroundingText.take a ++ s.surroundingText.drop b).length = (a - k : Nat) := by
        rw [hlength, bound, h.start]
        omega
      have hcount : min event.replacementLength
          (((s.surroundingText.take a ++ s.surroundingText.drop b).length : Int) - (a - k : Nat)) =
          (k + j : Nat) := by
        rw [hlength, h.length]
        omega
      simp only [hposition, hcount]
      have hsum : a - k + (k + j) = a + j := by omega
      rw [QString.remove_of_le (by rw [hlength]; omega), htake, hsum, hdrop]
    · next hnot =>
      have hnothing : k = 0 ∧ j = 0 := by
        have hlength := h.length
        have hstart := h.start
        simp only [hasReplacement, decide_eq_true_eq] at hnot
        omega
      rw [hselection, hnothing.1, hnothing.2]
      rfl
  rw [afterCommit, hremoved, insertCommit]
  have hsize : (s.surroundingText.take (a - k)).length = a - k := by
    rw [List.length_take]
    omega
  simp only
  rw [QString.insert_of_le (by rw [List.length_append, hsize]; omega), List.take_append_of_le_length
    (by omega), List.take_of_length_le (by omega), List.drop_append_of_le_length (by omega),
    List.drop_of_length_le (by omega), List.nil_append]

/-- What the client replaces is in the text. -/
theorem Span.covers (h : s.Span event a b j k) (hf : s.Agrees f) {e : InputMethodEvent}
    (hstart : e.replacementStart = event.replacementStart)
    (hlength : e.replacementLength = event.replacementLength) : f.Covers e := by
  have hle := h.le_start
  have hab := h.start_le
  have hend := h.end_le
  have hfirst := h.selectionStart
  have hlast := h.selectionEnd
  unfold SurroundingText.selectionStart at hfirst
  unfold SurroundingText.selectionEnd at hlast
  unfold FocusObject.Covers
  rw [hf.surroundingText, hf.cursorPosition, hf.anchorPosition, hstart, hlength, h.start, h.length]
  refine ⟨?_, ?_, ?_⟩ <;> omega

/-- What the client's text becomes -/
theorem Span.edited_eq (h : s.Span event a b j k) (hf : s.Agrees f) {e : InputMethodEvent}
    (htext : e.commitString = event.commitString)
    (hstart : e.replacementStart = event.replacementStart)
    (hlength : e.replacementLength = event.replacementLength) (hedited : f.Edited e f') :
    f'.surroundingText =
        s.surroundingText.take (a - k) ++ event.commitString ++ s.surroundingText.drop (b + j) ∧
      f'.cursorPosition = (a - k : Nat) + event.commitString.length ∧
      f'.anchorPosition = (a - k : Nat) + event.commitString.length := by
  have hle := h.le_start
  have hab := h.start_le
  have hend := h.end_le
  have hfirst := h.selectionStart
  have hlast := h.selectionEnd
  unfold SurroundingText.selectionStart at hfirst
  unfold SurroundingText.selectionEnd at hlast
  have hposition : min f.anchorPosition f.cursorPosition + e.replacementStart = (a - k : Nat) := by
    rw [hf.cursorPosition, hf.anchorPosition, hstart, h.start]
    omega
  have hcount : ((f.anchorPosition - f.cursorPosition).natAbs : Int) + e.replacementLength =
      (b - a + (k + j) : Nat) := by
    rw [hf.cursorPosition, hf.anchorPosition, hlength, h.length]
    omega
  have hsum : a - k + (b - a + (k + j)) = b + j := by omega
  have hcursor : f'.cursorPosition = (a - k : Nat) + event.commitString.length := by
    rw [hedited.cursorPosition, hposition, htext]
  refine ⟨?_, hcursor, hedited.anchorPosition.trans hcursor⟩
  rw [hedited.surroundingText, hposition, hcount, htext, hf.surroundingText,
    QString.replace_of_le (by omega), hsum]

theorem length_piece_toUtf8_lt {text : QString} (hle : n ≤ m) (hm : m ≤ text.length)
    (hsize : 3 * text.length < 2 ^ 31) : (piece text n m).toUtf8.length < 2 ^ 31 := by
  have hbytes := QString.length_toUtf8_le (piece text n m)
  rw [length_piece hle hm] at hbytes
  omega

/-- The lengths that are sent -/
theorem Span.deleteMessages_eq (h : s.Span event a b j k) (hreplacement : hasReplacement event) :
    s.deleteMessages event = [.deleteSurroundingText
      (piece s.surroundingText (a - k) a).toUtf8.length
      (piece s.surroundingText b (b + j)).toUtf8.length] := by
  have hle := h.le_start
  have hab := h.start_le
  have hend := h.end_le
  have hstart := h.start
  have hlength := h.length
  have hfirst : min s.cursorPosition s.anchorPosition = a := h.selectionStart
  have hlast : max s.cursorPosition s.anchorPosition = b := h.selectionEnd
  have hbefore : indexToWayland s.surroundingText (-event.replacementStart)
      ((a : Int) + event.replacementStart) = (piece s.surroundingText (a - k) a).toUtf8.length := by
    rw [← indexToWayland_eq (by omega) (by omega)]
    congr 1 <;> omega
  have hafter : indexToWayland s.surroundingText (event.replacementLength + event.replacementStart) b =
      (piece s.surroundingText b (b + j)).toUtf8.length := by
    rw [← indexToWayland_eq (by omega) (by omega)]
    congr 1
    omega
  rw [deleteMessages, if_pos ⟨hreplacement, by omega, by omega⟩]
  simp only [hfirst, hlast, hbefore, hafter, Int.toNat_natCast]

/-- **The client finds the same replacement.** -/
theorem Span.replacement_eq (h : s.Span event a b j k) (haround : s.Around event)
    (hsize : 3 * s.surroundingText.length < 2 ^ 31) (hf : s.Agrees f) :
    (EventBuilder.new.setDeleteSurroundingText (piece s.surroundingText (a - k) a).toUtf8.length
      (piece s.surroundingText b (b + j)).toUtf8.length).replacementForDeleteSurrounding f =
        (event.replacementStart, event.replacementLength) := by
  have hle := h.le_start
  have hab := h.start_le
  have hend := h.end_le
  have hstart := h.start
  have hlength := h.length
  obtain ⟨-, -, -, -, halignedStart, halignedEnd, hnul, hbom, hbomEnd⟩ := haround
  rw [h.selectionStart,
    show ((a : Int) + event.replacementStart).toNat = a - k by omega] at halignedStart
  rw [h.selectionEnd, show ((b : Int) + (event.replacementLength + event.replacementStart)).toNat =
    b + j by omega] at halignedEnd
  rw [h.selectionEnd, Int.toNat_natCast] at hbomEnd
  have hbefore := length_piece_toUtf8_lt (show a - k ≤ a by omega) (by omega) hsize
  have hafter := length_piece_toUtf8_lt (show b ≤ b + j by omega) hend hsize
  have hbackward := index_backward hnul (show a - k ≤ a by omega) (by omega) halignedStart hbom
  have hforward := index_forward hnul (show b ≤ b + j by omega) hend halignedEnd hbomEnd
  rw [indexToWayland_eq (by omega) (by omega)] at hbackward hforward
  have hfirst : min f.cursorPosition f.anchorPosition = a := by
    rw [hf.cursorPosition, hf.anchorPosition]
    exact h.selectionStart
  have hlast : max f.cursorPosition f.anchorPosition = b := by
    rw [hf.cursorPosition, hf.anchorPosition]
    exact h.selectionEnd
  unfold replacementForDeleteSurrounding setDeleteSurroundingText
  split
  · next hzero =>
    have hnone := (length_toUtf8_eq_zero (show a - k ≤ a by omega) (by omega)).1 hzero.1
    have hnone' := (length_toUtf8_eq_zero (show b ≤ b + j by omega) hend).1 hzero.2
    refine Prod.ext ?_ ?_ <;> change (0 : Int) = _ <;> omega
  · rw [hf.surroundingText]
    simp only [hfirst, hlast]
    rw [qint32_of_fits ⟨by omega, by omega⟩, qint32_of_fits ⟨by omega, by omega⟩, hbackward, hforward]
    refine Prod.ext ?_ ?_
    · change -((a : Int) - (a - k : Nat)) = _
      omega
    · change (a : Int) - (a - k : Nat) + ((b + j : Nat) - b) = _
      omega

/-! ## The preedit text -/

/-- Where a format or a cursor is, it splits no pair. -/
def Placed (preedit : QString) (attr : Attribute) : Prop :=
  match attr.type with
  | .cursor => 0 ≤ attr.start ∧ attr.start ≤ preedit.length ∧ preedit.Aligned attr.start.toNat
  | .textFormat => 0 ≤ attr.start ∧ 0 ≤ attr.length ∧ attr.start + attr.length ≤ preedit.length ∧
      preedit.Aligned attr.start.toNat ∧ preedit.Aligned (attr.start + attr.length).toNat
  | _ => True

/-- The cursor and the formats, which all become a single underline -/
def addPart (parts : Int × List Attribute) (attr : Attribute) : Int × List Attribute :=
  match attr.type with
  | .cursor => (attr.start, parts.2)
  | .textFormat =>
    (parts.1, parts.2 ++
      [⟨.textFormat, attr.start, attr.length, some ⟨false, .singleUnderline, false⟩⟩])
  | _ => parts

/-- The preedit event that should arrive: the last cursor, unless it is at the start, and the
formats in their order -/
def preedited (event : InputMethodEvent) : InputMethodEvent :=
  let parts := event.attributes.foldl addPart (0, [])
  ⟨event.preeditString, (if 0 < parts.1 then [⟨.cursor, parts.1, 1, none⟩] else []) ++ parts.2,
    [], 0, 0⟩

theorem preedited_quiet (event : InputMethodEvent) :
    ∀ attr ∈ (preedited event).attributes, attr.type ≠ .selection := by
  have hparts : ∀ (attributes : List Attribute) (parts : Int × List Attribute),
      (∀ attr ∈ parts.2, attr.type ≠ .selection) →
        ∀ attr ∈ (attributes.foldl addPart parts).2, attr.type ≠ .selection := by
    intro attributes
    induction attributes with
    | nil => exact fun parts h => h
    | cons first attributes ih =>
      refine fun parts h => ih (addPart parts first) fun attr hattr => ?_
      unfold addPart at hattr
      split at hattr
      · exact h attr hattr
      · rcases List.mem_append.1 hattr with hold | hnew
        · exact h attr hold
        · obtain rfl := List.mem_singleton.1 hnew
          exact AttributeType.noConfusion
      · exact h attr hattr
  intro attr hattr
  rcases List.mem_append.1 hattr with hcursor | hformat
  · split at hcursor
    · obtain rfl := List.mem_singleton.1 hcursor
      exact AttributeType.noConfusion
    · cases hcursor
  · exact hparts event.attributes (0, []) (fun _ h => absurd h List.not_mem_nil) attr hformat

/-- The commit event that should arrive -/
def committed (event : InputMethodEvent) : InputMethodEvent :=
  ⟨[], [], event.commitString, event.replacementStart, event.replacementLength⟩

variable {preedit : QString} {attr : Attribute} {attributes : List Attribute} {builder : EventBuilder}
  {parts : Int × List Attribute} {σ : Type} {C : TextInputClient σ} {c : σ}

/-- The builder has these parts of a preedit text, and nothing else. -/
structure Holds (preedit : QString) (builder : EventBuilder) (parts : Int × List Attribute) :
    Prop where
  deleteBefore : builder.deleteBefore = 0
  deleteAfter : builder.deleteAfter = 0
  nonneg : 0 ≤ parts.1
  le_length : parts.1 ≤ preedit.length
  aligned : preedit.Aligned parts.1.toNat
  preeditCursor : builder.preeditCursor = indexToWayland preedit parts.1 0
  preeditStyles : builder.preeditStyles.map (styleFromWayland preedit) = parts.2

theorem indexToWayland_start (hm : m ≤ preedit.length) :
    indexToWayland preedit m 0 = (QString.toUtf8 (preedit.take m)).length := by
  have h := indexToWayland_eq (Nat.zero_le m) hm
  rwa [piece, List.drop_zero, Nat.sub_zero, Int.natCast_zero, Int.sub_zero] at h

/-- The text is the same behind the protocol. -/
structure Crosses (text : QString) : Prop where
  bom : text.NoBom
  nul : text.NoNul
  paired : Utf16.Paired text

instance : DecidablePred Crosses := fun text =>
  decidable_of_iff (text.NoBom ∧ text.NoNul ∧ Utf16.Paired text)
    ⟨fun h => ⟨h.1, h.2.1, h.2.2⟩, fun h => ⟨h.bom, h.nul, h.paired⟩⟩

theorem Crosses.fromUtf8_toUtf8 {text : QString} (h : Crosses text) :
    QString.fromUtf8 text.toUtf8 = text := QString.fromUtf8_toUtf8 h.bom h.nul h.paired

theorem indexFromWayland_start (hm : m ≤ preedit.length) (haligned : preedit.Aligned m)
    (hpreedit : Crosses preedit) :
    indexFromWayland preedit (QString.toUtf8 (preedit.take m)).length 0 = m := by
  have h := index_forward hpreedit.nul (Nat.zero_le m) hm haligned hpreedit.bom
  rw [indexToWayland_eq (Nat.zero_le m) hm] at h
  rwa [piece, List.drop_zero, Nat.sub_zero, Int.natCast_zero] at h

/-- The range of a format comes back. -/
theorem styleFromWayland_eq (hle : n ≤ m) (hm : m ≤ preedit.length) (halignedStart : preedit.Aligned n)
    (haligned : preedit.Aligned m) (hpreedit : Crosses preedit) (format : TextCharFormat) :
    styleFromWayland preedit ⟨.textFormat, (QString.toUtf8 (preedit.take n)).length,
      (piece preedit n m).toUtf8.length, some format⟩ = ⟨.textFormat, n, m - n, some format⟩ := by
  have hsum : ((QString.toUtf8 (preedit.take n)).length : Int) + (piece preedit n m).toUtf8.length =
      (QString.toUtf8 (preedit.take m)).length := by
    rw [toUtf8_take hle halignedStart, List.length_append, Int.natCast_add]
  simp only [styleFromWayland, hsum]
  rw [indexFromWayland_start (by omega) halignedStart hpreedit,
    indexFromWayland_start hm haligned hpreedit]

/-- What one attribute adds -/
theorem Holds.receive (h : Holds preedit (C.builder c) parts) (hC : C.Lawful)
    (hpreedit : Crosses preedit) (hplaced : Placed preedit attr) {message : TextInputMessage}
    (hmessage : preeditMessage preedit attr = some message) :
    Holds preedit (C.builder (C.receive c message)) (addPart parts attr) ∧
      C.focus (C.receive c message) = C.focus c ∧
      C.delivered (C.receive c message) = C.delivered c := by
  obtain ⟨type, start, length, value⟩ := attr
  cases type with
  | cursor =>
    cases hmessage
    obtain ⟨hbuilder, hfocus, hdelivered⟩ := hC.preeditCursor c (indexToWayland preedit start 0)
    refine ⟨?_, hfocus, hdelivered⟩
    rw [hbuilder]
    exact ⟨h.deleteBefore, h.deleteAfter, hplaced.1, hplaced.2.1, hplaced.2.2, rfl, h.preeditStyles⟩
  | textFormat =>
    obtain ⟨hstart, hlength, hend, halignedStart, halignedEnd⟩ := hplaced
    obtain ⟨n, rfl⟩ := Int.eq_ofNat_of_zero_le hstart
    obtain ⟨k, rfl⟩ := Int.eq_ofNat_of_zero_le hlength
    simp only at hend halignedStart halignedEnd
    have hk : ((n + k : Nat) : Int) - n = k := by omega
    have hpiece : indexToWayland preedit k n = (piece preedit n (n + k)).toUtf8.length := by
      rw [← indexToWayland_eq (by omega) (by omega), hk]
    have hstyle := styleFromWayland_eq (show n ≤ n + k by omega) (by omega) halignedStart
      halignedEnd hpreedit ⟨false, .singleUnderline, false⟩
    simp only [preeditMessage, hpiece, indexToWayland_start (show n ≤ preedit.length by omega),
      Option.some_inj] at hmessage
    subst hmessage
    obtain ⟨hbuilder, hfocus, hdelivered⟩ := hC.preeditStyling c _ _ 0
    refine ⟨?_, hfocus, hdelivered⟩
    rw [hbuilder]
    refine ⟨h.deleteBefore, h.deleteAfter, h.nonneg, h.le_length, h.aligned, h.preeditCursor, ?_⟩
    change ((C.builder c).preeditStyles ++ [_]).map _ = parts.2 ++ [_]
    rw [List.map_append, h.preeditStyles, List.map_singleton]
    simp only [Int.toNat_natCast]
    rw [hstyle, hk]
  | language | ruby | selection => cases hmessage

/-- The builder holds nothing at first. -/
theorem holds_new (preedit : QString) : Holds preedit .new (0, []) where
  deleteBefore := rfl
  deleteAfter := rfl
  nonneg := Int.le_refl 0
  le_length := Int.natCast_nonneg _
  aligned := Utf16.nil_cut _
  preeditCursor := (indexToWayland_start (Nat.zero_le _)).symm
  preeditStyles := rfl

/-- What all attributes add -/
theorem Holds.receive_all (h : Holds preedit (C.builder c) parts) (hC : C.Lawful)
    (hpreedit : Crosses preedit) (hplaced : ∀ attr ∈ attributes, Placed preedit attr) :
    let c' := (attributes.filterMap (preeditMessage preedit)).foldl C.receive c
    Holds preedit (C.builder c') (attributes.foldl addPart parts) ∧ C.focus c' = C.focus c ∧
      C.delivered c' = C.delivered c := by
  induction attributes generalizing c parts with
  | nil => exact ⟨h, rfl, rfl⟩
  | cons attr attributes ih =>
    have hrest := fun x hx => hplaced x (List.mem_cons_of_mem attr hx)
    cases hmessage : preeditMessage preedit attr with
    | none =>
      have hsame : addPart parts attr = parts := by
        obtain ⟨type, start, length, value⟩ := attr
        cases type <;> first | rfl | cases hmessage
      rw [List.filterMap_cons_none hmessage, List.foldl_cons, hsame]
      exact ih h hrest
    | some message =>
      obtain ⟨hnext, hfocus, hdelivered⟩ :=
        h.receive hC hpreedit (hplaced attr List.mem_cons_self) hmessage
      obtain ⟨hlast, hfocus', hdelivered'⟩ := ih hnext hrest
      rw [List.filterMap_cons_some hmessage, List.foldl_cons, List.foldl_cons]
      exact ⟨hlast, hfocus'.trans hfocus, hdelivered'.trans hdelivered⟩

/-- **The preedit text arrives** with its cursor and its formats. -/
theorem Holds.buildPreedit_eq (h : Holds preedit builder parts) (hpreedit : Crosses preedit)
    (f : FocusObject) : builder.buildPreedit f preedit =
      ⟨preedit, (if 0 < parts.1 then [⟨.cursor, parts.1, 1, none⟩] else []) ++ parts.2, [], 0, 0⟩ := by
  obtain ⟨m, hm⟩ := Int.eq_ofNat_of_zero_le h.nonneg
  have hle := h.le_length
  have haligned := h.aligned
  have hcursor := h.preeditCursor
  rw [hm] at hle haligned hcursor
  rw [Int.toNat_natCast] at haligned
  rw [indexToWayland_start (by omega)] at hcursor
  have hzero : (QString.toUtf8 (preedit.take m)).length = 0 ↔ m = 0 := by
    rw [List.length_eq_zero_iff, QString.toUtf8_eq_nil, ← List.length_eq_zero_iff, List.length_take]
    omega
  have hindex := indexFromWayland_start (by omega) haligned hpreedit
  have hreplacement : builder.replacementForDeleteSurrounding f = (0, 0) :=
    if_pos ⟨h.deleteBefore, h.deleteAfter⟩
  rw [buildPreedit, hreplacement, h.preeditStyles, hcursor, if_neg (by omega), hm]
  rw [hindex]
  congr 2
  by_cases hpos : m = 0
  · rw [if_neg (by omega), if_neg (by omega)]
  · rw [if_pos (by omega), if_pos (by omega)]

/-! ## Both sides -/

/-- The condition on an event: it replaces nothing or text around the selection, makes no selection,
its texts can be sent, and its preedit text is marked between its characters. -/
def EventOk (s : SurroundingText) (event : InputMethodEvent) : Prop :=
  s.Replaces event ∧ (∀ attr ∈ event.attributes, attr.type ≠ .selection) ∧
    Crosses event.commitString ∧ Crosses event.preeditString ∧
    ∀ attr ∈ event.attributes, Placed event.preeditString attr

instance (preedit : QString) : DecidablePred (Placed preedit) := fun attr => by
  unfold Placed
  split <;> infer_instance

instance (s : SurroundingText) : DecidablePred s.EventOk := fun event => by
  unfold EventOk Replaces Around
  infer_instance

theorem selectionMessages_eq (h : ∀ attr ∈ attributes, attr.type ≠ .selection) :
    s.selectionMessages attributes = (s, []) := by
  induction attributes with
  | nil => rfl
  | cons attr attributes ih =>
    rw [selectionMessages, if_neg (h attr List.mem_cons_self)]
    exact ih fun x hx => h x (List.mem_cons_of_mem attr hx)

/-- Without a cursor position there is no selection in the event. -/
theorem buildCommit_eq {builder : EventBuilder} {replacement : Int × Int}
    (hcursor : builder.cursor = 0) (hanchor : builder.anchor = 0)
    (h : builder.replacementForDeleteSurrounding f = replacement)
    (text : QString) : builder.buildCommit f text = ⟨[], [], text, replacement.1, replacement.2⟩ := by
  rw [buildCommit, h, hcursor, hanchor]
  rfl

/-- The commit event that is built -/
theorem Span.receive_commit (h : s.Span event a b j k) (hC : C.Lawful) (hok : s.Replaces event)
    (hcommit : Crosses event.commitString) (hf : s.Agrees (C.focus c)) (hnew : C.builder c = .new) :
    let c' := (s.deleteMessages event ++
      [TextInputMessage.commitString event.commitString.toUtf8]).foldl C.receive c
    C.builder c' = .new ∧ (C.focus c).Edited (committed event) (C.focus c') ∧
      C.delivered c' = C.delivered c ++ [committed event] := by
  have hquiet : ∀ attr ∈ (committed event).attributes, attr.type ≠ .selection :=
    fun attr hattr => absurd hattr List.not_mem_nil
  have hcovers : (C.focus c).Covers (committed event) := h.covers hf rfl rfl
  cases hreplacement : hasReplacement event with
  | false =>
    have hnothing : event.replacementStart = 0 ∧ event.replacementLength = 0 := by
      have hlength := h.length
      simp only [hasReplacement, decide_eq_false_iff_not] at hreplacement
      omega
    have hdelete : s.deleteMessages event = [] :=
      if_neg fun hdelete => Bool.false_ne_true (hreplacement.symm.trans hdelete.1)
    have hcommitted : EventBuilder.new.buildCommit (C.focus c) event.commitString =
        committed event := by
      rw [committed, hnothing.1, hnothing.2]
      rfl
    have hsent := hC.commitString c event.commitString.toUtf8
    rw [hcommit.fromUtf8_toUtf8, hnew, hcommitted] at hsent
    rw [hdelete]
    exact ⟨hsent.builder, hsent.focus hquiet hcovers, hsent.delivered⟩
  | true =>
    have haround : s.Around event ∧ 3 * s.surroundingText.length < 2 ^ 31 := by
      refine hok.resolve_left fun hnothing => ?_
      simp only [hasReplacement, decide_eq_true_eq] at hreplacement
      omega
    have hfound := h.replacement_eq haround.1 haround.2 hf
    rw [h.deleteMessages_eq hreplacement]
    obtain ⟨hbuilder, hfocus, hdelivered⟩ := hC.deleteSurroundingText c
      (piece s.surroundingText (a - k) a).toUtf8.length (piece s.surroundingText b (b + j)).toUtf8.length
    rw [hnew] at hbuilder
    have hsent := hC.commitString (C.receive c (.deleteSurroundingText
      (piece s.surroundingText (a - k) a).toUtf8.length
      (piece s.surroundingText b (b + j)).toUtf8.length)) event.commitString.toUtf8
    rw [hcommit.fromUtf8_toUtf8, hbuilder, hfocus, buildCommit_eq rfl rfl hfound] at hsent
    have hedited := hsent.focus hquiet (hfocus ▸ hcovers)
    rw [hfocus] at hedited
    exact ⟨hsent.builder, hedited, hsent.delivered.trans (congrArg (· ++ [_]) hdelivered)⟩

/-- An event without text changes nothing where nothing is selected. -/
theorem edited_nothing {e : InputMethodEvent} (htext : e.commitString = [])
    (hstart : e.replacementStart = 0) (hlength : e.replacementLength = 0)
    (hcursor : f.anchorPosition = f.cursorPosition) (hnonneg : 0 ≤ f.cursorPosition)
    (hle : f.cursorPosition ≤ f.surroundingText.length) :
    f.Covers e ∧ (f.Edited e f' → f'.surroundingText = f.surroundingText ∧
      f'.cursorPosition = f.cursorPosition ∧ f'.anchorPosition = f.cursorPosition) := by
  obtain ⟨n, hn⟩ := Int.eq_ofNat_of_zero_le hnonneg
  rw [hn] at hle
  have hposition : min f.anchorPosition f.cursorPosition + e.replacementStart = n := by
    rw [hcursor, hstart, hn]
    omega
  have hcount : ((f.anchorPosition - f.cursorPosition).natAbs : Int) + e.replacementLength =
      (0 : Nat) := by
    rw [hcursor, hlength]
    omega
  constructor
  · unfold FocusObject.Covers
    rw [hposition, hcount]
    refine ⟨?_, ?_, ?_⟩ <;> omega
  · intro h
    have hsame : f'.cursorPosition = f.cursorPosition := by
      rw [h.cursorPosition, hposition, htext, hn, List.length_nil]
      omega
    refine ⟨?_, hsame, h.anchorPosition.trans hsame⟩
    rw [h.surroundingText, hposition, hcount, htext, QString.replace_of_le (by omega), List.append_nil,
      Nat.add_zero, List.take_append_drop]

/-- **One event.**  Both of its parts arrive, and both sides have the same text again. -/
theorem event_arrives (hC : C.Lawful) (hf : s.Agrees (C.focus c)) (hnew : C.builder c = .new)
    (hok : s.EventOk event) :
    let sent := s.sendInputMethodEvent event
    let c' := sent.1.foldl C.receive c
    C.delivered c' = C.delivered c ++ [committed event, preedited event] ∧ C.builder c' = .new ∧
      sent.2.Agrees (C.focus c') := by
  obtain ⟨hreplaces, hselection, hcommit, hpreedit, hplaced⟩ := hok
  obtain ⟨a, b, j, k, hspan⟩ := hreplaces.span hf.toValid
  have hle := hspan.le_start
  have hab := hspan.start_le
  have hend := hspan.end_le
  have hafter := hspan.afterCommit_eq
  have hlength : (s.surroundingText.take (a - k) ++ event.commitString ++
      s.surroundingText.drop (b + j)).length =
        a - k + event.commitString.length + (s.surroundingText.length - (b + j)) := by
    simp only [List.length_append, List.length_take, List.length_drop]
    omega
  have hmessages : s.sendInputMethodEvent event =
      (s.deleteMessages event ++ [.commitString event.commitString.toUtf8] ++
        event.attributes.filterMap (preeditMessage event.preeditString) ++
        [.preeditString event.preeditString.toUtf8 event.preeditString.toUtf8],
      s.afterCommit event) := by
    rw [sendInputMethodEvent, selectionMessages_eq hselection, List.append_nil]
  -- The three parts: the commit, what the preedit text has, and the preedit text.
  have hparts : ∀ l₁ l₂ l₃ : List TextInputMessage, (l₁ ++ l₂ ++ l₃).foldl C.receive c =
      l₃.foldl C.receive (l₂.foldl C.receive (l₁.foldl C.receive c)) := by
    intro l₁ l₂ l₃
    rw [List.foldl_append, List.foldl_append]
  rw [hmessages]
  simp only [hparts]
  obtain ⟨hbuilder, hedited, hdelivered⟩ := hspan.receive_commit hC hreplaces hcommit hf hnew
  generalize (s.deleteMessages event ++
    [TextInputMessage.commitString event.commitString.toUtf8]).foldl C.receive c = c₁ at *
  obtain ⟨htext, hcursor, hanchor⟩ := hspan.edited_eq hf (e := committed event) rfl rfl rfl hedited
  have hholds := holds_new event.preeditString
  rw [← hbuilder] at hholds
  obtain ⟨hholds, hfocus, hdelivered'⟩ := hholds.receive_all hC hpreedit hplaced
  generalize (event.attributes.filterMap (preeditMessage event.preeditString)).foldl C.receive c₁ = c₂
    at *
  have hsent := hC.preeditString c₂ event.preeditString.toUtf8 event.preeditString.toUtf8
  rw [hpreedit.fromUtf8_toUtf8, hholds.buildPreedit_eq hpreedit] at hsent
  have hends : 0 ≤ (C.focus c₁).cursorPosition ∧
      (C.focus c₁).cursorPosition ≤ (C.focus c₁).surroundingText.length := by
    rw [hcursor, htext, hlength]
    omega
  obtain ⟨hcovers, hsame⟩ := edited_nothing (e := preedited event) rfl rfl rfl
    (hanchor.trans hcursor.symm) hends.1 hends.2
  have hedited' := hsent.focus (preedited_quiet event) (hfocus ▸ hcovers)
  rw [hfocus] at hedited'
  obtain ⟨htext', hcursor', hanchor'⟩ := hsame hedited'
  refine ⟨?_, hsent.builder, ?_⟩
  · refine hsent.delivered.trans ?_
    rw [hdelivered', hdelivered, List.append_assoc]
    rfl
  · rw [hafter]
    refine ⟨⟨?_, ?_⟩, htext'.trans htext, hcursor'.trans hcursor, hanchor'.trans hcursor⟩
    · change 0 ≤ min ((a - k : Nat) + event.commitString.length : Int) _
      simp only [Int.min_self]
      omega
    · change max ((a - k : Nat) + event.commitString.length : Int) _ ≤ _
      simp only [Int.max_self, hlength]
      omega

end SurroundingText

/-- The compositor's copy of the text, and the state of the client -/
structure TextInputSession (σ : Type) where
  text : SurroundingText
  client : σ

namespace TextInputSession

variable {σ : Type}

def step (C : TextInputClient σ) (w : TextInputSession σ) (event : InputMethodEvent) :
    Option (TextInputSession σ) :=
  let sent := w.text.sendInputMethodEvent event
  some ⟨sent.2, sent.1.foldl C.receive w.client⟩

/-- Both sides have the same text, and no message waits for others. -/
structure Settled (C : TextInputClient σ) (w : TextInputSession σ) : Prop where
  agrees : w.text.Agrees (C.focus w.client)
  builder : C.builder w.client = .new

/-- **Events arrive as they were sent**, and the compositor's copy stays the client's text, over any
number of events that replace text around the selection, whatever lawful client it is. -/
theorem events_arrive (C : TextInputClient σ) (hC : C.Lawful) (w : TextInputSession σ)
    (hw : w.Settled C) (events : List InputMethodEvent)
    (hok : Run.Meets (step C) (fun w event => w.text.EventOk event) w events) :
    ∃ w', Run.exec (step C) w events = some w' ∧ w'.Settled C ∧
      C.delivered w'.client = events.foldl (fun delivered event =>
        delivered ++ [SurroundingText.committed event, SurroundingText.preedited event])
        (C.delivered w.client) := by
  obtain ⟨w', hexec, hsettled, hdelivered⟩ := Run.exec_simulates
    (R := fun (w : TextInputSession σ) delivered => w.Settled C ∧ C.delivered w.client = delivered)
    (fun w delivered event h hok => by
      obtain ⟨harrived, hbuilder, hagrees⟩ :=
        SurroundingText.event_arrives hC h.1.agrees h.1.builder hok
      exact ⟨_, rfl, ⟨hagrees, hbuilder⟩, h.2 ▸ harrived⟩) events w _ ⟨hw, rfl⟩ hok
  exact ⟨w', hexec, hsettled, hdelivered⟩

/-- A client that does no more than what is documented -/
def plainClient : TextInputClient (EventBuilder × FocusObject × List InputMethodEvent) where
  builder c := c.1
  focus c := c.2.1
  delivered c := c.2.2
  receive c message :=
    let commit (event : InputMethodEvent) :=
      let f := c.2.1
      let position := min f.anchorPosition f.cursorPosition + event.replacementStart
      let text := f.surroundingText.replace position
        ((f.anchorPosition - f.cursorPosition).natAbs + event.replacementLength) event.commitString
      let cursor := position + event.commitString.length
      (EventBuilder.new, ⟨text, cursor, cursor, f.absolutePosition⟩, c.2.2 ++ [event])
    match message with
    | .deleteSurroundingText before after => (c.1.setDeleteSurroundingText before after, c.2)
    | .cursorPosition index anchor => (c.1.setCursorPosition index anchor, c.2)
    | .preeditCursor index => (c.1.setPreeditCursor index, c.2)
    | .preeditStyling index length style => (c.1.addPreeditStyling index length style, c.2)
    | .commitString text => commit (c.1.buildCommit c.2.1 (QString.fromUtf8 text))
    | .preeditString text _ => commit (c.1.buildPreedit c.2.1 (QString.fromUtf8 text))

theorem lawful_plainClient : plainClient.Lawful where
  deleteSurroundingText _ _ _ := ⟨rfl, rfl, rfl⟩
  cursorPosition _ _ _ := ⟨rfl, rfl, rfl⟩
  preeditCursor _ _ := ⟨rfl, rfl, rfl⟩
  preeditStyling _ _ _ _ := ⟨rfl, rfl, rfl⟩
  commitString _ _ := ⟨rfl, fun _ _ => ⟨rfl, rfl, rfl⟩, rfl⟩
  preeditString _ _ _ := ⟨rfl, fun _ _ => ⟨rfl, rfl, rfl⟩, rfl⟩

/-- Two units of `häro` are replaced, which takes three bytes away, while a musical symbol is being
typed behind; then the symbol is committed. -/
theorem events_arrive_symbol :
    let text : QString := [0x68, 0xE4, 0x72, 0x6F]
    let w : TextInputSession (EventBuilder × FocusObject × List InputMethodEvent) :=
      ⟨⟨text, 3, 3⟩, .new, ⟨text, 3, 3, 3⟩, []⟩
    let events : List InputMethodEvent :=
      [⟨[0x61, 0xD834, 0xDD1E], [⟨.cursor, 3, 1, none⟩, ⟨.textFormat, 1, 2, none⟩],
          [0x61, 0x6C, 0x6C], -2, 2⟩, ⟨[], [], [0xD834, 0xDD1E], 0, 0⟩]
    Run.Meets (step plainClient) (fun w event => w.text.EventOk event) w events ∧
      ∃ w', Run.exec (step plainClient) w events = some w' ∧ w'.Settled plainClient ∧
        plainClient.delivered w'.client = events.foldl (fun delivered event =>
          delivered ++ [SurroundingText.committed event, SurroundingText.preedited event])
          (plainClient.delivered w.client) :=
  ⟨by decide, events_arrive _ lawful_plainClient _
    ⟨⟨⟨by decide, by decide⟩, rfl, rfl, rfl⟩, rfl⟩ _ (by decide)⟩

end TextInputSession

end GreenIsland.Compositor

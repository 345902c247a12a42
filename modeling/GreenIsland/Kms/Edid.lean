import GreenIsland.Lib.Overwritten
import GreenIsland.Lib.Trim
import GreenIsland.Qt.Basic

/-! What a monitor says about itself (`EglFSKmsScreen::parseEdid`).

The blob has the letters of its manufacturer, packed by fives into two bytes, and
from byte 54 on descriptor blocks of 18 bytes, some of which hold a text.
`parseEdid` goes through five of them, though the first 128 bytes have only four.

What is owed for a blob that is accepted (`Sound`): no byte is read behind its end,
three letters that were packed are the manufacturer, and the texts that come from
descriptors are printable and end at the line feed.  That is so exactly under
`BlobOk` (`edid_sound_iff`):

* the fifth block, which starts at byte 126, does not lead behind the end;
* the manufacturer is not three letters, since the zero that ends them is taken to
  belong to them;
* a text has only printable bytes, except for white space that is trimmed: the
  comparison that should find others is true of none. -/

namespace GreenIsland.Kms

/-! ## Model -/

/-- `EglFSKmsEdid` -/
structure Edid where
  identifier : String
  manufacturer : String
  model : String
  serialNumber : String
  /-- in millimetres -/
  physicalSize : QSize
deriving DecidableEq

/-- The fields that a descriptor may be for. -/
inductive EdidField
  | model
  | identifier
  | serialNumber
deriving DecidableEq

namespace Edid

def empty : Edid := ⟨"", "", "", "", ⟨0, 0⟩⟩

def get (edid : Edid) : EdidField → String
  | .model => edid.model
  | .identifier => edid.identifier
  | .serialNumber => edid.serialNumber

def set (edid : Edid) (field : EdidField) (text : String) : Edid :=
  match field with
  | .model => { edid with model := text }
  | .identifier => { edid with identifier := text }
  | .serialNumber => { edid with serialNumber := text }

def offsetDataBlocks : Nat := 0x36
def offsetPnpId : Nat := 0x08
def offsetSerial : Nat := 0x0c
def offsetPhysicalWidth : Nat := 0x15
def offsetPhysicalHeight : Nat := 0x16

/-- `QString::fromLatin1` with a size: a zero is a character like others. -/
def latin1 (bytes : List UInt8) : String := String.ofList (bytes.map fun b => Char.ofNat b.toNat)

/-- `QString::fromLatin1` of a byte array, which ends at a zero. -/
def fromLatin1 (bytes : List UInt8) : String := latin1 (bytes.takeWhile (· != 0))

def isSpace (b : UInt8) : Bool := b == 0x20 || (0x09 ≤ b && b ≤ 0x0d)

/-- `QByteArray::trimmed` -/
def trimmed (bytes : List UInt8) : List UInt8 := Trim.trim isSpace bytes

/-- A `char` is signed. -/
def signedChar (b : UInt8) : Int := if b.toNat < 128 then b.toNat else (b.toNat : Int) - 256

/-- `buffer.replace(before, '\0')` -/
def replaceByZero (before : UInt8) (buffer : List UInt8) : List UInt8 :=
  buffer.map fun b => if b = before then 0 else b

/-- The loop over the characters: no `char` is less than 32 and more than 126. -/
def dashes (buffer : List UInt8) : List UInt8 :=
  buffer.map fun b => if signedChar b < 0x20 ∧ signedChar b > 0x7e then 0x2d else b

/-- What becomes of the twelve bytes of a text. -/
def edidString (buffer : List UInt8) : String :=
  fromLatin1 (trimmed (dashes (replaceByZero 0x0a (replaceByZero 0x0d buffer))))

/-- `parseEdidString(&data[offset])`; `none` if it reads behind the end. -/
def parseEdidString (data : List UInt8) (offset : Nat) : Option String :=
  if offset + 12 ≤ data.length then some (edidString ((data.drop offset).take 12)) else none

def descriptorField (tag : UInt8) : Option EdidField :=
  if tag = 0xfc then some .model
  else if tag = 0xfe then some .identifier
  else if tag = 0xff then some .serialNumber
  else none

def blockOffset (i : Nat) : Nat := offsetDataBlocks + i * 18

/-- The field that the block at `offset` is for; the outer `none` if the block ends
behind the end of the data. -/
def blockField (data : List UInt8) (offset : Nat) : Option (Option EdidField) :=
  data[offset]?.bind fun first =>
    if first ≠ 0 then some none
    else data[offset + 1]?.bind fun second =>
      if second ≠ 0 then some none
      else data[offset + 2]?.bind fun third =>
        if third ≠ 0 then some none else data[offset + 3]?.map descriptorField

/-- One turn of the loop over the blocks. -/
def scanBlock (data : List UInt8) (edid : Edid) (i : Nat) : Option Edid :=
  (blockField data (blockOffset i)).bind fun
    | none => some edid
    | some field => (parseEdidString data (blockOffset i + 5)).map (edid.set field)

/-- Three letters from two bytes. -/
def pnpLetters (high low : UInt8) : List UInt8 :=
  [65 + ((high &&& 0x7c) / 4) - 1, 65 + ((high &&& 0x3) * 8) + ((low &&& 0xe0) / 32) - 1,
    65 + (low &&& 0x1f) - 1]

/-- `QString::fromLatin1(id, 4)` -/
def manufacturerOf (high low : UInt8) : String := latin1 (pnpLetters high low ++ [0])

def serialOf (b₀ b₁ b₂ b₃ : UInt8) : UInt32 :=
  b₀.toUInt32 + (b₁.toUInt32 <<< 8) + (b₂.toUInt32 <<< 16) + (b₃.toUInt32 <<< 24)

/-- What is read before the blocks. -/
def readIds (data : List UInt8) (edid : Edid) : Option Edid := do
  let high ← data[offsetPnpId]?
  let low ← data[offsetPnpId + 1]?
  let b₀ ← data[offsetSerial]?
  let b₁ ← data[offsetSerial + 1]?
  let b₂ ← data[offsetSerial + 2]?
  let b₃ ← data[offsetSerial + 3]?
  let serial := serialOf b₀ b₁ b₂ b₃
  return { edid with
    manufacturer := manufacturerOf high low
    serialNumber := if serial > 0 then toString serial.toNat else edid.serialNumber }

/-- What the blocks are read for. -/
def scan (data : List UInt8) (edid : Edid) : Option Edid :=
  (readIds data edid).bind ((List.range 5).foldlM (scanBlock data))

/-- What is done after the blocks were read. -/
def finish (data : List UInt8) (edid : Edid) : Option Edid := do
  let width ← data[offsetPhysicalWidth]?
  let height ← data[offsetPhysicalHeight]?
  return { edid with
    identifier := if edid.identifier = "" then edid.manufacturer else edid.identifier
    physicalSize := ⟨width.toNat * 10, height.toNat * 10⟩ }

/-- `parseEdid`, with its result; `none` if it reads behind the end. -/
def parseEdid (data : List UInt8) (edid : Edid) : Option (Bool × Edid) :=
  if data.length < 128 then some (false, edid)
  else if data[0]? ≠ some 0 ∨ data[1]? ≠ some 0xff then some (false, edid)
  else ((scan data edid).bind (finish data)).map fun edid => (true, edid)

end Edid

/-! ## What is owed -/

/-- A blob that is accepted. -/
structure EdidBlob where
  data : List UInt8
  length : 128 ≤ data.length
  header : data[0]? = some 0 ∧ data[1]? = some 0xff

/-- Three letters from A to Z. -/
structure PnpId where
  first : Fin 26
  second : Fin 26
  third : Fin 26
deriving DecidableEq

namespace PnpId

def letters (id : PnpId) : List UInt8 :=
  [id.first, id.second, id.third].map fun k => (65 + k.val).toUInt8

def text (id : PnpId) : String := Edid.latin1 id.letters

/-- The letters as three numbers of five bits, from 1 on. -/
def word (id : PnpId) : Nat :=
  (id.first.val + 1) * 1024 + (id.second.val + 1) * 32 + (id.third.val + 1)

/-- The word is in the blob, its high byte first. -/
def PackedIn (id : PnpId) (data : List UInt8) : Prop :=
  data[Edid.offsetPnpId]? = some (id.word / 256).toUInt8 ∧
    data[Edid.offsetPnpId + 1]? = some (id.word % 256).toUInt8

instance (id : PnpId) (data : List UInt8) : Decidable (id.PackedIn data) :=
  inferInstanceAs (Decidable (_ ∧ _))

end PnpId

namespace Edid

def isPrintable (b : UInt8) : Bool := 0x20 ≤ b && b ≤ 0x7e

/-- The last block for a field. -/
def lastBlock (data : List UInt8) (field : EdidField) : Option Nat :=
  (List.range 5).reverse.find? fun i => blockField data (blockOffset i) = some (some field)

/-- The bytes of a block that hold its text. -/
def blockText (data : List UInt8) (i : Nat) : List UInt8 := (data.drop (blockOffset i + 5)).take 13

/-- A text has printable characters, none of which come after the line feed. -/
structure Clean (bytes : List UInt8) (text : String) : Prop where
  printable : ∀ c ∈ text.toList, 0x20 ≤ c.toNat ∧ c.toNat ≤ 0x7e
  before : text.toList <:+: (latin1 (bytes.takeWhile (· != 0x0a))).toList

end Edid

/-- What is owed; `scanned` is what the blocks were read for. -/
structure EdidBlob.Sound (blob : EdidBlob) (scanned : Edid) : Prop where
  scan : Edid.scan blob.data Edid.empty = some scanned
  inside : ∃ edid, Edid.parseEdid blob.data Edid.empty = some (true, edid)
  manufacturer : ∀ id : PnpId, id.PackedIn blob.data → scanned.manufacturer = id.text
  texts : ∀ field i, Edid.lastBlock blob.data field = some i →
    Edid.Clean (Edid.blockText blob.data i) (scanned.get field)

/-- The fifth block, byte by byte. -/
def Edid.FifthInside (data : List UInt8) : Prop :=
  data[126]? = some 0 → data[127]? = some 0 → 129 ≤ data.length ∧
    (data[128]? = some 0 → 130 ≤ data.length ∧
      ∀ tag, data[129]? = some tag → Edid.descriptorField tag ≠ none → 143 ≤ data.length)

/-- The bytes that end a text. -/
def Edid.endsText (b : UInt8) : Bool := b == 0 || b == 0x0a || b == 0x0d

/-- Each byte of a text is printable, or white space with nothing else before it, or
white space with nothing else behind it. -/
def Edid.TextOk (bytes : List UInt8) : Prop :=
  ∀ before b behind, bytes = before ++ b :: behind →
    (∀ c ∈ before ++ [b], Edid.endsText c = false) →
    Edid.isPrintable b = true ∨ (∀ c ∈ before ++ [b], Edid.isSpace c = true) ∨
      ∀ c ∈ b :: behind, Edid.isSpace c = true ∧ Edid.endsText c = false

/-- **The blobs that do so.** -/
structure EdidBlob.BlobOk (blob : EdidBlob) : Prop where
  fifth : Edid.FifthInside blob.data
  noLetters : ∀ id : PnpId, ¬ id.PackedIn blob.data
  texts : ∀ field i, Edid.lastBlock blob.data field = some i →
    Edid.TextOk ((Edid.blockText blob.data i).take 12)

namespace Edid

/-! ## Texts -/

section
variable {buffer : List UInt8} {b : UInt8}

/-- No character is replaced by a dash. -/
theorem dashes_eq (buffer : List UInt8) : dashes buffer = buffer := by
  unfold dashes
  conv_rhs => rw [← List.map_id buffer]
  refine List.map_congr_left fun b _ => if_neg ?_
  rintro ⟨hlow, hhigh⟩
  omega

/-- What ends a text becomes zero. -/
def zeroed (b : UInt8) : UInt8 := if endsText b then 0 else b

theorem zeroed_eq (h : endsText b = false) : zeroed b = b := by
  unfold zeroed
  rw [h, if_neg Bool.false_ne_true]

theorem map_zeroed_eq {bytes : List UInt8} (h : ∀ c ∈ bytes, endsText c = false) :
    bytes.map zeroed = bytes := by
  conv_rhs => rw [← List.map_id bytes]
  exact List.map_congr_left fun c hc => zeroed_eq (h c hc)

theorem endsText_of_zeroed (h : zeroed b ≠ 0) : endsText b = false := by
  unfold zeroed at h
  split at h
  · exact absurd rfl h
  · next hends => exact Bool.eq_false_iff.2 hends

theorem ne_zero_of_not_endsText (h : endsText b = false) : b ≠ 0 := by
  rintro rfl
  exact absurd h (by decide)

theorem ne_zero_of_isSpace (h : isSpace b = true) : (b != 0) = true := by
  rw [bne_iff_ne]
  rintro rfl
  exact absurd h (by decide)

theorem replaceByZero_eq (buffer : List UInt8) :
    replaceByZero 0x0a (replaceByZero 0x0d buffer) = buffer.map zeroed := by
  unfold replaceByZero
  rw [List.map_map]
  refine List.map_congr_left fun b _ => ?_
  unfold zeroed endsText
  dsimp only [Function.comp_apply]
  by_cases hcr : b = 0x0d
  · subst hcr
    decide
  · by_cases hlf : b = 0x0a
    · subst hlf
      decide
    · by_cases hzero : b = 0 <;> simp [hcr, hlf, hzero]

/-- The bytes of a text. -/
def textBytes (buffer : List UInt8) : List UInt8 :=
  (Trim.trim isSpace (buffer.map zeroed)).takeWhile (· != 0)

theorem edidString_eq (buffer : List UInt8) : edidString buffer = latin1 (textBytes buffer) := by
  unfold edidString fromLatin1 textBytes trimmed
  rw [dashes_eq, replaceByZero_eq]

/-- A byte that ends the text is no space once it is replaced. -/
theorem zeroed_not_space : isSpace (zeroed b) = false ↔ isSpace b = false ∨ endsText b = true := by
  cases hends : endsText b with
  | true =>
    have hzero : zeroed b = 0 := if_pos hends
    rw [hzero]
    exact iff_of_true (by decide) (Or.inr rfl)
  | false =>
    rw [zeroed_eq hends]
    exact (or_iff_left Bool.false_ne_true).symm

/-- Up to a place with no zero before it, nothing was replaced. -/
theorem map_zeroed_split {before v : List UInt8} :
    (buffer.map zeroed = before ++ b :: v ∧ ∀ c ∈ before ++ [b], c ≠ 0) ↔
      ∃ behind, buffer = before ++ b :: behind ∧ v = behind.map zeroed ∧
        ∀ c ∈ before ++ [b], endsText c = false := by
  constructor
  · rintro ⟨hbuffer, hzero⟩
    obtain ⟨front, rest, rfl, rfl, hrest⟩ := List.map_eq_append_iff.1 hbuffer
    obtain ⟨b', behind, rfl, rfl, rfl⟩ := List.map_eq_cons_iff.1 hrest
    have hends : ∀ c ∈ front ++ [b'], endsText c = false := by
      intro c hc
      refine endsText_of_zeroed (hzero (zeroed c) ?_)
      rw [← List.map_singleton, ← List.map_append]
      exact List.mem_map_of_mem hc
    have hfront := map_zeroed_eq fun c hc => hends c (List.mem_append_left _ hc)
    rw [hfront, zeroed_eq (hends b' (by simp))]
    exact ⟨behind, rfl, rfl, hends⟩
  · rintro ⟨behind, rfl, rfl, hends⟩
    refine ⟨?_, fun c hc => ne_zero_of_not_endsText (hends c hc)⟩
    rw [List.map_append, List.map_cons, zeroed_eq (hends b (by simp)),
      map_zeroed_eq fun c hc => hends c (List.mem_append_left _ hc)]

/-- A byte of the text has a place in the buffer before anything that ends it. -/
theorem mem_textBytes_iff :
    b ∈ textBytes buffer ↔ ∃ before behind, buffer = before ++ b :: behind ∧
      (∀ c ∈ before ++ [b], endsText c = false) ∧ (∃ c ∈ before ++ [b], isSpace c = false) ∧
        ∃ c ∈ b :: behind, isSpace c = false ∨ endsText c = true := by
  have hmem : ∀ behind d, endsText b = false →
      (d ∈ b :: behind.map zeroed ↔ ∃ c ∈ b :: behind, zeroed c = d) := by
    intro behind d hb
    rw [← List.mem_map, List.map_cons, zeroed_eq hb]
  unfold textBytes
  rw [Trim.mem_takeWhile_trim_iff fun _ => ne_zero_of_isSpace]
  constructor
  · rintro ⟨before, v, hbuffer, hzero, hfront, d, hd, hback⟩
    obtain ⟨behind, hsplit, rfl, hends⟩ :=
      map_zeroed_split.1 ⟨hbuffer, fun c hc => bne_iff_ne.1 (hzero c hc)⟩
    obtain ⟨c, hc, rfl⟩ := (hmem behind d (hends b (by simp))).1 hd
    exact ⟨before, behind, hsplit, hends, hfront, c, hc, zeroed_not_space.1 hback⟩
  · rintro ⟨before, behind, hsplit, hends, hfront, c, hc, hback⟩
    obtain ⟨hbuffer, hzero⟩ := map_zeroed_split.2 ⟨behind, hsplit, rfl, hends⟩
    refine ⟨before, behind.map zeroed, hbuffer, fun c hc => bne_iff_ne.2 (hzero c hc), hfront,
      zeroed c, ?_, zeroed_not_space.2 hback⟩
    exact (hmem behind _ (hends b (by simp))).2 ⟨c, hc, rfl⟩

theorem textOk_iff : TextOk buffer ↔ ∀ b ∈ textBytes buffer, isPrintable b = true := by
  constructor
  · intro h b hb
    obtain ⟨before, behind, hbuffer, hends, ⟨c, hc, hspace⟩, d, hd, hbehind⟩ := mem_textBytes_iff.1 hb
    rcases h before b behind hbuffer hends with hprintable | hfront | hback
    · exact hprintable
    · exact absurd (hfront c hc) (by simp [hspace])
    · obtain ⟨hspace', hends'⟩ := hback d hd
      rcases hbehind with h' | h'
      · exact absurd hspace' (by simp [h'])
      · exact absurd hends' (by simp [h'])
  · intro h before b behind hbuffer hends
    by_cases hprintable : isPrintable b = true
    · exact Or.inl hprintable
    by_cases hfront : ∀ c ∈ before ++ [b], isSpace c = true
    · exact Or.inr (Or.inl hfront)
    refine Or.inr (Or.inr fun d hd => ?_)
    obtain ⟨c, hc, hspace⟩ : ∃ c ∈ before ++ [b], isSpace c = false := by simpa using hfront
    by_contra hback
    have hback' : isSpace d = false ∨ endsText d = true := by
      by_cases hd : isSpace d = true
      · exact Or.inr (eq_true_of_ne_false fun hends => hback ⟨hd, hends⟩)
      · exact Or.inl (Bool.eq_false_iff.2 hd)
    exact hprintable
      (h b (mem_textBytes_iff.2 ⟨before, behind, hbuffer, hends, ⟨c, hc, hspace⟩, d, hd, hback'⟩))

theorem toList_latin1 (bytes : List UInt8) :
    (latin1 bytes).toList = bytes.map fun b => Char.ofNat b.toNat := String.toList_ofList

theorem toNat_char_all : ∀ n, n < 256 → (Char.ofNat n).toNat = n := by
  decide +kernel

theorem forall_mem_latin1 {P : Nat → Prop} {bytes : List UInt8} :
    (∀ c ∈ (latin1 bytes).toList, P c.toNat) ↔ ∀ b ∈ bytes, P b.toNat := by
  rw [toList_latin1, List.forall_mem_map]
  refine forall₂_congr fun b _ => ?_
  rw [toNat_char_all b.toNat b.toNat_lt]

theorem isPrintable_iff : isPrintable b = true ↔ 0x20 ≤ b.toNat ∧ b.toNat ≤ 0x7e := by
  unfold isPrintable
  rw [Bool.and_eq_true, decide_eq_true_iff, decide_eq_true_iff]
  exact Iff.rfl

/-- The text is a part of what is before the line feed. -/
theorem textBytes_part (bytes : List UInt8) (n : Nat) :
    textBytes (bytes.take n) <:+: bytes.takeWhile (· != 0x0a) := by
  obtain ⟨front, back, hz, hfront, -⟩ := Trim.trim_split isSpace ((bytes.take n).map zeroed)
  have htext : Trim.trim isSpace ((bytes.take n).map zeroed) = textBytes (bytes.take n) ++
      (Trim.trim isSpace ((bytes.take n).map zeroed)).dropWhile (· != 0) :=
    List.takeWhile_append_dropWhile.symm
  rw [htext, ← List.append_assoc, List.append_assoc] at hz
  obtain ⟨kept, rest, hbytes, hkept, -⟩ := List.map_eq_append_iff.1 hz
  -- nothing that was kept became zero
  have hends : ∀ c ∈ kept, endsText c = false := by
    intro c hc
    refine endsText_of_zeroed ?_
    have hmem := List.mem_map_of_mem (f := zeroed) hc
    rw [hkept] at hmem
    rcases List.mem_append.1 hmem with hmem | hmem
    · exact bne_iff_ne.1 (ne_zero_of_isSpace (hfront _ hmem))
    · exact bne_iff_ne.1 (List.mem_takeWhile_imp (p := fun b => b != 0) hmem)
  have hsame : kept = front ++ textBytes (bytes.take n) := by rw [← hkept, map_zeroed_eq hends]
  have hline : ∀ c ∈ kept, (c != 0x0a) = true := by
    intro c hc
    rw [bne_iff_ne]
    rintro rfl
    exact absurd (hends _ hc) (by decide)
  have hprefix : kept <+: bytes.takeWhile (· != 0x0a) := by
    rw [← List.take_append_drop n bytes, hbytes, List.append_assoc,
      List.takeWhile_append_of_pos hline]
    exact List.prefix_append _ _
  refine List.IsInfix.trans ?_ hprefix.isInfix
  rw [hsame]
  exact (List.suffix_append _ _).isInfix

/-- **A text** is clean if and only if its bytes are in order. -/
theorem clean_iff (bytes : List UInt8) (n : Nat) :
    Clean bytes (edidString (bytes.take n)) ↔ TextOk (bytes.take n) := by
  rw [textOk_iff, edidString_eq]
  simp only [isPrintable_iff]
  rw [← forall_mem_latin1 (P := fun k => 0x20 ≤ k ∧ k ≤ 0x7e)]
  constructor
  · exact fun h => h.printable
  · intro h
    refine ⟨h, ?_⟩
    rw [toList_latin1, toList_latin1]
    exact (textBytes_part bytes n).map _

end

/-! ## Manufacturers -/

theorem fields_all : ∀ n, n < 256 →
    (n.toUInt8 &&& 0x7c) / 4 = (n / 4 % 32).toUInt8 ∧
      (n.toUInt8 &&& 0x3) * 8 = (n % 4 * 8).toUInt8 ∧
      (n.toUInt8 &&& 0xe0) / 32 = (n / 32).toUInt8 ∧ n.toUInt8 &&& 0x1f = (n % 32).toUInt8 := by
  decide +kernel

theorem letter_eq (k : Nat) : 65 + (k + 1).toUInt8 - 1 = (65 + k).toUInt8 := by
  simp only [Nat.toUInt8_eq, UInt8.ofNat_add]
  grind

/-- **Three letters** that were packed come out again, and a zero behind them. -/
theorem manufacturerOf_word (id : PnpId) :
    manufacturerOf (id.word / 256).toUInt8 (id.word % 256).toUInt8 = latin1 (id.letters ++ [0]) := by
  obtain ⟨a, b, c⟩ := id
  have hword : PnpId.word ⟨a, b, c⟩ = (a.val + 1) * 1024 + (b.val + 1) * 32 + (c.val + 1) := rfl
  obtain ⟨hfirst, hhigh, -, -⟩ := fields_all (PnpId.word ⟨a, b, c⟩ / 256) (by omega)
  obtain ⟨-, -, hlow, hthird⟩ := fields_all (PnpId.word ⟨a, b, c⟩ % 256) (by omega)
  unfold manufacturerOf pnpLetters PnpId.letters
  have hone : PnpId.word ⟨a, b, c⟩ / 256 / 4 % 32 = a.val + 1 := by omega
  have htwo : PnpId.word ⟨a, b, c⟩ / 256 % 4 * 8 + PnpId.word ⟨a, b, c⟩ % 256 / 32 = b.val + 1 := by
    omega
  have hthree : PnpId.word ⟨a, b, c⟩ % 256 % 32 = c.val + 1 := by omega
  have hsum : ∀ x y : Nat, 65 + x.toUInt8 + y.toUInt8 = 65 + (x + y).toUInt8 := by
    intro x y
    simp only [Nat.toUInt8_eq, UInt8.ofNat_add]
    grind
  rw [hfirst, hhigh, hlow, hthird, hsum, hone, htwo, hthree, letter_eq, letter_eq, letter_eq]
  rfl

/-- The zero makes it another text than that of three letters. -/
theorem manufacturerOf_ne (high low : UInt8) (id : PnpId) : manufacturerOf high low ≠ id.text := by
  intro h
  have hlength := congrArg (fun s : String => s.toList.length) h
  unfold manufacturerOf PnpId.text at hlength
  rw [toList_latin1, toList_latin1, List.length_map, List.length_map] at hlength
  exact absurd hlength (by simp [pnpLetters, PnpId.letters])

/-! ## Blocks -/

section
variable {data : List UInt8} {edid scanned : Edid} {i : Nat}

/-- The bytes of a block that are read are in the blob. -/
def Inside (data : List UInt8) (i : Nat) : Prop :=
  ∃ field, blockField data (blockOffset i) = some field ∧
    (field ≠ none → blockOffset i + 17 ≤ data.length)

def edidText (data : List UInt8) (i : Nat) : String := edidString ((blockText data i).take 12)

/-- What a block that is inside makes of the data. -/
def put (data : List UInt8) (edid : Edid) (i : Nat) : Edid :=
  match blockField data (blockOffset i) with
  | some (some field) => edid.set field (edidText data i)
  | _ => edid

theorem parseEdidString_block (h : blockOffset i + 17 ≤ data.length) :
    parseEdidString data (blockOffset i + 5) = some (edidText data i) := by
  unfold parseEdidString edidText blockText
  rw [if_pos (by omega), List.take_take]
  rfl

theorem scanBlock_inside (h : Inside data i) : scanBlock data edid i = some (put data edid i) := by
  obtain ⟨field, hfield, hlength⟩ := h
  unfold scanBlock put
  rw [hfield, Option.bind_some]
  cases field with
  | none => rfl
  | some field =>
    dsimp only
    rw [parseEdidString_block (hlength (Option.some_ne_none field))]
    rfl

theorem inside_of_scanBlock {edid' : Edid} (h : scanBlock data edid i = some edid') :
    Inside data i := by
  unfold scanBlock at h
  obtain ⟨field, hfield, h⟩ := Option.bind_eq_some_iff.1 h
  refine ⟨field, hfield, fun hne => ?_⟩
  cases field with
  | none => exact absurd rfl hne
  | some field =>
    obtain ⟨text, htext, -⟩ := Option.map_eq_some_iff.1 h
    unfold parseEdidString at htext
    split at htext
    · omega
    · cases htext

/-- A block that starts early enough is inside. -/
theorem inside_of_le (h : blockOffset i + 17 ≤ data.length) : Inside data i := by
  have hget : ∀ k, k ≤ 3 → data[blockOffset i + k]? = some (data.getD (blockOffset i + k) 0) := by
    intro k hk
    rw [List.getD_eq_getElem?_getD, List.getElem?_eq_getElem (by omega), Option.getD_some]
  have hfield : ∃ field, blockField data (blockOffset i) = some field := by
    unfold blockField
    rw [hget 1 (by omega), hget 2 (by omega), hget 3 (by omega),
      show data[blockOffset i]? = _ from hget 0 (by omega)]
    simp only [Option.bind_some]
    split
    · exact ⟨_, rfl⟩
    · split
      · exact ⟨_, rfl⟩
      · split <;> exact ⟨_, rfl⟩
  obtain ⟨field, hfield⟩ := hfield
  exact ⟨field, hfield, fun _ => h⟩

/-- The fifth block. -/
theorem inside_four_iff (hlength : 128 ≤ data.length) : Inside data 4 ↔ FifthInside data := by
  have hfirst : data[126]? = some data[126] := List.getElem?_eq_getElem (by omega)
  have hsecond : data[127]? = some data[127] := List.getElem?_eq_getElem (by omega)
  have hoffset : blockOffset 4 = 126 := rfl
  unfold Inside FifthInside
  rw [hoffset, hfirst, hsecond]
  unfold blockField
  rw [hfirst, hsecond]
  simp only [Option.bind_some, Option.some.injEq]
  by_cases h₀ : data[126] = 0
  swap
  · simp [h₀]
  by_cases h₁ : data[127] = 0
  swap
  · simp [h₀, h₁]
  simp only [h₀, h₁, ne_eq, not_true_eq_false, if_false, forall_const]
  cases hthird : data[128]? with
  | none =>
    have hle := List.getElem?_eq_none_iff.1 hthird
    refine iff_of_false (by simp) fun h => ?_
    omega
  | some third =>
    have hlt := (List.getElem?_eq_some_iff.1 hthird).1
    simp only [Option.bind_some, Option.some.injEq]
    by_cases h₂ : third = 0
    swap
    · simp only [h₂, not_false_eq_true, if_true, false_implies, and_true]
      exact iff_of_true ⟨none, rfl, fun h => absurd rfl h⟩ hlt
    simp only [h₂, not_true_eq_false, if_false, forall_const]
    cases htag : data[129]? with
    | none =>
      have hle := List.getElem?_eq_none_iff.1 htag
      refine iff_of_false (by simp) fun h => ?_
      omega
    | some tag =>
      have hlt := (List.getElem?_eq_some_iff.1 htag).1
      simp only [Option.map_some, Option.some.injEq, exists_eq_left']
      constructor
      · intro h
        refine ⟨by omega, by omega, ?_⟩
        rintro tag' rfl hne
        exact h hne
      · rintro ⟨-, -, h⟩ hne
        exact h tag rfl hne

theorem foldlM_inside {l : List Nat} (h : ∀ i ∈ l, Inside data i) (edid : Edid) :
    l.foldlM (scanBlock data) edid = some (l.foldl (put data) edid) := by
  induction l generalizing edid with
  | nil => rfl
  | cons i l ih =>
    rw [List.foldlM_cons, scanBlock_inside (h i List.mem_cons_self)]
    exact ih (fun j hj => h j (List.mem_cons_of_mem _ hj)) _

/-- **The loop** over the blocks. -/
theorem foldlM_eq_some_iff (hlength : 128 ≤ data.length) :
    (List.range 5).foldlM (scanBlock data) edid = some scanned ↔
      Inside data 4 ∧ scanned = (List.range 5).foldl (put data) edid := by
  have hfour : ∀ i ∈ List.range 4, Inside data i := by
    intro i hi
    have hlt := List.mem_range.1 hi
    exact inside_of_le (by unfold blockOffset offsetDataBlocks; omega)
  have hrange : List.range 5 = List.range 4 ++ [4] := rfl
  rw [hrange, List.foldlM_append, foldlM_inside hfour]
  constructor
  · intro h
    have hlast : scanBlock data ((List.range 4).foldl (put data) edid) 4 = some scanned := by
      simpa using h
    have hinside := inside_of_scanBlock hlast
    rw [scanBlock_inside hinside] at hlast
    refine ⟨hinside, ?_⟩
    rw [List.foldl_append]
    exact (Option.some.inj hlast).symm
  · rintro ⟨hinside, rfl⟩
    rw [List.foldl_append]
    simpa using scanBlock_inside hinside

theorem get_set_self (edid : Edid) (field : EdidField) (text : String) :
    (edid.set field text).get field = text := by
  cases field <;> rfl

theorem get_set_of_ne {field other : EdidField} (h : other ≠ field) (edid : Edid) (text : String) :
    (edid.set other text).get field = edid.get field := by
  cases other <;> cases field <;> first | exact absurd rfl h | rfl

theorem manufacturer_set (edid : Edid) (field : EdidField) (text : String) :
    (edid.set field text).manufacturer = edid.manufacturer := by
  cases field <;> rfl

theorem get_put (field : EdidField) (edid : Edid) (i : Nat) :
    (put data edid i).get field =
      (if blockField data (blockOffset i) = some (some field) then some (edidText data i)
        else none).getD (edid.get field) := by
  unfold put
  cases hblock : blockField data (blockOffset i) with
  | none => simp
  | some of =>
    cases of with
    | none => simp
    | some other =>
      dsimp only
      by_cases h : other = field
      · subst h
        rw [if_pos rfl, Option.getD_some, get_set_self]
      · rw [if_neg (by simpa using h), Option.getD_none, get_set_of_ne h]

/-- A field has the text of the last block for it. -/
theorem get_scanned {field : EdidField} (h : lastBlock data field = some i) (edid : Edid) :
    ((List.range 5).foldl (put data) edid).get field = edidText data i := by
  let text (i : Nat) : Option String :=
    if blockField data (blockOffset i) = some (some field) then some (edidText data i) else none
  have hget : ((List.range 5).foldl (put data) edid).get field =
      Overwritten.last text (edid.get field) (List.range 5) :=
    (List.foldl_hom (fun edid => edid.get field) fun edid i => (get_put field edid i).symm).symm
  have hblock := List.find?_some h
  rw [hget]
  refine Overwritten.last_of_find _ (a := i) ?_ (if_pos (of_decide_eq_true hblock))
  rw [← h]
  unfold lastBlock
  congr 1
  funext j
  by_cases hj : blockField data (blockOffset j) = some (some field) <;> simp [text, hj]

theorem manufacturer_foldl (l : List Nat) (edid : Edid) :
    (l.foldl (put data) edid).manufacturer = edid.manufacturer := by
  have hput : ∀ (edid : Edid) i, (put data edid i).manufacturer = edid.manufacturer := by
    intro edid i
    unfold put
    split
    · exact manufacturer_set _ _ _
    · rfl
  induction l generalizing edid with
  | nil => rfl
  | cons i l ih => rw [List.foldl_cons, ih, hput]

end

end Edid

/-! ## Results -/

namespace EdidBlob

open Edid

variable (blob : EdidBlob)

theorem getElem?_blob {k : Nat} (hk : k < 128) : ∃ b, blob.data[k]? = some b :=
  ⟨_, List.getElem?_eq_getElem (Nat.lt_of_lt_of_le hk blob.length)⟩

theorem readIds_blob : ∃ ids high low, readIds blob.data Edid.empty = some ids ∧
    blob.data[offsetPnpId]? = some high ∧ blob.data[offsetPnpId + 1]? = some low ∧
      ids.manufacturer = manufacturerOf high low := by
  obtain ⟨high, hhigh⟩ := blob.getElem?_blob (k := offsetPnpId) (by decide)
  obtain ⟨low, hlow⟩ := blob.getElem?_blob (k := offsetPnpId + 1) (by decide)
  obtain ⟨b₀, h₀⟩ := blob.getElem?_blob (k := offsetSerial) (by decide)
  obtain ⟨b₁, h₁⟩ := blob.getElem?_blob (k := offsetSerial + 1) (by decide)
  obtain ⟨b₂, h₂⟩ := blob.getElem?_blob (k := offsetSerial + 2) (by decide)
  obtain ⟨b₃, h₃⟩ := blob.getElem?_blob (k := offsetSerial + 3) (by decide)
  unfold readIds
  rw [hhigh, hlow, h₀, h₁, h₂, h₃]
  exact ⟨_, high, low, rfl, rfl, rfl, rfl⟩

theorem finish_blob (scanned : Edid) : ∃ edid, finish blob.data scanned = some edid := by
  obtain ⟨width, hwidth⟩ := blob.getElem?_blob (k := offsetPhysicalWidth) (by decide)
  obtain ⟨height, hheight⟩ := blob.getElem?_blob (k := offsetPhysicalHeight) (by decide)
  unfold finish
  rw [hwidth, hheight]
  exact ⟨_, rfl⟩

/-- An accepted blob is parsed to the end if its blocks are. -/
theorem parseEdid_blob {scanned : Edid} (h : scan blob.data Edid.empty = some scanned) :
    ∃ edid, parseEdid blob.data Edid.empty = some (true, edid) := by
  obtain ⟨edid, hedid⟩ := blob.finish_blob scanned
  have hheader : ¬ (blob.data[0]? ≠ some 0 ∨ blob.data[1]? ≠ some 0xff) := by
    simp [blob.header.1, blob.header.2]
  unfold parseEdid
  rw [if_neg (Nat.not_lt.2 blob.length), if_neg hheader, h, Option.bind_some, hedid]
  exact ⟨edid, rfl⟩

/-- **EDID parsing.**  What is owed for an accepted blob is done if and only if its fifth
block stays inside, its manufacturer is not three letters, and the bytes of its texts
are in order. -/
theorem edid_sound_iff : (∃ scanned, blob.Sound scanned) ↔ blob.BlobOk := by
  obtain ⟨ids, high, low, hids, hhigh, hlow, hmanufacturer⟩ := blob.readIds_blob
  have hscan : ∀ scanned, scan blob.data Edid.empty = some scanned ↔
      Inside blob.data 4 ∧ scanned = (List.range 5).foldl (put blob.data) ids := by
    intro scanned
    unfold scan
    rw [hids, Option.bind_some]
    exact foldlM_eq_some_iff blob.length
  have hclean : ∀ field i, lastBlock blob.data field = some i →
      (Clean (blockText blob.data i) (((List.range 5).foldl (put blob.data) ids).get field) ↔
        TextOk ((blockText blob.data i).take 12)) := by
    intro field i hlast
    rw [get_scanned hlast]
    exact clean_iff _ _
  constructor
  · rintro ⟨scanned, h⟩
    obtain ⟨hinside, rfl⟩ := (hscan scanned).1 h.scan
    refine ⟨(inside_four_iff blob.length).1 hinside, fun id hid => ?_, fun field i hlast => ?_⟩
    · have hletters := h.manufacturer id hid
      rw [manufacturer_foldl, hmanufacturer] at hletters
      exact manufacturerOf_ne high low id hletters
    · exact (hclean field i hlast).1 (h.texts field i hlast)
  · intro h
    have hsome := (hscan _).2 ⟨(inside_four_iff blob.length).2 h.fifth, rfl⟩
    refine ⟨_, hsome, blob.parseEdid_blob hsome, fun id hid => absurd hid (h.noLetters id), ?_⟩
    exact fun field i hlast => (hclean field i hlast).2 (h.texts field i hlast)

/-- A blob without descriptors whose manufacturer is ABC. -/
def abc : EdidBlob where
  data := [0, 0xff] ++ List.replicate 6 1 ++ [0x04, 0x43] ++ List.replicate 118 1
  length := by decide +kernel
  header := by decide +kernel

/-- Its manufacturer has a fourth character. -/
theorem abc_not_sound : ¬ ∃ scanned, abc.Sound scanned := by
  rintro ⟨scanned, h⟩
  have hid : (⟨0, 1, 2⟩ : PnpId).PackedIn abc.data := by decide +kernel
  have hscanned : (scan abc.data Edid.empty).map (·.manufacturer) = some "ABC\x00" := by
    decide +kernel
  rw [h.scan, Option.map_some, h.manufacturer _ hid] at hscanned
  revert hscanned
  decide +kernel

end EdidBlob

end GreenIsland.Kms

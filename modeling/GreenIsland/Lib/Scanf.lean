import Mathlib.Algebra.Group.Nat.Defs
import Mathlib.Data.List.TakeWhile

/-! Formatted input (`sscanf`) on a list of characters.

A conversion takes an item from the front of a text and gives a value and the rest;
it never goes back.  `Reads conv R` says that `conv` reads exactly what the relation
`R` (text, value, rest) describes; a format, one conversion after the other, reads the
relations one after the other (`reads_bind`).

The items are described without the conversions: white space and a number with its
digits (`Integer`), a word (`Word`), a decimal or hexadecimal fraction (`Fraction`).
An item is as long as it can be.  Letters are small ones; infinities and what is not
a number are refused. -/

namespace Scanf

/-! ## Conversions -/

/-- From a text to a value and the rest of the text. -/
abbrev Conversion (α : Type) := StateT (List Char) Option α

/-- `isspace` -/
def isSpace (c : Char) : Bool := c = ' ' || ('\t' ≤ c && c ≤ '\r')

def isDigit (c : Char) : Bool := '0' ≤ c && c ≤ '9'

def isHexDigit (c : Char) : Bool := isDigit c || ('a' ≤ c && c ≤ 'f')

def digitValue (c : Char) : Nat :=
  if isDigit c then c.toNat - '0'.toNat else c.toNat - 'a'.toNat + 10

/-- The number that the digits stand for. -/
def valueOf (base : Nat) (digits : List Char) : Nat :=
  digits.foldl (fun n c => base * n + digitValue c) 0

/-- The longest run of such characters. -/
def run (p : Char → Bool) : Conversion (List Char) := fun text =>
  some (text.takeWhile p, text.dropWhile p)

/-- The longest run of such characters, one at least. -/
def run₁ (p : Char → Bool) : Conversion (List Char) := fun text =>
  if text.takeWhile p = [] then none else some (text.takeWhile p, text.dropWhile p)

def literal (c : Char) : Conversion Unit := fun text =>
  match text with
  | d :: rest => if d = c then some ((), rest) else none
  | [] => none

/-- What follows the mark `c`, if the mark is there. -/
def marked {α : Type} (c : Char) (conv : Conversion α) (default : α) : Conversion α := fun text =>
  match text with
  | d :: rest => if d = c then conv rest else some (default, text)
  | [] => some (default, [])

/-- Whether there is a minus sign; a plus sign is taken as well. -/
def sign : Conversion Bool := fun text =>
  match text with
  | '-' :: rest => some (true, rest)
  | '+' :: rest => some (false, rest)
  | text => some (false, text)

def number : Conversion Int := do
  let negative ← sign
  let digits ← run₁ isDigit
  return if negative then -(valueOf 10 digits : Int) else valueOf 10 digits

/-- `%d`, before the number is stored. -/
def integer : Conversion Int := do
  let _ ← run isSpace
  number

/-- An item that is no white space, of at most `width` characters. -/
def nonBlank (width : Nat) : Conversion (List Char) := fun text =>
  let found := (text.takeWhile fun c => !isSpace c).take width
  if found = [] then none else some (found, text.drop found.length)

/-- `%s` with a width -/
def word (width : Nat) : Conversion (List Char) := do
  let _ ← run isSpace
  nonBlank width

/-- The digits of a fraction before and behind the point, and its exponent. -/
structure Numeral where
  whole : List Char
  part : List Char
  exponent : Int

/-- Digits with a point and an exponent, both of which can be left out. -/
def numeral (isDigit : Char → Bool) (point mark : Char) : Conversion Numeral := do
  let whole ← run isDigit
  let part ← marked point (run isDigit) []
  if whole = [] ∧ part = [] then failure
  let exponent ← marked mark number 0
  return ⟨whole, part, exponent⟩

def Numeral.decimal (n : Numeral) : Float32 :=
  let exponent := n.exponent - n.part.length
  .ofScientific (valueOf 10 (n.whole ++ n.part)) (exponent < 0) exponent.natAbs

/-- Half is five tenths. -/
def Numeral.hexadecimal (n : Numeral) : Float32 :=
  let mantissa := valueOf 16 (n.whole ++ n.part)
  let exponent := n.exponent - 4 * n.part.length
  if exponent < 0 then .ofScientific (mantissa * 5 ^ exponent.natAbs) true exponent.natAbs
  else .ofScientific (mantissa * 2 ^ exponent.natAbs) false 0

def magnitude (point : Char) : Conversion Float32 := fun text =>
  match text with
  | '0' :: 'x' :: text => (Numeral.hexadecimal <$> numeral isHexDigit point 'p') text
  | text => (Numeral.decimal <$> numeral isDigit point 'e') text

/-- `%f`; the point is that of the locale. -/
def fraction (point : Char) : Conversion Float32 := do
  let _ ← run isSpace
  let negative ← sign
  let x ← magnitude point
  return if negative then -x else x

/-! ## Descriptions -/

/-- What is left does not go on with such a character. -/
def Stops (p : Char → Bool) (rest : List Char) : Prop := ∀ c ∈ rest.head?, p c = false

/-- The longest run of such characters -/
def Longest (p : Char → Bool) (text run rest : List Char) : Prop :=
  text = run ++ rest ∧ (∀ c ∈ run, p c = true) ∧ Stops p rest

/-- The mark and what it announces, or neither. -/
def Marked {α : Type} (c : Char) (R : List Char → α → List Char → Prop) (default : α)
    (text : List Char) (a : α) (rest : List Char) : Prop :=
  (∃ mid, text = c :: mid ∧ R mid a rest) ∨ Stops (· = c) text ∧ a = default ∧ rest = text

/-- A sign, or none -/
def Sign (text : List Char) (negative : Bool) (rest : List Char) : Prop :=
  text = '-' :: rest ∧ negative = true ∨ text = '+' :: rest ∧ negative = false ∨
    Stops (fun c => c = '-' || c = '+') text ∧ negative = false ∧ rest = text

/-- A sign and digits -/
def Number (text : List Char) (n : Int) (rest : List Char) : Prop :=
  ∃ negative unsigned digits, Sign text negative unsigned ∧ Longest isDigit unsigned digits rest ∧
    digits ≠ [] ∧ n = if negative then -(valueOf 10 digits : Int) else valueOf 10 digits

/-- Blanks in front of an item -/
def Spaced {α : Type} (R : List Char → α → List Char → Prop) (text : List Char) (a : α)
    (rest : List Char) : Prop :=
  ∃ blanks mid, Longest isSpace text blanks mid ∧ R mid a rest

/-- **White space and a number** -/
def Integer : List Char → Int → List Char → Prop := Spaced Number

/-- An item ends at white space, or is as long as the width allows. -/
def NonBlank (width : Nat) (text found rest : List Char) : Prop :=
  text = found ++ rest ∧ found ≠ [] ∧ (∀ c ∈ found, isSpace c = false) ∧
    (found.length = width ∨ found.length < width ∧ Stops (fun c => !isSpace c) rest)

/-- **White space and a word** -/
def Word (width : Nat) : List Char → List Char → List Char → Prop := Spaced (NonBlank width)

/-- Digits, a point with digits or none, and an exponent or none; one digit at least. -/
def IsNumeral (isDigit : Char → Bool) (point mark : Char) (text : List Char) (n : Numeral)
    (rest : List Char) : Prop :=
  ∃ mid mid', Longest isDigit text n.whole mid ∧ Marked point (Longest isDigit) [] mid n.part mid' ∧
    (n.whole ≠ [] ∨ n.part ≠ []) ∧ Marked mark Number 0 mid' n.exponent rest

def Magnitude (point : Char) (text : List Char) (x : Float32) (rest : List Char) : Prop :=
  (∃ mid n, text = '0' :: 'x' :: mid ∧ IsNumeral isHexDigit point 'p' mid n rest ∧ x = n.hexadecimal) ∨
    (∀ mid, text ≠ '0' :: 'x' :: mid) ∧ ∃ n, IsNumeral isDigit point 'e' text n rest ∧ x = n.decimal

/-- **White space and a fraction with its sign** -/
def Fraction (point : Char) : List Char → Float32 → List Char → Prop :=
  Spaced fun text x rest => ∃ negative unsigned y, Sign text negative unsigned ∧
    Magnitude point unsigned y rest ∧ x = if negative then -y else y

/-! ## What the conversions read -/

/-- **The conversion reads what the relation describes.** -/
def Reads {α : Type} (conv : Conversion α) (R : List Char → α → List Char → Prop) : Prop :=
  ∀ text a rest, conv text = some (a, rest) ↔ R text a rest

section
variable {α β : Type} {conv : Conversion α} {R R' : List Char → α → List Char → Prop}

theorem Reads.congr (h : Reads conv R) (hR : ∀ text a rest, R text a rest ↔ R' text a rest) :
    Reads conv R' :=
  fun text a rest => (h text a rest).trans (hR text a rest)

/-- One conversion after the other -/
theorem reads_bind {next : α → Conversion β} {S : α → List Char → β → List Char → Prop}
    (h : Reads conv R) (hnext : ∀ a, Reads (next a) (S a)) :
    Reads (conv >>= next) fun text b rest => ∃ a mid, R text a mid ∧ S a mid b rest := by
  intro text b rest
  show (conv text).bind (fun x => next x.1 x.2) = some (b, rest) ↔ _
  rw [Option.bind_eq_some_iff]
  constructor
  · rintro ⟨⟨a, mid⟩, hconv, hrest⟩
    exact ⟨a, mid, (h text a mid).1 hconv, (hnext a mid b rest).1 hrest⟩
  · rintro ⟨a, mid, hR, hS⟩
    exact ⟨(a, mid), (h text a mid).2 hR, (hnext a mid b rest).2 hS⟩

theorem reads_pure (a : α) :
    Reads (pure a : Conversion α) fun text b rest => b = a ∧ rest = text := by
  intro text b rest
  show some (a, text) = some (b, rest) ↔ _
  rw [Option.some.injEq, Prod.mk.injEq, eq_comm (a := a), eq_comm (a := text)]

theorem reads_map (h : Reads conv R) (f : α → β) :
    Reads (f <$> conv) fun text b rest => ∃ a, R text a rest ∧ b = f a := by
  refine (reads_bind h fun a => reads_pure (f a)).congr fun text b rest => ?_
  constructor
  · rintro ⟨a, mid, hR, rfl, rfl⟩
    exact ⟨a, hR, rfl⟩
  · rintro ⟨a, hR, rfl⟩
    exact ⟨a, rest, hR, rfl, rfl⟩

theorem reads_marked (h : Reads conv R) (c : Char) (default : α) :
    Reads (marked c conv default) (Marked c R default) := by
  intro text a rest
  unfold marked Marked Stops
  cases text with
  | nil =>
    show some (default, []) = some (a, rest) ↔ _
    rw [Option.some.injEq, Prod.mk.injEq, eq_comm (a := default), eq_comm (a := [])]
    simp
  | cons d text =>
    by_cases hd : d = c
    · subst hd
      simp [h text a rest]
    · show (if d = c then conv text else some (default, d :: text)) = some (a, rest) ↔ _
      rw [if_neg hd, Option.some.injEq, Prod.mk.injEq]
      constructor
      · rintro ⟨rfl, rfl⟩
        exact Or.inr ⟨by simp [hd], rfl, rfl⟩
      · rintro (⟨mid, heq, -⟩ | ⟨-, rfl, rfl⟩)
        · exact absurd (List.cons.inj heq).1 hd
        · exact ⟨rfl, rfl⟩

end

section
variable {p : Char → Bool} {text found rest : List Char}

theorem span_iff : text.takeWhile p = found ∧ text.dropWhile p = rest ↔ Longest p text found rest := by
  constructor
  · rintro ⟨rfl, rfl⟩
    refine ⟨(List.takeWhile_append_dropWhile ..).symm, fun c hc => List.mem_takeWhile_imp hc, ?_⟩
    intro c hc
    have hhead := List.head?_dropWhile_not p text
    rw [Option.mem_def.1 hc] at hhead
    simpa using hhead
  · rintro ⟨rfl, hfound, hstops⟩
    have htake : rest.takeWhile p = [] := by
      cases rest with
      | nil => rfl
      | cons c rest => exact List.takeWhile_cons_of_neg (by simp [hstops c rfl])
    have hdrop : rest.dropWhile p = rest := by
      cases rest with
      | nil => rfl
      | cons c rest => exact List.dropWhile_cons_of_neg (by simp [hstops c rfl])
    rw [List.takeWhile_append_of_pos hfound, List.dropWhile_append_of_pos hfound, htake, hdrop,
      List.append_nil]
    exact ⟨rfl, rfl⟩

theorem reads_run (p : Char → Bool) : Reads (run p) (Longest p) := by
  intro text found rest
  show some (text.takeWhile p, text.dropWhile p) = some (found, rest) ↔ _
  rw [Option.some.injEq, Prod.mk.injEq]
  exact span_iff

theorem reads_run₁ (p : Char → Bool) :
    Reads (run₁ p) fun text found rest => Longest p text found rest ∧ found ≠ [] := by
  intro text found rest
  show _ ↔ Longest p text found rest ∧ found ≠ []
  unfold run₁
  rw [← span_iff]
  split
  · next hnil =>
    refine iff_of_false (by simp) ?_
    rintro ⟨⟨rfl, -⟩, hne⟩
    exact hne hnil
  · next hne =>
    rw [Option.some.injEq, Prod.mk.injEq]
    exact ⟨fun h => ⟨h, h.1 ▸ hne⟩, And.left⟩

theorem reads_literal (c : Char) : Reads (literal c) fun text _ rest => text = c :: rest := by
  rintro text ⟨⟩ rest
  unfold literal
  cases text with
  | nil => exact iff_of_false (by simp) (by simp)
  | cons d text =>
    by_cases hd : d = c
    · subst hd
      simp
    · simp [hd]

theorem reads_sign : Reads sign Sign := by
  intro text negative rest
  unfold sign Sign Stops
  split
  · next after =>
    rw [Option.some.injEq, Prod.mk.injEq]
    constructor
    · rintro ⟨rfl, rfl⟩
      exact Or.inl ⟨rfl, rfl⟩
    · rintro (⟨heq, rfl⟩ | ⟨heq, -⟩ | ⟨hstops, -⟩)
      · exact ⟨rfl, (List.cons.inj heq).2⟩
      · exact absurd (List.cons.inj heq).1 (by decide)
      · exact absurd (hstops '-' rfl) (by decide)
  · next after =>
    rw [Option.some.injEq, Prod.mk.injEq]
    constructor
    · rintro ⟨rfl, rfl⟩
      exact Or.inr (Or.inl ⟨rfl, rfl⟩)
    · rintro (⟨heq, -⟩ | ⟨heq, rfl⟩ | ⟨hstops, -⟩)
      · exact absurd (List.cons.inj heq).1 (by decide)
      · exact ⟨rfl, (List.cons.inj heq).2⟩
      · exact absurd (hstops '+' rfl) (by decide)
  · next hminus hplus =>
    have hstops : ∀ c ∈ text.head?, (decide (c = '-') || decide (c = '+')) = false := by
      intro c hc
      obtain ⟨rest, rfl⟩ := List.head?_eq_some_iff.1 hc
      have h₁ : c ≠ '-' := fun h => hminus rest (by rw [h])
      have h₂ : c ≠ '+' := fun h => hplus rest (by rw [h])
      simp [h₁, h₂]
    rw [Option.some.injEq, Prod.mk.injEq]
    constructor
    · rintro ⟨rfl, rfl⟩
      exact Or.inr (Or.inr ⟨hstops, rfl, rfl⟩)
    · rintro (⟨rfl, -⟩ | ⟨rfl, -⟩ | ⟨-, rfl, rfl⟩)
      · exact absurd rfl (hminus rest)
      · exact absurd rfl (hplus rest)
      · exact ⟨rfl, rfl⟩

theorem reads_number : Reads number Number := by
  refine (reads_bind reads_sign fun negative =>
    reads_bind (reads_run₁ isDigit) fun digits => reads_pure _).congr fun text n rest => ?_
  constructor
  · rintro ⟨negative, unsigned, hsign, digits, mid, ⟨hdigits, hne⟩, rfl, rfl⟩
    exact ⟨negative, unsigned, digits, hsign, hdigits, hne, rfl⟩
  · rintro ⟨negative, unsigned, digits, hsign, hdigits, hne, rfl⟩
    exact ⟨negative, unsigned, hsign, digits, rest, ⟨hdigits, hne⟩, rfl, rfl⟩

/-- White space first -/
theorem reads_spaced {α : Type} {conv : Conversion α} {R : List Char → α → List Char → Prop}
    (h : Reads conv R) : Reads (run isSpace >>= fun _ => conv) (Spaced R) :=
  reads_bind (reads_run isSpace) fun _ => h

/-- **`%d`** -/
theorem reads_integer : Reads integer Integer := reads_spaced reads_number

theorem reads_nonBlank (width : Nat) : Reads (nonBlank width) (NonBlank width) := by
  intro text found rest
  let q : Char → Bool := fun c => !isSpace c
  have hread : nonBlank width text = if (text.takeWhile q).take width = [] then none
      else some ((text.takeWhile q).take width, text.drop ((text.takeWhile q).take width).length) := rfl
  rw [hread]
  constructor
  · intro h
    obtain ⟨hsplit, hrun, hstops⟩ := span_iff.1 ⟨rfl, rfl⟩
    set whole := text.takeWhile q
    split at h
    · cases h
    · next hne =>
      obtain ⟨rfl, rfl⟩ := Prod.mk.inj (Option.some.inj h)
      obtain ⟨after, hafter⟩ := (List.take_prefix width whole).trans ⟨_, hsplit.symm⟩
      have hrest : text.drop (whole.take width).length = after := by
        rw [← hafter, List.drop_left]
      rw [hrest]
      refine ⟨hafter.symm, hne, fun c hc => ?_, ?_⟩
      · have hblank := hrun c (List.mem_of_mem_take hc)
        simpa [q] using hblank
      · by_cases hwidth : width ≤ whole.length
        · exact Or.inl (List.length_take_of_le hwidth)
        · have htake : whole.take width = whole := List.take_of_length_le (by omega)
          rw [htake] at hafter ⊢
          refine Or.inr ⟨by omega, ?_⟩
          rwa [List.append_cancel_left (hafter.trans hsplit)]
  · rintro ⟨rfl, hne, hblank, hwidth⟩
    have hq : ∀ c ∈ found, q c = true := fun c hc => by simp [q, hblank c hc]
    have htake : ((found ++ rest).takeWhile q).take width = found := by
      rcases hwidth with rfl | ⟨hlt, hstops⟩
      · rw [List.takeWhile_append_of_pos hq, List.take_left]
      · rw [(span_iff.2 ⟨rfl, hq, hstops⟩).1]
        exact List.take_of_length_le (by omega)
    rw [htake, if_neg hne, List.drop_left]

/-- **`%s`** -/
theorem reads_word (width : Nat) : Reads (word width) (Word width) :=
  reads_spaced (reads_nonBlank width)

theorem reads_numeral (isDigit : Char → Bool) (point mark : Char) :
    Reads (numeral isDigit point mark) (IsNumeral isDigit point mark) := by
  have hguard : ∀ whole part : List Char,
      Reads (if whole = [] ∧ part = [] then failure
        else do
          let exponent ← marked mark number 0
          return (⟨whole, part, exponent⟩ : Numeral))
        fun text n rest => (whole ≠ [] ∨ part ≠ []) ∧
          ∃ exponent, Marked mark Number 0 text exponent rest ∧ n = ⟨whole, part, exponent⟩ := by
    intro whole part text n rest
    split
    · next hnil =>
      refine iff_of_false (by rintro ⟨⟩) ?_
      rintro ⟨hne, -⟩
      exact hne.elim (absurd hnil.1) (absurd hnil.2)
    · next hne =>
      have hmap := reads_map (reads_marked reads_number mark 0) (Numeral.mk whole part)
      refine (hmap text n rest).trans (and_iff_right ?_).symm
      exact not_and_or.1 hne
  refine (reads_bind (reads_run isDigit) fun whole =>
    reads_bind (reads_marked (reads_run isDigit) point []) fun part => hguard whole part).congr ?_
  intro text n rest
  constructor
  · rintro ⟨whole, mid, hwhole, part, mid', hpart, hne, exponent, hexponent, rfl⟩
    exact ⟨mid, mid', hwhole, hpart, hne, hexponent⟩
  · rintro ⟨mid, mid', hwhole, hpart, hne, hexponent⟩
    exact ⟨n.whole, mid, hwhole, n.part, mid', hpart, hne, n.exponent, hexponent, rfl⟩

theorem reads_magnitude (point : Char) : Reads (magnitude point) (Magnitude point) := by
  intro text x rest
  unfold magnitude Magnitude
  split
  · next text =>
    have h := reads_map (reads_numeral isHexDigit point 'p') Numeral.hexadecimal text x rest
    rw [h]
    simp
  · next hnone =>
    have h := reads_map (reads_numeral isDigit point 'e') Numeral.decimal text x rest
    rw [h]
    constructor
    · exact fun hn => Or.inr ⟨hnone, hn⟩
    · rintro (⟨mid, n, rfl, -⟩ | ⟨-, hn⟩)
      · exact absurd rfl (hnone mid)
      · exact hn

/-- **`%f`** -/
theorem reads_fraction (point : Char) : Reads (fraction point) (Fraction point) := by
  refine reads_spaced ?_
  refine (reads_bind reads_sign fun negative =>
    reads_bind (reads_magnitude point) fun y => reads_pure _).congr fun text x rest => ?_
  constructor
  · rintro ⟨negative, unsigned, hsign, y, mid, hy, rfl, rfl⟩
    exact ⟨negative, unsigned, y, hsign, hy, rfl⟩
  · rintro ⟨negative, unsigned, y, hsign, hy, rfl⟩
    exact ⟨negative, unsigned, hsign, y, rest, hy, rfl, rfl⟩

end

end Scanf

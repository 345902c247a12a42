import GreenIsland.Lib.Utf16
import GreenIsland.Qt.Basic
import Mathlib.Data.List.TakeWhile

/-! Qt's strings, which are sequences of UTF-16 code units, and their bytes.

`toUtf8` writes a question mark for a surrogate without its other half.  `fromUtf8` reads up to the
first zero, drops a byte order mark and makes a replacement character of every byte that it cannot
use.  So a string comes back if it has all of its surrogates, no null character and no byte order
mark in front, and its length does without the first of these. -/

namespace GreenIsland

/-- `QString` -/
abbrev QString := List UInt16

namespace QString

/-- A negative number stands for all units. -/
def left (s : QString) (n : Int) : QString := if n < 0 then s else s.take n.toNat

/-- Also `midRef`.  A negative position takes away from the number of units. -/
def mid (s : QString) (position n : Int) : QString :=
  if s.length < position then []
  else if position < 0 then
    if n < 0 then s else s.take (n + position).toNat
  else if n < 0 then s.drop position.toNat
  else (s.drop position.toNat).take n.toNat

def remove (s : QString) (position n : Int) : QString :=
  let position := if position < 0 then position + s.length else position
  if position < 0 ∨ s.length ≤ position then s
  else s.take position.toNat ++ s.drop (position.toNat + n.toNat)

/-- Behind the end, the string is filled up with blanks. -/
def insert (s : QString) (position : Int) (t : QString) : QString :=
  if position < 0 ∨ t = [] then s
  else s.take position.toNat ++ List.replicate (position.toNat - s.length) 0x20 ++ t ++
    s.drop position.toNat

def replace (s : QString) (position n : Int) (t : QString) : QString :=
  if position < 0 ∨ s.length < position then s
  else s.take position.toNat ++ t ++ s.drop (position.toNat + n.toNat)

def toUtf8 (s : QString) : List UInt8 := Utf16.encode (Utf16.chars '?' s)

/-- The encoded byte order mark -/
def utf8bom : List UInt8 := [0xEF, 0xBB, 0xBF]

def fromUtf8 (bytes : List UInt8) : QString :=
  let bytes := bytes.takeWhile fun byte => byte ≠ 0
  (Utf16.decode '\uFFFD' (if bytes.take 3 = utf8bom then bytes.drop 3 else bytes)).flatMap Utf16.units

variable {s t text : QString} {n m : Nat}

/-! ## Bytes and units -/

/-- The string does not begin with a byte order mark. -/
def NoBom (s : QString) : Prop := s.head? ≠ some 0xFEFF

instance (s : QString) : Decidable s.NoBom := inferInstanceAs (Decidable (_ ≠ _))

/-- The string has no null character. -/
def NoNul (s : QString) : Prop := 0 ∉ s

instance (s : QString) : Decidable s.NoNul := inferInstanceAs (Decidable (_ ∉ _))

theorem NoNul.mono (h : s.NoNul) (hsub : t ⊆ s) : t.NoNul := fun hmem => h (hsub hmem)

/-- No surrogate pair is split there. -/
def Aligned (s : QString) (n : Nat) : Prop := Utf16.Cut (s.take n) (s.drop n)

instance (s : QString) (n : Nat) : Decidable (s.Aligned n) :=
  have (u : UInt16) : Decidable (∀ v ∈ (s.drop n).head?, ¬ (Utf16.IsHigh u ∧ Utf16.IsLow v)) :=
    Option.decidableForallMem _
  Option.decidableForallMem (s.take n).getLast?

theorem NoBom.take (h : s.NoBom) (n : Nat) : NoBom (s.take n) := by
  intro hhead
  cases s with
  | nil => cases n <;> cases hhead
  | cons u s => cases n with
    | zero => cases hhead
    | succ n => exact h hhead

theorem toUtf8_append (h : Utf16.Cut s t) : toUtf8 (s ++ t) = toUtf8 s ++ toUtf8 t := by
  rw [toUtf8, Utf16.chars_append h, Utf16.encode_append]
  rfl

/-- Nothing is cut off. -/
theorem takeWhile_toUtf8 (h : s.NoNul) : s.toUtf8.takeWhile (fun byte => byte ≠ 0) = s.toUtf8 := by
  have hchars := Utf16.toNat_ne_zero_of_mem_chars (by decide : '?'.toNat ≠ 0) h
  refine List.takeWhile_eq_self_iff.2 fun byte hbyte => decide_eq_true ?_
  rintro rfl
  exact Utf16.zero_notMem_encode hchars hbyte

theorem fromUtf8_toUtf8_eq (h : s.NoBom) (hnul : s.NoNul) :
    fromUtf8 s.toUtf8 = (Utf16.chars '?' s).flatMap Utf16.units := by
  have hbom : s.toUtf8.take 3 ≠ utf8bom := by
    intro htake
    have hmark : String.utf8EncodeChar '\uFEFF' = utf8bom := by decide
    have hencode : Utf16.encode (Utf16.chars '?' s) =
        String.utf8EncodeChar '\uFEFF' ++ s.toUtf8.drop 3 := by
      rw [hmark, ← htake, List.take_append_drop]
      rfl
    have hhead := Utf16.head_of_encode_eq hencode
    refine h (Utf16.head_of_head_chars ?_ ?_ hhead) <;> decide
  rw [fromUtf8, takeWhile_toUtf8 hnul, if_neg hbom, toUtf8, Utf16.decode_encode]

/-- **A string comes back** from its bytes. -/
theorem fromUtf8_toUtf8 (h : s.NoBom) (hnul : s.NoNul) (hpaired : Utf16.Paired s) :
    fromUtf8 s.toUtf8 = s := by
  rw [fromUtf8_toUtf8_eq h hnul, Utf16.units_chars hpaired]

@[simp] theorem length_fromUtf8_toUtf8 (h : s.NoBom) (hnul : s.NoNul) :
    (fromUtf8 s.toUtf8).length = s.length := by
  rw [fromUtf8_toUtf8_eq h hnul, Utf16.length_units_chars (by decide)]

theorem toUtf8_eq_nil : s.toUtf8 = [] ↔ s = [] := by
  constructor
  · intro h
    have hlength : ((Utf16.chars '?' s).flatMap Utf16.units).length = s.length :=
      Utf16.length_units_chars (by decide) s
    have hchars : Utf16.decode '?' s.toUtf8 = Utf16.chars '?' s := Utf16.decode_encode _
    rw [← hchars, h] at hlength
    exact List.eq_nil_of_length_eq_zero hlength.symm
  · rintro rfl
    rfl

theorem length_toUtf8_le (s : QString) : s.toUtf8.length ≤ 3 * s.length :=
  Utf16.length_encode_chars (by decide) s

/-! ## Parts of strings -/

theorem mid_of_le (h : n ≤ s.length) (m : Nat) : s.mid n m = (s.drop n).take m := by
  unfold mid
  rw [if_neg (by omega), if_neg (by omega), if_neg (by omega), Int.toNat_natCast, Int.toNat_natCast]

theorem mid_rest (h : n ≤ s.length) : s.mid n (-1) = s.drop n := by
  unfold mid
  rw [if_neg (by omega), if_neg (by omega), if_pos (by omega), Int.toNat_natCast]

theorem left_natCast : s.left n = s.take n := by
  unfold left
  rw [if_neg (by omega), Int.toNat_natCast]

theorem remove_of_le (h : n ≤ s.length) (m : Nat) : s.remove n m = s.take n ++ s.drop (n + m) := by
  unfold remove
  simp only [Int.toNat_natCast, if_neg (show ¬ (n : Int) < 0 by omega)]
  split
  · next hend =>
    rw [List.take_of_length_le (by omega), List.drop_of_length_le (by omega), List.append_nil]
  · rfl

theorem insert_of_le (h : n ≤ s.length) (t : QString) :
    s.insert n t = s.take n ++ t ++ s.drop n := by
  unfold insert
  split
  · next hnil =>
    obtain rfl : t = [] := hnil.resolve_left (by omega)
    rw [List.append_nil, List.take_append_drop]
  · rw [Int.toNat_natCast, Nat.sub_eq_zero_of_le h, List.replicate_zero, List.append_nil]

theorem replace_of_le (h : n ≤ s.length) (m : Nat) (t : QString) :
    s.replace n m t = s.take n ++ t ++ s.drop (n + m) := by
  unfold replace
  rw [if_neg (by omega), Int.toNat_natCast, Int.toNat_natCast]

end QString

end GreenIsland

import Mathlib.Data.List.Basic

/-! UTF-16 text and its UTF-8 encoding, both ways with losses.

A text is a list of code units.  `chars` reads the characters; a surrogate without its other half
is read as `lost`.  `decode` reads the characters of a list of bytes; a byte that begins no character
is read as `bad`.  So every text has bytes, and all bytes are a text.

* `decode_encode_append`: whatever follows, the characters that were encoded come back.
* `chars_append`: a text may be encoded in parts that do not split a pair (`Cut`).
* `units_chars`, `length_units_chars`: the units come back if all surrogates are paired, and the
  number of units always does, provided that `lost` is one unit.
* `zero_notMem_encode`: no byte is zero unless a character is. -/

namespace Utf16

def IsHigh (u : UInt16) : Prop := 0xD800 ≤ u.toNat ∧ u.toNat < 0xDC00

def IsLow (u : UInt16) : Prop := 0xDC00 ≤ u.toNat ∧ u.toNat < 0xE000

instance (u : UInt16) : Decidable (IsHigh u) := inferInstanceAs (Decidable (_ ∧ _))

instance (u : UInt16) : Decidable (IsLow u) := inferInstanceAs (Decidable (_ ∧ _))

/-- The character of a unit that is by itself -/
def single (lost : Char) (u : UInt16) : Char :=
  if IsHigh u ∨ IsLow u then lost else Char.ofNat u.toNat

/-- The character of a high and a low surrogate -/
def pair (u v : UInt16) : Char :=
  Char.ofNat (0x10000 + (u.toNat - 0xD800) * 0x400 + (v.toNat - 0xDC00))

def chars (lost : Char) : List UInt16 → List Char
  | [] => []
  | [u] => [single lost u]
  | u :: v :: text =>
    if IsHigh u ∧ IsLow v then pair u v :: chars lost text
    else single lost u :: chars lost (v :: text)

/-- The units of a character -/
def units (c : Char) : List UInt16 :=
  if c.toNat < 0x10000 then [UInt16.ofNat c.toNat]
  else [UInt16.ofNat (0xD800 + (c.toNat - 0x10000) / 0x400),
    UInt16.ofNat (0xDC00 + (c.toNat - 0x10000) % 0x400)]

def encode (cs : List Char) : List UInt8 := cs.flatMap String.utf8EncodeChar

/-- The first `skip` bytes belong to a character that was read already. -/
def decodeFrom (bad : Char) : Nat → List UInt8 → List Char
  | _, [] => []
  | skip + 1, _ :: bytes => decodeFrom bad skip bytes
  | 0, b :: bytes =>
    match (b :: bytes).toByteArray.utf8DecodeChar? 0 with
    | some c => c :: decodeFrom bad (c.utf8Size - 1) bytes
    | none => bad :: decodeFrom bad 0 bytes

def decode (bad : Char) (bytes : List UInt8) : List Char := decodeFrom bad 0 bytes

variable {lost bad c : Char} {u v : UInt16} {s t text : List UInt16} {cs : List Char}
  {bytes rest : List UInt8}

/-! ## Bytes -/

@[simp] theorem encode_append (cs ds : List Char) : encode (cs ++ ds) = encode cs ++ encode ds :=
  List.flatMap_append

@[simp] theorem encode_cons : encode (c :: cs) = String.utf8EncodeChar c ++ encode cs := rfl

theorem decodeFrom_eq_drop (n : Nat) (bytes : List UInt8) :
    decodeFrom bad n bytes = decode bad (bytes.drop n) := by
  induction bytes generalizing n with
  | nil => cases n <;> rfl
  | cons b bytes ih =>
    cases n with
    | zero => rfl
    | succ n => exact ih n

/-- The bytes of a character are read as that character. -/
theorem decode_char_append :
    decode bad (String.utf8EncodeChar c ++ bytes) = c :: decode bad bytes := by
  have hdecode : (String.utf8EncodeChar c ++ bytes).toByteArray.utf8DecodeChar? 0 = some c := by
    rw [List.toByteArray_append]
    exact ByteArray.utf8DecodeChar?_utf8EncodeChar_append
  have hlength : (String.utf8EncodeChar c).length = c.utf8Size := String.length_utf8EncodeChar c
  cases hbytes : String.utf8EncodeChar c with
  | nil =>
    rw [hbytes] at hlength
    exact absurd c.utf8Size_pos (by simp [← hlength])
  | cons b bs =>
    rw [hbytes] at hdecode hlength
    rw [List.cons_append] at hdecode ⊢
    rw [decode, decodeFrom, hdecode]
    simp only [decodeFrom_eq_drop]
    have hdrop : c.utf8Size - 1 = bs.length := by
      rw [← hlength, List.length_cons, Nat.add_sub_cancel]
    rw [hdrop, List.drop_left]

/-- **What was encoded is decoded**, whatever bytes follow. -/
theorem decode_encode_append (cs : List Char) (bytes : List UInt8) :
    decode bad (encode cs ++ bytes) = cs ++ decode bad bytes := by
  induction cs with
  | nil => rfl
  | cons c cs ih => rw [encode_cons, List.append_assoc, decode_char_append, ih, List.cons_append]

theorem decode_encode (cs : List Char) : decode bad (encode cs) = cs := by
  have h : decode bad (encode cs ++ []) = cs ++ decode bad [] := decode_encode_append cs []
  rwa [List.append_nil, show decode bad [] = [] from rfl, List.append_nil] at h

/-- The encoded text begins with a character just if the text does. -/
theorem head_of_encode_eq (h : encode cs = String.utf8EncodeChar c ++ rest) : cs.head? = some c := by
  have hcs : decode c (encode cs) = cs := decode_encode cs
  rw [h, decode_char_append] at hcs
  rw [← hcs, List.head?_cons]

/-! ## Units -/

theorem toNat_pair (hu : IsHigh u) (hv : IsLow v) :
    (pair u v).toNat = 0x10000 + (u.toNat - 0xD800) * 0x400 + (v.toNat - 0xDC00) := by
  unfold IsHigh at hu
  unfold IsLow at hv
  have hvalid : (0x10000 + (u.toNat - 0xD800) * 0x400 + (v.toNat - 0xDC00)).isValidChar :=
    .inr ⟨by omega, by omega⟩
  rw [pair, Char.ofNat, dif_pos hvalid]
  rfl

theorem units_pair (hu : IsHigh u) (hv : IsLow v) : units (pair u v) = [u, v] := by
  unfold units
  rw [toNat_pair hu hv, if_neg (by omega)]
  unfold IsHigh at hu
  unfold IsLow at hv
  have hhigh : 0xD800 + (0x10000 + (u.toNat - 0xD800) * 0x400 + (v.toNat - 0xDC00) - 0x10000) / 0x400 =
      u.toNat := by omega
  have hlow : 0xDC00 + (0x10000 + (u.toNat - 0xD800) * 0x400 + (v.toNat - 0xDC00) - 0x10000) % 0x400 =
      v.toNat := by omega
  rw [hhigh, hlow, UInt16.ofNat_toNat, UInt16.ofNat_toNat]

theorem toNat_single (h : ¬ (IsHigh u ∨ IsLow u)) : (single lost u).toNat = u.toNat := by
  have hvalid : u.toNat.isValidChar := by
    have hlt : u.toNat < 2 ^ 16 := u.toNat_lt
    unfold IsHigh IsLow at h
    unfold Nat.isValidChar
    omega
  rw [single, if_neg h, Char.ofNat, dif_pos hvalid]
  rfl

theorem units_single (h : ¬ (IsHigh u ∨ IsLow u)) : units (single lost u) = [u] := by
  have hlt : u.toNat < 0x10000 := u.toNat_lt
  unfold units
  rw [toNat_single h, if_pos hlt, UInt16.ofNat_toNat]

/-- Every surrogate has its other half. -/
def Paired : List UInt16 → Prop
  | [] => True
  | [u] => ¬ (IsHigh u ∨ IsLow u)
  | u :: v :: text =>
    if IsHigh u ∧ IsLow v then Paired text else ¬ (IsHigh u ∨ IsLow u) ∧ Paired (v :: text)

instance decidablePaired : DecidablePred Paired
  | [] => .isTrue trivial
  | [u] => inferInstanceAs (Decidable (¬ (IsHigh u ∨ IsLow u)))
  | u :: v :: text =>
    have := decidablePaired text
    have := decidablePaired (v :: text)
    inferInstanceAs (Decidable (if IsHigh u ∧ IsLow v then _ else _))

/-- **The units come back** of a text whose surrogates are paired. -/
theorem units_chars (h : Paired s) : (chars lost s).flatMap units = s := by
  fun_induction chars lost s with
  | case1 => rfl
  | case2 u => exact (List.flatMap_singleton ..).trans (units_single h)
  | case3 u v text hpair ih =>
    rw [Paired, if_pos hpair] at h
    rw [List.flatMap_cons, units_pair hpair.1 hpair.2, ih h]
    rfl
  | case4 u v text hpair ih =>
    rw [Paired, if_neg hpair] at h
    rw [List.flatMap_cons, units_single h.1, ih h.2]
    rfl

theorem length_units_single (hlost : (units lost).length = 1) : (units (single lost u)).length = 1 := by
  by_cases h : IsHigh u ∨ IsLow u
  · rw [single, if_pos h, hlost]
  · rw [units_single h, List.length_singleton]

/-- **The number of units comes back** of any text. -/
theorem length_units_chars (hlost : (units lost).length = 1) (s : List UInt16) :
    ((chars lost s).flatMap units).length = s.length := by
  fun_induction chars lost s with
  | case1 => rfl
  | case2 u => simp [length_units_single hlost]
  | case3 u v text hpair ih =>
    rw [List.flatMap_cons, List.length_append, units_pair hpair.1 hpair.2, ih]
    simp only [List.length_cons, List.length_nil]
    omega
  | case4 u v text hpair ih =>
    rw [List.flatMap_cons, List.length_append, length_units_single hlost, ih, List.length_cons (a := u)]
    omega

theorem length_encode_single (hlost : lost.utf8Size ≤ 3) (u : UInt16) :
    (String.utf8EncodeChar (single lost u)).length ≤ 3 := by
  rw [String.length_utf8EncodeChar]
  by_cases h : IsHigh u ∨ IsLow u
  · rw [single, if_pos h]
    exact hlost
  · refine Nat.lt_succ_iff.1 (Nat.lt_of_le_of_ne (Char.utf8Size_le_four _) fun hfour => ?_)
    have hlarge : 0xffff < (single lost u).toNat :=
      UInt32.lt_iff_toNat_lt.1 (Char.utf8Size_eq_four_iff.1 hfour)
    have hlt : u.toNat < 2 ^ 16 := u.toNat_lt
    rw [toNat_single h] at hlarge
    omega

/-- A unit takes no more than three bytes. -/
theorem length_encode_chars (hlost : lost.utf8Size ≤ 3) (s : List UInt16) :
    (encode (chars lost s)).length ≤ 3 * s.length := by
  fun_induction chars lost s with
  | case1 => exact Nat.le_refl _
  | case2 u =>
    have hsingle := length_encode_single hlost u
    rw [encode_cons, List.length_append]
    simpa [encode] using hsingle
  | case3 u v text hpair ih =>
    have hfour := Char.utf8Size_le_four (pair u v)
    rw [encode_cons, List.length_append, String.length_utf8EncodeChar]
    simp only [List.length_cons]
    omega
  | case4 u v text hpair ih =>
    have hsingle := length_encode_single hlost u
    rw [encode_cons, List.length_append]
    simp only [List.length_cons] at ih ⊢
    omega

/-- No pair is split between the two. -/
def Cut (s t : List UInt16) : Prop := ∀ u ∈ s.getLast?, ∀ v ∈ t.head?, ¬ (IsHigh u ∧ IsLow v)

theorem nil_cut (t : List UInt16) : Cut [] t := fun _ hu => absurd hu (Option.not_mem_none _)

/-- **A text is read part by part.** -/
theorem chars_append (h : Cut s t) : chars lost (s ++ t) = chars lost s ++ chars lost t := by
  fun_induction chars lost s with
  | case1 => rfl
  | case2 u =>
    cases t with
    | nil => rfl
    | cons v t => exact if_neg (h u rfl v rfl)
  | case3 u v text hpair ih =>
    rw [List.cons_append, List.cons_append, chars, if_pos hpair, List.cons_append, ih]
    intro x hx
    refine h x ?_
    cases text with
    | nil => exact absurd hx (Option.not_mem_none _)
    | cons y text => simpa only [List.getLast?_cons_cons] using hx
  | case4 u v text hpair ih =>
    rw [List.cons_append, List.cons_append, chars, if_neg hpair, List.cons_append,
      ← List.cons_append, ih]
    intro x hx
    exact h x (by simpa only [List.getLast?_cons_cons] using hx)

/-- The first character is that of the first unit, if it is neither lost nor one of two units. -/
theorem head_of_head_chars (hlost : c ≠ lost) (hc : c.toNat < 0x10000)
    (h : (chars lost s).head? = some c) : s.head? = some (UInt16.ofNat c.toNat) := by
  have hsingle : ∀ u : UInt16, single lost u = c → u = UInt16.ofNat c.toNat := by
    intro u hu
    by_cases hsurrogate : IsHigh u ∨ IsLow u
    · rw [single, if_pos hsurrogate] at hu
      exact absurd hu.symm hlost
    · rw [← hu, toNat_single hsurrogate, UInt16.ofNat_toNat]
  fun_cases chars lost s with
  | case1 => cases h
  | case2 u =>
    rw [List.head?_cons, hsingle u (Option.some.inj h)]
  | case3 u v text hpair =>
    rw [chars, if_pos hpair] at h
    have htoNat := toNat_pair hpair.1 hpair.2
    rw [Option.some.inj h] at htoNat
    omega
  | case4 u v text hpair =>
    rw [chars, if_neg hpair] at h
    rw [List.head?_cons, hsingle u (Option.some.inj h)]

/-! ## Zeros -/

/-- Only the null character has a zero among its bytes. -/
theorem eq_zero_of_mem_utf8EncodeChar (h : 0 ∈ String.utf8EncodeChar c) : c.toNat = 0 := by
  have hbyte : ∀ n < 256, 0 = UInt8.ofNat n → n = 0 := by
    intro n hn hzero
    have htoNat := congrArg UInt8.toNat hzero
    rw [UInt8.toNat_ofNat_of_lt' (by simpa using hn)] at htoNat
    exact htoNat.symm
  unfold String.utf8EncodeChar at h
  change c.val.toNat = 0
  generalize c.val.toNat = n at h ⊢
  dsimp only at h
  split at h
  · exact hbyte n (by omega) (List.mem_singleton.1 h)
  -- All bytes of a character that has several are large.
  have hlarge : ∀ n, 128 ≤ n → n < 256 → 0 ≠ UInt8.ofNat n := by
    intro n hle hlt hzero
    exact absurd (hbyte n hlt hzero) (by omega)
  split at h
  · simp only [List.mem_cons, List.not_mem_nil, or_false] at h
    rcases h with h | h <;> exact absurd h (hlarge _ (by omega) (by omega))
  split at h
  · simp only [List.mem_cons, List.not_mem_nil, or_false] at h
    rcases h with h | h | h <;> exact absurd h (hlarge _ (by omega) (by omega))
  · simp only [List.mem_cons, List.not_mem_nil, or_false] at h
    rcases h with h | h | h | h <;> exact absurd h (hlarge _ (by omega) (by omega))

theorem zero_notMem_encode (h : ∀ c ∈ cs, c.toNat ≠ 0) : 0 ∉ encode cs := by
  intro hmem
  obtain ⟨c, hc, hzero⟩ := List.mem_flatMap.1 hmem
  exact h c hc (eq_zero_of_mem_utf8EncodeChar hzero)

/-- A text without null units has no null characters. -/
theorem toNat_ne_zero_of_mem_chars (hlost : lost.toNat ≠ 0) (h : 0 ∉ s) :
    ∀ c ∈ chars lost s, c.toNat ≠ 0 := by
  have hsingle : ∀ u : UInt16, u ≠ 0 → (single lost u).toNat ≠ 0 := by
    intro u hu
    by_cases hsurrogate : IsHigh u ∨ IsLow u
    · rw [single, if_pos hsurrogate]
      exact hlost
    · rw [toNat_single hsurrogate]
      exact fun hzero => hu (UInt16.toNat_inj.1 hzero)
  fun_induction chars lost s with
  | case1 => exact fun c hc => absurd hc List.not_mem_nil
  | case2 u =>
    intro c hc
    obtain rfl := List.mem_singleton.1 hc
    exact hsingle u (fun hu => List.ne_of_not_mem_cons h hu.symm)
  | case3 u v text hpair ih =>
    intro c hc
    have htoNat := toNat_pair hpair.1 hpair.2
    rcases List.mem_cons.1 hc with heq | hc
    · rw [← heq] at htoNat
      omega
    · exact ih (List.not_mem_of_not_mem_cons (List.not_mem_of_not_mem_cons h)) c hc
  | case4 u v text hpair ih =>
    intro c hc
    rcases List.mem_cons.1 hc with rfl | hc
    · exact hsingle u (fun hu => List.ne_of_not_mem_cons h hu.symm)
    · exact ih (List.not_mem_of_not_mem_cons h) c hc
end Utf16

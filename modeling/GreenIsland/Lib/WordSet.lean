import Mathlib.Data.BitVec

/-! Numbers kept as the bits of a 32-bit word.

`w | 1 << i` puts `i` into the word and `w & 1 << i` asks for it.  A shift count
is taken modulo the width, so numbers that are congruent modulo 32 share their
bit: the word holds the residues of what was put into it (`Holds.insert`). -/

namespace WordSet

/-- `w & 1 << i` -/
def mem (w i : UInt32) : Bool := w &&& (1 <<< i) != 0

/-- `w | 1 << i` -/
def insert (w i : UInt32) : UInt32 := w ||| (1 <<< i)

theorem getLsbD_one_shift (i : UInt32) (k : Nat) :
    ((1 : UInt32) <<< i).toBitVec.getLsbD k = decide (k = i.toNat % 32) := by
  have hcount : (i.toBitVec % 32).toNat = i.toNat % 32 := rfl
  rw [UInt32.toBitVec_shiftLeft, BitVec.shiftLeft_eq', hcount, BitVec.getLsbD_shiftLeft,
    show (1 : UInt32).toBitVec = 1#32 from rfl, BitVec.getLsbD_one]
  rw [Bool.eq_iff_iff]
  simp
  omega

theorem mem_eq (w i : UInt32) : mem w i = w.toBitVec.getLsbD (i.toNat % 32) := by
  have hzero : (w &&& (1 <<< i) = 0) ↔ w.toBitVec.getLsbD (i.toNat % 32) = false := by
    rw [← UInt32.toBitVec_inj, UInt32.toBitVec_and]
    constructor
    · intro h
      have hbit := congrArg (BitVec.getLsbD · (i.toNat % 32)) h
      simp only [BitVec.getLsbD_and, getLsbD_one_shift, decide_true, Bool.and_true] at hbit
      rw [hbit]
      exact BitVec.getLsbD_zero
    · intro h
      refine BitVec.eq_of_getLsbD_eq fun k hk => ?_
      rw [BitVec.getLsbD_and, getLsbD_one_shift]
      by_cases hki : k = i.toNat % 32
      · subst hki
        simp [h]
      · simp [hki]
  unfold mem
  rw [Bool.eq_iff_iff, bne_iff_ne, ne_eq, hzero, Bool.not_eq_false]

theorem mem_insert (w i j : UInt32) :
    mem (insert w i) j = (mem w j || decide (j.toNat % 32 = i.toNat % 32)) := by
  rw [mem_eq, mem_eq, insert, UInt32.toBitVec_or, BitVec.getLsbD_or, getLsbD_one_shift]

/-- The word holds the residues of `l`. -/
def Holds (w : UInt32) (l : List UInt32) : Prop :=
  ∀ j, mem w j = true ↔ ∃ i ∈ l, i.toNat % 32 = j.toNat % 32

theorem holds_nil : Holds 0 [] := by
  intro j
  rw [mem_eq]
  simp

theorem Holds.insert {w : UInt32} {l : List UInt32} (h : Holds w l) (i : UInt32) :
    Holds (insert w i) (l ++ [i]) := by
  intro j
  rw [mem_insert, Bool.or_eq_true, h j, decide_eq_true_iff]
  simp only [List.mem_append, List.mem_singleton, or_and_right, exists_or, exists_eq_left]
  exact or_congr_right eq_comm

theorem Holds.mem {w : UInt32} {l : List UInt32} (h : Holds w l) {i : UInt32} (hi : i ∈ l) :
    mem w i = true :=
  (h i).2 ⟨i, hi, rfl⟩

end WordSet

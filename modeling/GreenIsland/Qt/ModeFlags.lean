import Mathlib.Data.Bool.Basic

/-! The flags of an output mode: the `QFlags` of `QWaylandOutput::Mode::Flag` and of
`Client::Output::ModeFlag`, which are the bits that `wl_output.mode` transmits. -/

namespace GreenIsland

abbrev ModeFlags := BitVec 32

inductive ModeFlag
  | current
  | preferred
deriving DecidableEq

namespace ModeFlag

def value : ModeFlag → ModeFlags
  | current => 1
  | preferred => 2

/-- The position of the flag's bit. -/
def bit : ModeFlag → Nat
  | current => 0
  | preferred => 1

end ModeFlag

namespace ModeFlags

/-- `QFlags::testFlag` -/
def testFlag (flags : ModeFlags) (flag : ModeFlag) : Bool :=
  flags &&& flag.value == flag.value && (flag.value != 0 || flags == flag.value)

/-- `flags &= ~flag` -/
def clear (flags : ModeFlags) (flag : ModeFlag) : ModeFlags := flags &&& ~~~flag.value

/-- `flags |= flag` -/
def set (flags : ModeFlags) (flag : ModeFlag) : ModeFlags := flags ||| flag.value

theorem getLsbD_value (flag : ModeFlag) (i : Nat) :
    flag.value.getLsbD i = decide (i = flag.bit) := by
  by_cases hi : i < 32
  · revert i
    cases flag <;> decide
  · rw [BitVec.getLsbD_of_ge _ _ (by omega), eq_comm, decide_eq_false_iff_not]
    cases flag <;> simp only [ModeFlag.bit] <;> omega

theorem testFlag_eq (flags : ModeFlags) (flag : ModeFlag) :
    testFlag flags flag = flags.getLsbD flag.bit := by
  have hne : (flag.value != 0) = true := by cases flag <;> decide
  unfold testFlag
  rw [hne, Bool.true_or, Bool.and_true, Bool.eq_iff_iff, beq_iff_eq]
  constructor
  · intro h
    have hbit := congrArg (BitVec.getLsbD · flag.bit) h
    simpa [getLsbD_value] using hbit
  · intro h
    refine BitVec.eq_of_getLsbD_eq fun i hi => ?_
    rw [BitVec.getLsbD_and, getLsbD_value]
    by_cases hib : i = flag.bit
    · subst hib; simp [h]
    · simp [hib]

@[simp] theorem testFlag_clear (flags : ModeFlags) (f g : ModeFlag) :
    testFlag (clear flags f) g = (testFlag flags g && decide (f ≠ g)) := by
  simp only [testFlag_eq, clear, BitVec.getLsbD_and, BitVec.getLsbD_not, getLsbD_value]
  cases f <;> cases g <;> simp [ModeFlag.bit]

theorem clear_of_not_testFlag {flags : ModeFlags} {flag : ModeFlag}
    (h : testFlag flags flag = false) : clear flags flag = flags := by
  rw [testFlag_eq] at h
  refine BitVec.eq_of_getLsbD_eq fun i hi => ?_
  rw [clear, BitVec.getLsbD_and, BitVec.getLsbD_not, getLsbD_value]
  by_cases hib : i = flag.bit
  · subst hib
    rw [h, Bool.false_and]
  · simp [hi, hib]

@[simp] theorem testFlag_set (flags : ModeFlags) (f g : ModeFlag) :
    testFlag (set flags f) g = (testFlag flags g || decide (f = g)) := by
  simp only [testFlag_eq, set, BitVec.getLsbD_or, getLsbD_value]
  cases f <;> cases g <;> simp [ModeFlag.bit]

end ModeFlags

end GreenIsland

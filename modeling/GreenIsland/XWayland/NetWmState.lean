import Mathlib.Data.List.Basic

/-! The property `_NET_WM_STATE` of an X window (`XWaylandShellSurface`).

Its value is a list of atoms.  `setNetWmState` writes those of the flags that are
set.  `readProperties` fetches at most 2048 of them and `decodeProperty` sets the
flags: it clears `fullscreen` and looks for its atom in a loop over the list, and
tests for the two other atoms behind the loop, at the position after the last one.

What is owed (`Decoded`): each flag is set if and only if its atom is in the list,
nothing is read behind the list, and what was written is decoded to the flags that
it was written for.  It is never done, since the two tests read what is behind the
list (`never_decoded`); which flags are right all the same depends on what is there
and on what the flags were before (`FlagsOk`). -/

namespace GreenIsland.XWayland

/-! ## Model -/

/-- The atoms of the three states. -/
structure NetWmAtoms where
  fullscreen : UInt32
  maximizedHorz : UInt32
  maximizedVert : UInt32
  fullscreen_ne_horz : fullscreen ≠ maximizedHorz
  fullscreen_ne_vert : fullscreen ≠ maximizedVert
  horz_ne_vert : maximizedHorz ≠ maximizedVert

/-- The flags of `m_properties` that the property is about. -/
structure WmFlags where
  fullscreen : Bool
  maximizedHorizontally : Bool
  maximizedVertically : Bool
deriving DecidableEq, Repr

/-- `xcb_get_property_reply_t`: its atoms and the memory behind them. -/
structure PropertyReply where
  value : List UInt32
  behind : Nat → UInt32

/-- `value[i]` -/
def PropertyReply.read (reply : PropertyReply) (i : Nat) : UInt32 :=
  reply.value[i]?.getD (reply.behind (i - reply.value.length))

/-- The flags, and the positions that were read so far. -/
structure Decode where
  flags : WmFlags
  reads : List Nat
deriving DecidableEq

/-- `setNetWmState` -/
def setNetWmState (atoms : NetWmAtoms) (flags : WmFlags) : List UInt32 :=
  (if flags.fullscreen then [atoms.fullscreen] else []) ++
    (if flags.maximizedHorizontally then [atoms.maximizedHorz] else []) ++
      if flags.maximizedVertically then [atoms.maximizedVert] else []

/-- The reply to `xcb_get_property`, which asks for 2048 words. -/
def getProperty (stored : List UInt32) (behind : Nat → UInt32) : PropertyReply :=
  ⟨stored.take 2048, behind⟩

namespace Decode

/-- `if (value[i] == net_wm_state_fullscreen)` -/
def testFullscreen (atoms : NetWmAtoms) (reply : PropertyReply) (d : Decode) (i : Nat) : Decode where
  flags := if reply.read i = atoms.fullscreen then { d.flags with fullscreen := true } else d.flags
  reads := d.reads ++ [i]

def testMaximizedHorz (atoms : NetWmAtoms) (reply : PropertyReply) (d : Decode) (i : Nat) :
    Decode where
  flags := if reply.read i = atoms.maximizedHorz then { d.flags with maximizedHorizontally := true }
    else d.flags
  reads := d.reads ++ [i]

def testMaximizedVert (atoms : NetWmAtoms) (reply : PropertyReply) (d : Decode) (i : Nat) :
    Decode where
  flags := if reply.read i = atoms.maximizedVert then { d.flags with maximizedVertically := true }
    else d.flags
  reads := d.reads ++ [i]

end Decode

/-- `decodeProperty` for `TYPE_NET_WM_STATE` -/
def decodeNetWmState (atoms : NetWmAtoms) (reply : PropertyReply) (flags : WmFlags) : Decode :=
  let d := (List.range reply.value.length).foldl (Decode.testFullscreen atoms reply)
    ⟨{ flags with fullscreen := false }, []⟩
  -- only the first test belongs to the loop: `i` is `value_len` now
  let d := d.testMaximizedHorz atoms reply reply.value.length
  d.testMaximizedVert atoms reply reply.value.length

/-! ## What is owed -/

/-- A list of atoms that is stored, the memory that its reply is put into, and the flags
before it is decoded. -/
structure Decoding where
  atoms : NetWmAtoms
  stored : List UInt32
  behind : Nat → UInt32
  previous : WmFlags

namespace Decoding

def reply (d : Decoding) : PropertyReply := getProperty d.stored d.behind

def result (d : Decoding) : Decode := decodeNetWmState d.atoms d.reply d.previous

/-- Each flag stands for its atom. -/
structure FlagsRight (d : Decoding) : Prop where
  fullscreen : d.result.flags.fullscreen = true ↔ d.atoms.fullscreen ∈ d.stored
  horizontally : d.result.flags.maximizedHorizontally = true ↔ d.atoms.maximizedHorz ∈ d.stored
  vertically : d.result.flags.maximizedVertically = true ↔ d.atoms.maximizedVert ∈ d.stored

structure Decoded (d : Decoding) : Prop where
  flags : d.FlagsRight
  inside : ∀ i ∈ d.result.reads, i < d.reply.value.length
  written : ∀ flags, d.stored = setNetWmState d.atoms flags → d.result.flags = flags

/-- The lists whose flags are right. -/
structure FlagsOk (d : Decoding) : Prop where
  fullscreen : d.atoms.fullscreen ∈ d.stored → d.atoms.fullscreen ∈ d.stored.take 2048
  horizontally : d.previous.maximizedHorizontally = true ∨
    d.reply.read (d.reply.value.length) = d.atoms.maximizedHorz ↔ d.atoms.maximizedHorz ∈ d.stored
  vertically : d.previous.maximizedVertically = true ∨
    d.reply.read (d.reply.value.length) = d.atoms.maximizedVert ↔ d.atoms.maximizedVert ∈ d.stored

end Decoding

/-! ## The loop -/

section
variable (atoms : NetWmAtoms) (reply : PropertyReply) (flags : WmFlags)

/-- After `n` turns: the atom is among the first `n`, and these were read. -/
theorem loop_spec (n : Nat) (hn : n ≤ reply.value.length) :
    (List.range n).foldl (Decode.testFullscreen atoms reply) ⟨{ flags with fullscreen := false }, []⟩ =
      ⟨{ flags with fullscreen := decide (atoms.fullscreen ∈ reply.value.take n) }, List.range n⟩ := by
  induction n with
  | zero => simp
  | succ n ih =>
    have hread : reply.read n = reply.value[n] := by
      unfold PropertyReply.read
      rw [List.getElem?_eq_getElem hn, Option.getD_some]
    rw [List.range_succ, List.foldl_append, ih (Nat.le_of_succ_le hn),
      List.take_succ_eq_append_getElem hn]
    unfold Decode.testFullscreen
    simp only [List.foldl_cons, List.foldl_nil, hread, List.mem_append, List.mem_singleton]
    by_cases hatom : reply.value[n] = atoms.fullscreen
    · simp [hatom]
    · simp [hatom, Ne.symm hatom]

/-- **Decoding.**  One flag is found in the list; the others are set by what is behind. -/
theorem decodeNetWmState_eq :
    decodeNetWmState atoms reply flags =
      ⟨⟨decide (atoms.fullscreen ∈ reply.value),
        flags.maximizedHorizontally || reply.read reply.value.length = atoms.maximizedHorz,
        flags.maximizedVertically || reply.read reply.value.length = atoms.maximizedVert⟩,
        List.range reply.value.length ++ [reply.value.length] ++ [reply.value.length]⟩ := by
  unfold decodeNetWmState
  simp only [loop_spec atoms reply flags _ (Nat.le_refl _), List.take_length]
  unfold Decode.testMaximizedHorz Decode.testMaximizedVert
  by_cases hhorz : reply.read reply.value.length = atoms.maximizedHorz
  · simp [hhorz, atoms.horz_ne_vert]
  · by_cases hvert : reply.read reply.value.length = atoms.maximizedVert
    · simp [hvert, Ne.symm atoms.horz_ne_vert]
    · simp [hhorz, hvert]

end

/-! ## Results -/

/-- Each atom is written if its flag is set. -/
theorem mem_setNetWmState (atoms : NetWmAtoms) (flags : WmFlags) :
    (atoms.fullscreen ∈ setNetWmState atoms flags ↔ flags.fullscreen = true) ∧
      (atoms.maximizedHorz ∈ setNetWmState atoms flags ↔ flags.maximizedHorizontally = true) ∧
        (atoms.maximizedVert ∈ setNetWmState atoms flags ↔ flags.maximizedVertically = true) := by
  obtain ⟨fullscreen, horizontally, vertically⟩ := flags
  have hfh := atoms.fullscreen_ne_horz
  have hfv := atoms.fullscreen_ne_vert
  have hhv := atoms.horz_ne_vert
  unfold setNetWmState
  refine ⟨?_, ?_, ?_⟩ <;> cases fullscreen <;> cases horizontally <;> cases vertically <;>
    simp [hfh, hfv, hhv, hfh.symm, hfv.symm, hhv.symm]

namespace Decoding

theorem flagsRight_iff (d : Decoding) : d.FlagsRight ↔ d.FlagsOk := by
  have hresult : d.result = _ := decodeNetWmState_eq d.atoms d.reply d.previous
  constructor
  · rintro ⟨hfullscreen, hhorizontally, hvertically⟩
    rw [hresult] at hfullscreen hhorizontally hvertically
    refine ⟨fun h => of_decide_eq_true (hfullscreen.2 h), ?_, ?_⟩
    · simpa using hhorizontally
    · simpa using hvertically
  · rintro ⟨hfullscreen, hhorizontally, hvertically⟩
    refine ⟨?_, ?_, ?_⟩
    · rw [hresult]
      exact ⟨fun h => List.mem_of_mem_take (of_decide_eq_true h),
        fun h => decide_eq_true (hfullscreen h)⟩
    · rw [hresult]
      simpa using hhorizontally
    · rw [hresult]
      simpa using hvertically

/-- What was written is decoded if the flags are right. -/
theorem written_iff {d : Decoding} {flags : WmFlags}
    (h : d.stored = setNetWmState d.atoms flags) : d.result.flags = flags ↔ d.FlagsRight := by
  obtain ⟨hfullscreen, hhorizontally, hvertically⟩ := mem_setNetWmState d.atoms flags
  rw [← h] at hfullscreen hhorizontally hvertically
  constructor
  · rintro rfl
    exact ⟨hfullscreen.symm, hhorizontally.symm, hvertically.symm⟩
  · rintro ⟨hf, hh, hv⟩
    rw [hfullscreen, ← Bool.eq_iff_iff] at hf
    rw [hhorizontally, ← Bool.eq_iff_iff] at hh
    rw [hvertically, ← Bool.eq_iff_iff] at hv
    show d.result.flags =
      ⟨flags.fullscreen, flags.maximizedHorizontally, flags.maximizedVertically⟩
    rw [← hf, ← hh, ← hv]

/-- **The property is never decoded as it should be.**  What is behind the list is read,
always; the flags are right, and come back when they were written, exactly when what is
there, and the flags before, happen to agree with the list. -/
theorem never_decoded (d : Decoding) :
    ¬ d.Decoded ∧ (d.FlagsRight ↔ d.FlagsOk) ∧
      ∀ flags, d.stored = setNetWmState d.atoms flags → (d.result.flags = flags ↔ d.FlagsOk) := by
  refine ⟨fun h => ?_, d.flagsRight_iff, fun flags hstored => ?_⟩
  · have hread : d.reply.value.length ∈ d.result.reads := by
      rw [show d.result = _ from decodeNetWmState_eq d.atoms d.reply d.previous]
      simp
    exact Nat.lt_irrefl _ (h.inside _ hread)
  · rw [written_iff hstored, d.flagsRight_iff]

/-- A window that is not maximized any more: it was horizontally, and the list is empty. -/
def unmaximized : Decoding where
  atoms := ⟨300, 301, 302, by decide, by decide, by decide⟩
  stored := []
  behind := fun _ => 0
  previous := ⟨false, true, false⟩

/-- It stays maximized, and a word behind the empty list was read. -/
theorem unmaximized_not_decoded :
    unmaximized.result.flags.maximizedHorizontally = true ∧ 0 ∈ unmaximized.result.reads ∧
      ¬ unmaximized.Decoded := by
  have hflag : unmaximized.result.flags.maximizedHorizontally = true := by decide
  refine ⟨hflag, by decide, fun h => ?_⟩
  exact absurd (h.flags.horizontally.1 hflag) List.not_mem_nil

end Decoding

end GreenIsland.XWayland

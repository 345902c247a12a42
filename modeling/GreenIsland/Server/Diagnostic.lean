import GreenIsland.Lib.Lines
import Mathlib.Data.List.Forall2

/-! Word wrap in the diagnostic output (`wordWrap`).

The outer loop takes `length + 1` bytes a turn, counted from the start of the text.  In
such a run the `length`-th byte is broken if it is a space, and the last space always is,
whether the text is too long for a line or not.  So a text that fits is returned as it is
only without a space to break, and the lines are bounded only where the end of a run and
the start of the next one happen to be short (`wordWrap_ok_iff`). -/

namespace GreenIsland.Server.DiagnosticOutput

def space : UInt8 := 32

def newline : UInt8 := 10

/-! ## The loops -/

/-- The variables of the inner loop. -/
structure Cursor where
  string : List UInt8
  it : Nat
  lastSpace : Nat
  distance : Nat

namespace Cursor

/-- A turn of the inner loop. -/
def advance (length : Nat) (w : Cursor) : Cursor :=
  let distance := w.distance + 1
  if w.string[w.it]? = some space then
    { string := if length = distance then w.string.set w.it newline else w.string
      it := w.it + 1
      lastSpace := w.it
      distance }
  else
    { w with it := w.it + 1, distance }

@[simp] theorem length_advance (length : Nat) (w : Cursor) :
    (w.advance length).string.length = w.string.length := by
  unfold advance
  dsimp only
  split
  · dsimp only
    split
    · exact List.length_set
    · rfl
  · rfl

@[simp] theorem it_advance (length : Nat) (w : Cursor) : (w.advance length).it = w.it + 1 := by
  unfold advance
  dsimp only
  split <;> rfl

@[simp] theorem distance_advance (length : Nat) (w : Cursor) :
    (w.advance length).distance = w.distance + 1 := by
  unfold advance
  dsimp only
  split <;> rfl

/-- The inner loop.  `it` never passes the end. -/
def scan (length : Nat) (w : Cursor) : Cursor :=
  if w.it < w.string.length ∧ w.distance ≤ length then (w.advance length).scan length else w
termination_by length + 1 - w.distance
decreasing_by
  rename_i h
  rw [distance_advance]
  omega

theorem scan_turn {length : Nat} {w : Cursor}
    (h : w.it < w.string.length ∧ w.distance ≤ length) :
    w.scan length = (w.advance length).scan length := by
  rw [scan, if_pos h]

theorem scan_done {length : Nat} {w : Cursor}
    (h : ¬ (w.it < w.string.length ∧ w.distance ≤ length)) : w.scan length = w := by
  rw [scan, if_neg h]

@[simp] theorem length_scan (length : Nat) (w : Cursor) :
    (w.scan length).string.length = w.string.length := by
  induction w using scan.induct length with
  | case1 w h ih => rw [scan_turn h, ih, length_advance]
  | case2 w h => rw [scan_done h]

theorem it_scan (length : Nat) (w : Cursor) :
    (w.scan length).it = w.it + min (length + 1 - w.distance) (w.string.length - w.it) := by
  induction w using scan.induct length with
  | case1 w h ih =>
    rw [scan_turn h, ih, it_advance, distance_advance, length_advance]
    omega
  | case2 w h =>
    rw [scan_done h]
    omega

/-- What the outer loop makes of the last space. -/
def breakLast (w : Cursor) : List UInt8 :=
  if w.lastSpace ≠ 0 then w.string.set w.lastSpace newline else w.string

@[simp] theorem length_breakLast (w : Cursor) : w.breakLast.length = w.string.length := by
  unfold breakLast
  split
  · exact List.length_set
  · rfl

end Cursor

/-- The outer loop.  Every turn starts with `lastSpace` at the beginning and no distance. -/
def wrap (length : Nat) (string : List UInt8) (it : Nat) : List UInt8 :=
  if it < string.length then
    let w := Cursor.scan length { string, it, lastSpace := 0, distance := 0 }
    wrap length w.breakLast w.it
  else
    string
termination_by string.length - it
decreasing_by
  rename_i h
  rw [Cursor.length_breakLast, Cursor.length_scan, Cursor.it_scan]
  dsimp only
  omega

def wordWrap (string : List UInt8) (length : Nat) : List UInt8 := wrap length string 0

/-! ## Runs -/

/-- A run of which `distance` bytes are behind it. -/
def wrapRun (length : Nat) : Nat → List UInt8 → List UInt8
  | _, [] => []
  | distance, c :: rest =>
    (if c = space ∧ (length = distance + 1 ∨ space ∉ rest) then newline else c) ::
      wrapRun length (distance + 1) rest

theorem wrapRun_of_no_space {length : Nat} {run : List UInt8} (h : space ∉ run) (distance : Nat) :
    wrapRun length distance run = run := by
  induction run generalizing distance with
  | nil => rfl
  | cons c rest ih =>
    rw [List.mem_cons, not_or] at h
    rw [wrapRun, if_neg fun hc => h.1 hc.1.symm, ih h.2]

@[simp] theorem length_wrapRun (length distance : Nat) (run : List UInt8) :
    (wrapRun length distance run).length = run.length := by
  induction run generalizing distance with
  | nil => rfl
  | cons c rest ih => rw [wrapRun, List.length_cons, ih, List.length_cons]

/-- The runs after the first one. -/
def wrapRuns (length : Nat) (string : List UInt8) : List UInt8 :=
  if string = [] then []
  else wrapRun length 0 (string.take (length + 1)) ++ wrapRuns length (string.drop (length + 1))
termination_by string.length
decreasing_by
  rename_i h
  have hpos := List.length_pos_iff.2 h
  rw [List.length_drop]
  omega

theorem wrapRuns_nil (length : Nat) : wrapRuns length [] = [] := by
  rw [wrapRuns, if_pos rfl]

theorem wrapRuns_ne_nil (length : Nat) {string : List UInt8} (h : string ≠ []) :
    wrapRuns length string =
      wrapRun length 0 (string.take (length + 1)) ++ wrapRuns length (string.drop (length + 1)) := by
  rw [wrapRuns, if_neg h]

/-- A space becomes the last one, and is broken at once as the `length`-th byte. -/
theorem advance_space (length : Nat) (front rest : List UInt8) (lastSpace distance : Nat) :
    Cursor.advance length ⟨front ++ space :: rest, front.length, lastSpace, distance⟩ =
      ⟨(front ++ [if length = distance + 1 then newline else space]) ++ rest, front.length + 1,
        front.length, distance + 1⟩ := by
  unfold Cursor.advance
  dsimp only
  rw [if_pos (by simp)]
  by_cases hlength : length = distance + 1
  · rw [if_pos hlength, if_pos hlength]
    simp
  · rw [if_neg hlength, if_neg hlength]
    simp

theorem advance_other {c : UInt8} (hc : c ≠ space) (length : Nat) (front rest : List UInt8)
    (lastSpace distance : Nat) :
    Cursor.advance length ⟨front ++ c :: rest, front.length, lastSpace, distance⟩ =
      ⟨(front ++ [c]) ++ rest, front.length + 1, lastSpace, distance + 1⟩ := by
  unfold Cursor.advance
  dsimp only
  rw [if_neg (by simpa using hc)]
  simp

/-- **The inner loop and the last space.**  `rest` is what the loop has not seen, and `front`
has at least the first byte of the text. -/
theorem breakLast_scan (length : Nat) {front : List UInt8} (hfront : front ≠ [])
    (rest : List UInt8) (lastSpace distance : Nat) :
    (Cursor.scan length ⟨front ++ rest, front.length, lastSpace, distance⟩).breakLast =
      if space ∈ rest.take (length + 1 - distance) then
        front ++ (wrapRun length distance (rest.take (length + 1 - distance)) ++
          rest.drop (length + 1 - distance))
      else Cursor.breakLast ⟨front ++ rest, front.length, lastSpace, distance⟩ := by
  induction rest generalizing front lastSpace distance with
  | nil =>
    rw [Cursor.scan_done, List.take_nil, if_neg List.not_mem_nil]
    simp
  | cons c rest ih =>
    by_cases hdistance : distance ≤ length
    · obtain ⟨m, hm, hm'⟩ : ∃ m, length + 1 - distance = m + 1 ∧ length + 1 - (distance + 1) = m :=
        ⟨length - distance, by omega, by omega⟩
      rw [Cursor.scan_turn ⟨by simp, hdistance⟩, hm, List.take_succ_cons, List.drop_succ_cons]
      by_cases hc : c = space
      · subst hc
        have hturn := @ih (front ++ [if length = distance + 1 then newline else space])
          (by simp) front.length (distance + 1)
        rw [List.length_append, List.length_singleton, hm'] at hturn
        rw [advance_space, hturn, if_pos List.mem_cons_self, wrapRun]
        by_cases hrest : space ∈ rest.take m
        · rw [if_pos hrest]
          simp [hrest]
        · -- the last space of the run
          have hlast : front.length ≠ 0 := mt List.length_eq_zero_iff.1 hfront
          rw [if_neg hrest, wrapRun_of_no_space hrest, Cursor.breakLast, if_pos hlast]
          simp [hrest]
      · have hturn := @ih (front ++ [c]) (by simp) lastSpace (distance + 1)
        rw [List.length_append, List.length_singleton, hm'] at hturn
        rw [advance_other hc, hturn, wrapRun]
        by_cases hrest : space ∈ rest.take m
        · rw [if_pos hrest, if_pos (List.mem_cons_of_mem c hrest), if_neg fun h => hc h.1]
          simp
        · rw [if_neg hrest, if_neg (mt List.mem_cons.1 (not_or.2 ⟨Ne.symm hc, hrest⟩))]
          simp [Cursor.breakLast]
    · have hm : length + 1 - distance = 0 := by omega
      rw [Cursor.scan_done fun h => hdistance h.2, hm, List.take_zero, if_neg List.not_mem_nil]

/-- The outer loop behind the first byte of the text. -/
theorem wrap_append {length : Nat} (rest : List UInt8) {front : List UInt8} (hfront : front ≠ []) :
    wrap length (front ++ rest) front.length = front ++ wrapRuns length rest := by
  induction rest using wrapRuns.induct length generalizing front with
  | case1 =>
    rw [wrap, if_neg (by simp), wrapRuns_nil]
  | case2 rest hrest ih =>
    have hbreak := breakLast_scan length hfront rest 0 0
    have hrun : (Cursor.scan length ⟨front ++ rest, front.length, 0, 0⟩).breakLast =
        (front ++ wrapRun length 0 (rest.take (length + 1))) ++ rest.drop (length + 1) := by
      rw [hbreak, Nat.sub_zero, List.append_assoc]
      split
      · rfl
      · next hspace =>
        rw [wrapRun_of_no_space hspace, List.take_append_drop]
        rfl
    have hit : (Cursor.scan length ⟨front ++ rest, front.length, 0, 0⟩).it =
        (front ++ wrapRun length 0 (rest.take (length + 1))).length := by
      rw [Cursor.it_scan]
      simp
    rw [wrap, if_pos (by simpa using List.length_pos_iff.2 hrest)]
    dsimp only
    rw [hrun, hit, ih (List.append_ne_nil_of_left_ne_nil hfront _), wrapRuns_ne_nil length hrest,
      List.append_assoc]

/-- The first byte of the text, which no turn takes for the last space. -/
def wrapFirst (length : Nat) (c : UInt8) : UInt8 := if c = space ∧ length = 1 then newline else c

/-- **The loops, run by run.** -/
theorem wordWrap_cons (c : UInt8) (rest : List UInt8) (length : Nat) :
    wordWrap (c :: rest) length =
      wrapFirst length c ::
        (wrapRun length 1 (rest.take length) ++ wrapRuns length (rest.drop length)) := by
  have hadvance : Cursor.advance length ⟨c :: rest, 0, 0, 0⟩ =
      ⟨[wrapFirst length c] ++ rest, [wrapFirst length c].length, 0, 1⟩ := by
    unfold wrapFirst
    by_cases hc : c = space
    · subst hc
      refine (advance_space length [] rest 0 0).trans ?_
      simp
    · refine (advance_other hc length [] rest 0 0).trans ?_
      simp [hc]
  have hscan : Cursor.scan length ⟨c :: rest, 0, 0, 0⟩ =
      Cursor.scan length ⟨[wrapFirst length c] ++ rest, [wrapFirst length c].length, 0, 1⟩ := by
    rw [Cursor.scan_turn ⟨by simp, Nat.zero_le length⟩, hadvance]
  have hbreak : (Cursor.scan length ⟨c :: rest, 0, 0, 0⟩).breakLast =
      (wrapFirst length c :: wrapRun length 1 (rest.take length)) ++ rest.drop length := by
    rw [hscan, breakLast_scan length (List.cons_ne_nil _ _), Nat.add_sub_cancel]
    split
    · rfl
    · next hspace =>
      rw [wrapRun_of_no_space hspace]
      show wrapFirst length c :: rest =
        wrapFirst length c :: (rest.take length ++ rest.drop length)
      rw [List.take_append_drop]
  have hit : (Cursor.scan length ⟨c :: rest, 0, 0, 0⟩).it =
      (wrapFirst length c :: wrapRun length 1 (rest.take length)).length := by
    rw [hscan, Cursor.it_scan]
    simp
    omega
  rw [wordWrap, wrap, if_pos (by simp)]
  dsimp only
  rw [hbreak, hit, wrap_append _ (List.cons_ne_nil _ _), List.cons_append]

theorem wordWrap_nil (length : Nat) : wordWrap [] length = [] := by
  rw [wordWrap, wrap, if_neg (by simp)]

/-! ## Lines -/

def isSpace (c : UInt8) : Bool := c == space

def isNewline (c : UInt8) : Bool := c == newline

/-- A byte that may be a line break in the result. -/
def isBreak (c : UInt8) : Bool := isSpace c || isNewline c

theorem isNewline_newline : isNewline newline = true := rfl

theorem isNewline_of_ne {c : UInt8} (h : c ≠ newline) : isNewline c = false :=
  beq_eq_false_iff_ne.2 h

theorem isBreak_of_isSpace {c : UInt8} (h : isSpace c = true) : isBreak c = true := by
  unfold isBreak
  rw [h, Bool.true_or]

theorem isBreak_of_isNewline {c : UInt8} (h : isNewline c = true) : isBreak c = true := by
  unfold isBreak
  rw [h, Bool.or_true]

theorem isBreak_of_ne_space {c : UInt8} (h : c ≠ space) : isBreak c = isNewline c := by
  unfold isBreak isSpace
  rw [beq_eq_false_iff_ne.2 h, Bool.false_or]

theorem isBreak_space : isBreak space = true := rfl

/-- The bytes of a run in front of its first line break: a newline, the `length`-th byte if
that is a space, or the last space. -/
def ahead (length : Nat) : Nat → List UInt8 → Nat
  | _, [] => 0
  | distance, c :: rest =>
    if c = newline ∨ (c = space ∧ (length = distance + 1 ∨ space ∉ rest)) then 0
    else ahead length (distance + 1) rest + 1

theorem ahead_wrapRun (length distance : Nat) (run : List UInt8) :
    Lines.ahead isNewline (wrapRun length distance run) = ahead length distance run := by
  induction run generalizing distance with
  | nil => rfl
  | cons c rest ih =>
    rw [wrapRun, ahead]
    by_cases hbreak : c = space ∧ (length = distance + 1 ∨ space ∉ rest)
    · rw [if_pos hbreak, if_pos (Or.inr hbreak), Lines.ahead_cons_of_cut isNewline_newline]
    · rw [if_neg hbreak]
      by_cases hc : c = newline
      · rw [if_pos (Or.inl hc), hc, Lines.ahead_cons_of_cut isNewline_newline]
      · rw [if_neg (not_or.2 ⟨hc, hbreak⟩), Lines.ahead_cons (isNewline_of_ne hc), ih]

/-- A run with a space or a newline has a newline afterwards. -/
theorem exists_newline_wrapRun (length distance : Nat) {run : List UInt8}
    (h : ∃ c ∈ run, isBreak c = true) :
    ∃ c ∈ wrapRun length distance run, isNewline c = true := by
  induction run generalizing distance with
  | nil => simp at h
  | cons c rest ih =>
    rw [wrapRun]
    by_cases hrest : ∃ d ∈ rest, isBreak d = true
    · obtain ⟨d, hd, hnewline⟩ := ih (distance + 1) hrest
      exact ⟨d, List.mem_cons_of_mem _ hd, hnewline⟩
    · have hspace : space ∉ rest := fun hmem => hrest ⟨space, hmem, isBreak_space⟩
      have hc : isBreak c = true := by
        obtain ⟨d, hd, hbreak⟩ := h
        rcases List.mem_cons.1 hd with rfl | hd
        · exact hbreak
        · exact absurd ⟨d, hd, hbreak⟩ hrest
      refine ⟨_, List.mem_cons_self, ?_⟩
      split
      · rfl
      · next hkept =>
        have hne : c ≠ space := fun heq => hkept ⟨heq, Or.inr hspace⟩
        rwa [← isBreak_of_ne_space hne]

/-- The last line of a run is behind its last space or newline. -/
theorem behind_wrapRun (length distance : Nat) (run : List UInt8) :
    Lines.behind isNewline (wrapRun length distance run) = Lines.behind isBreak run := by
  induction run generalizing distance with
  | nil => rfl
  | cons c rest ih =>
    rw [wrapRun]
    by_cases hrest : ∃ d ∈ rest, isBreak d = true
    · rw [Lines.behind_cons_of_cut (exists_newline_wrapRun length (distance + 1) hrest), ih,
        Lines.behind_cons_of_cut hrest]
    · have hspace : space ∉ rest := fun hmem => hrest ⟨space, hmem, isBreak_space⟩
      by_cases hc : c = space
      · rw [if_pos ⟨hc, Or.inr hspace⟩, Lines.behind_cut_cons isNewline_newline, ih, hc,
          Lines.behind_cut_cons isBreak_space]
      · rw [if_neg fun h => hc h.1]
        cases hbreak : isBreak c with
        | true =>
          rw [Lines.behind_cut_cons ((isBreak_of_ne_space hc).symm.trans hbreak), ih,
            Lines.behind_cut_cons hbreak]
        | false =>
          -- one line
          simp only [not_exists, not_and, Bool.not_eq_true] at hrest
          have hkept : ∀ d ∈ rest, isNewline d = false := by
            intro d hd
            rw [← isBreak_of_ne_space fun heq => hspace (heq ▸ hd)]
            exact hrest d hd
          have hc' := (isBreak_of_ne_space hc).symm.trans hbreak
          rw [wrapRun_of_no_space hspace,
            Lines.behind_of_no_cut (List.forall_mem_cons.2 ⟨hc', hkept⟩),
            Lines.behind_of_no_cut (List.forall_mem_cons.2 ⟨hbreak, hrest⟩)]

/-! ## The bound -/

/-- The `i`-th run of `length + 1` bytes. -/
def run (length : Nat) (string : List UInt8) (i : Nat) : List UInt8 :=
  (string.drop (i * (length + 1))).take (length + 1)

theorem run_succ (length : Nat) (string : List UInt8) (i : Nat) :
    run length string (i + 1) = run length (string.drop (length + 1)) i := by
  unfold run
  rw [List.drop_drop, Nat.succ_mul, Nat.add_comm (length + 1)]

theorem run_zero (length : Nat) (string : List UInt8) :
    run length string 0 = string.take (length + 1) := by
  rw [run, Nat.zero_mul, List.drop_zero]

theorem run_nil (length i : Nat) : run length [] i = [] := by
  rw [run, List.drop_nil, List.take_nil]

/-- What a run leaves behind its last space or newline fits in a line with what the next
run has in front of its first line break. -/
def Joined (length : Nat) (string : List UInt8) : Prop :=
  ∀ i, Lines.behind isBreak (run length string i) + ahead length 0 (run length string (i + 1)) ≤
    length

theorem joined_iff (length : Nat) (string : List UInt8) :
    Joined length string ↔
      Lines.behind isBreak (string.take (length + 1)) +
          ahead length 0 (run length (string.drop (length + 1)) 0) ≤ length ∧
        Joined length (string.drop (length + 1)) := by
  unfold Joined
  rw [← Nat.and_forall_add_one, run_zero, run_succ]
  simp only [run_succ length string]

section
variable {length : Nat} {string : List UInt8} (hwords : Lines.Bounded isSpace length string)
include hwords

/-- A run that is full has a space. -/
theorem exists_break_take (hlength : length < string.length) :
    ∃ c ∈ string.take (length + 1), isBreak c = true := by
  have htake : length < (string.take (length + 1)).length := by
    rw [List.length_take]
    omega
  obtain ⟨c, hc, hspace⟩ := (hwords.take (length + 1)).exists_cut htake
  exact ⟨c, hc, isBreak_of_isSpace hspace⟩

theorem ahead_wrapRuns :
    Lines.ahead isNewline (wrapRuns length string) = ahead length 0 (run length string 0) := by
  rw [run_zero]
  by_cases hnil : string = []
  · rw [hnil, wrapRuns_nil]
    rfl
  · rw [wrapRuns_ne_nil length hnil, ← ahead_wrapRun]
    by_cases hlength : length < string.length
    · have hnewline := exists_newline_wrapRun length 0 (exists_break_take hwords hlength)
      exact Lines.ahead_append_of_cut hnewline
    · rw [List.drop_eq_nil_of_le (by omega), wrapRuns_nil, List.append_nil]

theorem bounded_wrapRun_take :
    Lines.Bounded isNewline length (wrapRun length 0 (string.take (length + 1))) := by
  by_cases hlength : length < string.length
  · refine Lines.bounded_of_cut ?_ (exists_newline_wrapRun length 0 (exists_break_take hwords hlength))
    rw [length_wrapRun, List.length_take]
    omega
  · refine Lines.bounded_of_length_le ?_
    rw [length_wrapRun, List.length_take]
    omega

/-- **The runs after the first one.** -/
theorem bounded_wrapRuns_iff :
    Lines.Bounded isNewline length (wrapRuns length string) ↔ Joined length string := by
  induction string using wrapRuns.induct length with
  | case1 =>
    rw [wrapRuns_nil]
    refine iff_of_true Lines.bounded_nil fun i => ?_
    rw [run_nil, run_nil]
    exact Nat.zero_le length
  | case2 string hnil ih =>
    have hrest := hwords.drop (length + 1)
    rw [wrapRuns_ne_nil length hnil, Lines.bounded_append, behind_wrapRun, ih hrest,
      ahead_wrapRuns hrest, joined_iff length string]
    exact ⟨fun h => ⟨h.2.2, h.2.1⟩, fun h => ⟨bounded_wrapRun_take hwords, h.2, h.1⟩⟩

end

/-! ## The first run -/

theorem isNewline_wrapFirst {length : Nat} {c : UInt8} (hc : c = space) (hlength : length = 1) :
    isNewline (wrapFirst length c) = true := by
  rw [wrapFirst, if_pos ⟨hc, hlength⟩]
  rfl

section
variable {length : Nat} {c : UInt8} {run : List UInt8}
  (hspace : ∃ d ∈ c :: run, isSpace d = true)
include hspace

theorem eq_space_of_no_break (hrun : ∀ d ∈ run, isBreak d = false) : c = space := by
  obtain ⟨d, hd, hcut⟩ := hspace
  rcases List.mem_cons.1 hd with rfl | hd
  · exact beq_iff_eq.1 hcut
  · exact absurd (isBreak_of_isSpace hcut) (Bool.eq_false_iff.1 (hrun d hd))

theorem behind_first (h : length = 1 ∨ ∃ d ∈ run, isBreak d = true) :
    Lines.behind isNewline (wrapFirst length c :: wrapRun length 1 run) =
      Lines.behind isBreak (c :: run) := by
  by_cases hrun : ∃ d ∈ run, isBreak d = true
  · rw [Lines.behind_cons_of_cut (exists_newline_wrapRun length 1 hrun), behind_wrapRun,
      Lines.behind_cons_of_cut hrun]
  · have hlength : length = 1 := h.resolve_right hrun
    simp only [not_exists, not_and, Bool.not_eq_true] at hrun
    have hc := eq_space_of_no_break hspace hrun
    rw [Lines.behind_cut_cons (isNewline_wrapFirst hc hlength), behind_wrapRun, hc,
      Lines.behind_cut_cons isBreak_space]

/-- A full run is more than a line, and its first byte is no break unless the length is one. -/
theorem bounded_first_iff (hfull : run.length = length) :
    Lines.Bounded isNewline length (wrapFirst length c :: wrapRun length 1 run) ↔
      length = 1 ∨ ∃ d ∈ run, isBreak d = true := by
  have hlength : (wrapFirst length c :: wrapRun length 1 run).length = length + 1 := by
    rw [List.length_cons, length_wrapRun, hfull]
  by_cases hrun : ∃ d ∈ run, isBreak d = true
  · refine iff_of_true ?_ (Or.inr hrun)
    exact Lines.bounded_of_cut (Nat.le_of_eq hlength)
      (List.exists_mem_cons_of_exists (exists_newline_wrapRun length 1 hrun))
  · have hnone : ∀ d ∈ run, isBreak d = false := by
      simpa only [not_exists, not_and, Bool.not_eq_true] using hrun
    have hc := eq_space_of_no_break hspace hnone
    have hkept : wrapRun length 1 run = run :=
      wrapRun_of_no_space (fun hmem => absurd (hnone space hmem) (by decide)) 1
    constructor
    · intro hbounded
      obtain ⟨d, hd, hcut⟩ := hbounded.exists_cut (Nat.lt_of_lt_of_eq (Nat.lt_succ_self _) hlength.symm)
      rw [hkept] at hd
      rcases List.mem_cons.1 hd with rfl | hd
      · -- the first byte was broken
        rw [wrapFirst] at hcut
        split at hcut
        · next hone => exact Or.inl hone.2
        · rw [hc] at hcut
          exact absurd hcut (by decide)
      · exact absurd (isBreak_of_isNewline hcut) (Bool.eq_false_iff.1 (hnone d hd))
    · intro h
      have hcut := isNewline_wrapFirst hc (h.resolve_right hrun)
      exact Lines.bounded_of_cut (Nat.le_of_eq hlength) ⟨_, List.mem_cons_self, hcut⟩

end

/-- The first run fits in a line or has a line break that is not lost. -/
def FirstBreaks (length : Nat) (string : List UInt8) : Prop :=
  string.length ≤ length ∨ length = 1 ∨
    ∃ c ∈ (string.take (length + 1)).tail, isBreak c = true

/-- **Bounded lines.**  With bounded words the lines are bounded exactly when the first run has
a break and the runs are joined by short lines. -/
theorem bounded_wordWrap_iff {length : Nat} {string : List UInt8}
    (hwords : Lines.Bounded isSpace length string) :
    Lines.Bounded isNewline length (wordWrap string length) ↔
      FirstBreaks length string ∧ Joined length string := by
  cases string with
  | nil =>
    rw [wordWrap_nil]
    refine iff_of_true Lines.bounded_nil ⟨Or.inl (Nat.zero_le length), fun i => ?_⟩
    rw [run_nil, run_nil]
    exact Nat.zero_le length
  | cons c rest =>
    have hrest : Lines.Bounded isSpace length (rest.drop length) := hwords.drop (length + 1)
    rw [wordWrap_cons, ← List.cons_append, Lines.bounded_append, bounded_wrapRuns_iff hrest,
      ahead_wrapRuns hrest, joined_iff length (c :: rest), FirstBreaks, List.take_succ_cons,
      List.drop_succ_cons, List.tail_cons, List.length_cons]
    by_cases hshort : rest.length < length
    · -- the whole text is the first run
      have hnext : ahead length 0 (run length (rest.drop length) 0) = 0 := by
        rw [List.drop_eq_nil_of_le (Nat.le_of_lt hshort), run_nil]
        rfl
      have htake : (rest.take length).length + 1 ≤ length := by
        rw [List.length_take]
        omega
      have hline : Lines.Bounded isNewline length
          (wrapFirst length c :: wrapRun length 1 (rest.take length)) :=
        Lines.bounded_of_length_le (by rwa [List.length_cons, length_wrapRun])
      have hbehind : Lines.behind isBreak (c :: rest.take length) ≤ length :=
        Nat.le_trans Lines.behind_le_length htake
      rw [hnext, Nat.add_zero, Nat.add_zero]
      exact ⟨fun h => ⟨Or.inl hshort, hbehind, h.2.1⟩, fun h => ⟨hline, h.2.2, hline.behind_le⟩⟩
    · have hfull : (rest.take length).length = length := by
        rw [List.length_take]
        omega
      have hspace := (hwords.take (length + 1)).exists_cut
        (by rw [List.take_succ_cons, List.length_cons, hfull]; exact Nat.lt_succ_self length)
      rw [bounded_first_iff hspace hfull]
      constructor
      · rintro ⟨hfirst, hjoined, hline⟩
        rw [behind_first hspace hfirst] at hline
        exact ⟨Or.inr hfirst, hline, hjoined⟩
      · rintro ⟨hfirst, hline, hjoined⟩
        have hfirst := hfirst.resolve_left hshort
        rw [← behind_first hspace hfirst] at hline
        exact ⟨hfirst, hjoined, hline⟩

/-! ## The bytes that differ -/

/-- A byte of the result for one of the text. -/
def Replaced (c d : UInt8) : Prop := d = c ∨ (c = space ∧ d = newline)

theorem forall₂_wrapRun (length distance : Nat) (run : List UInt8) :
    List.Forall₂ Replaced run (wrapRun length distance run) := by
  induction run generalizing distance with
  | nil => exact List.Forall₂.nil
  | cons c rest ih =>
    refine List.Forall₂.cons ?_ (ih (distance + 1))
    split
    · next h => exact Or.inr ⟨h.1, rfl⟩
    · exact Or.inl rfl

theorem forall₂_wrapRuns (length : Nat) (string : List UInt8) :
    List.Forall₂ Replaced string (wrapRuns length string) := by
  induction string using wrapRuns.induct length with
  | case1 =>
    rw [wrapRuns_nil]
    exact List.Forall₂.nil
  | case2 string hnil ih =>
    rw [wrapRuns_ne_nil length hnil]
    nth_rewrite 1 [← List.take_append_drop (length + 1) string]
    exact List.rel_append (forall₂_wrapRun length 0 _) ih

theorem forall₂_wordWrap (string : List UInt8) (length : Nat) :
    List.Forall₂ Replaced string (wordWrap string length) := by
  cases string with
  | nil =>
    rw [wordWrap_nil]
    exact List.Forall₂.nil
  | cons c rest =>
    rw [wordWrap_cons]
    refine List.Forall₂.cons ?_ ?_
    · unfold wrapFirst
      split
      · next h => exact Or.inr ⟨h.1, rfl⟩
      · exact Or.inl rfl
    · nth_rewrite 1 [← List.take_append_drop length rest]
      exact List.rel_append (forall₂_wrapRun length 1 _) (forall₂_wrapRuns length _)

/-! ## Texts that are left alone -/

theorem wrapRun_eq_self_iff {length distance : Nat} {run : List UInt8} :
    wrapRun length distance run = run ↔ space ∉ run := by
  refine ⟨?_, fun h => wrapRun_of_no_space h distance⟩
  induction run generalizing distance with
  | nil => exact fun _ => List.not_mem_nil
  | cons c rest ih =>
    intro h
    obtain ⟨hc, hrest⟩ := List.cons.inj h
    have hspace := ih hrest
    rw [List.mem_cons, not_or]
    refine ⟨fun heq => ?_, hspace⟩
    rw [if_pos ⟨heq.symm, Or.inr hspace⟩, ← heq] at hc
    exact absurd hc (by decide)

theorem wrapFirst_eq_self_iff {length : Nat} {c : UInt8} :
    wrapFirst length c = c ↔ ¬ (c = space ∧ length = 1) := by
  unfold wrapFirst
  split
  · next h =>
    rw [h.1]
    exact iff_of_false (by decide) (not_not.2 ⟨rfl, h.2⟩)
  · next h => exact iff_of_true rfl h

/-- Nothing is broken: no space behind the first byte, nor one at the end of the line. -/
def NothingToBreak (string : List UInt8) (length : Nat) : Prop :=
  space ∉ string.tail ∧ ¬ (string = [space] ∧ length = 1)

theorem wordWrap_eq_self_iff {string : List UInt8} {length : Nat} (hfits : string.length ≤ length) :
    wordWrap string length = string ↔ NothingToBreak string length := by
  unfold NothingToBreak
  cases string with
  | nil => exact iff_of_true (wordWrap_nil length) ⟨List.not_mem_nil, fun h => absurd h.1 (by simp)⟩
  | cons c rest =>
    rw [List.length_cons] at hfits
    rw [wordWrap_cons, List.take_of_length_le (by omega), List.drop_eq_nil_of_le (by omega),
      wrapRuns_nil, List.append_nil, List.cons_eq_cons, wrapFirst_eq_self_iff, wrapRun_eq_self_iff,
      List.tail_cons, List.cons_eq_cons, and_comm]
    refine and_congr_right fun _ => not_congr ⟨fun h => ⟨⟨h.1, ?_⟩, h.2⟩, fun h => ⟨h.1.1, h.2⟩⟩
    refine List.eq_nil_of_length_eq_zero ?_
    omega

/-! ## Word wrap -/

/-- **What word wrap is for.** -/
structure WordWrapOk (string : List UInt8) (length : Nat) (result : List UInt8) : Prop where
  /-- Same size, and only spaces became newlines. -/
  replaced : List.Forall₂ Replaced string result
  lines : Lines.Bounded isSpace length string → Lines.Bounded isNewline length result
  unchanged : string.length ≤ length → newline ∉ string → result = string

/-- **Word wrap.** -/
theorem wordWrap_ok_iff (string : List UInt8) (length : Nat) :
    WordWrapOk string length (wordWrap string length) ↔
      (Lines.Bounded isSpace length string → FirstBreaks length string ∧ Joined length string) ∧
        (string.length ≤ length → newline ∉ string → NothingToBreak string length) := by
  constructor
  · intro hok
    refine ⟨fun hwords => (bounded_wordWrap_iff hwords).1 (hok.lines hwords), fun hfits hline => ?_⟩
    exact (wordWrap_eq_self_iff hfits).1 (hok.unchanged hfits hline)
  · rintro ⟨hlines, hunchanged⟩
    exact {
      replaced := forall₂_wordWrap string length
      lines := fun hwords => (bounded_wordWrap_iff hwords).2 (hlines hwords)
      unchanged := fun hfits hline => (wordWrap_eq_self_iff hfits).2 (hunchanged hfits hline) }

/-- `a b` fits in a line but is broken, and `a bbb ccc d` with four bytes to a line has a line
of seven. -/
theorem wordWrap_breaks_short :
    ¬ WordWrapOk [97, 32, 98] 78 (wordWrap [97, 32, 98] 78) ∧
      ¬ WordWrapOk [97, 32, 98, 98, 98, 32, 99, 99, 99, 32, 100] 4
        (wordWrap [97, 32, 98, 98, 98, 32, 99, 99, 99, 32, 100] 4) := by
  refine ⟨fun hok => ?_, fun hok => ?_⟩
  · exact absurd (hok.unchanged (by decide) (by decide)) (by decide +kernel)
  · exact absurd (hok.lines (by decide)) (by decide +kernel)

end GreenIsland.Server.DiagnosticOutput

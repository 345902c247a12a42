import GreenIsland.Kms.Configuration
import GreenIsland.Lib.Undominated

/-! The scan of a connector's modes (`screenForConnector`).

The loop goes from the last mode to the first.  The indices of a preferred mode and of
the CRTC's mode are overwritten at each one, so the smallest remains.  The index of the
best mode changes only for a mode that is larger in both dimensions; that is no total
order, but it is transitive, so no mode is larger in both than the one that remains
(`scan_ok`). -/

namespace GreenIsland.Kms

/-! ## The scan -/

/-- The candidates after the loop over the modes. -/
def scan (configuration : OutputConfiguration) (crtcMode : ModeInfo) (modes : List ModeInfo) :
    Candidates :=
  (List.range modes.length).reverse.foldl
    (Candidates.consider configuration crtcMode modes) ⟨-1, -1, -1, -1⟩

/-- The mode is smaller in both dimensions. -/
def ModeInfo.Smaller (m m' : ModeInfo) : Prop := m.hdisplay < m'.hdisplay ∧ m.vdisplay < m'.vdisplay

instance : DecidableRel ModeInfo.Smaller := fun _ _ => inferInstanceAs (Decidable (_ ∧ _))

instance : IsTrans ModeInfo ModeInfo.Smaller :=
  ⟨fun _ _ _ h h' => ⟨UInt16.lt_trans h.1 h'.1, UInt16.lt_trans h.2 h'.2⟩⟩

instance : Std.Irrefl ModeInfo.Smaller := ⟨fun _ h => UInt16.lt_irrefl _ h.1⟩

/-- The smallest index of a mode with a property. -/
def SmallestIndex (modes : List ModeInfo) (p : ModeInfo → Prop) (i : Int) : Prop :=
  (∃ m, qAt modes i = some m ∧ p m) ∧ ∀ j < i, ∀ m, qAt modes j = some m → ¬ p m

/-- **The candidates.**  The best index is one of a mode, and no mode is larger in both
dimensions; the others are the smallest ones of their kind, if they are indices. -/
structure ScanOk (crtcMode : ModeInfo) (modes : List ModeInfo) (c : Candidates) : Prop where
  best : ∃ m, qAt modes c.best = some m ∧ ∀ m' ∈ modes, ¬ m.Smaller m'
  preferred : 0 ≤ c.preferred →
    SmallestIndex modes (fun m => m.type &&& modeTypePreferred ≠ 0) c.preferred
  current : 0 ≤ c.current → SmallestIndex modes (fun m => crtcMode = m) c.current

/-! ## The largest mode -/

theorem largest_cons (m : ModeInfo) (modes : List ModeInfo) :
    largest (m :: modes) = Undominated.keep ModeInfo.Smaller (largest modes) m := by
  unfold Undominated.keep
  rw [largest]
  cases largest modes with
  | none => rfl
  | some best =>
    dsimp only
    by_cases hsmaller : best.Smaller m
    · rw [if_pos hsmaller, if_pos (by simp [hsmaller.1, hsmaller.2])]
    · rw [if_neg hsmaller, if_neg]
      intro hlt
      rw [Bool.and_eq_true, decide_eq_true_iff, decide_eq_true_iff] at hlt
      exact hsmaller hlt

/-- The search ends at a mode than which none is larger in both dimensions. -/
theorem best_largest (modes : List ModeInfo) :
    Undominated.Best ModeInfo.Smaller modes (largest modes) := by
  induction modes with
  | nil => exact Undominated.best_nil ModeInfo.Smaller
  | cons m modes ih =>
    rw [largest_cons]
    exact ih.keep m

/-! ## Smallest indices -/

section
variable {configuration : OutputConfiguration} {crtcMode : ModeInfo} {modes : List ModeInfo}

/-- An index that was found, -1 for none. -/
def indexOf (found : Option Nat) : Int := (found.map Int.ofNat).getD (-1)

/-- A candidate that every mode with a property replaces ends as the smallest index. -/
theorem scan_index {index : Candidates → Int} {p : ModeInfo → Bool}
    (hnone : index ⟨-1, -1, -1, -1⟩ = -1)
    (hturn : ∀ (c : Candidates) (k : Nat) (hk : k < modes.length),
      index (c.consider configuration crtcMode modes k) = if p modes[k] then (k : Int) else index c) :
    index (scan configuration crtcMode modes) = indexOf (modes.findIdx? p) := by
  -- the modes behind `k` count from `k + 1`
  have hloop : index (scan configuration crtcMode modes) =
      indexOf ((modes.findIdx? p).map fun j => modes.length - modes.length + j) := by
    refine foldl_drop (P := fun c rest => index c =
      indexOf ((rest.findIdx? p).map fun j => modes.length - rest.length + j)) hnone ?_
    intro c k hk hrest
    have hlength : modes.length - (modes.drop k).length = k := by
      rw [List.length_drop]
      omega
    have hlength' : modes.length - (modes.drop (k + 1)).length = k + 1 := by
      rw [List.length_drop]
      omega
    rw [hlength'] at hrest
    rw [hlength, List.drop_eq_getElem_cons hk, List.findIdx?_cons, hturn c k hk]
    cases hp : p modes[k] with
    | true =>
      rw [if_pos rfl, if_pos rfl]
      rfl
    | false =>
      rw [if_neg Bool.false_ne_true, if_neg Bool.false_ne_true, hrest, Option.map_map]
      refine congrArg (fun f => indexOf (Option.map f _)) (funext fun j => ?_)
      show k + 1 + j = k + (j + 1)
      omega
  rw [hloop]
  simp

theorem smallestIndex_of_findIdx? {p : ModeInfo → Bool} {i : Int}
    (hi : i = indexOf (modes.findIdx? p)) (hnonneg : 0 ≤ i) :
    SmallestIndex modes (fun m => p m = true) i := by
  cases hfound : modes.findIdx? p with
  | none =>
    rw [hi, hfound] at hnonneg
    exact absurd hnonneg (by decide)
  | some k =>
    rw [hfound] at hi
    subst hi
    obtain ⟨hk, hp, hbefore⟩ := List.findIdx?_eq_some_iff_getElem.1 hfound
    refine ⟨⟨modes[k], qAt_of_lt hnonneg hk, hp⟩, fun j hj m hm hpm => ?_⟩
    have hindex := qAt_ne_none_iff.1 (hm.symm ▸ Option.some_ne_none m)
    have hjk : j.toNat < k := by
      have hlt : j < (k : Int) := hj
      omega
    rw [qAt_of_lt hindex.1 (Nat.lt_trans hjk hk)] at hm
    obtain rfl := Option.some.inj hm
    exact hbefore j.toNat hjk hpm

theorem preferred_scan : (scan configuration crtcMode modes).preferred =
    indexOf (modes.findIdx? fun m => m.type &&& modeTypePreferred != 0) := by
  refine scan_index rfl fun c k hk => ?_
  unfold Candidates.consider
  rw [getD_eq_getElem hk]

theorem current_scan : (scan configuration crtcMode modes).current =
    indexOf (modes.findIdx? fun m => decide (crtcMode = m)) := by
  refine scan_index rfl fun c k hk => ?_
  unfold Candidates.consider
  rw [getD_eq_getElem hk]
  simp only [decide_eq_true_eq]

end

/-! ## What the scan ends with -/

/-- **The scan.** -/
theorem scan_ok (configuration : OutputConfiguration) (crtcMode : ModeInfo) (modes : List ModeInfo)
    (hmodes : modes ≠ []) : ScanOk crtcMode modes (scan configuration crtcMode modes) where
  best := by
    have hlargest := best_largest modes
    obtain ⟨m, hm⟩ := Option.ne_none_iff_exists'.1 (mt hlargest.some_iff.1 hmodes)
    obtain ⟨-, hpicks⟩ := foldl_picks configuration crtcMode modes
    rw [hm] at hpicks
    exact ⟨m, (qAt_of_nonneg hpicks.1).trans hpicks.2, hlargest.top m hm⟩
  preferred := by
    intro hnonneg
    obtain ⟨hfound, hbefore⟩ := smallestIndex_of_findIdx? preferred_scan hnonneg
    simp only [bne_iff_ne] at hfound hbefore
    exact ⟨hfound, hbefore⟩
  current := by
    intro hnonneg
    obtain ⟨hfound, hbefore⟩ := smallestIndex_of_findIdx? current_scan hnonneg
    simp only [decide_eq_true_eq] at hfound hbefore
    exact ⟨hfound, hbefore⟩

/-- What is appended to the modes afterwards leaves the best and the preferred index. -/
theorem candidates_scan (configuration : OutputConfiguration) (text : String) (crtcMode : ModeInfo)
    (listed : List ModeInfo) :
    (candidates configuration text crtcMode listed).2.best =
        (scan configuration crtcMode listed).best ∧
      (candidates configuration text crtcMode listed).2.preferred =
        (scan configuration crtcMode listed).preferred := by
  -- a modeline or not, the CRTC's mode appended or not, `current` or not
  unfold candidates scan
  dsimp only
  split <;> split <;> split <;> exact ⟨rfl, rfl⟩

/-- Of two modes of which neither is larger in both dimensions the last one is best. -/
theorem scan_ok_incomparable :
    ScanOk Device.svga [{ Device.svga with hdisplay := 1024 }, Device.svga]
      (scan .preferred Device.svga [{ Device.svga with hdisplay := 1024 }, Device.svga]) :=
  scan_ok .preferred Device.svga _ (by simp)

example : scan .preferred Device.svga [{ Device.svga with hdisplay := 1024 }, Device.svga] =
    ⟨-1, 1, -1, 1⟩ := by
  rfl

end GreenIsland.Kms

import GreenIsland.Qt.Pixels
import GreenIsland.Server.WindowOutputs

/-! Which outputs a window is on (`ClientWindowPrivate::findOutputs`).

One loop over the outputs collects those that contain the window and remembers the one
that shows most of it so far; the output that was designed before is the candidate that
the loop starts with.  `findOutputs` is that loop with the two comparisons behind it,
which decide what is emitted, and `placed_findOutputs` says that it leaves the window as
`PlacedWindow.findOutputs` does.

`findOutputs_found` is about pixels: if no area exceeds 32 bits, the designed output is
the last of those with the most pixels of the window. -/

namespace GreenIsland.Server

/-! ## Model -/

/-- The members of `ClientWindowPrivate` that `findOutputs` reads or writes. -/
structure MovingWindow where
  /-- the size of the surface, which is null before `initialize` -/
  surface : Option QSize
  /-- the position of `moveItem` -/
  position : QPointF
  designedOutput : Option OutputId
  outputsList : List OutputId

inductive OutputSignal
  | outputsChanged
  | designedOutputChanged
deriving DecidableEq

namespace MovingWindow

/-- The variables of the loop. -/
structure Finding where
  mainOutput : Option OutputId
  maxArea : Int
  list : List OutputId

def Finding.append (f : Finding) (output : OutputId) : Finding :=
  { f with list := f.list ++ [output] }

def Finding.main (f : Finding) (output : OutputId) (area : Int) : Finding :=
  { f with mainOutput := some output, maxArea := area }

/-- One turn of the loop. -/
def turn (c : CompositorOutputs) (geometry : QRect) (f : Finding) (output : OutputId) : Finding :=
  let f := if (c.geometry output).contains geometry then f.append output else f
  let intersected := (c.geometry output).intersected geometry
  if intersected.isValid then
    let area := qint32 (intersected.size.width * intersected.size.height)
    if f.maxArea ≤ area then f.main output area else f
  else f

def loop (c : CompositorOutputs) (geometry : QRect) (designedOutput : Option OutputId) : Finding :=
  c.outputs.foldl (turn c geometry) ⟨designedOutput, 0, []⟩

def setOutputsList (w : MovingWindow) (list : List OutputId) : MovingWindow × List OutputSignal :=
  if list = w.outputsList then (w, [])
  else ({ w with outputsList := list }, [.outputsChanged])

def setDesignedOutput (w : MovingWindow) (mainOutput : Option OutputId) :
    MovingWindow × List OutputSignal :=
  if mainOutput = w.designedOutput then (w, [])
  else ({ w with designedOutput := mainOutput }, [.designedOutputChanged])

def findOutputs (w : MovingWindow) (c : CompositorOutputs) : MovingWindow × List OutputSignal :=
  match w.surface with
  | none => (w, [])
  | some size =>
    let found := loop c ⟨w.position.toPoint, size⟩ w.designedOutput
    let listed := w.setOutputsList found.list
    let designed := listed.1.setDesignedOutput found.mainOutput
    (designed.1, listed.2 ++ designed.2)

/-! ## What is to hold -/

/-- The pixels of the window on an output. -/
noncomputable def shown (c : CompositorOutputs) (geometry : QRect) (o : OutputId) : Finset (ℤ × ℤ) :=
  (c.geometry o).pixels ∩ geometry.pixels

/-- What `findOutputs` leaves of a window `w` with this geometry, and what it emits. -/
structure Found (c : CompositorOutputs) (geometry : QRect) (w after : MovingWindow)
    (signals : List OutputSignal) : Prop where
  /-- the last of the outputs that show the most of the window -/
  most : (∃ o ∈ c.outputs, (shown c geometry o).Nonempty) →
    ∃ before o later, c.outputs = before ++ o :: later ∧ after.designedOutput = some o ∧
      (shown c geometry o).Nonempty ∧
      (∀ o' ∈ before, (shown c geometry o').card ≤ (shown c geometry o).card) ∧
      ∀ o' ∈ later, (shown c geometry o').card < (shown c geometry o).card
  unchanged : (∀ o ∈ c.outputs, shown c geometry o = ∅) → after.designedOutput = w.designedOutput
  /-- the outputs that contain the window, in their order -/
  listed : after.outputsList = c.outputs.filter fun o => (c.geometry o).contains geometry
  /-- for a window that has pixels that is inclusion -/
  included : geometry.pixels.Nonempty →
    after.outputsList = c.outputs.filter fun o => geometry.pixels ⊆ (c.geometry o).pixels
  designedOutputChanged : .designedOutputChanged ∈ signals ↔ after.designedOutput ≠ w.designedOutput
  outputsChanged : .outputsChanged ∈ signals ↔ after.outputsList ≠ w.outputsList
  once : signals.Nodup

/-! ## The loop -/

variable {c : CompositorOutputs} {w : MovingWindow} {geometry : QRect}

/-- A turn does the two things independently of each other. -/
theorem turn_eq (c : CompositorOutputs) (geometry : QRect) (f : Finding) (o : OutputId) :
    turn c geometry f o =
      let best := Largest.keep (c.shownArea geometry) (f.mainOutput, f.maxArea) o
      ⟨best.1, best.2, f.list ++ [o].filter fun o => (c.geometry o).contains geometry⟩ := by
  have hlist : (if (c.geometry o).contains geometry then f.append o else f) =
      ⟨f.mainOutput, f.maxArea, f.list ++ [o].filter fun o => (c.geometry o).contains geometry⟩ := by
    cases hcontains : (c.geometry o).contains geometry with
    | true =>
      rw [List.filter_singleton, hcontains]
      rfl
    | false =>
      rw [List.filter_singleton, hcontains, cond_false, List.append_nil]
      rfl
  unfold turn
  rw [hlist]
  unfold Largest.keep CompositorOutputs.shownArea
  by_cases hvalid : ((c.geometry o).intersected geometry).isValid = true
  · simp only [if_pos hvalid]
    split <;> rfl
  · simp only [if_neg hvalid]

theorem foldl_turn (c : CompositorOutputs) (geometry : QRect) :
    ∀ (outputs : List OutputId) (f : Finding), outputs.foldl (turn c geometry) f =
      let best := outputs.foldl (Largest.keep (c.shownArea geometry)) (f.mainOutput, f.maxArea)
      ⟨best.1, best.2, f.list ++ outputs.filter fun o => (c.geometry o).contains geometry⟩ := by
  intro outputs
  induction outputs with
  | nil =>
    intro f
    rw [List.filter_nil, List.append_nil]
    rfl
  | cons o outputs ih =>
    intro f
    rw [List.foldl_cons, ih, turn_eq]
    simp only [List.append_assoc, List.foldl_cons, ← List.filter_append, List.singleton_append]

theorem list_loop (c : CompositorOutputs) (geometry : QRect) (designedOutput : Option OutputId) :
    (loop c geometry designedOutput).list =
      c.outputs.filter fun o => (c.geometry o).contains geometry := by
  unfold loop
  rw [foldl_turn]
  exact List.nil_append _

theorem mainOutput_loop (c : CompositorOutputs) (geometry : QRect)
    (designedOutput : Option OutputId) : (loop c geometry designedOutput).mainOutput =
      (c.outputs.foldl (Largest.keep (c.shownArea geometry)) (designedOutput, 0)).1 := by
  unfold loop
  rw [foldl_turn]

/-! ## The comparisons -/

theorem setOutputsList_fst (w : MovingWindow) (list : List OutputId) :
    (w.setOutputsList list).1 = { w with outputsList := list } := by
  unfold setOutputsList
  split
  · next heq => rw [heq]
  · rfl

theorem setDesignedOutput_fst (w : MovingWindow) (mainOutput : Option OutputId) :
    (w.setDesignedOutput mainOutput).1 = { w with designedOutput := mainOutput } := by
  unfold setDesignedOutput
  split
  · next heq => rw [heq]
  · rfl

theorem setOutputsList_snd (w : MovingWindow) (list : List OutputId) :
    (w.setOutputsList list).2 = if list = w.outputsList then [] else [.outputsChanged] :=
  apply_ite Prod.snd ..

theorem setDesignedOutput_snd (w : MovingWindow) (mainOutput : Option OutputId) :
    (w.setDesignedOutput mainOutput).2 =
      if mainOutput = w.designedOutput then [] else [.designedOutputChanged] :=
  apply_ite Prod.snd ..

/-- What is left and what is emitted, for a window with a surface. -/
theorem findOutputs_eq {size : QSize} (h : w.surface = some size) : w.findOutputs c =
    let found := loop c ⟨w.position.toPoint, size⟩ w.designedOutput
    ({ w with outputsList := found.list, designedOutput := found.mainOutput },
      (if found.list = w.outputsList then [] else [.outputsChanged]) ++
        if found.mainOutput = w.designedOutput then [] else [.designedOutputChanged]) := by
  unfold findOutputs
  rw [h]
  simp only [setOutputsList_fst, setDesignedOutput_fst, setOutputsList_snd, setDesignedOutput_snd, h]

/-- Each of two comparisons emits its own signal. -/
theorem signals_of_changes (list main : Prop) [Decidable list] [Decidable main] :
    let signals : List OutputSignal :=
      (if list then [] else [.outputsChanged]) ++ if main then [] else [.designedOutputChanged]
    (.designedOutputChanged ∈ signals ↔ ¬ main) ∧ (.outputsChanged ∈ signals ↔ ¬ list) ∧
      signals.Nodup := by
  by_cases hlist : list <;> by_cases hmain : main <;> simp [hlist, hmain]

def placed (w : MovingWindow) (size : QSize) : PlacedWindow :=
  ⟨w.position, size, w.designedOutput, w.outputsList⟩

/-- The loop determines what `PlacedWindow.findOutputs` says. -/
theorem placed_findOutputs {size : QSize} (h : w.surface = some size) :
    (w.findOutputs c).1.placed size = (w.placed size).findOutputs c := by
  rw [findOutputs_eq h]
  simp only [placed, list_loop, mainOutput_loop]
  rfl

/-! ## Pixels -/

/-- The measure of an output is the number of the window's pixels on it. -/
theorem mem_shownArea {o : OutputId} (ho : (c.geometry o).topLeft.Fits)
    (hgeometry : geometry.topLeft.Fits) (hfits : FitsInt32 (shown c geometry o).card) {area : Int} :
    area ∈ c.shownArea geometry o ↔
      (shown c geometry o).Nonempty ∧ area = (shown c geometry o).card := by
  unfold CompositorOutputs.shownArea
  by_cases hvalid : ((c.geometry o).intersected geometry).isValid = true
  · have hshown : (shown c geometry o).Nonempty := (QRect.isValid_intersected_iff ho hgeometry).1 hvalid
    simp only [if_pos hvalid, QRect.area_intersected hshown hfits, Option.mem_some_iff]
    exact eq_comm.trans (and_iff_right hshown).symm
  · simp only [if_neg hvalid]
    refine iff_of_false nofun fun hshown => hvalid ?_
    exact (QRect.isValid_intersected_iff ho hgeometry).2 hshown.1

/-- The loop ends with the last output that shows the most, if there is one. -/
theorem mainOutput_last (hmeasure : ∀ o ∈ c.outputs, ∀ area, area ∈ c.shownArea geometry o ↔
      (shown c geometry o).Nonempty ∧ area = (shown c geometry o).card)
    (designedOutput : Option OutputId) :
    ((∀ o ∈ c.outputs, shown c geometry o = ∅) ∧
      (loop c geometry designedOutput).mainOutput = designedOutput) ∨
    ∃ before o later, c.outputs = before ++ o :: later ∧
      (loop c geometry designedOutput).mainOutput = some o ∧ (shown c geometry o).Nonempty ∧
      (∀ o' ∈ before, (shown c geometry o').card ≤ (shown c geometry o).card) ∧
      ∀ o' ∈ later, (shown c geometry o').card < (shown c geometry o).card := by
  -- an output that shows nothing of the window has no area
  have hcard : ∀ o ∈ c.outputs, shown c geometry o = ∅ ∨
      ((shown c geometry o).card : Int) ∈ c.shownArea geometry o := by
    intro o ho
    rcases (shown c geometry o).eq_empty_or_nonempty with hempty | hshown
    · exact Or.inl hempty
    · exact Or.inr ((hmeasure o ho _).2 ⟨hshown, rfl⟩)
  rw [mainOutput_loop]
  rcases Largest.foldl_keep_last (c.shownArea geometry) c.outputs (designedOutput, 0) with
    ⟨hfold, hnone⟩ | ⟨before, o, later, area, houtputs, harea, hfold, -, hbefore, hlater⟩
  · refine Or.inl ⟨fun o ho => ?_, congrArg Prod.fst hfold⟩
    rcases hcard o ho with hempty | harea
    · exact hempty
    · exact absurd (hnone o ho _ harea) (by omega)
  · rw [hfold]
    have ho : o ∈ c.outputs := houtputs ▸ List.mem_append_right before List.mem_cons_self
    obtain ⟨hshown, rfl⟩ := (hmeasure o ho area).1 harea
    refine Or.inr ⟨before, o, later, houtputs, rfl, hshown, fun o' ho' => ?_, fun o' ho' => ?_⟩
    · rcases hcard o' (houtputs ▸ List.mem_append_left _ ho') with hempty | harea'
      · rw [hempty]
        exact Nat.zero_le _
      · exact Int.ofNat_le.1 (hbefore o' ho' _ harea')
    · have hmem : o' ∈ c.outputs :=
        houtputs ▸ List.mem_append_right before (List.mem_cons_of_mem o ho')
      rcases hcard o' hmem with hempty | harea'
      · rw [hempty]
        exact hshown.card_pos
      · exact Int.ofNat_lt.1 (hlater o' ho' _ harea')

/-- **The outputs of a window** after `findOutputs`, and what is emitted. -/
theorem findOutputs_found {size : QSize} (hsurface : w.surface = some size)
    (hplaced : ∀ o ∈ c.outputs, (c.geometry o).topLeft.Fits)
    (hareas : ∀ o ∈ c.outputs, FitsInt32 (shown c ⟨w.position.toPoint, size⟩ o).card) :
    Found c ⟨w.position.toPoint, size⟩ w (w.findOutputs c).1 (w.findOutputs c).2 := by
  rw [findOutputs_eq hsurface]
  have hfits : w.position.toPoint.Fits := w.position.toPoint_fits
  generalize w.position.toPoint = position at *
  have hmeasure : ∀ o ∈ c.outputs, ∀ area, area ∈ c.shownArea ⟨position, size⟩ o ↔
      (shown c ⟨position, size⟩ o).Nonempty ∧ area = (shown c ⟨position, size⟩ o).card :=
    fun o ho area => mem_shownArea (hplaced o ho) hfits (hareas o ho)
  have hmain := mainOutput_last hmeasure w.designedOutput
  have hlist := list_loop c ⟨position, size⟩ w.designedOutput
  obtain ⟨hdesigned, houtputs, honce⟩ := signals_of_changes
    ((loop c ⟨position, size⟩ w.designedOutput).list = w.outputsList)
    ((loop c ⟨position, size⟩ w.designedOutput).mainOutput = w.designedOutput)
  refine ⟨fun hany => ?_, fun hnone => ?_, hlist, fun hpixels => ?_, hdesigned, houtputs, honce⟩
  · rcases hmain with ⟨hnone, -⟩ | hlast
    · obtain ⟨o, ho, hshown⟩ := hany
      exact absurd (hnone o ho) hshown.ne_empty
    · exact hlast
  · rcases hmain with ⟨-, hsame⟩ | ⟨before, o, later, houtputs, -, hshown, -⟩
    · exact hsame
    · have ho : o ∈ c.outputs := houtputs ▸ List.mem_append_right before List.mem_cons_self
      exact absurd (hnone o ho) hshown.ne_empty
  · refine hlist.trans (List.filter_congr fun o _ => ?_)
    exact Bool.eq_iff_iff.2 ((QRect.contains_iff_subset hpixels).trans decide_eq_true_iff.symm)

/-- **Doing it again** changes nothing and emits nothing: a window that moves in both
directions, and so has its outputs found twice, tells of each change once. -/
theorem findOutputs_again {size : QSize} (h : w.surface = some size) :
    (w.findOutputs c).1.findOutputs c = ((w.findOutputs c).1, []) := by
  have hafter := findOutputs_eq (c := c) h
  rw [hafter]
  simp only []
  generalize hlist : (loop c ⟨w.position.toPoint, size⟩ w.designedOutput).list = list
  generalize hmain : (loop c ⟨w.position.toPoint, size⟩ w.designedOutput).mainOutput = main
  have hlist' : (loop c ⟨w.position.toPoint, size⟩ main).list = list := by
    rw [← hlist, list_loop, list_loop]
  have hmain' : (loop c ⟨w.position.toPoint, size⟩ main).mainOutput = main := by
    rw [mainOutput_loop] at hmain ⊢
    rcases Largest.foldl_keep_start (c.shownArea ⟨w.position.toPoint, size⟩) c.outputs
      w.designedOutput main 0 with ⟨-, hsame⟩ | hsame
    · rw [hsame]
    · rw [← hsame]
      exact hmain
  rw [findOutputs_eq (w := { w with outputsList := list, designedOutput := main }) h]
  simp only [hlist', hmain', if_true, List.append_nil]

/-- Of two outputs that show as much of a window the second is designed. -/
theorem findOutputs_found_tie :
    let c : CompositorOutputs := ⟨[0, 1], fun o => ⟨⟨2 * o, 0⟩, ⟨2, 1⟩⟩, by decide⟩
    let w : MovingWindow := ⟨some ⟨2, 1⟩, ⟨1, 0⟩, none, []⟩
    Found c ⟨w.position.toPoint, ⟨2, 1⟩⟩ w (w.findOutputs c).1 (w.findOutputs c).2 ∧
      (w.findOutputs c).1.designedOutput = some 1 := by
  intro c w
  exact ⟨findOutputs_found rfl (by decide) (by decide +kernel), by decide +kernel⟩

end MovingWindow

end GreenIsland.Server

import Mathlib.Logic.Function.Basic
import GreenIsland.Lib.Run
import GreenIsland.Lib.Staged
import GreenIsland.Qt.Geometry
import GreenIsland.Server.Output

/-! The changes a client asks for (`OutputConfiguration`, `OutputChangeset`).

The first request for an output since the last answer makes a changeset, a copy
of all attributes of the output (`OutputChangeset.new`); a request then stores
its value there.  Nothing records which attributes were requested: `is*Changed`
compares the copy with the output as it is when it is asked, and for `enabled`,
which outputs do not have, it always says no.

What the changesets report is meant to be what was requested since the last
`setApplied` or `setFailed` (`requested`).  It is exactly as long as every step
meets `OpOk` (`changes_are_requests_iff`): no request for `enabled`, none for the
value that the output has, and no change of an output with pending requests that
moves an attribute nobody requested, or moves one to its requested value. -/

namespace GreenIsland.Server

/-! ## Model -/

/-- `QWaylandOutput::Transform` -/
inductive Transform
  | normal
  | transform90
  | transform180
  | transform270
  | flipped
  | flipped90
  | flipped180
  | flipped270
deriving DecidableEq, Repr

/-- The `switch` over `wl_output.transform`. -/
def Transform.fromWl (wlTransform : Int) : Transform :=
  if wlTransform = 1 then transform90
  else if wlTransform = 2 then transform180
  else if wlTransform = 3 then transform270
  else if wlTransform = 4 then flipped
  else if wlTransform = 5 then flipped90
  else if wlTransform = 6 then flipped180
  else if wlTransform = 7 then flipped270
  else normal

/-- The attributes of an output that a changeset copies. -/
structure QWaylandOutput (ρ : Type) extends Output ρ where
  transform : Transform
  position : QPoint
  scaleFactor : Int

/-- The attributes a client can ask for. -/
inductive Attribute
  | enabled
  | primary
  | modeId
  | transform
  | position
  | scaleFactor
deriving DecidableEq, Repr

def Attribute.Value : Attribute → Type
  | enabled => Bool
  | primary => Bool
  | modeId => Int
  | transform => Transform
  | position => QPoint
  | scaleFactor => Int

instance (a : Attribute) : DecidableEq a.Value :=
  match a with
  | .enabled => inferInstanceAs (DecidableEq Bool)
  | .primary => inferInstanceAs (DecidableEq Bool)
  | .modeId => inferInstanceAs (DecidableEq Int)
  | .transform => inferInstanceAs (DecidableEq Transform)
  | .position => inferInstanceAs (DecidableEq QPoint)
  | .scaleFactor => inferInstanceAs (DecidableEq Int)

structure OutputChangeset where
  enabled : Bool
  primary : Bool
  transform : Transform
  modeId : Int
  position : QPoint
  scaleFactor : Int
deriving DecidableEq, Repr

namespace OutputChangeset

def get (cs : OutputChangeset) : (a : Attribute) → a.Value
  | .enabled => cs.enabled
  | .primary => cs.primary
  | .modeId => cs.modeId
  | .transform => cs.transform
  | .position => cs.position
  | .scaleFactor => cs.scaleFactor

def set (cs : OutputChangeset) : (a : Attribute) → a.Value → OutputChangeset
  | .enabled, v => { cs with enabled := v }
  | .primary, v => { cs with primary := v }
  | .modeId, v => { cs with modeId := v }
  | .transform, v => { cs with transform := v }
  | .position, v => { cs with position := v }
  | .scaleFactor, v => { cs with scaleFactor := v }

/-! `is*Changed`; `live` holds the output's attributes when they are asked. -/

def isEnabledChanged (_ _ : OutputChangeset) : Bool := false
def isPrimaryChanged (cs live : OutputChangeset) : Bool := cs.primary != live.primary
def isTransformChanged (cs live : OutputChangeset) : Bool := cs.transform != live.transform
def isModeIdChanged (cs live : OutputChangeset) : Bool := cs.modeId != live.modeId
def isPositionChanged (cs live : OutputChangeset) : Bool := cs.position != live.position
def isScaleFactorChanged (cs live : OutputChangeset) : Bool := cs.scaleFactor != live.scaleFactor

def isChanged (cs live : OutputChangeset) : Attribute → Bool
  | .enabled => cs.isEnabledChanged live
  | .primary => cs.isPrimaryChanged live
  | .modeId => cs.isModeIdChanged live
  | .transform => cs.isTransformChanged live
  | .position => cs.isPositionChanged live
  | .scaleFactor => cs.isScaleFactorChanged live

/-- The attributes reported as changed, with the values they are to get. -/
def report (cs live : OutputChangeset) (a : Attribute) : Option a.Value :=
  if cs.isChanged live a = true then some (cs.get a) else none

end OutputChangeset

section
variable {ρ : Type} [BEq ρ] [OfNat ρ 60]

/-- `Mode()` -/
def Mode.default : Mode ρ := ⟨0, ⟨-1, -1⟩, 60⟩

/-- `currentMode()`: no mode for an index that is out of range. -/
def QWaylandOutput.mode (output : QWaylandOutput ρ) : Option (Mode ρ) :=
  if output.currentMode = -1 then some Mode.default else qAt output.modes output.currentMode

/-- The attributes of an output, as the constructor of a changeset copies them. -/
def OutputChangeset.new (output : QWaylandOutput ρ) (isDefault : Bool) : Option OutputChangeset :=
  output.mode.map fun mode =>
    { enabled := true
      primary := isDefault
      transform := output.transform
      modeId := Output.indexOf output.modes mode
      position := output.position
      scaleFactor := output.scaleFactor }

end

/-- A configuration and the outputs it is about.  `κ` names the outputs. -/
structure OutputConfiguration (κ ρ : Type) where
  outputs : κ → QWaylandOutput ρ
  defaultOutput : Option κ
  changes : κ → Option OutputChangeset

inductive ConfigurationOp (κ ρ : Type)
  | enable (output : κ) (enable : Int)
  | primary (output : κ) (primary : Int)
  | mode (output : κ) (modeId : Int)
  | transform (output : κ) (wlTransform : Int)
  | position (output : κ) (x y : Int)
  | scale (output : κ) (scale : Int)
  | apply
  | setApplied
  | setFailed
  /-- the compositor changes an output -/
  | outputChanged (output : κ) (changed : QWaylandOutput ρ)
  /-- the compositor changes its default output -/
  | defaultOutputChanged (output : Option κ)

namespace OutputConfiguration

section
variable {κ ρ : Type} [DecidableEq κ] [BEq ρ] [OfNat ρ 60]

/-- The attributes of an output at this moment. -/
def live (s : OutputConfiguration κ ρ) (output : κ) : Option OutputChangeset :=
  OutputChangeset.new (s.outputs output) (s.defaultOutput = some output)

def pendingChanges (s : OutputConfiguration κ ρ) (output : κ) : Option OutputChangeset :=
  match s.changes output with
  | some cs => some cs
  | none => s.live output

/-- A request stores its value in the output's changeset. -/
def request (s : OutputConfiguration κ ρ) (output : κ) (a : Attribute) (v : a.Value) :
    Option (OutputConfiguration κ ρ) :=
  (s.pendingChanges output).map fun cs =>
    { s with changes := Function.update s.changes output (some (cs.set a v)) }

def clearPendingChanges (s : OutputConfiguration κ ρ) : OutputConfiguration κ ρ :=
  { s with changes := fun _ => none }

def outputconfigurationEnable (s : OutputConfiguration κ ρ) (output : κ) (enable : Int) :
    Option (OutputConfiguration κ ρ) :=
  s.request output .enabled (enable == 1)

def outputconfigurationPrimary (s : OutputConfiguration κ ρ) (output : κ) (primary : Int) :
    Option (OutputConfiguration κ ρ) :=
  s.request output .primary (primary == 1)

def outputconfigurationMode (s : OutputConfiguration κ ρ) (output : κ) (modeId : Int) :
    Option (OutputConfiguration κ ρ) :=
  s.request output .modeId modeId

def outputconfigurationTransform (s : OutputConfiguration κ ρ) (output : κ) (wlTransform : Int) :
    Option (OutputConfiguration κ ρ) :=
  s.request output .transform (Transform.fromWl wlTransform)

def outputconfigurationPosition (s : OutputConfiguration κ ρ) (output : κ) (x y : Int) :
    Option (OutputConfiguration κ ρ) :=
  s.request output .position ⟨x, y⟩

def outputconfigurationScale (s : OutputConfiguration κ ρ) (output : κ) (scale : Int) :
    Option (OutputConfiguration κ ρ) :=
  s.request output .scaleFactor scale

def setOutput (s : OutputConfiguration κ ρ) (output : κ) (changed : QWaylandOutput ρ) :
    OutputConfiguration κ ρ :=
  { s with outputs := Function.update s.outputs output changed }

/-- `apply` only emits `changeRequested`; the compositor answers with
`setApplied` or `setFailed`. -/
def step (s : OutputConfiguration κ ρ) :
    ConfigurationOp κ ρ → Option (OutputConfiguration κ ρ)
  | .enable output enable => s.outputconfigurationEnable output enable
  | .primary output primary => s.outputconfigurationPrimary output primary
  | .mode output modeId => s.outputconfigurationMode output modeId
  | .transform output wlTransform => s.outputconfigurationTransform output wlTransform
  | .position output x y => s.outputconfigurationPosition output x y
  | .scale output scale => s.outputconfigurationScale output scale
  | .apply => some s
  | .setApplied => some s.clearPendingChanges
  | .setFailed => some s.clearPendingChanges
  | .outputChanged output changed => some (s.setOutput output changed)
  | .defaultOutputChanged output => some { s with defaultOutput := output }

/-- What the configuration reports of an output: nothing without a changeset. -/
def reported (s : OutputConfiguration κ ρ) (output : κ) :
    Option ((a : Attribute) → Option a.Value) :=
  match s.changes output with
  | none => some fun _ => none
  | some cs => (s.live output).map cs.report

def hasPendingChanges (s : OutputConfiguration κ ρ) (output : κ) : Option Bool :=
  match s.changes output with
  | none => some false
  | some cs => (s.live output).map fun live =>
    cs.isEnabledChanged live || cs.isPrimaryChanged live || cs.isModeIdChanged live ||
      cs.isTransformChanged live || cs.isPositionChanged live || cs.isScaleFactorChanged live

end

end OutputConfiguration

/-! ## What was requested -/

/-- The last value requested of each attribute since the last answer. -/
abbrev Requested (κ : Type) := κ → (a : Attribute) → Option a.Value

namespace ConfigurationOp

variable {κ ρ : Type}

/-- The attribute a request is about, and its value. -/
def asks : ConfigurationOp κ ρ → Option (κ × Σ a : Attribute, a.Value)
  | .enable output value => some (output, ⟨.enabled, value == 1⟩)
  | .primary output value => some (output, ⟨.primary, value == 1⟩)
  | .mode output modeId => some (output, ⟨.modeId, modeId⟩)
  | .transform output wlTransform => some (output, ⟨.transform, Transform.fromWl wlTransform⟩)
  | .position output x y => some (output, ⟨.position, ⟨x, y⟩⟩)
  | .scale output value => some (output, ⟨.scaleFactor, value⟩)
  | _ => none

def answers : ConfigurationOp κ ρ → Bool
  | .setApplied => true
  | .setFailed => true
  | _ => false

variable [DecidableEq κ]

def requested (w : Requested κ) (op : ConfigurationOp κ ρ) : Requested κ :=
  match op.asks with
  | some (output, ⟨a, v⟩) => Function.update w output (Function.update (w output) a (some v))
  | none => if op.answers then fun _ _ => none else w

end ConfigurationOp

/-- A configuration beside the requests that it is to report. -/
structure Tracked (κ ρ : Type) where
  configuration : OutputConfiguration κ ρ
  requested : Requested κ

namespace Tracked

variable {κ ρ : Type} [DecidableEq κ] [BEq ρ] [OfNat ρ 60]

/-- Nothing is requested yet. -/
def init (outputs : κ → QWaylandOutput ρ) (defaultOutput : Option κ) : Tracked κ ρ :=
  ⟨⟨outputs, defaultOutput, fun _ => none⟩, fun _ _ => none⟩

def step (t : Tracked κ ρ) (op : ConfigurationOp κ ρ) : Option (Tracked κ ρ) :=
  (t.configuration.step op).map fun s => ⟨s, op.requested t.requested⟩

/-- Every output's changeset reports what was requested, and nothing else. -/
def ReportsRequests (t : Tracked κ ρ) : Prop :=
  ∀ output, t.configuration.reported output = some (t.requested output)

/-- A request is seen if it is not for `enabled` and not for the value the
output has. -/
def RequestOk (t : Tracked κ ρ) (output : κ) (a : Attribute) (v : a.Value) : Prop :=
  ∃ live, t.configuration.live output = some live ∧ a ≠ .enabled ∧ v ≠ live.get a

/-- The outputs with pending requests keep the attributes nobody requested, and
do not get a requested value. -/
def Undisturbed (t : Tracked κ ρ) (s : OutputConfiguration κ ρ) : Prop :=
  ∀ output, (∃ a v, t.requested output a = some v) →
    ∃ live live', t.configuration.live output = some live ∧ s.live output = some live' ∧
      ∀ a, a ≠ .enabled →
        (t.requested output a = none → live'.get a = live.get a) ∧
          ∀ v, t.requested output a = some v → v ≠ live'.get a

/-- The steps after which the changesets still report the requests. -/
def OpOk (t : Tracked κ ρ) (op : ConfigurationOp κ ρ) : Prop :=
  match op.asks, op with
  | some (output, ⟨a, v⟩), _ => t.RequestOk output a v
  | none, .outputChanged output changed => t.Undisturbed (t.configuration.setOutput output changed)
  | none, .defaultOutputChanged output =>
    t.Undisturbed { t.configuration with defaultOutput := output }
  | none, _ => True

end Tracked

/-! ## Changesets as staged copies -/

namespace OutputChangeset

/-- The attributes that are compared with the output. -/
def compared (a : Attribute) : Bool := a != .enabled

theorem get_set (cs : OutputChangeset) (a : Attribute) (v : a.Value) :
    (cs.set a v).get = Function.update cs.get a v := by
  funext b
  cases a <;> cases b <;> rfl

theorem report_eq_diff (cs live : OutputChangeset) :
    cs.report live = Staged.diff compared cs.get live.get := by
  funext a
  unfold report Staged.diff
  refine if_congr ?_ rfl rfl
  cases a <;>
    simp [isChanged, isEnabledChanged, isPrimaryChanged, isModeIdChanged, isTransformChanged,
      isPositionChanged, isScaleFactorChanged, compared, get] <;>
    exact Iff.rfl

end OutputChangeset

namespace Tracked

open OutputChangeset

section
variable {κ ρ : Type} [DecidableEq κ] [BEq ρ] [OfNat ρ 60] {t t' : Tracked κ ρ}

/-- The invariant: the reports are right, and there is a changeset only for an
output of which something was requested. -/
structure Inv (t : Tracked κ ρ) : Prop where
  reports : t.ReportsRequests
  asked : ∀ output cs, t.configuration.changes output = some cs →
    ∃ a v, t.requested output a = some v

/-- The changeset that a request changes stages what was requested so far. -/
theorem Inv.pending (h : Inv t) {output : κ} {live : OutputChangeset}
    (hlive : t.configuration.live output = some live) :
    ∃ cs, t.configuration.pendingChanges output = some cs ∧
      Staged.diff compared cs.get live.get = t.requested output := by
  have hrep := h.reports output
  unfold OutputConfiguration.reported at hrep
  unfold OutputConfiguration.pendingChanges
  rcases hcs : t.configuration.changes output with _ | cs
  · rw [hcs] at hrep
    refine ⟨live, hlive, ?_⟩
    rw [Staged.diff_self]
    exact Option.some.inj hrep
  · rw [hcs, hlive] at hrep
    refine ⟨cs, rfl, ?_⟩
    rw [← report_eq_diff]
    exact Option.some.inj hrep

/-- The report after a request. -/
theorem reported_request {s s' : OutputConfiguration κ ρ} {output : κ} {a : Attribute} {v : a.Value}
    {cs : OutputChangeset} (hcs : s.pendingChanges output = some cs)
    (hs : s.request output a v = some s') :
    s'.reported output = (s.live output).map (cs.set a v).report ∧
      ∀ o, o ≠ output → s'.reported o = s.reported o := by
  unfold OutputConfiguration.request at hs
  rw [hcs] at hs
  obtain rfl := Option.some.inj hs
  constructor
  · unfold OutputConfiguration.reported
    simp only [Function.update_self]
    rfl
  · intro o ho
    unfold OutputConfiguration.reported
    simp only [Function.update_of_ne ho]
    rfl

/-- **A request.**  It keeps the reports right exactly if it is seen. -/
theorem Inv.request (h : Inv t) {s' : OutputConfiguration κ ρ} {output : κ} {a : Attribute}
    {v : a.Value} (hs : t.configuration.request output a v = some s') {w : Requested κ}
    (hw : w = Function.update t.requested output
      (Function.update (t.requested output) a (some v))) :
    ReportsRequests ⟨s', w⟩ ↔ t.RequestOk output a v := by
  obtain ⟨cs, hcs, -⟩ := Option.map_eq_some_iff.1 hs
  obtain ⟨hself, hother⟩ := reported_request hcs hs
  subst hw
  have hdiff : ∀ live, t.configuration.live output = some live →
      ((cs.set a v).report live = Function.update (t.requested output) a (some v) ↔
        a ≠ .enabled ∧ v ≠ live.get a) := by
    intro live hlive
    obtain ⟨cs', hcs', hd⟩ := h.pending hlive
    obtain rfl : cs = cs' := Option.some.inj (hcs.symm.trans hcs')
    rw [report_eq_diff, get_set, Staged.diff_update_iff hd]
    simp [compared]
  constructor
  · intro hrep
    have ho := hrep output
    dsimp only at ho
    rw [hself, Function.update_self] at ho
    obtain ⟨live, hlive, hreport⟩ := Option.map_eq_some_iff.1 ho
    obtain ⟨hne, hv⟩ := (hdiff live hlive).1 hreport
    exact ⟨live, hlive, hne, hv⟩
  · rintro ⟨live, hlive, hne, hv⟩ o
    by_cases ho : o = output
    · subst ho
      show s'.reported o = some (Function.update t.requested o _ o)
      rw [hself, hlive, Function.update_self, Option.map_some, (hdiff live hlive).2 ⟨hne, hv⟩]
    · show s'.reported o = some (Function.update t.requested output _ o)
      rw [hother o ho, Function.update_of_ne ho]
      exact h.reports o

/-- **A change of the outputs.**  It keeps the reports right exactly if it does
not disturb the pending requests. -/
theorem Inv.outputs (h : Inv t) {s' : OutputConfiguration κ ρ}
    (hs : s'.changes = t.configuration.changes) :
    ReportsRequests ⟨s', t.requested⟩ ↔ t.Undisturbed s' := by
  have key : ∀ o cs live live', t.configuration.changes o = some cs →
      t.configuration.live o = some live →
      (cs.report live' = t.requested o ↔ ∀ a, a ≠ .enabled →
        (t.requested o a = none → live'.get a = live.get a) ∧
          ∀ v, t.requested o a = some v → v ≠ live'.get a) := by
    intro o cs live live' hcs hlive
    obtain ⟨cs', hcs', hd⟩ := h.pending hlive
    unfold OutputConfiguration.pendingChanges at hcs'
    rw [hcs] at hcs'
    obtain rfl : cs = cs' := Option.some.inj hcs'
    rw [report_eq_diff, Staged.diff_moved_iff hd]
    simp [compared]
  have hrepo : ∀ o cs, t.configuration.changes o = some cs →
      t.configuration.reported o = (t.configuration.live o).map cs.report ∧
        s'.reported o = (s'.live o).map cs.report := by
    intro o cs hcs
    unfold OutputConfiguration.reported
    rw [hs, hcs]
    exact ⟨rfl, rfl⟩
  constructor
  · rintro hrep o ⟨a, v, hv⟩
    rcases hcs : t.configuration.changes o with _ | cs
    · have hnone := h.reports o
      unfold OutputConfiguration.reported at hnone
      rw [hcs] at hnone
      rw [← Option.some.inj hnone] at hv
      cases hv
    · obtain ⟨hold, hnew⟩ := hrepo o cs hcs
      obtain ⟨live, hlive, -⟩ := Option.map_eq_some_iff.1 (hold.symm.trans (h.reports o))
      obtain ⟨live', hlive', hreport⟩ := Option.map_eq_some_iff.1 (hnew.symm.trans (hrep o))
      exact ⟨live, live', hlive, hlive', (key o cs live live' hcs hlive).1 hreport⟩
  · intro hok o
    show s'.reported o = some (t.requested o)
    rcases hcs : t.configuration.changes o with _ | cs
    · have hrep := h.reports o
      unfold OutputConfiguration.reported at hrep ⊢
      rw [hs, hcs]
      rw [hcs] at hrep
      exact hrep
    · obtain ⟨live, live', hlive, hlive', hall⟩ := hok o (h.asked o cs hcs)
      rw [(hrepo o cs hcs).2, hlive', Option.map_some, (key o cs live live' hcs hlive).2 hall]

/-- An answer clears the changesets and the requests. -/
theorem reports_cleared (s : OutputConfiguration κ ρ) :
    ReportsRequests ⟨s.clearPendingChanges, fun _ _ => none⟩ := fun _ => rfl

theorem step_asks {s : OutputConfiguration κ ρ} {op : ConfigurationOp κ ρ} {output : κ}
    {a : Attribute} {v : a.Value} (hasks : op.asks = some (output, ⟨a, v⟩)) :
    s.step op = s.request output a v := by
  cases op <;> cases hasks <;> rfl

/-- The invariant at the start. -/
theorem inv_init (outputs : κ → QWaylandOutput ρ) (defaultOutput : Option κ) :
    Inv (init outputs defaultOutput) where
  reports _ := rfl
  asked _ _ hcs := by cases hcs

/-- **One step.**  It keeps the reports right exactly if it meets its condition. -/
theorem Inv.step_iff (h : Inv t) {op : ConfigurationOp κ ρ} (hs : t.step op = some t') :
    t'.ReportsRequests ↔ t.OpOk op := by
  obtain ⟨s', hs', rfl⟩ := Option.map_eq_some_iff.1 hs
  rcases hasks : op.asks with _ | ⟨output, a, v⟩
  · unfold OpOk ConfigurationOp.requested
    rw [hasks]
    cases op with
    | apply =>
      obtain rfl := Option.some.inj hs'
      exact iff_of_true h.reports trivial
    | setApplied =>
      obtain rfl := Option.some.inj hs'
      exact iff_of_true (reports_cleared _) trivial
    | setFailed =>
      obtain rfl := Option.some.inj hs'
      exact iff_of_true (reports_cleared _) trivial
    | outputChanged output changed =>
      obtain rfl := Option.some.inj hs'
      exact h.outputs rfl
    | defaultOutputChanged output =>
      obtain rfl := Option.some.inj hs'
      exact h.outputs rfl
    | _ => cases hasks
  · rw [step_asks hasks] at hs'
    have hok : t.OpOk op = t.RequestOk output a v := by
      unfold OpOk
      rw [hasks]
    rw [hok]
    refine h.request hs' ?_
    unfold ConfigurationOp.requested
    rw [hasks]

/-- A step that meets its condition returns. -/
theorem step_returns {op : ConfigurationOp κ ρ} (hok : t.OpOk op) : ∃ t', t.step op = some t' := by
  have hstep : ∃ s', t.configuration.step op = some s' := by
    rcases hasks : op.asks with _ | ⟨output, a, v⟩
    · cases op with
      | apply | setApplied | setFailed | outputChanged | defaultOutputChanged => exact ⟨_, rfl⟩
      | _ => cases hasks
    · unfold OpOk at hok
      rw [hasks] at hok
      obtain ⟨live, hlive, -⟩ := hok
      rw [step_asks hasks]
      unfold OutputConfiguration.request OutputConfiguration.pendingChanges
      rcases t.configuration.changes output with _ | cs
      · rw [hlive]
        exact ⟨_, rfl⟩
      · exact ⟨_, rfl⟩
  obtain ⟨s', hs'⟩ := hstep
  exact ⟨_, congrArg _ hs'⟩

/-- The invariant is kept while the reports are right. -/
theorem Inv.step (h : Inv t) {op : ConfigurationOp κ ρ} (hs : t.step op = some t')
    (hrep : t'.ReportsRequests) : Inv t' := by
  refine ⟨hrep, ?_⟩
  obtain ⟨s', hs', rfl⟩ := Option.map_eq_some_iff.1 hs
  intro o cs hcs
  show ∃ a v, op.requested t.requested o a = some v
  unfold ConfigurationOp.requested
  rcases hasks : op.asks with _ | ⟨output, a, v⟩
  · cases op with
    | apply =>
      obtain rfl := Option.some.inj hs'
      exact h.asked o cs hcs
    | setApplied | setFailed =>
      obtain rfl := Option.some.inj hs'
      cases hcs
    | outputChanged | defaultOutputChanged =>
      obtain rfl := Option.some.inj hs'
      exact h.asked o cs hcs
    | _ => cases hasks
  · rw [step_asks hasks] at hs'
    obtain ⟨cs', -, rfl⟩ := Option.map_eq_some_iff.1 hs'
    by_cases ho : o = output
    · subst ho
      refine ⟨a, v, ?_⟩
      simp only [Function.update_self]
    · simp only [Function.update_of_ne ho] at hcs ⊢
      exact h.asked o cs hcs

/-- **The reports over whole runs.**  From any outputs and any default output:
the changesets report at all times exactly what was requested since the last
answer if and only if every step of the run meets its condition. -/
theorem changes_are_requests_iff (outputs : κ → QWaylandOutput ρ) (defaultOutput : Option κ)
    (ops : List (ConfigurationOp κ ρ)) :
    Run.Always Tracked.step ReportsRequests (init outputs defaultOutput) ops ↔
      Run.Meets Tracked.step OpOk (init outputs defaultOutput) ops := by
  have hinit := inv_init outputs defaultOutput
  refine Run.always_iff_meets (I := Inv) ?_ ?_ ?_ ops _ hinit.reports hinit
  · intro t op hI hok
    obtain ⟨t', ht'⟩ := step_returns hok
    exact ⟨t', ht', (hI.step_iff ht').2 hok⟩
  · intro t op t' hI ht' hrep
    exact hI.step ht' hrep
  · intro t op t' hI ht' hrep
    exact (hI.step_iff ht').1 hrep

end

/-- An output with one mode. -/
def sampleOutput : QWaylandOutput ℕ where
  modes := [⟨0, ⟨800, 600⟩, 60⟩]
  currentMode := 0
  preferredMode := 0
  window := none
  sizeFollowsWindow := false
  initialized := true
  outbox := []
  transform := .normal
  position := ⟨0, 0⟩
  scaleFactor := 1

/-- A client asks for another position, then the compositor rotates the output:
the changeset reports the old transform as a requested change. -/
theorem unrequested_change_reported :
    ¬ Run.Always Tracked.step ReportsRequests (init (fun _ : Fin 1 => sampleOutput) (some 0))
      [.position 0 800 0, .outputChanged 0 { sampleOutput with transform := .transform90 }] := by
  rintro ⟨-, t₁, h₁, -, t₂, h₂, hrep, -⟩
  obtain rfl := Option.some.inj h₁
  obtain rfl := Option.some.inj h₂
  have htransform := congrFun (Option.some.inj (hrep 0)) .transform
  cases htransform

end Tracked

end GreenIsland.Server

import GreenIsland.Lib.Ledger
import GreenIsland.Platform.VtHandler

/-! The descriptors of the virtual terminal's handler (`VtHandler`).

A handler with a terminal has three: the terminal's, and a pair of sockets for the
signals.  They are to be accounted for at all times, and a setup in which anything
fails is to leave nothing behind (`Accounted`).

The destructor closes the pair itself and once more with the terminal, and a setup
without a pair goes on as if there was one.  So the descriptors are accounted for
exactly as long as no handler with a terminal is destroyed and every setup that gets
so far has its pair (`descriptors_accounted_iff`). -/

namespace GreenIsland.Platform

open Ledger

namespace VtHandler

/-! ## What is owed -/

/-- The descriptors that the handler has to close. -/
def held (s : VtHandler) : List Int :=
  (s.vtFd.map Int.ofNat).toList ++ if s.notifier then [s.signalFd.1, s.signalFd.2] else []

/-- All steps of the setup succeed. -/
def Succeeds (k : Setup) : Prop :=
  0 ≤ k.nr ∧ k.open_ ≠ none ∧ k.isValidVt = true ∧ k.silencing.fails = false ∧
    k.graphics = true ∧ k.socketpair ≠ none

/-- The handler has no terminal. -/
structure Idle (s : VtHandler) : Prop where
  vtFd : s.vtFd = none
  notifier : s.notifier = false
  active : s.active = false
  text : s.terminal.graphics = false

/-- What was opened is closed or held, each descriptor as often as it was opened; and
a setup that fails leaves the handler without a terminal. -/
def Accounted (s : VtHandler) (op : VtOp) (s' : VtHandler) : Prop :=
  Balanced s'.opened s'.closed s'.held ∧
    match op with
    | .setup k => s.gone = false → s.vtFd = none → ¬ Succeeds k → s'.Idle
    | _ => True

/-- **The steps that do so.** -/
def DescriptorsOk (s : VtHandler) (op : VtOp) : Prop :=
  s.gone = false →
    match op with
    | .setup k => ¬ s.Refused k → k.isValidVt = true → k.silencing.fails = false →
        k.graphics = true → k.socketpair ≠ none
    | .signal (.resume a) => s.vtFd ≠ none → a.fails = false
    | .signal _ => True
    | .destroy _ _ => s.vtFd = none

structure DescriptorsInv (s : VtHandler) : Prop where
  notifier : s.notifier = s.vtFd.isSome
  idle : s.gone = false → s.vtFd = none → s.Idle
  balanced : Balanced s.opened s.closed s.held

theorem descriptorsInv_init (kbMode : KbMode) (signalFd : Int × Int) :
    DescriptorsInv (init kbMode signalFd) :=
  ⟨rfl, fun _ _ => ⟨rfl, rfl, rfl, rfl⟩, balanced_nil⟩

/-! ## One step -/

section
variable {s s' : VtHandler}

theorem held_of_none (hvt : s.vtFd = none) (hnotifier : s.notifier = false) : s.held = [] := by
  simp [held, hvt, hnotifier]

theorem held_of_some {fd : Nat} (hvt : s.vtFd = some fd) (hnotifier : s.notifier = true) :
    s.held = [(fd : Int), s.signalFd.1, s.signalFd.2] := by
  simp [held, hvt, hnotifier]

/-- A setup that gives the terminal up closes what it opened. -/
theorem DescriptorsInv.givenUp (h : DescriptorsInv s) (hidle : s.Idle) {k : Setup}
    (hs : step s (.setup k) = some s') {fd : Int} (hidle' : s'.Idle)
    (hopened : s'.opened = s.opened ++ [fd]) (hclosed : s'.closed = s.closed ++ [fd])
    (hok : DescriptorsOk s (.setup k)) :
    Run.Decides step Accounted DescriptorsOk DescriptorsInv s (.setup k) := by
  have hbalanced : Balanced s'.opened s'.closed s'.held := by
    have hgive := h.balanced.takeGiveBack fd
    rw [held_of_none hidle.vtFd hidle.notifier] at hgive
    rw [hopened, hclosed, held_of_none hidle'.vtFd hidle'.notifier]
    exact hgive
  refine Run.decides_good hs ⟨hbalanced, fun _ _ _ => hidle'⟩ hok
    ⟨?_, fun _ _ => hidle', hbalanced⟩
  rw [hidle'.vtFd, hidle'.notifier]
  rfl

/-- A setup that comes to the signal handler needs its pair of sockets. -/
theorem DescriptorsInv.taken (h : DescriptorsInv s) (hgone : s.gone = false) (hidle : s.Idle)
    {k : Setup} {fd : Nat} {s₁ : VtHandler} (hnot : ¬ s.Refused k) (hvalid : k.isValidVt = true)
    (hfails : k.silencing.fails = false) (hgraphics : k.graphics = true)
    (hs₁ : s₁ = { s with
      vtFd := some fd
      opened := s.opened ++ [(fd : Int)]
      kbMode := k.silencing.kbMode s.terminal.kbMode
      terminal := { s.terminal.silence k.silencing with graphics := true } })
    (hstep : step s (.setup k) =
      some { (s₁.installSignalHandler k.socketpair).1 with vtNumber := k.nr, active := true }) :
    Run.Decides step Accounted DescriptorsOk DescriptorsInv s (.setup k) := by
  cases hpair : k.socketpair with
  | none =>
    rw [hpair] at hstep
    refine Run.decides_bad hstep (fun hkept => ?_) fun hok => ?_
    · have hsome : (s₁.installSignalHandler none).1.vtFd = some fd := by rw [hs₁]; rfl
      have hnone := (hkept.2 hgone hidle.vtFd fun hk => hk.2.2.2.2.2 hpair).vtFd
      exact Option.some_ne_none fd (hsome.symm.trans hnone)
    · exact hok hgone hnot hvalid hfails hgraphics hpair
  | some pair =>
    obtain ⟨a, b⟩ := pair
    rw [hpair] at hstep
    have hbalanced : Balanced (s.opened ++ [(fd : Int)] ++ [(a : Int), (b : Int)]) s.closed
        [(fd : Int), (a : Int), (b : Int)] := by
      have htake := h.balanced.take [(fd : Int), (a : Int), (b : Int)]
      rw [held_of_none hidle.vtFd hidle.notifier] at htake
      rw [List.append_assoc]
      exact htake
    have hsucceeds : Succeeds k := by
      refine ⟨?_, ?_, hvalid, hfails, hgraphics, hpair ▸ Option.some_ne_none _⟩
      · exact Int.not_lt.1 fun hnr => hnot (Or.inr (Or.inl hnr))
      · exact fun hnone => hnot (Or.inr (Or.inr hnone))
    subst hs₁
    refine Run.decides_good hstep ⟨hbalanced, fun _ _ hnot' => absurd hsucceeds hnot'⟩
      (fun _ _ _ _ _ hnone => ?_) ⟨rfl, fun _ => nofun, hbalanced⟩
    exact absurd (hpair.symm.trans hnone) (Option.some_ne_none _)

theorem decides_setup_descriptors (h : DescriptorsInv s) (hgone : s.gone = false) (k : Setup) :
    Run.Decides step Accounted DescriptorsOk DescriptorsInv s (.setup k) := by
  have hstep : step s (.setup k) = some (s.setup k) := by simp [step, hgone]
  have hto := setupTo (fun hvt => (h.idle hgone hvt).notifier) k
  generalize s.setup k = s' at hstep hto
  have hidle : ¬ s.Refused k → s.Idle := fun hnot => h.idle hgone (not_not.1 (mt Or.inl hnot))
  have hfalse : ∀ {b : Bool} {P : Prop}, b = false → b = true → P := fun hb hb' =>
    absurd (hb.symm.trans hb') Bool.false_ne_true
  cases hto with
  | refused hrefused =>
    exact Run.decides_good hstep ⟨h.balanced, fun _ hvt _ => h.idle hgone hvt⟩
      (fun _ hnot => absurd hrefused hnot) h
  | invalid fd hnot hfd hinvalid =>
    have hs := hidle hnot
    exact h.givenUp hs hstep ⟨hs.vtFd, hs.notifier, hs.active, hs.text⟩ rfl rfl
      fun _ _ hvalid => hfalse hinvalid hvalid
  | unsilenced fd hnot hfd hvalid hfails =>
    have hs := hidle hnot
    exact h.givenUp hs hstep ⟨hs.vtFd, hs.notifier, hs.active, hs.text⟩ rfl rfl
      fun _ _ _ hnot' => hfalse hnot' hfails
  | text fd hnot hfd hvalid hfails hgraphics =>
    have hs := hidle hnot
    have htext : (s.terminal.silence k.silencing).graphics = false := by
      rw [← hs.text]
      unfold Terminal.silence
      split
      · rfl
      · split
        · rfl
        · split <;> rfl
    exact h.givenUp hs hstep ⟨hs.vtFd, hs.notifier, hs.active, htext⟩ rfl rfl
      fun _ _ _ _ hgraphics' => hfalse hgraphics hgraphics'
  | taken fd s₁ hnot hfd hvalid hfails hgraphics hs₁ =>
    exact h.taken hgone (hidle hnot) hnot hvalid hfails hgraphics hs₁ hstep

theorem decides_signal_descriptors (h : DescriptorsInv s) (hgone : s.gone = false) (sigNo : SigNo) :
    Run.Decides step Accounted DescriptorsOk DescriptorsInv s (.signal sigNo) := by
  have hto := signalTo hgone h.notifier sigNo
  generalize hstep : step s (.signal sigNo) = next at hto
  cases hto with
  | ignored _ hvt =>
    refine Run.decides_good hstep ⟨h.balanced, trivial⟩ (fun _ => ?_) h
    cases sigNo with
    | interrupt r => trivial
    | suspend r => trivial
    | resume a => exact fun hne => absurd hvt hne
  | interrupt r hvt =>
    exact Run.decides_good hstep ⟨h.balanced, trivial⟩ (fun _ => trivial)
      ⟨h.notifier, fun _ hnone => absurd hnone hvt, h.balanced⟩
  | suspend r hvt =>
    exact Run.decides_good hstep ⟨h.balanced, trivial⟩ (fun _ => trivial)
      ⟨h.notifier, fun _ hnone => absurd hnone hvt, h.balanced⟩
  | crash a hvt hfails =>
    refine Or.inl ⟨hstep, fun hok => ?_⟩
    exact Bool.false_ne_true ((hok hgone hvt).symm.trans hfails)
  | resume a hvt hfails =>
    exact Run.decides_good hstep ⟨h.balanced, trivial⟩ (fun _ _ => hfails)
      ⟨h.notifier, fun _ hnone => absurd hnone hvt, h.balanced⟩

/-- With a terminal, the pair of sockets is closed twice. -/
theorem decides_destroy_descriptors (h : DescriptorsInv s) (hgone : s.gone = false) (r : Restoring)
    (survives : Bool) :
    Run.Decides step Accounted DescriptorsOk DescriptorsInv s (.destroy r survives) := by
  cases hvt : s.vtFd with
  | none =>
    have hnotifier := (h.idle hgone hvt).notifier
    have hstep : step s (.destroy r survives) = some (s.destroy r) := by
      simp [step, hgone, hnotifier]
    rw [destroy_of_none hvt hnotifier] at hstep
    exact Run.decides_good hstep ⟨h.balanced, trivial⟩ (fun _ => hvt)
      ⟨h.notifier, fun hidle => Bool.noConfusion hidle, h.balanced⟩
  | some fd =>
    have hnotifier : s.notifier = true := by rw [h.notifier, hvt]; rfl
    have hnot : ¬ DescriptorsOk s (.destroy r survives) := fun hok =>
      Option.some_ne_none fd (hvt.symm.trans (hok hgone))
    cases survives with
    | false => exact Or.inl ⟨by simp [step, hgone, hnotifier], hnot⟩
    | true =>
    have hstep : step s (.destroy r true) = some (s.destroy r) := by simp [step, hgone]
    rw [destroy_of_some hvt hnotifier] at hstep
    refine Run.decides_bad hstep (fun hkept => ?_) hnot
    have hbefore := h.balanced.length_eq
    rw [held_of_some hvt hnotifier] at hbefore
    have hafter := hkept.1.length_eq
    simp only [held, Option.map_none, Option.toList_none, List.nil_append, Bool.false_eq_true,
      if_false, List.length_append, List.length_cons, List.length_nil] at hbefore hafter
    omega

theorem decides_descriptors (h : DescriptorsInv s) (op : VtOp) :
    Run.Decides step Accounted DescriptorsOk DescriptorsInv s op := by
  by_cases hgone : s.gone = true
  · have hstep : step s op = some s := if_pos hgone
    have hnot : ∀ P : Prop, s.gone = false → P := fun P hfalse =>
      absurd (hfalse.symm.trans hgone) Bool.false_ne_true
    refine Run.decides_good hstep ⟨h.balanced, ?_⟩ (hnot _) h
    cases op with
    | setup k => exact hnot _
    | signal sigNo => trivial
    | destroy r survives => trivial
  · have hgone : s.gone = false := Bool.eq_false_iff.2 hgone
    cases op with
    | setup k => exact decides_setup_descriptors h hgone k
    | signal sigNo => exact decides_signal_descriptors h hgone sigNo
    | destroy r survives => exact decides_destroy_descriptors h hgone r survives

end

/-! ## Runs -/

/-- **The descriptors are accounted for, and failing setups leave nothing behind, in
exactly the runs whose steps meet their condition.** -/
theorem descriptors_accounted_iff (kbMode : KbMode) (signalFd : Int × Int) (ops : List VtOp) :
    Run.Along step Accounted (init kbMode signalFd) ops ↔
      Run.Meets step DescriptorsOk (init kbMode signalFd) ops :=
  Run.along_iff_of_decides (fun _ op h => decides_descriptors h op) ops _
    (descriptorsInv_init kbMode signalFd)

/-- A handler is set up, everything succeeds, and it is destroyed. -/
theorem sockets_closed_twice :
    ¬ Run.Along step Accounted (init .xlate (0, 0)) [.setup offSetup, .destroy ⟨true, true⟩ true] := by
  rintro ⟨_, ⟨⟩, -, _, ⟨⟩, h, -⟩
  exact absurd (h.1.count_eq 6) (by decide)

end VtHandler

end GreenIsland.Platform

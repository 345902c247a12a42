import Mathlib.Logic.Function.Basic
import GreenIsland.Kms.Screen

/-! The mutex of `waitForFlip`, which all KMS screens share.

`waitForFlip` holds the mutex while it reads page flip events.  `suspend` tries
to lock it, once for each screen, and nothing unlocks what it locked: `resume`
only clears the flag.

When no call is inside `waitForFlip` and no screen is suspended the mutex is to be
free (`Free`).  This holds in every state that is reached when each `suspend`
finds the mutex held by a call of `waitForFlip`, which then unlocks it
(`mutex_free`); after one `suspend` without such a call the mutex stays locked
(`mutex_not_free`).

The steps of `waitForFlip` in several threads are interleaved with the other
calls, each of which runs to its end.  An event is read for any of the screens. -/

namespace GreenIsland.Kms

/-! ## Model -/

/-- A thread inside `waitForFlip`: it wants the mutex or holds it. -/
structure Call (ι : Type*) where
  screen : ι
  holds : Bool
deriving DecidableEq

structure FlipLock (ι τ : Type*) where
  screens : ι → Screen
  /-- `m_waitForFlipMutex` -/
  locked : Bool
  calls : τ → Option (Call ι)

namespace FlipLock

variable {ι τ : Type*}

def init (screens : ι → Screen) : FlipLock ι τ := ⟨screens, false, fun _ => none⟩

/-- `QMutex::tryLock`: the mutex is locked, by this call or by an earlier one. -/
def tryLock (s : FlipLock ι τ) : FlipLock ι τ := { s with locked := true }

/-- `activeChanged(false)` suspends the screen. -/
def suspends : Screen.Op → Bool
  | .activeChanged active _ _ => !active
  | _ => false

section
variable [DecidableEq ι]

def setScreen (s : FlipLock ι τ) (i : ι) (screen : Screen) : FlipLock ι τ :=
  { s with screens := Function.update s.screens i screen }

def suspend (s : FlipLock ι τ) (i : ι) : FlipLock ι τ :=
  (s.setScreen i (s.screens i).suspend).tryLock

def resume (s : FlipLock ι τ) (i : ι) : FlipLock ι τ := s.setScreen i (s.screens i).resume

/-- A call of the screen other than `waitForFlip`. -/
def screenCall (s : FlipLock ι τ) (i : ι) (op : Screen.Op) : Option (FlipLock ι τ) :=
  ((s.screens i).step op).map fun screen =>
    if suspends op then (s.setScreen i screen).tryLock else s.setScreen i screen

/-- The event of a page flip of screen `i` is read. -/
def pageFlipEvent (s : FlipLock ι τ) (i : ι) : Option (FlipLock ι τ) :=
  (s.screens i).pageFlipHandler.map (s.setScreen i)

/-- `handleDrmEvent` in the loop of `waitForFlip`: the events that are there are read. -/
def dispatch (s : FlipLock ι τ) (t : τ) (events : List ι) : Option (FlipLock ι τ) :=
  match s.calls t with
  | some ⟨i, true⟩ =>
    if (s.screens i).boNext = none then some s else Run.exec pageFlipEvent s events
  | _ => some s

end

section
variable [DecidableEq τ]

/-- `waitForFlip` up to the lock. -/
def waitForFlip (s : FlipLock ι τ) (t : τ) (i : ι) : FlipLock ι τ :=
  if s.calls t ≠ none then s
  else if (s.screens i).boNext = none ∨ (s.screens i).suspended then s
  else { s with calls := Function.update s.calls t (some ⟨i, false⟩) }

/-- The lock is taken if it is free. -/
def acquire (s : FlipLock ι τ) (t : τ) : FlipLock ι τ :=
  match s.calls t with
  | some ⟨i, false⟩ =>
    if s.locked then s
    else { s with locked := true, calls := Function.update s.calls t (some ⟨i, true⟩) }
  | _ => s

/-- The loop is over: the mutex is unlocked. -/
def leave (s : FlipLock ι τ) (t : τ) : FlipLock ι τ :=
  match s.calls t with
  | some ⟨i, true⟩ =>
    if (s.screens i).boNext = none then
      { s with locked := false, calls := Function.update s.calls t none }
    else s
  | _ => s

end

inductive Op (ι τ : Type*)
  | suspend (i : ι)
  | resume (i : ι)
  | screenCall (i : ι) (op : Screen.Op)
  | waitForFlip (t : τ) (i : ι)
  | acquire (t : τ)
  | dispatch (t : τ) (events : List ι)
  | leave (t : τ)

def step [DecidableEq ι] [DecidableEq τ] (s : FlipLock ι τ) : Op ι τ → Option (FlipLock ι τ)
  | .suspend i => some (s.suspend i)
  | .resume i => some (s.resume i)
  | .screenCall i op => s.screenCall i op
  | .waitForFlip t i => some (s.waitForFlip t i)
  | .acquire t => some (s.acquire t)
  | .dispatch t events => s.dispatch t events
  | .leave t => some (s.leave t)

/-! ## The mutex is free -/

/-- No call is inside `waitForFlip` and no screen is suspended. -/
structure Quiet (s : FlipLock ι τ) : Prop where
  calls : ∀ t, s.calls t = none
  screens : ∀ i, (s.screens i).suspended = false

/-- When all is quiet the mutex is unlocked, and a `waitForFlip` with a pending flip
gets it. -/
structure Free [DecidableEq τ] (s : FlipLock ι τ) : Prop where
  unlocked : s.Quiet → s.locked = false
  acquires : s.Quiet → ∀ t i, (s.screens i).boNext ≠ none →
    ((s.waitForFlip t i).acquire t).calls t = some ⟨i, true⟩

/-- A call of `waitForFlip` holds the mutex. -/
def Held (s : FlipLock ι τ) : Prop := ∃ t i, s.calls t = some ⟨i, true⟩

/-- A screen is suspended only while a call of `waitForFlip` holds the mutex. -/
def Ok (s : FlipLock ι τ) : Op ι τ → Prop
  | .suspend _ => s.Held
  | .screenCall _ op => suspends op = true → s.Held
  | _ => True

/-! ## The invariant -/

variable {s s' : FlipLock ι τ}

/-- The mutex is locked exactly while a call holds it, and only one does. -/
structure Inv (s : FlipLock ι τ) : Prop where
  held : s.locked = true ↔ s.Held
  one : ∀ t t' i i', s.calls t = some ⟨i, true⟩ → s.calls t' = some ⟨i', true⟩ → t = t'

theorem inv_init (screens : ι → Screen) : Inv (init (τ := τ) screens) where
  held := by simp [init, Held]
  one := by simp [init]

/-- Only the screens change. -/
theorem Inv.of_eq (h : Inv s) (hlocked : s'.locked = s.locked) (hcalls : s'.calls = s.calls) :
    Inv s' := by
  refine ⟨?_, ?_⟩
  · rw [hlocked, h.held, Held, Held, hcalls]
  · rw [hcalls]
    exact h.one

/-- A try to lock the mutex while a call holds it changes nothing. -/
theorem Inv.tryLock (h : Inv s) (hheld : s.Held) : Inv s.tryLock := by
  refine h.of_eq ?_ rfl
  rw [h.held.2 hheld]
  rfl

section
variable [DecidableEq τ]

theorem Free.of_unlocked (h : s.Quiet → s.locked = false) : s.Free := by
  refine ⟨h, fun hquiet t i hnext => ?_⟩
  have hfree := h hquiet
  have hnot : ¬ ((s.screens i).boNext = none ∨ (s.screens i).suspended = true) := by
    rw [hquiet.screens i]
    simp [hnext]
  have hcall : (s.waitForFlip t i).calls t = some ⟨i, false⟩ := by
    unfold waitForFlip
    rw [if_neg (not_not.2 (hquiet.calls t)), if_neg hnot]
    exact Function.update_self ..
  have hlocked : (s.waitForFlip t i).locked = false := by
    unfold waitForFlip
    split_ifs <;> exact hfree
  unfold acquire
  rw [hcall]
  simp only [hlocked, Bool.false_eq_true, if_false]
  exact Function.update_self ..

theorem Inv.free (h : Inv s) : s.Free := by
  refine .of_unlocked fun hquiet => Bool.eq_false_iff.2 fun hlocked => ?_
  obtain ⟨t, i, ht⟩ := h.held.1 hlocked
  rw [hquiet.calls t] at ht
  cases ht

theorem inv_waitForFlip (h : Inv s) (t : τ) (i : ι) : Inv (s.waitForFlip t i) := by
  unfold waitForFlip
  split_ifs with hcall hskip
  · exact h
  · exact h
  · have hsame : ∀ t' i', Function.update s.calls t (some ⟨i, false⟩) t' = some ⟨i', true⟩ ↔
        s.calls t' = some ⟨i', true⟩ := by
      intro t' i'
      by_cases ht : t' = t
      · subst ht
        rw [Function.update_self, not_not.1 hcall]
        simp
      · rw [Function.update_of_ne ht]
    refine ⟨?_, fun t₁ t₂ i₁ i₂ h₁ h₂ => ?_⟩
    · rw [h.held, Held, Held]
      exact exists_congr fun t' => exists_congr fun i' => (hsame t' i').symm
    · exact h.one t₁ t₂ i₁ i₂ ((hsame t₁ i₁).1 h₁) ((hsame t₂ i₂).1 h₂)

theorem inv_acquire (h : Inv s) (t : τ) : Inv (s.acquire t) := by
  unfold acquire
  split
  next i hcall =>
    split
    · exact h
    next hfree =>
      have hnone : ∀ t' i', s.calls t' ≠ some ⟨i', true⟩ := fun t' i' ht' =>
        hfree (h.held.2 ⟨t', i', ht'⟩)
      have hself : ∀ t' i', Function.update s.calls t (some ⟨i, true⟩) t' = some ⟨i', true⟩ →
          t' = t := by
        intro t' i' ht'
        by_contra hne
        rw [Function.update_of_ne hne] at ht'
        exact hnone t' i' ht'
      refine ⟨⟨fun _ => ⟨t, i, Function.update_self ..⟩, fun _ => rfl⟩, ?_⟩
      intro t₁ t₂ i₁ i₂ h₁ h₂
      rw [hself t₁ i₁ h₁, hself t₂ i₂ h₂]
  · exact h

theorem inv_leave (h : Inv s) (t : τ) : Inv (s.leave t) := by
  unfold leave
  split
  next i hcall =>
    split
    · have hnone : ∀ t' i', Function.update s.calls t none t' ≠ some ⟨i', true⟩ := by
        intro t' i' ht'
        by_cases hne : t' = t
        · subst hne
          rw [Function.update_self] at ht'
          cases ht'
        · rw [Function.update_of_ne hne] at ht'
          exact hne (h.one t' t i' i ht' hcall)
      refine ⟨⟨fun hlocked => absurd hlocked Bool.false_ne_true, ?_⟩, ?_⟩
      · rintro ⟨t', i', ht'⟩
        exact absurd ht' (hnone t' i')
      · intro t₁ t₂ i₁ i₂ h₁
        exact absurd h₁ (hnone t₁ i₁)
    · exact h
  · exact h

end

section
variable [DecidableEq ι]

theorem inv_dispatch (h : Inv s) {t : τ} {events : List ι} (heq : s.dispatch t events = some s') :
    Inv s' := by
  have hevent : ∀ (r : FlipLock ι τ) (i : ι) (r' : FlipLock ι τ), Inv r →
      r.pageFlipEvent i = some r' → Inv r' := by
    intro r i r' hr hevent
    obtain ⟨screen, -, rfl⟩ := Option.map_eq_some_iff.1 hevent
    exact hr.of_eq rfl rfl
  unfold dispatch at heq
  split at heq
  · split at heq
    · exact Option.some.inj heq ▸ h
    · exact Run.exec_inv hevent events s h heq
  · exact Option.some.inj heq ▸ h

end

/-! ## Runs -/

section
variable [DecidableEq ι] [DecidableEq τ]

/-- **A step.** -/
theorem inv_step (h : Inv s) (op : Op ι τ) (hok : s.Ok op) (heq : s.step op = some s') : Inv s' := by
  cases op with
  | suspend i =>
    obtain rfl := Option.some.inj heq
    have hset : Inv (s.setScreen i (s.screens i).suspend) := h.of_eq rfl rfl
    exact hset.tryLock hok
  | resume i =>
    obtain rfl := Option.some.inj heq
    exact h.of_eq rfl rfl
  | screenCall i op =>
    obtain ⟨screen, -, rfl⟩ := Option.map_eq_some_iff.1 heq
    have hset : Inv (s.setScreen i screen) := h.of_eq rfl rfl
    show Inv (if suspends op then (s.setScreen i screen).tryLock else s.setScreen i screen)
    split
    next hsuspends => exact hset.tryLock (hok hsuspends)
    · exact hset
  | waitForFlip t i =>
    obtain rfl := Option.some.inj heq
    exact inv_waitForFlip h t i
  | acquire t =>
    obtain rfl := Option.some.inj heq
    exact inv_acquire h t
  | dispatch t events => exact inv_dispatch h heq
  | leave t =>
    obtain rfl := Option.some.inj heq
    exact inv_leave h t

/-- **The flip lock.**  In every run that suspends screens only while a call of
`waitForFlip` holds the mutex, it is free whenever all is quiet. -/
theorem mutex_free (screens : ι → Screen) (ops : List (Op ι τ))
    (hok : Run.Meets step Ok (init screens) ops) : Run.Throughout step Free (init screens) ops := by
  have hinit := inv_init (τ := τ) screens
  refine ⟨hinit.free, Run.each_of_meets (I := Inv) ?_ ops _ hinit hok⟩
  intro s op s' h hop heq
  exact ⟨(inv_step h op hop heq).free, inv_step h op hop heq⟩

end

/-! ## A VT switch -/

def oneScreen : Unit → Screen := fun _ => Screen.init Screen.svgaOutput true true

/-- The screen is suspended and resumed while a thread waits for its flip. -/
theorem mutex_free_waiting :
    Run.Throughout step Free (init (τ := Unit) oneScreen)
      [.screenCall () (.createSurface true), .screenCall () (.flip Screen.allOk),
        .waitForFlip () (), .acquire (), .suspend (), .screenCall () .vblank, .dispatch () [()],
        .leave (), .resume ()] := by
  refine mutex_free oneScreen _ ?_
  refine ⟨fun h => absurd h (by decide), ?_⟩
  rintro _ ⟨⟩
  refine ⟨fun h => absurd h (by decide), ?_⟩
  rintro _ ⟨⟩
  refine ⟨trivial, ?_⟩
  rintro _ ⟨⟩
  refine ⟨trivial, ?_⟩
  rintro _ ⟨⟩
  refine ⟨⟨(), (), rfl⟩, ?_⟩
  rintro _ ⟨⟩
  refine ⟨fun h => absurd h (by decide), ?_⟩
  rintro _ ⟨⟩
  refine ⟨trivial, ?_⟩
  rintro _ ⟨⟩
  refine ⟨trivial, ?_⟩
  rintro _ ⟨⟩
  exact ⟨trivial, fun _ _ => trivial⟩

/-- One switch away and back, and the mutex is locked for good. -/
theorem mutex_not_free :
    ¬ Run.Throughout step Free (init (τ := Unit) oneScreen) [.suspend (), .resume ()] := by
  rintro ⟨-, hrun⟩
  obtain ⟨-, hrun⟩ := hrun _ rfl
  obtain ⟨hfree, -⟩ := hrun _ rfl
  have hlocked := hfree.unlocked ⟨fun _ => rfl, fun _ => rfl⟩
  cases hlocked

end FlipLock

end GreenIsland.Kms

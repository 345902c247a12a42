import Mathlib.Data.Option.Basic

/-! Runs of a partial step function.

A component is a step function `step : σ → α → Option σ`: state, call, state
after the call.  `none` means that the call does not return to its caller: a
null pointer is dereferenced, an index is out of range, an assertion fails.

* `Along step R s as`: no call of the run `as` faults and each one satisfies the
  relation `R` (state before, call, state after).
* `Each step R s as`: the same of the calls that return.
* `Always`, `Throughout`: a property of states, in the sense of `Along` and of `Each`.
* `Meets step ok s as`: each call is made in a state that meets its condition.

A property of runs is then two facts about one step (`along_of_meets`,
`each_of_meets`, `along_iff_meets`, `each_iff_meets`, `each_congr`): under the
invariant a step that meets its condition keeps the invariant and satisfies `R`; and
a step that satisfies `R` met its condition.  `Decides` puts the two together for one
call (`along_iff_of_decides`, `always_iff_of_decides`).

A condition that is not to be read on the component's state is stated of a record that
is kept next to it (`recorded`, `meets_recorded`). -/

namespace Run

variable {σ α : Type*}

/-- The calls one after the other; `none` when one of them faults. -/
def exec (step : σ → α → Option σ) : σ → List α → Option σ
  | s, [] => some s
  | s, a :: as => (step s a).bind fun s' => exec step s' as

/-- No call faults and every step satisfies `R`. -/
def Along (step : σ → α → Option σ) (R : σ → α → σ → Prop) : σ → List α → Prop
  | _, [] => True
  | s, a :: as => ∃ s', step s a = some s' ∧ R s a s' ∧ Along step R s' as

/-- Every call is made in a state where it meets `ok`. -/
def Meets (step : σ → α → Option σ) (ok : σ → α → Prop) : σ → List α → Prop
  | _, [] => True
  | s, a :: as => ok s a ∧ ∀ s', step s a = some s' → Meets step ok s' as

instance decidableMeets (step : σ → α → Option σ) (ok : σ → α → Prop) [∀ s a, Decidable (ok s a)] :
    ∀ (s : σ) (as : List α), Decidable (Meets step ok s as)
  | _, [] => isTrue trivial
  | s, a :: as =>
    have : Decidable (∀ s', step s a = some s' → Meets step ok s' as) :=
      match step s a with
      | none => isTrue nofun
      | some s' =>
        have := decidableMeets step ok s' as
        decidable_of_iff (Meets step ok s' as)
          ⟨fun h _ hs => Option.some.inj hs ▸ h, fun h => h s' rfl⟩
    inferInstanceAs (Decidable (ok s a ∧ ∀ s', step s a = some s' → Meets step ok s' as))

/-- Every call that returns satisfies `R`; a fault ends the run. -/
def Each (step : σ → α → Option σ) (R : σ → α → σ → Prop) : σ → List α → Prop
  | _, [] => True
  | s, a :: as => ∀ s', step s a = some s' → R s a s' ∧ Each step R s' as

/-- `P` at the start and after every call, none of which faults. -/
def Always (step : σ → α → Option σ) (P : σ → Prop) (s : σ) (as : List α) : Prop :=
  P s ∧ Along step (fun _ _ s' => P s') s as

/-- `P` at the start and in every state reached. -/
def Throughout (step : σ → α → Option σ) (P : σ → Prop) (s : σ) (as : List α) : Prop :=
  P s ∧ Each step (fun _ _ s' => P s') s as

section
variable {step : σ → α → Option σ} {R R' : σ → α → σ → Prop} {ok : σ → α → Prop} {P I : σ → Prop}

/-- **Run rule.**  An invariant and a relation that one good step establishes
hold along every run of good steps. -/
theorem along_of_meets (hstep : ∀ s a, I s → ok s a → ∃ s', step s a = some s' ∧ R s a s' ∧ I s') :
    ∀ (as : List α) (s : σ), I s → Meets step ok s as → Along step R s as := by
  intro as
  induction as with
  | nil => intro s _ _; trivial
  | cons a as ih =>
    rintro s hI ⟨hok, hrest⟩
    obtain ⟨s', hs, hR, hI'⟩ := hstep s a hI hok
    exact ⟨s', hs, hR, ih s' hI' (hrest s' hs)⟩

/-- What follows from an invariant that every call keeps. -/
theorem always_of_inv (hstep : ∀ s a, I s → ∃ s', step s a = some s' ∧ I s')
    (hP : ∀ s, I s → P s) : ∀ (as : List α) (s : σ), I s → Always step P s as := by
  intro as
  induction as with
  | nil => exact fun s hI => ⟨hP s hI, trivial⟩
  | cons a as ih =>
    intro s hI
    obtain ⟨s', hs, hI'⟩ := hstep s a hI
    obtain ⟨hP', hrest⟩ := ih s' hI'
    exact ⟨hP s hI, s', hs, hP', hrest⟩

/-- **Exact run rule.**  When under the invariant a step satisfies `R` exactly
when it meets its condition, runs do too. -/
theorem along_iff_meets (hstep : ∀ s a, I s → ok s a → ∃ s', step s a = some s' ∧ R s a s')
    (hinv : ∀ s a s', I s → step s a = some s' → R s a s' → I s')
    (hconv : ∀ s a s', I s → step s a = some s' → R s a s' → ok s a) :
    ∀ (as : List α) (s : σ), I s → (Along step R s as ↔ Meets step ok s as) := by
  intro as
  induction as with
  | nil => intro s _; exact Iff.rfl
  | cons a as ih =>
    intro s hI
    constructor
    · rintro ⟨s', hs, hR, hrest⟩
      refine ⟨hconv s a s' hI hs hR, fun s'' hs'' => ?_⟩
      obtain rfl : s' = s'' := Option.some.inj (hs.symm.trans hs'')
      exact (ih s' (hinv s a s' hI hs hR)).1 hrest
    · rintro ⟨hok, hrest⟩
      obtain ⟨s', hs, hR⟩ := hstep s a hI hok
      exact ⟨s', hs, hR, (ih s' (hinv s a s' hI hs hR)).2 (hrest s' hs)⟩

/-- What is to be said of one call: it faults in a state that does not meet the
condition, or it returns, satisfies `R` exactly if it met the condition, and then
keeps the invariant. -/
def Decides (step : σ → α → Option σ) (R : σ → α → σ → Prop) (ok : σ → α → Prop) (I : σ → Prop)
    (s : σ) (a : α) : Prop :=
  (step s a = none ∧ ¬ ok s a) ∨ ∃ s', step s a = some s' ∧ (R s a s' ↔ ok s a) ∧ (ok s a → I s')

/-- A call that meets the condition and does what it should. -/
theorem decides_good {s s' : σ} {a : α} (hs : step s a = some s') (hR : R s a s') (hok : ok s a)
    (hI : I s') : Decides step R ok I s a :=
  Or.inr ⟨s', hs, iff_of_true hR hok, fun _ => hI⟩

/-- A call that does neither. -/
theorem decides_bad {s s' : σ} {a : α} (hs : step s a = some s') (hR : ¬ R s a s') (hok : ¬ ok s a) :
    Decides step R ok I s a :=
  Or.inr ⟨s', hs, iff_of_false hR hok, fun h => absurd h hok⟩

/-- A call of a step function that always returns. -/
theorem decides_total {f : σ → α → σ} {s : σ} {a : α} (hiff : R s a (f s a) ↔ ok s a)
    (hI : ok s a → I (f s a)) : Decides (fun s a => some (f s a)) R ok I s a :=
  Or.inr ⟨f s a, rfl, hiff, hI⟩

/-- The exact run rule from what each call decides. -/
theorem along_iff_of_decides (h : ∀ s a, I s → Decides step R ok I s a) (as : List α) (s : σ)
    (hI : I s) : Along step R s as ↔ Meets step ok s as := by
  have key : ∀ s a s', I s → step s a = some s' → R s a s' → ok s a ∧ I s' := by
    intro s a s' hI hs hR
    rcases h s a hI with ⟨hnone, -⟩ | ⟨s'', hs'', hiff, hkeep⟩
    · rw [hnone] at hs
      cases hs
    · obtain rfl : s' = s'' := Option.some.inj (hs.symm.trans hs'')
      exact ⟨hiff.1 hR, hkeep (hiff.1 hR)⟩
  refine along_iff_meets ?_ (fun s a s' hI hs hR => (key s a s' hI hs hR).2)
    (fun s a s' hI hs hR => (key s a s' hI hs hR).1) as s hI
  intro s a hI hok
  rcases h s a hI with ⟨-, hnot⟩ | ⟨s', hs, hiff, -⟩
  · exact absurd hok hnot
  · exact ⟨s', hs, hiff.2 hok⟩

/-- The exact run rules for a property of states. -/
theorem always_iff_meets (hstep : ∀ s a, I s → ok s a → ∃ s', step s a = some s' ∧ P s')
    (hinv : ∀ s a s', I s → step s a = some s' → P s' → I s')
    (hconv : ∀ s a s', I s → step s a = some s' → P s' → ok s a) (as : List α) (s : σ) (hP : P s)
    (hI : I s) : Always step P s as ↔ Meets step ok s as :=
  (and_iff_right hP).trans (along_iff_meets hstep hinv hconv as s hI)

theorem always_iff_of_decides (h : ∀ s a, I s → Decides step (fun _ _ s' => P s') ok I s a)
    (as : List α) (s : σ) (hP : P s) (hI : I s) : Always step P s as ↔ Meets step ok s as :=
  (and_iff_right hP).trans (along_iff_of_decides h as s hI)

/-- Good calls return and keep the invariant, whatever the state: a run meets
the condition exactly if all its calls are good. -/
theorem meets_iff_forall {good : α → Prop}
    (hstep : ∀ s a, I s → good a → ∃ s', step s a = some s' ∧ I s') :
    ∀ (as : List α) (s : σ), I s → (Meets step (fun _ a => good a) s as ↔ ∀ a ∈ as, good a) := by
  intro as
  induction as with
  | nil => intro s _; simp [Meets]
  | cons a as ih =>
    intro s hI
    rw [List.forall_mem_cons]
    refine and_congr_right fun hgood => ?_
    obtain ⟨s₁, hs₁, hI₁⟩ := hstep s a hI hgood
    constructor
    · intro h
      exact (ih s₁ hI₁).1 (h s₁ hs₁)
    · intro h s' hs'
      obtain rfl : s₁ = s' := Option.some.inj (hs₁.symm.trans hs')
      exact (ih s₁ hI₁).2 h

/-- The run rule for the calls that return. -/
theorem each_of_meets (hstep : ∀ s a s', I s → ok s a → step s a = some s' → R s a s' ∧ I s') :
    ∀ (as : List α) (s : σ), I s → Meets step ok s as → Each step R s as := by
  intro as
  induction as with
  | nil => intro s _ _; trivial
  | cons a as ih =>
    rintro s hI ⟨hok, hrest⟩ s' hs
    obtain ⟨hR, hI'⟩ := hstep s a s' hI hok hs
    exact ⟨hR, ih s' hI' (hrest s' hs)⟩

/-- **Exact run rule for the calls that return.**  A call that meets its condition
satisfies `R` if it returns; one that does not returns and violates `R`. -/
theorem each_iff_meets (hgood : ∀ s a s', I s → ok s a → step s a = some s' → R s a s' ∧ I s')
    (hbad : ∀ s a, I s → ¬ ok s a → ∃ s', step s a = some s' ∧ ¬ R s a s') (as : List α) (s : σ)
    (hI : I s) : Each step R s as ↔ Meets step ok s as := by
  refine ⟨?_, each_of_meets hgood as s hI⟩
  induction as generalizing s with
  | nil => exact fun _ => trivial
  | cons a as ih =>
    intro h
    have hok : ok s a := by
      by_contra hnot
      obtain ⟨s', hs, hR⟩ := hbad s a hI hnot
      exact hR (h s' hs).1
    exact ⟨hok, fun s' hs => ih s' (hgood s a s' hI hok hs).2 (h s' hs).2⟩

/-- An invariant of all calls holds where a run ends. -/
theorem exec_inv (hinv : ∀ s a s', I s → step s a = some s' → I s') :
    ∀ (as : List α) (s : σ) {s' : σ}, I s → exec step s as = some s' → I s' := by
  intro as
  induction as with
  | nil =>
    rintro s s' hI h
    obtain rfl : s = s' := Option.some.inj h
    exact hI
  | cons a as ih =>
    intro s s' hI h
    obtain ⟨s₁, hs, hrest⟩ := Option.bind_eq_some_iff.1 h
    exact ih s₁ (hinv s a s₁ hI hs) hrest

/-- A run goes on where the one before it ended. -/
theorem exec_append (as bs : List α) :
    ∀ s : σ, exec step s (as ++ bs) = (exec step s as).bind fun s' => exec step s' bs := by
  induction as with
  | nil => exact fun s => rfl
  | cons a as ih =>
    intro s
    show (step s a).bind (fun s' => exec step s' (as ++ bs)) = ((step s a).bind _).bind _
    rw [Option.bind_assoc]
    exact congrArg (Option.bind (step s a)) (funext ih)

/-- The last call of a run satisfies `R` as well. -/
theorem along_last {a : α} {s' : σ} :
    ∀ (as : List α) (s : σ), Along step R s (as ++ [a]) → exec step s (as ++ [a]) = some s' →
      ∃ s₁, R s₁ a s' := by
  intro as
  induction as with
  | nil =>
    rintro s ⟨s₁, hs₁, hR, -⟩ hexec
    obtain ⟨s₂, hs₂, hlast⟩ := Option.bind_eq_some_iff.1 hexec
    obtain rfl : s₁ = s₂ := Option.some.inj (hs₁.symm.trans hs₂)
    obtain rfl : s₁ = s' := Option.some.inj hlast
    exact ⟨s, hR⟩
  | cons b as ih =>
    rintro s ⟨s₁, hs₁, -, hrest⟩ hexec
    obtain ⟨s₂, hs₂, hlast⟩ := Option.bind_eq_some_iff.1 hexec
    obtain rfl : s₁ = s₂ := Option.some.inj (hs₁.symm.trans hs₂)
    exact ih s₁ hrest hlast

/-- Under an invariant of all calls, two relations that agree on each call agree
on runs. -/
theorem each_congr (hinv : ∀ s a s', I s → step s a = some s' → I s')
    (hiff : ∀ s a s', I s → step s a = some s' → (R s a s' ↔ R' s a s')) :
    ∀ (as : List α) (s : σ), I s → (Each step R s as ↔ Each step R' s as) := by
  intro as
  induction as with
  | nil => intro s _; exact Iff.rfl
  | cons a as ih =>
    intro s hI
    refine forall_congr' fun s' => imp_congr_right fun hs => ?_
    exact and_congr (hiff s a s' hI hs) (ih s' (hinv s a s' hI hs))

/-- **Simulation rule.**  If a call that meets its condition returns and does to the related
abstract state what its specification says, a run ends in a state related to what the
specifications of its calls make of the abstract one. -/
theorem exec_simulates {τ : Type*} {R : σ → τ → Prop} {spec : τ → α → τ}
    (hstep : ∀ s t a, R s t → ok s a → ∃ s', step s a = some s' ∧ R s' (spec t a)) :
    ∀ (as : List α) (s : σ) (t : τ), R s t → Meets step ok s as →
      ∃ s', exec step s as = some s' ∧ R s' (as.foldl spec t) := by
  intro as
  induction as with
  | nil => exact fun s t hR _ => ⟨s, rfl, hR⟩
  | cons a as ih =>
    rintro s t hR ⟨hok, hmeets⟩
    obtain ⟨s₁, hs, hR₁⟩ := hstep s t a hR hok
    obtain ⟨s₂, hrest, hR₂⟩ := ih s₁ (spec t a) hR₁ (hmeets s₁ hs)
    refine ⟨s₂, ?_, hR₂⟩
    rw [exec, hs]
    exact hrest

/-- Calls without condition -/
theorem meets_of_true : ∀ (as : List α) (s : σ), Meets step (fun _ _ => True) s as := by
  intro as
  induction as with
  | nil => exact fun _ => trivial
  | cons a as ih => exact fun s => ⟨trivial, fun s' _ => ih s'⟩

/-- **Refinement rule.**  If under the invariant each call returns, keeps the invariant and does
to the abstract state what its specification says, a run does what the specifications of its
calls say one after the other. -/
theorem exec_refines {τ : Type*} {abs : σ → τ} {spec : τ → α → τ}
    (hstep : ∀ s a, I s → ∃ s', step s a = some s' ∧ abs s' = spec (abs s) a ∧ I s') (as : List α)
    (s : σ) (hI : I s) : ∃ s', exec step s as = some s' ∧ abs s' = as.foldl spec (abs s) ∧ I s' := by
  refine exec_simulates (R := fun s t => abs s = t ∧ I s) ?_ as s (abs s) ⟨rfl, hI⟩
    (meets_of_true as s)
  rintro s _ a ⟨rfl, hI⟩ -
  exact hstep s a hI

/-- The component with a record next to it, which `note` makes longer at each call. -/
def recorded {τ : Type*} (step : σ → α → Option σ) (note : σ → τ → α → τ) (x : σ × τ) (a : α) :
    Option (σ × τ) :=
  (step x.1 a).map fun s' => (s', note x.1 x.2 a)

/-- **Record rule.**  If under the relation `T` of the state to the record a condition can be read
on the record, and each call that returns keeps the relation, runs meet the condition on the
state if and only if they meet it on the record. -/
theorem meets_recorded {τ : Type*} {T : σ → τ → Prop} {note : σ → τ → α → τ}
    {told : σ × τ → α → Prop} (hok : ∀ s t a, T s t → (ok s a ↔ told (s, t) a))
    (hnote : ∀ s t a s', T s t → step s a = some s' → T s' (note s t a)) :
    ∀ (as : List α) (s : σ) (t : τ), T s t →
      (Meets step ok s as ↔ Meets (recorded step note) told (s, t) as) := by
  intro as
  induction as with
  | nil => exact fun _ _ _ => Iff.rfl
  | cons a as ih =>
    intro s t hT
    refine and_congr (hok s t a hT) ?_
    constructor
    · intro h x hx
      obtain ⟨s', hs, rfl⟩ := Option.map_eq_some_iff.1 hx
      exact (ih s' _ (hnote s t a s' hT hs)).1 (h s' hs)
    · intro h s' hs
      refine (ih s' _ (hnote s t a s' hT hs)).2 (h _ ?_)
      show (step s a).map _ = _
      rw [hs]
      rfl

/-- **Loop rule** for a loop over a list whose body may fault; `I` speaks of what is
left to do and of the state. -/
theorem fold_inv {f : σ → α → Option σ} {I : List α → σ → Prop}
    (hstep : ∀ a as s, I (a :: as) s → ∃ s', f s a = some s' ∧ I as s') :
    ∀ (as : List α) (s : σ), I as s → ∃ s', as.foldlM f s = some s' ∧ I [] s' := by
  intro as
  induction as with
  | nil => exact fun s hI => ⟨s, rfl, hI⟩
  | cons a as ih =>
    intro s hI
    obtain ⟨s₁, hs, hI₁⟩ := hstep a as s hI
    obtain ⟨s₂, hrest, hI₂⟩ := ih s₁ hI₁
    refine ⟨s₂, ?_, hI₂⟩
    rw [List.foldlM_cons, hs]
    exact hrest

end

end Run

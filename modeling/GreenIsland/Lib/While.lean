import Mathlib.Data.Option.Basic

/-! `while` loops.

`run cond body fuel s` makes at most `fuel` turns of `while (cond) body`; `none`
means that the fuel did not suffice.  A loop returns when some fuel suffices
(`Returns`).  A turn that changes nothing is repeated for ever (`run_stuck`).
When each turn lowers a measure or changes nothing, the measure is fuel enough
to settle whether the loop returns (`returns_iff`).  `turns` are the states at which
turns are made; a transitive relation between each and the next holds between all of
them (`pairwise_turns`). -/

namespace While

variable {σ : Type*} {cond : σ → Bool} {body : σ → σ} {s s' : σ}

def run (cond : σ → Bool) (body : σ → σ) : Nat → σ → Option σ
  | fuel, s =>
    if cond s then
      match fuel with
      | 0 => none
      | fuel + 1 => run cond body fuel (body s)
    else some s

/-- The loop ends in `s'`. -/
def Returns (cond : σ → Bool) (body : σ → σ) (s s' : σ) : Prop :=
  ∃ fuel, run cond body fuel s = some s'

theorem run_done (h : cond s = false) (fuel : Nat) : run cond body fuel s = some s := by
  unfold run
  rw [if_neg (by simp [h])]

theorem run_turn (h : cond s = true) (fuel : Nat) :
    run cond body (fuel + 1) s = run cond body fuel (body s) := by
  rw [run, if_pos h]

theorem run_zero (h : cond s = true) : run cond body 0 s = none := by
  rw [run, if_pos h]

/-- A turn that changes nothing is repeated for ever. -/
theorem run_stuck (h : cond s = true) (hfix : body s = s) (fuel : Nat) :
    run cond body fuel s = none := by
  induction fuel with
  | zero => exact run_zero h
  | succ fuel ih => rw [run_turn h, hfix, ih]

/-- A loop that ends after a turn ends. -/
theorem returns_of_turn (h : cond s = true) (hbody : Returns cond body (body s) s') :
    Returns cond body s s' := by
  obtain ⟨fuel, hfuel⟩ := hbody
  exact ⟨fuel + 1, (run_turn h fuel).trans hfuel⟩

/-- **Loop rule.**  When a turn either lowers the measure or repeats itself for
ever, as much fuel as the measure says settles whether the loop returns. -/
theorem returns_iff (measure : σ → Nat) (hzero : ∀ s, measure s = 0 → cond s = false)
    (hturn : ∀ s, cond s = true → measure (body s) < measure s ∨ body s = s) :
    ∀ (n : Nat) (s : σ), measure s ≤ n → ∀ s',
      Returns cond body s s' ↔ run cond body n s = some s' := by
  intro n
  induction n with
  | zero =>
    intro s hn s'
    have hc := hzero s (by omega)
    unfold Returns
    simp only [run_done hc, exists_const]
  | succ n ih =>
    intro s hn s'
    refine ⟨?_, fun h => ⟨_, h⟩⟩
    rintro ⟨fuel, h⟩
    by_cases hc : cond s = true
    · rcases hturn s hc with hlt | hfix
      · rw [run_turn hc]
        cases fuel with
        | zero =>
          rw [run_zero hc] at h
          cases h
        | succ fuel =>
          rw [run_turn hc] at h
          exact (ih (body s) (by omega) s').1 ⟨fuel, h⟩
      · rw [run_stuck hc hfix fuel] at h
        cases h
    · have hc : cond s = false := Bool.eq_false_iff.2 hc
      rw [run_done hc] at h ⊢
      exact h

/-- The states before the turns that `fuel` allows. -/
def turns (cond : σ → Bool) (body : σ → σ) : Nat → σ → List σ
  | 0, _ => []
  | fuel + 1, s => if cond s then s :: turns cond body fuel (body s) else []

theorem turns_done (h : cond s = false) (fuel : Nat) : turns cond body fuel s = [] := by
  cases fuel with
  | zero => rfl
  | succ fuel => rw [turns, if_neg (by simp [h])]

theorem cond_of_mem_turns {t : σ} :
    ∀ {fuel : Nat} {s : σ}, t ∈ turns cond body fuel s → cond t = true := by
  intro fuel
  induction fuel with
  | zero => simp [turns]
  | succ fuel ih =>
    intro s ht
    unfold turns at ht
    split at ht
    · next hc =>
      rcases List.mem_cons.1 ht with rfl | ht
      · exact hc
      · exact ih ht
    · cases ht

theorem self_mem_turns (h : cond s = true) (fuel : Nat) : s ∈ turns cond body (fuel + 1) s := by
  rw [turns, if_pos h]
  exact List.mem_cons_self

theorem mem_turns_of_turn {t : σ} {fuel : Nat} (h : cond s = true)
    (ht : t ∈ turns cond body fuel (body s)) : t ∈ turns cond body (fuel + 1) s := by
  rw [turns, if_pos h]
  exact List.mem_cons_of_mem _ ht

/-- What every turn keeps holds at all turns. -/
theorem forall_mem_turns {I : σ → Prop} (hkeep : ∀ s, I s → cond s = true → I (body s)) :
    ∀ (fuel : Nat) (s : σ), I s → ∀ t ∈ turns cond body fuel s, I t := by
  intro fuel
  induction fuel with
  | zero => simp [turns]
  | succ fuel ih =>
    intro s hs t ht
    unfold turns at ht
    split at ht
    · next hc =>
      rcases List.mem_cons.1 ht with rfl | ht
      · exact hs
      · exact ih _ (hkeep s hs hc) t ht
    · cases ht

/-- **Progress.**  What relates each turn to the next one relates it to all later
ones. -/
theorem pairwise_turns {I : σ → Prop} {r : σ → σ → Prop}
    (htrans : ∀ a b c, r a b → r b c → r a c)
    (hturn : ∀ s, I s → cond s = true → cond (body s) = true → I (body s) ∧ r s (body s)) :
    ∀ (fuel : Nat) (s : σ), I s → (turns cond body fuel s).Pairwise r := by
  intro fuel
  induction fuel with
  | zero => simp [turns]
  | succ fuel ih =>
    intro s hs
    unfold turns
    split
    · next hc =>
      by_cases hnext : cond (body s) = true
      · obtain ⟨hI, hr⟩ := hturn s hs hc hnext
        have hkeep : ∀ t, (cond t = true → I t ∧ r s t) → cond t = true →
            cond (body t) = true → I (body t) ∧ r s (body t) := by
          intro t ht hct hcnext
          obtain ⟨hIt, hrt⟩ := ht hct
          obtain ⟨hIt', hrt'⟩ := hturn t hIt hct hcnext
          exact ⟨hIt', htrans _ _ _ hrt hrt'⟩
        refine List.pairwise_cons.2 ⟨fun t ht => ?_, ih _ hI⟩
        have hall := forall_mem_turns hkeep fuel (body s) (fun _ => ⟨hI, hr⟩) t ht
        exact (hall (cond_of_mem_turns ht)).2
      · rw [turns_done (Bool.eq_false_iff.2 hnext)]
        exact List.pairwise_singleton _ _
    · exact List.Pairwise.nil

end While

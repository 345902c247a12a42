import Mathlib.Order.Defs.Unbundled

/-! Keeping a candidate until something above it comes.

A loop remembers an element and takes another one instead if that is above it.  The
order need not be total, so the elements that are passed over may be neither above nor
below what is remembered; still, nothing that was seen is above it
(`Undominated.keep`). -/

namespace Undominated

variable {α : Type*} (lt : α → α → Prop) [DecidableRel lt]

/-- What is remembered after one more element. -/
def keep (best : Option α) (a : α) : Option α :=
  match best with
  | none => some a
  | some b => if lt b a then some a else some b

/-- What is remembered was seen, and nothing that was seen is above it. -/
structure Best (seen : List α) (best : Option α) : Prop where
  some_iff : best = none ↔ seen = []
  mem : ∀ b ∈ best, b ∈ seen
  top : ∀ b ∈ best, ∀ a ∈ seen, ¬ lt b a

omit [DecidableRel lt] in
theorem best_nil : Best lt [] none := ⟨by simp, by simp, by simp⟩

variable {lt} {seen : List α} {best : Option α}

/-- **One more element.**  What is above the new candidate is above the old one. -/
theorem Best.keep [IsTrans α lt] [Std.Irrefl lt] (h : Best lt seen best) (a : α) :
    Best lt (a :: seen) (keep lt best a) := by
  unfold Undominated.keep
  cases best with
  | none =>
    obtain rfl := h.some_iff.1 rfl
    refine ⟨by simp, by simp, ?_⟩
    rintro _ ⟨⟩ b hb
    rw [List.mem_singleton] at hb
    subst hb
    exact irrefl b
  | some b =>
    dsimp only
    split
    next hlt =>
      refine ⟨by simp, by simp, ?_⟩
      rintro _ ⟨⟩ x hx hax
      rcases List.mem_cons.1 hx with rfl | hx
      · exact irrefl x hax
      · exact h.top b rfl x hx (IsTrans.trans _ _ _ hlt hax)
    next hnot =>
      refine ⟨by simp, ?_, ?_⟩
      · rintro _ ⟨⟩
        exact List.mem_cons_of_mem a (h.mem b rfl)
      · rintro _ ⟨⟩ x hx
        rcases List.mem_cons.1 hx with rfl | hx
        · exact hnot
        · exact h.top b rfl x hx

end Undominated

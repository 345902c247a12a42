import Mathlib.Logic.Function.Basic
import Mathlib.Data.Set.Basic

/-! References between objects that come and go.

Some objects are live.  A root and one field of each object refer to objects or
to none; `NoDangling` says that the root and the fields of live objects refer to
live objects.  Each kind of change has its exact condition: pointing the root or
a live object's field somewhere is fine if the target is live
(`noDangling_root_iff`, `noDangling_field_iff`), and objects may die if the root
and the remaining objects do not refer to them (`noDangling_remove_iff`). -/

namespace Reference

variable {α : Type*}

/-- The root and every live object refer to live objects only. -/
structure NoDangling (live : Set α) (root : Option α) (field : α → Option α) : Prop where
  root : ∀ a, root = some a → a ∈ live
  field : ∀ a ∈ live, ∀ b, field a = some b → b ∈ live

variable {live gone : Set α} {root : Option α} {field : α → Option α} {a : α}

/-- A new object that refers to nothing. -/
theorem NoDangling.insert (h : NoDangling live root field) (ha : field a = none) :
    NoDangling (insert a live) root field where
  root b hb := Or.inr (h.root b hb)
  field b hb c hc := by
    rcases hb with rfl | hb
    · rw [ha] at hc
      cases hc
    · exact Or.inr (h.field b hb c hc)

/-- Fields of objects that are not live do not matter. -/
theorem NoDangling.congr (h : NoDangling live root field) {field' : α → Option α}
    (heq : ∀ a ∈ live, field' a = field a) : NoDangling live root field' where
  root := h.root
  field b hb c hc := h.field b hb c ((heq b hb).symm.trans hc)

theorem noDangling_root_iff (h : NoDangling live root field) :
    NoDangling live (some a) field ↔ a ∈ live := by
  constructor
  · intro h'
    exact h'.root a rfl
  · intro ha
    refine ⟨fun b hb => ?_, h.field⟩
    obtain rfl := Option.some.inj hb
    exact ha

theorem noDangling_field_iff [DecidableEq α] (h : NoDangling live root field) {b : Option α} :
    NoDangling live root (Function.update field a b) ↔ (a ∈ live → ∀ c, b = some c → c ∈ live) := by
  constructor
  · intro h' ha c hc
    refine h'.field a ha c ?_
    rw [Function.update_self]
    exact hc
  · intro hok
    refine ⟨h.root, fun x hx c hc => ?_⟩
    by_cases hxa : x = a
    · subst hxa
      rw [Function.update_self] at hc
      exact hok hx c hc
    · rw [Function.update_of_ne hxa] at hc
      exact h.field x hx c hc

/-- **Death.**  Objects may die exactly if neither the root nor an object that
stays refers to one of them. -/
theorem noDangling_remove_iff (h : NoDangling live root field) :
    NoDangling (live \ gone) root field ↔
      (∀ a, root = some a → a ∉ gone) ∧
        ∀ a ∈ live, a ∉ gone → ∀ b, field a = some b → b ∉ gone := by
  constructor
  · intro h'
    exact ⟨fun a ha => (h'.root a ha).2, fun a ha hn b hb => (h'.field a ⟨ha, hn⟩ b hb).2⟩
  · rintro ⟨hroot, hfield⟩
    exact ⟨fun a ha => ⟨h.root a ha, hroot a ha⟩,
      fun a ha b hb => ⟨h.field a ha.1 b hb, hfield a ha.1 ha.2 b hb⟩⟩

end Reference

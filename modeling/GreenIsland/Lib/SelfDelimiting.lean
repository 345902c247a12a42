import Mathlib.Data.List.Basic
import Mathlib.Logic.Function.Basic

/-! Self-delimiting codes.

A code is self-delimiting when a text that starts with a code word starts with no other
one, so that it can be read from the front.  Codes of one length are, and pairs of such
codes.  A list is then recovered from the code words of its elements put together
(`flatMap_injective`). -/

variable {α β γ δ : Type*}

/-- Whatever follows it, a code word is told from the others. -/
def SelfDelimiting (encode : α → List β) : Prop :=
  ∀ a b x y, encode a ++ x = encode b ++ y → a = b ∧ x = y

namespace SelfDelimiting

theorem of_length {encode : α → List β} (n : Nat) (hlength : ∀ a, (encode a).length = n)
    (hinj : Function.Injective encode) : SelfDelimiting encode := by
  intro a b x y h
  have hlengths : (encode a).length = (encode b).length := (hlength a).trans (hlength b).symm
  obtain ⟨hword, hrest⟩ := List.append_inj h hlengths
  exact ⟨hinj hword, hrest⟩

theorem comp {encode : α → List β} (h : SelfDelimiting encode) {f : γ → α}
    (hf : Function.Injective f) : SelfDelimiting fun c => encode (f c) := by
  intro a b x y hwords
  obtain ⟨hcode, hrest⟩ := h _ _ x y hwords
  exact ⟨hf hcode, hrest⟩

/-- A pair, one after the other. -/
theorem pair {encode : α → List β} {encode' : γ → List β} (h : SelfDelimiting encode)
    (h' : SelfDelimiting encode') :
    SelfDelimiting fun p : α × γ => encode p.1 ++ encode' p.2 := by
  intro a b x y hwords
  rw [List.append_assoc, List.append_assoc] at hwords
  obtain ⟨hfst, hrest⟩ := h _ _ _ _ hwords
  obtain ⟨hsnd, hxy⟩ := h' _ _ x y hrest
  exact ⟨Prod.ext hfst hsnd, hxy⟩

/-- **Decoding.** -/
theorem flatMap_injective {encode : α → List β} (h : SelfDelimiting encode)
    (hne : ∀ a, encode a ≠ []) : Function.Injective (List.flatMap encode) := by
  intro as
  induction as with
  | nil =>
    intro bs heq
    cases bs with
    | nil => rfl
    | cons b bs => exact absurd (List.append_eq_nil_iff.1 heq.symm).1 (hne b)
  | cons a as ih =>
    intro bs heq
    cases bs with
    | nil => exact absurd (List.append_eq_nil_iff.1 heq).1 (hne a)
    | cons b bs =>
      obtain ⟨hword, hrest⟩ := h a b _ _ heq
      rw [hword, ih hrest]

end SelfDelimiting

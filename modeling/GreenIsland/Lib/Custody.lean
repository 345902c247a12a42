import Mathlib.Data.List.Nodup

/-! Things that are taken and given back.

`Custody taken back held`: what was taken is, each thing once, what was given
back and what is held.  Taking a new thing puts it among what is held, giving
back moves one thing from there; so nothing is lost and nothing is given back
twice (`Custody.once`). -/

variable {β : Type*} {taken back held held' : List β} {x : β}

structure Custody (taken back held : List β) : Prop where
  nodup : taken.Nodup
  perm : taken.Perm (back ++ held)

namespace Custody

theorem nil : Custody ([] : List β) [] [] := ⟨List.nodup_nil, List.Perm.nil⟩

/-- The order in which things are held does not matter. -/
theorem perm_held (h : Custody taken back held) (hperm : held.Perm held') :
    Custody taken back held' :=
  ⟨h.nodup, h.perm.trans (hperm.append_left back)⟩

theorem take (h : Custody taken back held) (hx : x ∉ taken) :
    Custody (taken ++ [x]) back (held ++ [x]) := by
  refine ⟨?_, ?_⟩
  · rw [← List.concat_eq_append]
    exact h.nodup.concat hx
  · rw [← List.append_assoc]
    exact h.perm.append_right [x]

theorem giveBack (h : Custody taken back (x :: held)) : Custody taken (back ++ [x]) held := by
  refine ⟨h.nodup, ?_⟩
  rw [List.append_assoc, List.singleton_append]
  exact h.perm

/-- What is held was taken. -/
theorem mem_taken (h : Custody taken back held) (hx : x ∈ held) : x ∈ taken :=
  h.perm.mem_iff.2 (List.mem_append_right back hx)

/-- What is held is held once. -/
theorem nodup_held (h : Custody taken back held) : held.Nodup :=
  (List.nodup_append.1 (h.perm.nodup_iff.1 h.nodup)).2.1

/-- **Exactly once.**  A thing that was taken is held, or was given back once. -/
theorem once [DecidableEq β] (h : Custody taken back held) (hx : x ∈ taken) :
    back.count x + held.count x = 1 := by
  rw [← List.count_append, ← h.perm.count_eq]
  exact List.count_eq_one_of_mem h.nodup hx

/-- What is held was not given back. -/
theorem not_mem_back [DecidableEq β] (h : Custody taken back held) (hx : x ∈ held) : x ∉ back := by
  have honce := h.once (h.mem_taken hx)
  have hpos := List.count_pos_iff.2 hx
  rw [← List.count_eq_zero]
  omega

end Custody

import Mathlib.Data.List.Nodup
import Mathlib.Data.List.Perm.Basic

/-! Lists that are updated by key.

`upsert` replaces the entries that have the key of a new entry, and appends it
if there is none; `merge` does so for a list of new entries, one after the
other.  No key is ever removed.  So when a list of entries is merged into a list
without repeated keys, the result has the same entries as that list exactly when
the list has no key twice and lacks none of the old keys (`merge_perm`,
`of_keys_perm`). -/

namespace Upsert

variable {α κ : Type*} [DecidableEq κ] (key : α → κ)

/-- The entries with the key of `e` become `e`; if there is none `e` is appended. -/
def upsert (l : List α) (e : α) : List α :=
  if l.any fun x => key x = key e then l.map fun x => if key x = key e then e else x else l ++ [e]

def merge (l es : List α) : List α := es.foldl (upsert key) l

variable {key} {l es : List α} {e x : α}

theorem mem_upsert : x ∈ upsert key l e ↔ x = e ∨ x ∈ l ∧ key x ≠ key e := by
  unfold upsert
  split
  · next hany =>
    obtain ⟨y, hy, hkey⟩ := List.any_eq_true.1 hany
    have hkey : key y = key e := of_decide_eq_true hkey
    rw [List.mem_map]
    constructor
    · rintro ⟨z, hz, rfl⟩
      split
      · exact Or.inl rfl
      · next hne => exact Or.inr ⟨hz, hne⟩
    · rintro (rfl | ⟨hx, hne⟩)
      · exact ⟨y, hy, if_pos hkey⟩
      · exact ⟨x, hx, if_neg hne⟩
  · next hany =>
    rw [List.mem_append, List.mem_singleton]
    constructor
    · rintro (hx | rfl)
      · refine Or.inr ⟨hx, fun hkey => hany ?_⟩
        exact List.any_eq_true.2 ⟨x, hx, decide_eq_true hkey⟩
      · exact Or.inl rfl
    · rintro (rfl | ⟨hx, -⟩)
      · exact Or.inr rfl
      · exact Or.inl hx

theorem nodup_upsert (h : (l.map key).Nodup) : ((upsert key l e).map key).Nodup := by
  unfold upsert
  split
  · have hmap : ((l.map fun x => if key x = key e then e else x).map key) = l.map key := by
      rw [List.map_map]
      refine List.map_congr_left fun x _ => ?_
      show key (if key x = key e then e else x) = key x
      split
      · next hkey => exact hkey.symm
      · rfl
    rwa [hmap]
  · next hany =>
    rw [List.map_append, List.map_singleton]
    refine List.nodup_append.2 ⟨h, List.nodup_singleton _, ?_⟩
    rintro k hk k' hk' rfl
    obtain ⟨x, hx, rfl⟩ := List.mem_map.1 hk
    refine hany (List.any_eq_true.2 ⟨x, hx, decide_eq_true ?_⟩)
    exact List.mem_singleton.1 hk'

theorem key_mem_upsert {k : κ} : k ∈ (upsert key l e).map key ↔ k = key e ∨ k ∈ l.map key := by
  simp only [List.mem_map, mem_upsert]
  constructor
  · rintro ⟨x, rfl | ⟨hx, -⟩, rfl⟩
    · exact Or.inl rfl
    · exact Or.inr ⟨x, hx, rfl⟩
  · rintro (rfl | ⟨x, hx, rfl⟩)
    · exact ⟨e, Or.inl rfl, rfl⟩
    · by_cases hkey : key x = key e
      · exact ⟨e, Or.inl rfl, hkey.symm⟩
      · exact ⟨x, Or.inr ⟨hx, hkey⟩, rfl⟩

theorem nodup_merge (h : (l.map key).Nodup) (es : List α) : ((merge key l es).map key).Nodup := by
  induction es generalizing l with
  | nil => exact h
  | cons e es ih => exact ih (nodup_upsert h)

theorem key_mem_merge {k : κ} :
    k ∈ (merge key l es).map key ↔ k ∈ l.map key ∨ k ∈ es.map key := by
  induction es generalizing l with
  | nil => simp [merge]
  | cons e es ih =>
    show k ∈ (merge key (upsert key l e) es).map key ↔ _
    rw [ih, key_mem_upsert, List.map_cons, List.mem_cons]
    tauto

/-- When no key is repeated the last entry for each key is there. -/
theorem mem_merge (h : (es.map key).Nodup) :
    x ∈ merge key l es ↔ x ∈ es ∨ x ∈ l ∧ key x ∉ es.map key := by
  induction es generalizing l with
  | nil => simp [merge]
  | cons e es ih =>
    obtain ⟨he, hnodup⟩ := List.nodup_cons.1 h
    show x ∈ merge key (upsert key l e) es ↔ _
    rw [ih hnodup, mem_upsert, List.map_cons, List.mem_cons, List.mem_cons, not_or]
    constructor
    · rintro (hx | ⟨rfl | ⟨hx, hne⟩, hkey⟩)
      · exact Or.inl (Or.inr hx)
      · exact Or.inl (Or.inl rfl)
      · exact Or.inr ⟨hx, hne, hkey⟩
    · rintro ((rfl | hx) | ⟨hx, hne, hkey⟩)
      · exact Or.inr ⟨Or.inl rfl, he⟩
      · exact Or.inl hx
      · exact Or.inr ⟨Or.inr ⟨hx, hne⟩, hkey⟩

/-- **What a merge has to be given.**  No key twice, and every old key. -/
theorem merge_perm (h : (l.map key).Nodup) (hes : (es.map key).Nodup)
    (hsub : l.map key ⊆ es.map key) : (merge key l es).Perm es := by
  rw [List.perm_ext_iff_of_nodup (nodup_merge h es).of_map hes.of_map]
  intro x
  rw [mem_merge hes]
  refine ⟨fun hx => hx.resolve_right ?_, Or.inl⟩
  rintro ⟨hx, hkey⟩
  exact hkey (hsub (List.mem_map_of_mem hx))

/-- Without that even the keys differ. -/
theorem of_keys_perm (h : (l.map key).Nodup) (hp : ((merge key l es).map key).Perm (es.map key)) :
    (es.map key).Nodup ∧ l.map key ⊆ es.map key :=
  ⟨hp.nodup_iff.1 (nodup_merge h es), fun _ hk => hp.subset (key_mem_merge.2 (Or.inl hk))⟩

section
omit [DecidableEq κ]

/-- Replacing one of different keys loses it. -/
theorem subset_set_iff {l : List κ} (h : l.Nodup) {n : Nat} {a b : κ} (ha : l[n]? = some a) :
    l ⊆ l.set n b ↔ b = a := by
  obtain ⟨hlt, hat⟩ := List.getElem?_eq_some_iff.1 ha
  constructor
  · intro hsub
    obtain ⟨k, hk⟩ := List.mem_iff_getElem?.1 (hsub (List.mem_of_getElem? ha))
    by_cases hnk : n = k
    · subst hnk
      rw [List.getElem?_set_self hlt] at hk
      exact Option.some.inj hk
    · rw [List.getElem?_set_ne hnk] at hk
      exact absurd ((List.getElem?_inj hlt h).1 (ha.trans hk.symm)) hnk
  · rintro rfl
    subst hat
    rw [List.set_getElem_self]
    exact List.Subset.refl l

/-- Two lists with the same distinct keys in the same order are equal once they
have the same entries. -/
theorem eq_of_perm {l' : List α} (h : (l.map key).Nodup) (hkeys : l'.map key = l.map key)
    (hp : l'.Perm l) : l' = l := by
  refine List.ext_getElem? fun n => ?_
  cases hn : l'[n]? with
  | none =>
    have hlen : l'.length = l.length := by simpa using congrArg List.length hkeys
    rw [List.getElem?_eq_none_iff] at hn
    exact (List.getElem?_eq_none (hlen ▸ hn)).symm
  | some x =>
    obtain ⟨n', hn'⟩ := List.mem_iff_getElem?.1 (hp.subset (List.mem_of_getElem? hn))
    have hkey : (l.map key)[n]? = (l.map key)[n']? := by
      rw [← hkeys, List.getElem?_map, hn, hkeys, List.getElem?_map, hn']
    have hlt : n < (l.map key).length := by
      rw [← hkeys, List.length_map]
      exact (List.getElem?_eq_some_iff.1 hn).1
    rw [(List.getElem?_inj hlt h).1 hkey, hn']

end

end Upsert

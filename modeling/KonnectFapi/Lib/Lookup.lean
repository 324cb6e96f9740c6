import Mathlib.Data.List.Basic
import Mathlib.Data.List.Perm.Basic

/-!
# Association lists with distinct keys

What is found under a key depends on the entries only, not on their order.
-/

namespace KonnectFapi.Lib

variable {κ α : Type} [BEq κ] [LawfulBEq κ]

theorem mem_of_lookup_eq_some {entries : List (κ × α)} {key : κ} {v : α}
    (h : entries.lookup key = some v) : (key, v) ∈ entries := by
  induction entries with
  | nil => cases h
  | cons m rest ih =>
    obtain ⟨n, w⟩ := m
    rw [List.lookup_cons] at h
    split at h
    · rename_i hkey
      cases h
      rw [eq_of_beq hkey]
      exact List.mem_cons_self
    · exact List.mem_cons_of_mem _ (ih h)

theorem lookup_eq_some_of_mem {entries : List (κ × α)} (h : (entries.map Prod.fst).Nodup)
    {key : κ} {v : α} (hmem : (key, v) ∈ entries) : entries.lookup key = some v := by
  induction entries with
  | nil => cases hmem
  | cons m rest ih =>
    obtain ⟨n, w⟩ := m
    obtain ⟨hfresh, hrest⟩ := List.nodup_cons.mp h
    rw [List.lookup_cons]
    rcases List.mem_cons.mp hmem with hhead | hmem
    · cases hhead
      simp
    · have hne : (key == n) = false := by
        refine beq_eq_false_iff_ne.mpr fun heq => hfresh ?_
        exact heq ▸ List.mem_map.mpr ⟨(key, v), hmem, rfl⟩
      rw [hne]
      exact ih hrest hmem

theorem lookup_eq_some_iff {entries : List (κ × α)} (h : (entries.map Prod.fst).Nodup) {key : κ}
    {v : α} : entries.lookup key = some v ↔ (key, v) ∈ entries :=
  ⟨mem_of_lookup_eq_some, lookup_eq_some_of_mem h⟩

/-- Lists of the same entries have the same meaning. -/
theorem lookup_perm {xs ys : List (κ × α)} (h : xs.Perm ys) (hx : (xs.map Prod.fst).Nodup)
    (key : κ) : xs.lookup key = ys.lookup key := by
  have hy : (ys.map Prod.fst).Nodup := (h.map Prod.fst).nodup_iff.mp hx
  apply Option.ext
  intro v
  rw [lookup_eq_some_iff hx, lookup_eq_some_iff hy]
  exact h.mem_iff

end KonnectFapi.Lib

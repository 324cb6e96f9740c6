import Mathlib.Data.List.Lex
import Mathlib.Data.List.Sort
import Mathlib.Data.Prod.Lex

/-!
# Sorting on a key

Where no two elements have one key, the sorted list depends on the elements only.
-/

namespace KonnectFapi.Lib

variable {α β κ : Type} [LinearOrder κ]

/-- `sorted(items, key=key)`. -/
def sortOn (key : α → κ) (items : List α) : List α :=
  items.insertionSort fun a b => key a ≤ key b

theorem sortOn_perm (key : α → κ) (items : List α) : (sortOn key items).Perm items :=
  List.perm_insertionSort _ _

@[simp] theorem mem_sortOn {key : α → κ} {items : List α} {a : α} :
    a ∈ sortOn key items ↔ a ∈ items := (sortOn_perm key items).mem_iff

theorem sortOn_pairwise (key : α → κ) (items : List α) :
    (sortOn key items).Pairwise fun a b => key a ≤ key b := by
  have : IsTrans α fun a b => key a ≤ key b := ⟨fun _ _ _ => le_trans⟩
  have : Std.Total fun a b : α => key a ≤ key b := ⟨fun a b => le_total (key a) (key b)⟩
  exact List.pairwise_insertionSort _ _

/-- A list in order stays as it is. -/
theorem sortOn_eq_self {key : α → κ} {items : List α}
    (h : items.Pairwise fun a b => key a ≤ key b) : sortOn key items = items :=
  List.Pairwise.insertionSort_eq h

@[simp] theorem sortOn_sortOn (key : α → κ) (items : List α) :
    sortOn key (sortOn key items) = sortOn key items := sortOn_eq_self (sortOn_pairwise key items)

theorem nodup_sortOn {key : α → κ} {items : List α} (h : (items.map key).Nodup) :
    ((sortOn key items).map key).Nodup := ((sortOn_perm key items).map key).nodup_iff.mpr h

theorem sortOn_eq_of_perm {key : α → κ} {xs ys : List α} (h : xs.Perm ys)
    (hkeys : (xs.map key).Nodup) : sortOn key xs = sortOn key ys := by
  have hperm := ((sortOn_perm key xs).trans h).trans (sortOn_perm key ys).symm
  refine List.Perm.eq_of_pairwise ?_ (sortOn_pairwise key xs) (sortOn_pairwise key ys) hperm
  intro a b ha hb hab hba
  have hb' : b ∈ xs := h.mem_iff.mpr (mem_sortOn.mp hb)
  exact List.inj_on_of_nodup_map hkeys (mem_sortOn.mp ha) hb' (le_antisymm hab hba)

/-- Two lists are sorted to one list exactly when they hold the same elements. -/
theorem sortOn_eq_iff {key : α → κ} {xs ys : List α} (hkeys : (xs.map key).Nodup) :
    sortOn key xs = sortOn key ys ↔ xs.Perm ys := by
  refine ⟨fun h => ?_, fun h => sortOn_eq_of_perm h hkeys⟩
  exact ((sortOn_perm key xs).symm.trans (h ▸ List.Perm.refl _)).trans (sortOn_perm key ys)

theorem map_sortOn {key : α → κ} {k : β → κ} {f : α → β} {items : List α}
    (h : ∀ a ∈ items, k (f a) = key a) : (sortOn key items).map f = sortOn k (items.map f) :=
  List.map_insertionSort _ _ f items fun a ha b hb => by rw [h a ha, h b hb]

end KonnectFapi.Lib

import Mathlib.Data.List.Perm.Basic
import Mathlib.Data.List.Nodup

/-!
# At-most-once ledgers

An operation is admitted by entering its key in a ledger that does not hold it
yet. From then on it is waiting or settled, and moves from the first to the second
at most once. `Accounts` says that the ledger's entries are exactly the keys of
the operations waiting and settled; every rule below preserves it, and it makes
the operations pairwise distinct.
-/

namespace KonnectFapi.Lib.Ledger

variable {ο κ : Type*}

/-- The entries are the keys of what is settled and what is waiting, each once. -/
structure Accounts (key : ο → Option κ) (entered : List κ) (settled waiting : List ο) : Prop where
  keys : ((settled ++ waiting).map key).Perm (entered.map some)
  distinct : entered.Nodup

variable {key : ο → Option κ} {entered : List κ} {settled waiting : List ο}

theorem Accounts.empty : Accounts key [] [] [] := ⟨List.Perm.refl _, List.nodup_nil⟩

/-- A fresh operation that is settled at once. -/
theorem Accounts.settle (h : Accounts key entered settled waiting) {op : ο} {k : κ}
    (hkey : key op = some k) (fresh : k ∉ entered) :
    Accounts key (k :: entered) (settled ++ [op]) waiting where
  keys := by
    have moved : (settled ++ [op] ++ waiting).Perm (op :: (settled ++ waiting)) := by
      rw [List.append_assoc]
      exact List.perm_middle
    refine (moved.map key).trans ?_
    rw [List.map_cons, List.map_cons, hkey]
    exact h.keys.cons _
  distinct := List.nodup_cons.mpr ⟨fresh, h.distinct⟩

/-- A fresh operation that has to wait. -/
theorem Accounts.wait (h : Accounts key entered settled waiting) {op : ο} {k : κ}
    (hkey : key op = some k) (fresh : k ∉ entered) :
    Accounts key (k :: entered) settled (waiting ++ [op]) where
  keys := by
    have moved : (settled ++ (waiting ++ [op])).Perm (op :: (settled ++ waiting)) := by
      rw [← List.append_assoc]
      exact List.perm_append_singleton op _
    refine (moved.map key).trans ?_
    rw [List.map_cons, List.map_cons, hkey]
    exact h.keys.cons _
  distinct := List.nodup_cons.mpr ⟨fresh, h.distinct⟩

/-- A waiting operation is settled without another entry. -/
theorem Accounts.settle_waiting {waiting' : List ο} (h : Accounts key entered settled waiting)
    {op : ο} (was : waiting.Perm (op :: waiting')) :
    Accounts key entered (settled ++ [op]) waiting' where
  keys := by
    have moved : (settled ++ [op] ++ waiting').Perm (settled ++ waiting) := by
      rw [List.append_assoc]
      exact was.symm.append_left settled
    exact (moved.map key).trans h.keys
  distinct := h.distinct

/-- What is settled or waiting is pairwise distinct. -/
theorem Accounts.nodup (h : Accounts key entered settled waiting) : (settled ++ waiting).Nodup := by
  refine List.Nodup.of_map key ?_
  rw [h.keys.nodup_iff]
  exact h.distinct.map fun _ _ => Option.some.inj

theorem Accounts.mem_entered (h : Accounts key entered settled waiting) {k : κ} :
    k ∈ entered ↔ ∃ op ∈ settled ++ waiting, key op = some k := by
  have same := h.keys.mem_iff (a := some k)
  simp only [List.mem_map, Option.some.injEq, exists_eq_right] at same
  exact same.symm

/-- An entry that only one operation has as its key is there on its account. -/
theorem Accounts.mem_of_entered (h : Accounts key entered settled waiting) {op : ο} {k : κ}
    (hk : k ∈ entered) (injective : ∀ op', key op' = some k → op' = op) :
    op ∈ settled ++ waiting := by
  obtain ⟨op', hmem, hkey'⟩ := h.mem_entered.mp hk
  exact injective op' hkey' ▸ hmem

/-! ## Projections of a list that grows or has one element replaced -/

variable {α β : Type*}

theorem filterMap_append_one (f : α → Option β) (l : List α) (a : α) :
    (l ++ [a]).filterMap f = l.filterMap f ++ (f a).toList := by
  rw [List.filterMap_append]
  cases h : f a <;> simp [h]

theorem getElem?_concat_eq_some {l : List α} {a b : α} {k : Nat} (h : (l ++ [a])[k]? = some b) :
    l[k]? = some b ∨ k = l.length ∧ b = a := by
  rcases Nat.lt_trichotomy k l.length with old | rfl | outside
  · exact Or.inl (by rwa [List.getElem?_append_left old] at h)
  · rw [List.getElem?_concat_length] at h
    exact Or.inr ⟨rfl, (Option.some.inj h).symm⟩
  · rw [List.getElem?_eq_none (by simp; omega)] at h
    cases h

theorem filterMap_set_of_eq {f : α → Option β} {l : List α} {k : Nat} {a b : α}
    (h : l[k]? = some a) (same : f b = f a) : (l.set k b).filterMap f = l.filterMap f := by
  induction l generalizing k with
  | nil => simp
  | cons x rest ih =>
    cases k with
    | zero =>
      cases h
      simp [List.filterMap_cons, same]
    | succ k => simp [List.filterMap_cons, ih h]

/-- Replacing an element that shows by one that does not removes what it shows. -/
theorem filterMap_set_perm {f : α → Option β} {l : List α} {k : Nat} {a b : α} {x : β}
    (h : l[k]? = some a) (shown : f a = some x) (hidden : f b = none) :
    (l.filterMap f).Perm (x :: (l.set k b).filterMap f) := by
  induction l generalizing k with
  | nil => cases h
  | cons y rest ih =>
    cases k with
    | zero =>
      cases h
      simp [shown, hidden]
    | succ k =>
      cases hy : f y with
      | none => simpa [List.filterMap_cons, hy] using ih h
      | some z =>
        simp only [List.set_cons_succ, List.filterMap_cons, hy]
        exact ((ih h).cons z).trans (List.Perm.swap ..)

/-- Replacing an element that shows by another replaces what it shows. -/
theorem filterMap_set_of_some {f : α → Option β} {l : List α} {k : Nat} {a b : α} {x y : β}
    (h : l[k]? = some a) (was : f a = some x) (is : f b = some y) :
    (l.set k b).filterMap f = (l.filterMap f).set ((l.take k).filterMap f).length y := by
  induction l generalizing k with
  | nil => cases h
  | cons z rest ih =>
    cases k with
    | zero =>
      cases h
      simp [was, is]
    | succ k => cases hz : f z <;> simp [hz, ih h]

/-- It moves nothing that other elements show. -/
theorem length_filterMap_take_set {f : α → Option β} {l : List α} {k : Nat} {a b : α}
    (h : l[k]? = some a) (both : (f b).isSome = (f a).isSome) (j : Nat) :
    (((l.set k b).take j).filterMap f).length = ((l.take j).filterMap f).length := by
  rw [List.take_set]
  by_cases inside : k < j
  · have h : (l.take j)[k]? = some a := by rw [List.getElem?_take_of_lt inside, h]
    cases was : f a with
    | none => rw [filterMap_set_of_eq h (by simpa [was] using both)]
    | some x =>
      obtain ⟨y, is⟩ := Option.isSome_iff_exists.mp (both.trans (by rw [was]; rfl))
      rw [filterMap_set_of_some h was is, List.length_set]
  · rw [List.set_eq_of_length_le (by simp; omega)]

end KonnectFapi.Lib.Ledger

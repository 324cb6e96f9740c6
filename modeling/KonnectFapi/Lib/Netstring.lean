import KonnectFapi.Lib.ByteString

/-!
# Length-prefixed strings

A byte string behind its decimal length and a colon ends where its length says,
whatever bytes it holds, so what stands behind it is read off as well. A list of
codes with that property is read back from their join.
-/

namespace KonnectFapi.Lib

theorem isDigit_of_mem_decimal {n : Nat} {b : Byte} (h : b ∈ decimal n) : isDigit b = true := by
  induction n using Nat.strongRecOn with
  | ind n ih =>
    have one : ∀ k < 10, isDigit (UInt8.ofNat (48 + k)) = true := by decide
    by_cases small : n < 10
    · rw [decimal_base small, List.mem_singleton] at h
      exact h ▸ one n small
    · rw [decimal_step (Nat.le_of_not_lt small)] at h
      rcases List.mem_append.mp h with front | last
      · exact ih (n / 10) (by omega) front
      · rw [List.mem_singleton.mp last]
        exact one (n % 10) (Nat.mod_lt n (by decide))

/-- A numeral denotes the number it was written for. -/
theorem numeral_decimal (n : Nat) : numeral (decimal n) = n := by
  induction n using Nat.strongRecOn with
  | ind n ih =>
    have one : ∀ k < 10, (UInt8.ofNat (48 + k)).toNat - 48 = k := by decide
    by_cases small : n < 10
    · rw [decimal_base small]
      simpa [numeral] using one n small
    · have front := ih (n / 10) (by omega)
      have last := one (n % 10) (Nat.mod_lt n (by decide))
      rw [decimal_step (Nat.le_of_not_lt small), numeral, List.foldl_append, ← numeral, front,
        List.foldl_cons, List.foldl_nil, last]
      omega

theorem decimal_injective : Function.Injective decimal := by
  intro m n h
  rw [← numeral_decimal m, h, numeral_decimal]

/-- `#bs .. ":" .. bs` -/
def netstring (bs : Bytes) : Bytes := decimal bs.length ++ ascii ":" ++ bs

/-- A length-prefixed string ends where its length says. -/
theorem netstring_append {a b r s : Bytes} (h : netstring a ++ r = netstring b ++ s) :
    a = b ∧ r = s := by
  have taken : ∀ a r : Bytes, (netstring a ++ r).takeWhile isDigit = decimal a.length := by
    intro a r
    have colon : ascii ":" = [58] := by decide +kernel
    rw [netstring, List.append_assoc, List.append_assoc, colon]
    exact takeWhile_run (fun b hb => isDigit_of_mem_decimal hb) rfl
  have lengths : a.length = b.length := by
    apply decimal_injective
    rw [← taken a r, h, taken b s]
  simp only [netstring, lengths, List.append_assoc, List.append_cancel_left_eq] at h
  exact List.append_inj h lengths

theorem netstring_ne_nil (a : Bytes) : netstring a ≠ [] := by
  simp [netstring, ascii]

/-- A code whose end can be told is read back from joined codes. -/
theorem join_injective {α : Type*} {code : α → Bytes} (sep : Bytes)
    (ends : ∀ a b r s, code a ++ r = code b ++ s → a = b ∧ r = s) (nonempty : ∀ a, code a ≠ [])
    {xs ys : List α} (h : join sep (xs.map code) = join sep (ys.map code)) : xs = ys := by
  have split : ∀ a rest, join sep ((a :: rest : List α).map code) =
      code a ++ (if rest = [] then [] else sep ++ join sep (rest.map code)) := by
    intro a rest
    cases rest <;> simp [join]
  have filled : ∀ rest : List α, rest ≠ [] → join sep (rest.map code) ≠ [] := by
    intro rest some
    obtain ⟨a, more, rfl⟩ := List.exists_cons_of_ne_nil some
    rw [split]
    exact fun empty => nonempty a (List.append_eq_nil_iff.mp empty).1
  induction xs generalizing ys with
  | nil =>
    by_contra some
    exact filled ys (Ne.symm some) h.symm
  | cons x xs ih =>
    cases ys with
    | nil => exact absurd h (filled _ (List.cons_ne_nil x xs))
    | cons y ys =>
      rw [split, split] at h
      obtain ⟨rfl, rest⟩ := ends _ _ _ _ h
      by_cases first : xs = [] <;> by_cases second : ys = []
      · rw [first, second]
      · rw [if_pos first, if_neg second] at rest
        exact absurd (List.append_eq_nil_iff.mp rest.symm).2 (filled ys second)
      · rw [if_neg first, if_pos second] at rest
        exact absurd (List.append_eq_nil_iff.mp rest).2 (filled xs first)
      · rw [if_neg first, if_neg second] at rest
        rw [ih (List.append_cancel_left rest)]

end KonnectFapi.Lib

import Mathlib.Data.List.Infix

/-!
# Occurrences in text with a separator

A pattern that neither contains a separator, nor lies in it, nor overlaps it at an
end, occurs in pieces joined by that separator only within one of the pieces.
-/

namespace KonnectFapi.Lib

variable {α : Type*}

/-- No occurrence of `pattern` meets an occurrence of `separator`, in any text. -/
structure Apart (pattern separator : List α) : Prop where
  outside : ¬ pattern <:+: separator
  around : ¬ separator <:+: pattern
  before : ∀ o, o ≠ [] → o ≠ pattern → o <:+ pattern → ¬ o <+: separator
  after : ∀ o, o ≠ [] → o ≠ separator → o <:+ separator → ¬ o <+: pattern

/-- Patterns without a character of the separator are apart from it. -/
theorem Apart.of_disjoint {pattern separator : List α} (pattern_ne : pattern ≠ [])
    (separator_ne : separator ≠ []) (disjoint : ∀ c ∈ pattern, c ∉ separator) :
    Apart pattern separator := by
  have share : ∀ o : List α, o ≠ [] → o ⊆ pattern → ¬ o ⊆ separator := by
    intro o nonempty inPattern inSeparator
    obtain ⟨c, rest, rfl⟩ := List.exists_cons_of_ne_nil nonempty
    exact disjoint c (inPattern List.mem_cons_self) (inSeparator List.mem_cons_self)
  constructor
  · exact fun h => share pattern pattern_ne (List.Subset.refl _) h.subset
  · exact fun h => share separator separator_ne h.subset (List.Subset.refl _)
  · exact fun o nonempty _ h h' => share o nonempty h.subset h'.subset
  · exact fun o nonempty _ h h' => share o nonempty h'.subset h.subset

variable {pattern separator : List α}

/-- An occurrence that starts no later than the separator ends before it. -/
theorem Apart.ends_before {a v y : List α} (apart : Apart pattern separator)
    (h : pattern ++ y = a ++ (separator ++ v)) : pattern <+: a := by
  rcases List.append_eq_append_iff.mp h with ⟨b, hb, -⟩ | ⟨b, hb, h⟩
  · exact ⟨b, hb.symm⟩
  · by_cases nonempty : b = []
    · subst nonempty
      rw [List.append_nil] at hb
      rw [hb]
    · have ending : b <:+ pattern := ⟨a, hb.symm⟩
      exfalso
      rcases List.append_eq_append_iff.mp h with ⟨c, hc, -⟩ | ⟨c, hc, -⟩
      · exact apart.around ((hc ▸ List.prefix_append separator c).isInfix.trans ending.isInfix)
      · have beginning : b <+: separator := ⟨c, hc.symm⟩
        by_cases whole : b = pattern
        · exact apart.outside (whole ▸ beginning.isInfix)
        · exact apart.before b nonempty whole ending beginning

/-- An occurrence that starts no earlier than the separator starts after it. -/
theorem Apart.starts_after {a v y : List α} (apart : Apart pattern separator)
    (h : separator ++ v = a ++ (pattern ++ y)) : pattern <:+: v := by
  rcases List.append_eq_append_iff.mp h with ⟨b, -, hb⟩ | ⟨b, hb, h⟩
  · exact ⟨b, y, by rw [hb, List.append_assoc]⟩
  · by_cases nonempty : b = []
    · subst nonempty
      exact ⟨[], y, by simpa using h⟩
    · have ending : b <:+ separator := ⟨a, hb.symm⟩
      exfalso
      rcases List.append_eq_append_iff.mp h with ⟨c, hc, -⟩ | ⟨c, hc, -⟩
      · exact apart.outside ((hc ▸ List.prefix_append pattern c).isInfix.trans ending.isInfix)
      · have beginning : b <+: pattern := ⟨c, hc.symm⟩
        by_cases whole : b = separator
        · exact apart.around (whole ▸ beginning.isInfix)
        · exact apart.after b nonempty whole ending beginning

/-- An occurrence around a separator lies on one side of it. -/
theorem Apart.infix_or_infix {u v : List α} (apart : Apart pattern separator)
    (h : pattern <:+: u ++ separator ++ v) : pattern <:+: u ∨ pattern <:+: v := by
  obtain ⟨x, y, h⟩ := h
  rw [List.append_assoc, List.append_assoc] at h
  rcases List.append_eq_append_iff.mp h with ⟨a, hu, h⟩ | ⟨a, -, h⟩
  · have inside := (apart.ends_before h).isInfix.trans (List.suffix_append x a).isInfix
    exact .inl (hu ▸ inside)
  · exact .inr (apart.starts_after h)

/-- An occurrence in joined pieces lies in one of them. -/
theorem Apart.infix_piece (apart : Apart pattern separator) {pieces : List (List α)}
    (h : pattern <:+: separator.intercalate pieces) : ∃ piece ∈ pieces, pattern <:+: piece := by
  induction pieces with
  | nil =>
    rw [List.intercalate_nil, List.infix_nil] at h
    exact absurd (h ▸ List.nil_infix) apart.outside
  | cons first rest ih =>
    by_cases more : rest = []
    · subst more
      rw [List.intercalate_singleton] at h
      exact ⟨first, List.mem_cons_self, h⟩
    · rw [List.intercalate_cons_of_ne_nil more] at h
      rcases apart.infix_or_infix h with inFirst | inRest
      · exact ⟨first, List.mem_cons_self, inFirst⟩
      · obtain ⟨piece, mem, found⟩ := ih inRest
        exact ⟨piece, List.mem_cons_of_mem first mem, found⟩

/-- Every piece occurs in the joined text. -/
theorem infix_intercalate {pieces : List (List α)} {piece : List α} (h : piece ∈ pieces) :
    piece <:+: separator.intercalate pieces := by
  induction pieces with
  | nil => cases h
  | cons first rest ih =>
    by_cases more : rest = []
    · subst more
      rw [List.intercalate_singleton, List.mem_singleton.mp h]
    · rw [List.intercalate_cons_of_ne_nil more]
      rcases List.mem_cons.mp h with rfl | h
      · exact ⟨[], separator ++ separator.intercalate rest, by simp⟩
      · exact (ih h).trans (List.suffix_append _ _).isInfix

end KonnectFapi.Lib

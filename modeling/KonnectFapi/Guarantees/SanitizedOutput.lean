import Mathlib.Data.List.Dedup
import KonnectFapi.Lib.Separated
import KonnectFapi.Source.RuntimeDiff

/-!
# No secret is left in sanitized output

`sanitize_output` replaces the PEM blocks and then one secret after the other, the
longest first. Each replacement leaves pieces of the text it was given, joined by the
placeholder: a secret apart from the placeholder can occur in one of the pieces only,
so what was absent stays absent, in whatever order the secrets come.

Source: scripts/run-deck.py:63-73
-/

namespace KonnectFapi.Guarantees

open KonnectFapi.Lib
open KonnectFapi.Source.RuntimeDiff

theorem replaceFrom_skip (old new : Text) (skip : Nat) (t : Text) :
    replaceFrom old new skip t = replaceFrom old new 0 (t.drop skip) := by
  induction t generalizing skip with
  | nil => simp [replaceFrom]
  | cons c rest ih =>
    cases skip with
    | zero => rfl
    | succ skip => simpa [replaceFrom] using ih skip

/-- Replacing keeps the pieces between the occurrences, and none of them contains
another one. -/
theorem replaceFrom_pieces {old : Text} (nonempty : old ≠ []) (new t : Text) :
    ∃ pieces, pieces ≠ [] ∧ t = old.intercalate pieces ∧
      replaceFrom old new 0 t = new.intercalate pieces ∧ ∀ piece ∈ pieces, ¬ old <:+: piece := by
  induction hn : t.length using Nat.strongRecOn generalizing t with
  | ind n ih =>
    cases t with
    | nil =>
      refine ⟨[[]], List.cons_ne_nil _ _, by simp, by simp [replaceFrom], ?_⟩
      simpa using nonempty
    | cons c rest =>
      by_cases found : old <+: c :: rest
      · obtain ⟨t, split⟩ := found
        have shorter : t.length < n := by
          have lengths := congrArg List.length split
          rw [List.length_append, hn] at lengths
          have := List.length_pos_of_ne_nil nonempty
          omega
        obtain ⟨pieces, more, joined, replaced, clean⟩ := ih t.length shorter t rfl
        have behind : rest.drop (old.length - 1) = t := by
          have := congrArg (List.drop old.length) split
          rw [List.drop_left] at this
          rw [this, ← List.drop_succ_cons, Nat.sub_add_cancel (List.length_pos_of_ne_nil nonempty)]
        refine ⟨[] :: pieces, List.cons_ne_nil _ _, ?_, ?_, ?_⟩
        · rw [List.intercalate_cons_of_ne_nil more, List.nil_append, ← joined, split]
        · have prefixed : old.isPrefixOf (c :: rest) = true :=
            List.isPrefixOf_iff_prefix.mpr ⟨t, split⟩
          rw [List.intercalate_cons_of_ne_nil more, List.nil_append, ← replaced, replaceFrom,
            if_pos prefixed, replaceFrom_skip, behind]
        · exact List.forall_mem_cons.mpr ⟨by simpa using nonempty, clean⟩
      · obtain ⟨pieces, more, joined, replaced, clean⟩ := ih rest.length (by simp [← hn]) rest rfl
        obtain ⟨first, others, rfl⟩ := List.exists_cons_of_ne_nil more
        refine ⟨(c :: first) :: others, List.cons_ne_nil _ _, ?_, ?_, ?_⟩
        · rw [List.intercalate_cons_cons_left, ← joined]
        · rw [List.intercalate_cons_cons_left, ← replaced, replaceFrom,
            if_neg fun prefixed => found (List.isPrefixOf_iff_prefix.mp prefixed)]
        · obtain ⟨here, later⟩ := List.forall_mem_cons.mp clean
          refine List.forall_mem_cons.mpr ⟨fun occurs => ?_, later⟩
          -- an occurrence at the start of the piece would be one at the start of the text
          rcases List.infix_cons_iff.mp occurs with start | inside
          · have reaches : first <+: rest := by
              rw [joined]
              cases others with
              | nil => simp
              | cons next others =>
                rw [List.intercalate_cons_cons, List.append_assoc]
                exact List.prefix_append _ _
            exact found (start.trans (List.cons_prefix_cons.mpr ⟨rfl, reaches⟩))
          · exact here inside

/-- A replacement neither leaves an occurrence of what it replaces nor makes one of
what was absent. -/
theorem absent_of_replaced {secret old new t : Text} (nonempty : old ≠ [])
    (apart : Apart secret new) (h : secret = old ∨ ¬ secret <:+: t) :
    ¬ secret <:+: replaceFrom old new 0 t := by
  obtain ⟨pieces, -, joined, replaced, clean⟩ := replaceFrom_pieces nonempty new t
  rw [replaced]
  intro occurs
  obtain ⟨piece, mem, inside⟩ := apart.infix_piece occurs
  rcases h with rfl | absent
  · exact clean piece mem inside
  · exact absent (inside.trans (joined ▸ infix_intercalate mem))

/-- Replacing one secret after the other leaves none of them. -/
theorem absent_of_foldl {new : Text} {secrets : List Text} (nonempty : ∀ old ∈ secrets, old ≠ [])
    {secret : Text} (apart : Apart secret new) {t : Text}
    (h : secret ∈ secrets ∨ ¬ secret <:+: t) :
    ¬ secret <:+: secrets.foldl (fun t old => replaceFrom old new 0 t) t := by
  induction secrets generalizing t with
  | nil => simpa using h
  | cons old rest ih =>
    obtain ⟨here, later⟩ := List.forall_mem_cons.mp nonempty
    rw [List.foldl_cons]
    apply ih later
    rcases h with mem | absent
    · rcases List.mem_cons.mp mem with same | mem
      · exact .inr (absent_of_replaced here apart (.inl same))
      · exact .inl mem
    · exact .inr (absent_of_replaced here apart (.inr absent))

/-- No secret of four or more characters that stays apart from the placeholder occurs
in the output. Nothing is asked of the other secrets, nor of the placeholder for PEM
blocks, which stands in the text before the first secret is replaced. -/
theorem no_secret_left (walk : List Text → List Text)
    (walks : ∀ elements, (walk elements).Perm elements) (secrets : List Text) (t : Text)
    (secret : Text) (mem : secret ∈ secrets) (long : 4 ≤ secret.length)
    (apart : Apart secret (text "[REDACTED]")) :
    ¬ secret <:+: sanitizeOutput walk secrets t := by
  apply absent_of_foldl _ apart
  · left
    rw [mem_sortOn, (walks _).mem_iff, List.mem_dedup]
    exact List.mem_filter.mpr ⟨mem, by simpa using long⟩
  · intro old listed
    rw [mem_sortOn, (walks _).mem_iff, List.mem_dedup] at listed
    rintro rfl
    simp at listed

/-- Two secrets that overlap in the text. -/
def overlapping : List Text := [text "s3cret-alpha", text "alpha-omega"]

theorem overlapping_apart : Apart (text "alpha-omega") (text "[REDACTED]") := by
  have disjoint : (text "alpha-omega").all (fun c => !(text "[REDACTED]").contains c) = true := by
    decide +kernel
  apply Apart.of_disjoint (by decide +kernel) (by decide +kernel)
  simpa using disjoint

theorem no_secret_left_overlapping :
    sanitizeOutput id overlapping (text "key s3cret-alpha-omega") = text "key [REDACTED]-omega" ∧
      ¬ text "alpha-omega" <:+:
        sanitizeOutput id overlapping (text "key s3cret-alpha-omega") :=
  ⟨by decide +kernel,
    no_secret_left id List.Perm.refl overlapping (text "key s3cret-alpha-omega") (text "alpha-omega")
      (by decide +kernel) (by decide +kernel) overlapping_apart⟩

end KonnectFapi.Guarantees

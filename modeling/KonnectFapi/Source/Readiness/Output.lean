import KonnectFapi.Lib.JsonLine
import KonnectFapi.Source.Readiness.Validator

/-!
# The two lines of an accepted capture

Source: scripts/require-wp5-readiness.sh:234-246 and 263-278. The fingerprint and the marker
are printed one below the other, and the shell takes them apart again.
-/

namespace KonnectFapi.Source.Readiness
open Lib Lib.Json

variable {sha256 : Bytes → Bytes}

theorem marker_floatless (accepted : Accepted) :
    anyFloat (fun _ => true) accepted.marker = false := by
  have workers : ∀ ws : List CurrentWorker,
      anyFloatItems (fun _ => true) (ws.map CurrentWorker.json) = false := by
    intro ws
    induction ws with
    | nil => rfl
    | cons w rest ih =>
      rw [List.map_cons, anyFloatItems, ih]
      rfl
  simp only [Accepted.marker, anyFloat, anyFloatMembers, workers]
  rfl

theorem marker_one_line (accepted : Accepted) : (10 : Byte) ∉ canonical accepted.marker := by
  intro hmem
  have := canonical_visible accepted.marker (marker_floatless accepted) 10 hmem
  revert this
  decide

theorem hex_one_line (bytes : Bytes) : (10 : Byte) ∉ hex bytes := by
  intro h
  simp only [hex, List.mem_flatMap, List.mem_cons, List.not_mem_nil, or_false] at h
  obtain ⟨b, -, h⟩ := h
  have digit : ∀ n < 16, hexDigit n ≠ 10 := by decide
  have hb := b.toNat_lt
  rcases h with h | h
  · exact digit (b.toNat / 16) (by omega) h.symm
  · exact digit (b.toNat % 16) (by omega) h.symm

theorem marker_ne_nil (accepted : Accepted) : canonical accepted.marker ≠ [] := by
  unfold canonical Accepted.marker
  simp [sortKeys, print, ascii]

/-- The supervisor's shell reads both lines back as they were printed. -/
theorem readValidation_output (accepted : Accepted) :
    readValidation (accepted.output sha256) =
      some (hex (sha256 (canonical accepted.fingerprintSource)), canonical accepted.marker) := by
  have fingerprintLine := hex_one_line (sha256 (canonical accepted.fingerprintSource))
  have markerLine := marker_one_line accepted
  have hmarker := marker_ne_nil accepted
  unfold Accepted.output
  generalize hex (sha256 (canonical accepted.fingerprintSource)) = fingerprint at *
  generalize canonical accepted.marker = marker at *
  have hvalidation : (fingerprint ++ [10] ++ marker ++ [10]).rdropWhile (· == 10) =
      fingerprint ++ [10] ++ marker := by
    rw [List.rdropWhile_concat_pos _ _ _ (by decide)]
    apply List.rdropWhile_eq_self_iff.mpr
    intro hne hlast
    rw [List.getLast_append_of_ne_nil _ hmarker] at hlast
    exact markerLine (beq_iff_eq.mp hlast ▸ List.getLast_mem hmarker)
  have hother : ∀ b ∈ fingerprint, (b != 10) = true := by
    intro b hb
    exact bne_iff_ne.mpr fun heq => fingerprintLine (heq ▸ hb)
  have hfront : (fingerprint ++ [10] ++ marker).takeWhile (· != 10) = fingerprint := by
    rw [List.append_assoc, List.takeWhile_append_of_pos hother]
    simp
  have hback : (fingerprint ++ [10] ++ marker).dropWhile (· != 10) = 10 :: marker := by
    rw [List.append_assoc, List.dropWhile_append_of_pos hother]
    simp
  have hcontains : (fingerprint ++ [10] ++ marker).contains 10 = true := by simp
  unfold readValidation
  simp only [hvalidation, hfront, hback, hcontains, if_true, List.tail_cons]
  rw [if_pos]
  simp [hmarker, markerLine]

end KonnectFapi.Source.Readiness

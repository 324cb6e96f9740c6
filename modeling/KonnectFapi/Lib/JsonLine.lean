import KonnectFapi.Lib.JsonCanonical

/-!
# A printed document is one line

Every byte of a document without floats is a space or above, whatever its texts hold.
-/

namespace KonnectFapi.Lib.Json

theorem hexDigit_visible {n : Nat} (h : n < 16) : 32 ≤ (hexDigit n).toNat := by
  revert n
  decide

theorem ascii_visible (s : String) (h : (ascii s).all (fun b => decide (32 ≤ b.toNat)) = true) :
    ∀ b ∈ ascii s, 32 ≤ b.toNat := by
  intro b hb
  exact of_decide_eq_true (List.all_eq_true.mp h b hb)

theorem escapeUnit_visible {n : Nat} (h : n < 65536) : ∀ b ∈ escapeUnit n, 32 ≤ b.toNat := by
  unfold escapeUnit
  simp only [List.forall_mem_cons]
  exact ⟨by decide, by decide, hexDigit_visible (by omega), hexDigit_visible (by omega),
    hexDigit_visible (by omega), hexDigit_visible (by omega), by simp⟩

theorem printChar_visible (c : CodePoint) : ∀ b ∈ printChar c, 32 ≤ b.toNat := by
  have bound := c.isLt
  unfold printChar
  split
  · rename_i letter short
    have visible : 32 ≤ letter.toNat := by
      unfold shortEscape at short
      repeat' split at short
      all_goals
        cases short
        try decide
    simp only [List.forall_mem_cons]
    exact ⟨by decide, visible, by simp⟩
  · split
    · rename_i printable
      simp only [List.forall_mem_cons]
      exact ⟨by rw [toNat_ofNat (by omega)]; omega, by simp⟩
    · split
      · rename_i bmp
        exact escapeUnit_visible bmp
      · exact List.forall_mem_append.mpr ⟨escapeUnit_visible (by omega), escapeUnit_visible (by omega)⟩

theorem printString_visible (s : Text) : ∀ b ∈ printString s, 32 ≤ b.toNat := by
  intro b hb
  simp only [printString, List.mem_append, List.mem_singleton, List.mem_flatMap] at hb
  rcases hb with (rfl | ⟨c, -, hb⟩) | rfl
  · decide
  · exact printChar_visible c b hb
  · decide

theorem printInt_visible (n : Int) : ∀ b ∈ printInt n, 32 ≤ b.toNat := by
  intro b hb
  unfold printInt at hb
  rcases List.mem_append.mp hb with hb | hb
  · split at hb
    · rw [List.mem_singleton.mp hb]
      decide
    · cases hb
  · have isDigit := (decimal_numeral n.natAbs).inside (CodePoint.ofByte b) (List.mem_map_of_mem hb)
    simp only [isDigitPoint, Bool.and_eq_true, decide_eq_true_eq] at isDigit
    have : (CodePoint.ofByte b).val = b.toNat := rfl
    omega

theorem mem_printItems {items : List Json} {part : Bytes} (h : part ∈ printItems items) :
    ∃ v ∈ items, part = print v := by
  induction items with
  | nil => cases h
  | cons v rest ih =>
    rw [printItems] at h
    rcases List.mem_cons.mp h with h | h
    · exact ⟨v, List.mem_cons_self, h⟩
    · obtain ⟨w, hw, hpart⟩ := ih h
      exact ⟨w, List.mem_cons_of_mem _ hw, hpart⟩

theorem mem_printMembers {found : List (Text × Json)} {part : Bytes} (h : part ∈ printMembers found) :
    ∃ m ∈ found, part = printString m.1 ++ ascii ":" ++ print m.2 := by
  induction found with
  | nil => cases h
  | cons m rest ih =>
    rw [printMembers] at h
    rcases List.mem_cons.mp h with h | h
    · exact ⟨m, List.mem_cons_self, h⟩
    · obtain ⟨n, hn, hpart⟩ := ih h
      exact ⟨n, List.mem_cons_of_mem _ hn, hpart⟩

mutual
theorem canonical_visible : (v : Json) → anyFloat (fun _ => true) v = false →
    ∀ b ∈ print (sortKeys v), 32 ≤ b.toNat
  | .null, _ => ascii_visible "null" (by decide)
  | .bool true, _ => ascii_visible "true" (by decide)
  | .bool false, _ => ascii_visible "false" (by decide)
  | .int n, _ => printInt_visible n
  | .float _, h => by cases h
  | .str s, _ => printString_visible s
  | .arr items, h => by
    intro b hb
    simp only [sortKeys, print, List.mem_append] at hb
    rcases hb with (hb | hb) | hb
    · exact ascii_visible "[" (by decide) b hb
    · rcases mem_join hb with hb | ⟨part, inside, hb⟩
      · exact ascii_visible "," (by decide) b hb
      · obtain ⟨v, hv, rfl⟩ := mem_printItems inside
        exact items_visible items h v hv b hb
    · exact ascii_visible "]" (by decide) b hb
  | .obj found, h => by
    intro b hb
    simp only [sortKeys, print, List.mem_append] at hb
    rcases hb with (hb | hb) | hb
    · exact ascii_visible "\x7b" (by decide) b hb
    · rcases mem_join hb with hb | ⟨part, inside, hb⟩
      · exact ascii_visible "," (by decide) b hb
      · obtain ⟨m, hm, rfl⟩ := mem_printMembers inside
        rcases List.mem_append.mp hb with hb | hb
        · rcases List.mem_append.mp hb with hb | hb
          · exact printString_visible m.1 b hb
          · exact ascii_visible ":" (by decide) b hb
        · exact members_visible found h m (mem_sortOn.mp hm) b hb
    · exact ascii_visible "\x7d" (by decide) b hb

theorem items_visible : (items : List Json) → anyFloatItems (fun _ => true) items = false →
    ∀ v ∈ sortItems items, ∀ b ∈ print v, 32 ≤ b.toNat
  | [], _ => by simp [sortItems]
  | v :: rest, h => by
    rw [anyFloatItems, Bool.or_eq_false_iff] at h
    rw [sortItems, List.forall_mem_cons]
    exact ⟨canonical_visible v h.1, items_visible rest h.2⟩

theorem members_visible : (found : List (Text × Json)) → anyFloatMembers (fun _ => true) found = false →
    ∀ m ∈ sortMembers found, ∀ b ∈ print m.2, 32 ≤ b.toNat
  | [], _ => by simp [sortMembers]
  | (_, v) :: rest, h => by
    rw [anyFloatMembers, Bool.or_eq_false_iff] at h
    rw [sortMembers, List.forall_mem_cons]
    exact ⟨canonical_visible v h.1, members_visible rest h.2⟩
end

end KonnectFapi.Lib.Json

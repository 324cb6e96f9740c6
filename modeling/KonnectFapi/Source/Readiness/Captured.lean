import KonnectFapi.Source.Readiness.Cluster

/-!
# What a validated capture was read from

Source: scripts/require-wp5-readiness.sh:99-139 and 164-193. A row of the snapshot stands in
one captured line, and such a line is the content of a status file.
-/

namespace KonnectFapi.Source.Readiness
open Lib Lib.Lua Lib.Json Transport

/-- How the validator takes a line apart. -/
def Says (line : Text) (kind : String) (remainder : Text) : Prop :=
  partition 9 (line.rdropWhile (· == 10)) = some (text kind, remainder)

/-- A row of a snapshot, with the line it was read from. -/
structure RowRead (line filename : Text) (row : Dict) : Prop where
  said : ∃ remainder value, Says line "S" remainder ∧ partition 9 remainder = some (filename, value) ∧
    loadsDict value = some (.obj row)

/-- What a snapshot has is in the lines. -/
structure ReadFrom (lines : List Text) (snapshot : Snapshot) : Prop where
  rows : ∀ entry ∈ snapshot.rows, ∃ line ∈ lines, RowRead line entry.1 entry.2
  generation : ∀ g, snapshot.generation = some g → ∃ line ∈ lines, Says line "G" g

theorem readLine_readFrom {digits : Digits} {lines : List Text} {snapshot next : Snapshot} {line : Text}
    (hline : line ∈ lines) (h : ReadFrom lines snapshot) (hread : readLine digits snapshot line = some next) :
    ReadFrom lines next := by
  unfold readLine at hread
  obtain ⟨⟨kind, remainder⟩, hparts, hread⟩ := Option.bind_eq_some_iff.mp hread
  dsimp only at hread
  split at hread
  · rename_i hkind
    split at hread
    · cases hread
    · obtain rfl := Option.some.inj hread
      refine ⟨h.rows, fun g hg => ⟨line, hline, ?_⟩⟩
      obtain rfl := Option.some.inj hg
      unfold Says
      rw [hparts, hkind]
  · split at hread
    · obtain ⟨pid, -, hread⟩ := Option.bind_eq_some_iff.mp hread
      split at hread
      · cases hread
      · obtain rfl := Option.some.inj hread
        exact ⟨h.rows, h.generation⟩
    · split at hread
      · rename_i hkind
        obtain ⟨⟨filename, value⟩, hfile, hread⟩ := Option.bind_eq_some_iff.mp hread
        dsimp only at hread
        obtain ⟨json, hjson, hread⟩ := Option.bind_eq_some_iff.mp hread
        split at hread
        · split at hread
          · obtain rfl := Option.some.inj hread
            refine ⟨?_, h.generation⟩
            intro entry hentry
            rcases List.mem_append.mp hentry with hold | hnew
            · exact h.rows entry hold
            · obtain rfl := List.mem_singleton.mp hnew
              have hsaid : Says line "S" remainder := by
                unfold Says
                rw [hparts, hkind]
              exact ⟨line, hline, remainder, value, hsaid, hfile, hjson⟩
          · cases hread
        · cases hread
      · cases hread

theorem snapshot_readFrom {digits : Digits} {lines : List Text} {snapshot : Snapshot}
    (h : lines.foldlM (readLine digits) {} = some snapshot) : ReadFrom lines snapshot := by
  apply foldlM_invariant (P := ReadFrom lines) _ _ h
  · intro read line hline next hread hstep
    exact readLine_readFrom hline hread hstep
  · refine ⟨fun entry hentry => absurd hentry List.not_mem_nil, fun g hg => ?_⟩
    cases hg

/-! ## Lines of a capture -/

theorem rdropWhile_after {p : CodePoint → Bool} {front back : Text} {c : CodePoint} (h : p c = false) :
    (front ++ c :: back).rdropWhile p = front ++ c :: back.rdropWhile p := by
  induction back using List.reverseRecOn with
  | nil =>
    rw [List.rdropWhile_concat_neg _ _ _ (by rw [h]; exact Bool.false_ne_true)]
    rfl
  | append_singleton back d ih =>
    have hsplit : front ++ c :: (back ++ [d]) = (front ++ c :: back) ++ [d] := by
      rw [List.append_assoc, List.cons_append]
    rw [hsplit]
    by_cases hd : p d = true
    · rw [List.rdropWhile_concat_pos _ _ _ hd, List.rdropWhile_concat_pos _ _ _ hd, ih]
    · rw [List.rdropWhile_concat_neg _ _ _ hd, List.rdropWhile_concat_neg _ _ _ hd, hsplit]

theorem said_by_captureLine {kind : String} (hkind : (9 : CodePoint) ∉ text kind) (rest : Text) :
    ∃ stripped, Says (captureLine kind rest) kind stripped ∧ ((10 : CodePoint) ∉ rest → stripped = rest) := by
  refine ⟨(rest ++ [10]).rdropWhile (· == 10), ?_, ?_⟩
  · unfold Says captureLine
    rw [rdropWhile_after (by decide)]
    exact partition_append hkind
  · intro hrest
    rw [List.rdropWhile_concat_pos _ _ _ (by decide)]
    apply List.rdropWhile_eq_self_iff.mpr
    intro hne hlast
    exact hrest (beq_iff_eq.mp hlast ▸ List.getLast_mem hne)

theorem Says.unique {line : Text} {kind kind' : String} {a b : Text} (h : Says line kind a)
    (h' : Says line kind' b) : text kind = text kind' ∧ a = b :=
  Prod.mk.inj (Option.some.inj (h.symm.trans h'))

theorem tab_not_in_statusName (n : Nat) : (9 : CodePoint) ∉ statusName n := by
  intro h
  unfold statusName at h
  rcases List.mem_append.mp h with h | h
  · rcases List.mem_append.mp h with h | h
    · revert h
      decide
    · have isDigit := (decimal_numeral n).inside 9 h
      revert isDigit
      decide
  · revert h
    decide

theorem newline_not_in_statusName (n : Nat) : (10 : CodePoint) ∉ statusName n := by
  intro h
  unfold statusName at h
  rcases List.mem_append.mp h with h | h
  · rcases List.mem_append.mp h with h | h
    · revert h
      decide
    · have isDigit := (decimal_numeral n).inside 10 h
      revert isDigit
      decide
  · revert h
    decide

/-- The line of a status file is read back as its name and its content. -/
theorem RowRead.of_statusLine {n : Nat} {content filename : Text} {row : Dict}
    (hcontent : (10 : CodePoint) ∉ content) (h : RowRead (statusLine n content) filename row) :
    filename = statusName n ∧ loadsDict content = some (.obj row) := by
  obtain ⟨remainder, value, hsaid, hfile, hvalue⟩ := h.said
  obtain ⟨stripped, hstripped, hwhole⟩ := @said_by_captureLine "S" (by decide)
    (statusName n ++ 9 :: content)
  obtain ⟨-, rfl⟩ := hstripped.unique hsaid
  have hline : (10 : CodePoint) ∉ statusName n ++ 9 :: content := by
    intro hmem
    rcases List.mem_append.mp hmem with hmem | hmem
    · exact newline_not_in_statusName n hmem
    · rcases List.mem_cons.mp hmem with hmem | hmem
      · revert hmem
        decide
      · exact hcontent hmem
  rw [hwhole hline, partition_append (tab_not_in_statusName n)] at hfile
  obtain ⟨rfl, rfl⟩ := Prod.mk.inj (Option.some.inj hfile)
  exact ⟨rfl, hvalue⟩

theorem RowRead.kind {kind : String} {rest filename : Text} {row : Dict}
    (hkind : (9 : CodePoint) ∉ text kind) (h : RowRead (captureLine kind rest) filename row) :
    text kind = text "S" := by
  obtain ⟨remainder, value, hsaid, -⟩ := h.said
  obtain ⟨stripped, hstripped, -⟩ := said_by_captureLine hkind rest
  exact (hstripped.unique hsaid).1

end KonnectFapi.Source.Readiness

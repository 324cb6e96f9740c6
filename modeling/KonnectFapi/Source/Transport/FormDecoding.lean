import KonnectFapi.Source.Transport.Form

/-!
# What a form body says

The receiver's reading of a body, without the guard's limits: pairs between `&`,
each split at its first `=`, both sides percent-decoded. What the guard parses is
read the same way by the receiver, and text appended by the guard reads back as
the fields it encodes.
-/

namespace KonnectFapi.Source.Transport
open Lib Lib.Lua

def decodePair (pair : Bytes) : Option (Bytes × Bytes) :=
  match splitPair pair with
  | none => none
  | some (rawName, rawValue) =>
    match decodeComponent rawName, decodeComponent rawValue with
    | some name, some value => some (name, value)
    | _, _ => none

def decodePairs : List Bytes → Option Fields
  | [] => some []
  | pair :: rest =>
    match decodePair pair, decodePairs rest with
    | some field, some fields => some (field :: fields)
    | _, _ => none

/-- The fields of a body in order of appearance. -/
def decodedForm (body : Bytes) : Option Fields := decodePairs (body.splitOn 38)

theorem decodePairs_append {first second : List Bytes} {fields more : Fields}
    (h : decodePairs first = some fields) (h' : decodePairs second = some more) :
    decodePairs (first ++ second) = some (fields ++ more) := by
  induction first generalizing fields with
  | nil =>
    cases h
    exact h'
  | cons pair rest ih =>
    unfold decodePairs at h
    split at h
    · rename_i field found hpair hrest
      cases h
      simp [decodePairs, hpair, ih hrest]
    · cases h

theorem decodedForm_append {body suffix : Bytes} {fields more : Fields}
    (h : decodedForm body = some fields) (h' : decodedForm suffix = some more) :
    decodedForm (body ++ ascii "&" ++ suffix) = some (fields ++ more) := by
  unfold decodedForm at *
  have split : (body ++ ascii "&" ++ suffix).splitOn 38 = body.splitOn 38 ++ suffix.splitOn 38 := by
    rw [List.append_assoc]
    exact List.splitOn_append_cons_self ..
  rw [split]
  exact decodePairs_append h h'

/-! ## The guard's parser -/

theorem parsePairs_decoded {pairs : List Bytes} {count : Nat} {fields result : Fields}
    (h : parsePairs pairs count fields = some result) :
    ∃ decoded, decodePairs pairs = some decoded ∧ result = fields ++ decoded ∧
      ((fields.map Prod.fst).Nodup → (result.map Prod.fst).Nodup) := by
  induction pairs generalizing count fields with
  | nil =>
    cases h
    exact ⟨[], rfl, (List.append_nil _).symm, id⟩
  | cons pair rest ih =>
    unfold parsePairs at h
    split at h
    · cases h
    split at h
    · cases h
    rename_i rawName rawValue hsplit
    split at h
    · rename_i name value hname hvalue
      split at h
      · cases h
      · rename_i checks
        obtain ⟨decoded, hdecoded, rfl, distinct⟩ := ih h
        refine ⟨(name, value) :: decoded, ?_, by simp, fun nodup => distinct ?_⟩
        · simp [decodePairs, decodePair, hsplit, hname, hvalue, hdecoded]
        · have fresh : name ∉ fields.map Prod.fst := by
            intro hmem
            have found : (fields.lookup name).isSome = true := by
              obtain ⟨entry, hentry, rfl⟩ := List.mem_map.mp hmem
              exact List.lookup_isSome_iff.mpr ⟨entry, hentry, by simp⟩
            exact checks (by simp [found])
          rw [List.map_append, List.nodup_append]
          refine ⟨nodup, by simp, ?_⟩
          intro a ha b hb
          simp only [List.map_cons, List.map_nil, List.mem_singleton] at hb
          rintro rfl
          exact fresh (hb ▸ ha)
    · cases h

/-- What the guard parses, the receiver reads, every name once. -/
theorem parseForm_decoded {body : Bytes} {fields : Fields} (h : parseForm body = some fields) :
    decodedForm body = some fields ∧ (fields.map Prod.fst).Nodup := by
  unfold parseForm at h
  split at h
  · cases h
  · obtain ⟨decoded, hdecoded, rfl, distinct⟩ := parsePairs_decoded h
    exact ⟨hdecoded, distinct (by simp)⟩

/-! ## Encoded text reads back -/

theorem unreserved_plain (b : Byte) (h : isUnreserved b = true) :
    b ≠ 43 ∧ b ≠ 37 ∧ b ≠ 38 ∧ b ≠ 61 := by
  revert b
  exact byte_forall (by decide +kernel)

theorem hexDigitUpper_plain (n : Nat) (h : n < 16) :
    hexDigitUpper n ≠ 38 ∧ hexDigitUpper n ≠ 61 := by
  revert n
  decide

theorem decodeComponent_literal {b : Byte} (notPlus : b ≠ 43) (notPercent : b ≠ 37) (rest : Bytes) :
    decodeComponent (b :: rest) = (decodeComponent rest).map (b :: ·) := by
  conv_lhs => unfold decodeComponent
  rw [if_neg notPlus, if_neg notPercent]

theorem decodeComponent_escape {high low : Byte} (h : isHexDigit high = true)
    (l : isHexDigit low = true) (rest : Bytes) :
    decodeComponent (37 :: high :: low :: rest) =
      (decodeComponent rest).map (UInt8.ofNat (16 * hexValue high + hexValue low) :: ·) := by
  conv_lhs => unfold decodeComponent
  rw [if_neg (by decide), if_pos rfl]
  exact if_pos ⟨h, l⟩

/-- Text without either special byte decodes to itself. -/
theorem decodeComponent_plain {text : Bytes} (plus : (43 : Byte) ∉ text)
    (percent : (37 : Byte) ∉ text) : decodeComponent text = some text := by
  induction text with
  | nil => rfl
  | cons b rest ih =>
    simp only [List.mem_cons, not_or] at plus percent
    rw [decodeComponent_literal (Ne.symm plus.1) (Ne.symm percent.1), ih plus.2 percent.2]
    rfl

theorem decodeComponent_urlencode (value : Bytes) :
    decodeComponent (urlencode value) = some value := by
  induction value with
  | nil => rfl
  | cons b rest ih =>
    unfold urlencode at ih ⊢
    rw [List.flatMap_cons]
    split
    · rename_i plain
      obtain ⟨notPlus, notPercent, -, -⟩ := unreserved_plain b plain
      rw [List.singleton_append, decodeComponent_literal notPlus notPercent, ih]
      rfl
    · have hb := b.toNat_lt
      have high := hexDigitUpper_spec (b.toNat / 16) (by omega)
      have low := hexDigitUpper_spec (b.toNat % 16) (by omega)
      have same : 16 * (b.toNat / 16) + b.toNat % 16 = b.toNat := by omega
      simp only [List.cons_append, List.nil_append]
      rw [decodeComponent_escape high.1 low.1, high.2, low.2, same, UInt8.ofNat_toNat, ih]
      rfl

/-- Encoded text holds no separator. -/
theorem urlencode_plain (value : Bytes) : (38 : Byte) ∉ urlencode value ∧ (61 : Byte) ∉ urlencode value := by
  have piece : ∀ b : Byte, ∀ c ∈ (if isUnreserved b then [b]
      else [37, hexDigitUpper (b.toNat / 16), hexDigitUpper (b.toNat % 16)]), c ≠ 38 ∧ c ≠ 61 := by
    intro b c hc
    have hb := b.toNat_lt
    split at hc
    · rename_i plain
      rw [List.mem_singleton.mp hc]
      exact (unreserved_plain b plain).2.2
    · simp only [List.mem_cons, List.not_mem_nil, or_false] at hc
      rcases hc with rfl | rfl | rfl
      · decide
      · exact hexDigitUpper_plain _ (by omega)
      · exact hexDigitUpper_plain _ (by omega)
  constructor
  · intro h
    obtain ⟨b, -, hb⟩ := List.mem_flatMap.mp h
    exact (piece b _ hb).1 rfl
  · intro h
    obtain ⟨b, -, hb⟩ := List.mem_flatMap.mp h
    exact (piece b _ hb).2 rfl

theorem splitPair_joined {name value : Bytes} (plain : (61 : Byte) ∉ name) :
    splitPair (name ++ ascii "=" ++ value) = some (name, value) := by
  have inside : ∀ b ∈ name, (b != 61) = true := by
    intro b hb
    simpa using fun h : b = 61 => plain (h ▸ hb)
  unfold splitPair
  rw [List.append_assoc, List.dropWhile_append_of_pos inside, List.takeWhile_append_of_pos inside]
  simp [ascii]

/-- A form of one encoded field. -/
theorem decodedForm_single {name : Bytes} (value : Bytes)
    (plain : ∀ b ∈ [(38 : Byte), 61, 43, 37], b ∉ name) :
    decodedForm (name ++ ascii "=" ++ urlencode value) = some [(name, value)] := by
  have whole : (38 : Byte) ∉ name ++ ascii "=" ++ urlencode value := by
    simp only [List.mem_append, not_or]
    exact ⟨⟨plain 38 (by simp), by decide⟩, (urlencode_plain value).1⟩
  have pair : decodePair (name ++ ascii "=" ++ urlencode value) = some (name, value) := by
    unfold decodePair
    rw [splitPair_joined (plain 61 (by simp))]
    simp only [decodeComponent_plain (plain 43 (by simp)) (plain 37 (by simp)),
      decodeComponent_urlencode]
  unfold decodedForm
  rw [List.splitOn_eq_singleton whole]
  simp only [decodePairs, pair]

/-- What the guard appends reads back as the two assertion fields. -/
theorem decodedForm_signed {body : Bytes} {fields : Fields} (assertion kind : Bytes)
    (h : decodedForm body = some fields) :
    decodedForm (body ++ ascii "&" ++ (ascii "client_assertion" ++ ascii "=" ++ urlencode assertion) ++
        ascii "&" ++ (ascii "client_assertion_type" ++ ascii "=" ++ urlencode kind)) =
      some (fields ++ [(ascii "client_assertion", assertion), (ascii "client_assertion_type", kind)]) := by
  have first := decodedForm_append h
    (decodedForm_single assertion (show ∀ b ∈ _, b ∉ ascii "client_assertion" by decide +kernel))
  have both := decodedForm_append first
    (decodedForm_single kind (show ∀ b ∈ _, b ∉ ascii "client_assertion_type" by decide +kernel))
  rw [both, List.append_assoc]
  rfl

end KonnectFapi.Source.Transport

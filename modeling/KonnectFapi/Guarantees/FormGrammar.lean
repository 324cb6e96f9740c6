import KonnectFapi.Lib.Lookup
import KonnectFapi.Source.Transport.FormDecoding
import Mathlib.Data.List.TakeWhile

/-!
# The grammar of a form body

Source: kong/plugins/fapi-as-mtls-transport/handler.lua:902-950. `parse_form` accepts the
bodies of a grammar stated on the raw bytes, and returns the decoded pairs.
-/

namespace KonnectFapi.Guarantees
open Lib Lib.Lua Source.Transport

/-! ## Components -/

/-- Every percent sign of the text is followed by two hexadecimal digits. -/
def WellEscaped (t : Bytes) : Prop :=
  ∀ before after, t = before ++ 37 :: after →
    ∃ high low more, after = high :: low :: more ∧ isHexDigit high = true ∧ isHexDigit low = true

/-- The bytes a component stands for. -/
def unescape : Bytes → Bytes
  | [] => []
  | 43 :: rest => 32 :: unescape rest
  | 37 :: high :: low :: rest => UInt8.ofNat (16 * hexValue high + hexValue low) :: unescape rest
  | b :: rest => b :: unescape rest

theorem hexDigit_ne_percent {b : Byte} (h : isHexDigit b = true) : b ≠ 37 := by
  rintro rfl
  revert h
  decide

theorem wellEscaped_nil : WellEscaped [] := by
  intro before after h
  simp at h

theorem wellEscaped_cons {b : Byte} (hb : b ≠ 37) (t : Bytes) :
    WellEscaped (b :: t) ↔ WellEscaped t := by
  constructor
  · intro h before after ht
    apply h (b :: before) after
    rw [ht, List.cons_append]
  · intro h before after ht
    cases before with
    | nil =>
      rw [List.nil_append] at ht
      exact (hb (List.cons.inj ht).1).elim
    | cons c before => exact h before after (List.cons.inj ht).2

theorem wellEscaped_percent (t : Bytes) :
    WellEscaped (37 :: t) ↔ ∃ high low more, t = high :: low :: more ∧
      isHexDigit high = true ∧ isHexDigit low = true ∧ WellEscaped more := by
  constructor
  · intro h
    obtain ⟨high, low, more, rfl, hhigh, hlow⟩ := h [] t rfl
    refine ⟨high, low, more, rfl, hhigh, hlow, ?_⟩
    intro before after ht
    apply h (37 :: high :: low :: before) after
    rw [ht]
    rfl
  · rintro ⟨high, low, more, rfl, hhigh, hlow, hmore⟩ before after ht
    cases before with
    | nil =>
      obtain rfl := (List.cons.inj ht).2
      exact ⟨high, low, more, rfl, hhigh, hlow⟩
    | cons c before =>
      have hrest := (wellEscaped_cons (hexDigit_ne_percent hhigh) _).mpr
        ((wellEscaped_cons (hexDigit_ne_percent hlow) _).mpr hmore)
      exact hrest before after (List.cons.inj ht).2

/-- A separator ends every escape before it. -/
theorem wellEscaped_append {sep : Byte} (hsep : sep ≠ 37) (hdigit : isHexDigit sep = false)
    (s t : Bytes) : WellEscaped (s ++ sep :: t) ↔ WellEscaped s ∧ WellEscaped t := by
  constructor
  · intro h
    constructor
    · intro before after hs
      obtain ⟨high, low, more, hafter, hhigh, hlow⟩ := h before (after ++ sep :: t) (by rw [hs]; simp)
      cases after with
      | nil =>
        rw [List.nil_append] at hafter
        rw [(List.cons.inj hafter).1, hhigh] at hdigit
        cases hdigit
      | cons first rest =>
        cases rest with
        | nil =>
          have hsecond := (List.cons.inj (List.cons.inj hafter).2).1
          rw [hsecond, hlow] at hdigit
          cases hdigit
        | cons second rest =>
          have hfirst : first = high := (List.cons.inj hafter).1
          have hsecond : second = low := (List.cons.inj (List.cons.inj hafter).2).1
          exact ⟨first, second, rest, rfl, hfirst ▸ hhigh, hsecond ▸ hlow⟩
    · intro before after ht
      apply h (s ++ sep :: before) after
      rw [ht]
      simp
  · rintro ⟨hs, ht⟩ before after h
    rcases List.append_eq_append_iff.mp h with ⟨more, rfl, hmore⟩ | ⟨more, rfl, hmore⟩
    · cases more with
      | nil =>
        rw [List.nil_append] at hmore
        exact (hsep (List.cons.inj hmore).1).elim
      | cons c more => exact ht more after (List.cons.inj hmore).2
    · cases more with
      | nil =>
        rw [List.nil_append] at hmore
        exact (hsep (List.cons.inj hmore).1.symm).elim
      | cons c more =>
        obtain ⟨rfl, rfl⟩ := List.cons.inj hmore
        obtain ⟨high, low, rest, rfl, hhigh, hlow⟩ := hs before more rfl
        exact ⟨high, low, rest ++ sep :: t, rfl, hhigh, hlow⟩

theorem unescape_literal {b : Byte} (hplus : b ≠ 43) (hpercent : b ≠ 37) (t : Bytes) :
    unescape (b :: t) = b :: unescape t := by
  conv_lhs => unfold unescape
  split
  · rename_i heq
    exact (List.cons_ne_nil _ _ heq).elim
  · rename_i heq
    exact (hplus (List.cons.inj heq).1).elim
  · rename_i heq
    exact (hpercent (List.cons.inj heq).1).elim
  · rename_i heq
    rw [(List.cons.inj heq).1, (List.cons.inj heq).2]

/-- A component decodes exactly when it is well escaped, and to the bytes it stands for. -/
theorem decodeComponent_iff {t s : Bytes} :
    decodeComponent t = some s ↔ WellEscaped t ∧ unescape t = s := by
  have hmap {t u : Bytes} {b : Byte}
      (ih : ∀ {s : Bytes}, decodeComponent t = some s ↔ WellEscaped t ∧ unescape t = s) :
      (decodeComponent t).map (b :: ·) = some u ↔ WellEscaped t ∧ b :: unescape t = u := by
    rw [Option.map_eq_some_iff]
    constructor
    · rintro ⟨s, hs, rfl⟩
      obtain ⟨hwell, rfl⟩ := ih.mp hs
      exact ⟨hwell, rfl⟩
    · rintro ⟨hwell, rfl⟩
      exact ⟨_, ih.mpr ⟨hwell, rfl⟩, rfl⟩
  induction t using decodeComponent.induct generalizing s with
  | case1 => simp [decodeComponent, unescape, wellEscaped_nil]
  | case2 rest ih =>
    rw [wellEscaped_cons (by decide), show unescape (43 :: rest) = 32 :: unescape rest from rfl]
    unfold decodeComponent
    rw [if_pos rfl]
    exact hmap ih
  | case3 high low rest hdigits _ ih =>
    rw [decodeComponent_escape hdigits.1 hdigits.2, hmap ih, wellEscaped_percent]
    constructor
    · rintro ⟨hwell, rfl⟩
      exact ⟨⟨high, low, rest, rfl, hdigits.1, hdigits.2, hwell⟩, rfl⟩
    · rintro ⟨⟨_, _, _, heq, _, _, hwell⟩, rfl⟩
      obtain ⟨_, heq⟩ := List.cons.inj heq
      obtain ⟨_, rfl⟩ := List.cons.inj heq
      exact ⟨hwell, rfl⟩
  | case4 high low rest hdigits _ =>
    unfold decodeComponent
    rw [if_neg (by decide), if_pos rfl, wellEscaped_percent]
    simp only [if_neg hdigits]
    constructor
    · intro h
      cases h
    · rintro ⟨⟨_, _, _, heq, hhigh, hlow, _⟩, _⟩
      have hfirst := (List.cons.inj heq).1
      have hsecond := (List.cons.inj (List.cons.inj heq).2).1
      exact (hdigits ⟨hfirst ▸ hhigh, hsecond ▸ hlow⟩).elim
  | case5 rest hshort _ =>
    unfold decodeComponent
    rw [if_neg (by decide), if_pos rfl, wellEscaped_percent]
    constructor
    · intro h
      split at h
      · exact (hshort _ _ _ rfl).elim
      · cases h
    · rintro ⟨⟨high, low, more, heq, _⟩, _⟩
      exact (hshort high low more heq).elim
  | case6 b rest hplus hpercent ih =>
    rw [decodeComponent_literal hplus hpercent, hmap ih, wellEscaped_cons hpercent,
      unescape_literal hplus hpercent]

/-! ## Pieces -/

/-- The raw name and value of a piece, at its first equals sign. -/
def rawName (piece : Bytes) : Bytes := piece.takeWhile (· != 61)
def rawValue (piece : Bytes) : Bytes := (piece.dropWhile (· != 61)).drop 1

/-- The pair a piece stands for. -/
def pairOf (piece : Bytes) : Bytes × Bytes := (unescape (rawName piece), unescape (rawValue piece))

theorem dropWhile_equals {piece : Bytes} (h : 61 ∈ piece) :
    piece.dropWhile (· != 61) = 61 :: rawValue piece := by
  unfold rawValue
  cases hrest : piece.dropWhile (· != 61) with
  | nil =>
    have hall := List.dropWhile_eq_nil_iff.mp hrest 61 h
    simp at hall
  | cons b rest =>
    have hhead := List.head_dropWhile_not (· != 61) (l := piece) (by rw [hrest]; exact List.cons_ne_nil _ _)
    simp only [hrest, List.head_cons, bne_eq_false_iff_eq] at hhead
    rw [hhead, List.drop_one, List.tail_cons]

theorem piece_eq {piece : Bytes} (h : 61 ∈ piece) :
    piece = rawName piece ++ 61 :: rawValue piece := by
  rw [← dropWhile_equals h, rawName, List.takeWhile_append_dropWhile]

theorem splitPair_of_mem {piece : Bytes} (h : 61 ∈ piece) :
    splitPair piece = some (rawName piece, rawValue piece) := by
  unfold splitPair
  rw [dropWhile_equals h]
  rfl

theorem splitPair_of_not_mem {piece : Bytes} (h : 61 ∉ piece) : splitPair piece = none := by
  have hnone : piece.dropWhile (· != 61) = [] := by
    rw [List.dropWhile_eq_nil_iff]
    intro b hb
    simpa using fun heq : b = 61 => h (heq ▸ hb)
  unfold splitPair
  rw [hnone]

theorem decodePair_iff {piece : Bytes} {field : Bytes × Bytes} :
    decodePair piece = some field ↔ (61 ∈ piece ∧ WellEscaped piece) ∧ pairOf piece = field := by
  unfold decodePair
  by_cases hmem : 61 ∈ piece
  · have hwell : WellEscaped piece ↔ WellEscaped (rawName piece) ∧ WellEscaped (rawValue piece) := by
      conv_lhs => rw [piece_eq hmem]
      exact wellEscaped_append (by decide) (by decide) _ _
    rw [splitPair_of_mem hmem, hwell]
    simp only [hmem, true_and]
    constructor
    · intro h
      split at h
      · rename_i name value hname hvalue
        cases h
        obtain ⟨hnameWell, rfl⟩ := decodeComponent_iff.mp hname
        obtain ⟨hvalueWell, rfl⟩ := decodeComponent_iff.mp hvalue
        exact ⟨⟨hnameWell, hvalueWell⟩, rfl⟩
      · cases h
    · rintro ⟨⟨hname, hvalue⟩, rfl⟩
      rw [decodeComponent_iff.mpr ⟨hname, rfl⟩, decodeComponent_iff.mpr ⟨hvalue, rfl⟩]
      rfl
  · rw [splitPair_of_not_mem hmem]
    simp [hmem]

theorem decodePairs_iff {pieces : List Bytes} {fields : Fields} : decodePairs pieces = some fields ↔
    (∀ piece ∈ pieces, 61 ∈ piece ∧ WellEscaped piece) ∧ pieces.map pairOf = fields := by
  induction pieces generalizing fields with
  | nil => simp [decodePairs, eq_comm]
  | cons piece rest ih =>
    unfold decodePairs
    constructor
    · intro h
      split at h
      · rename_i field more hfield hmore
        cases h
        obtain ⟨hpiece, rfl⟩ := decodePair_iff.mp hfield
        obtain ⟨hrest, rfl⟩ := ih.mp hmore
        exact ⟨List.forall_mem_cons.mpr ⟨hpiece, hrest⟩, rfl⟩
      · cases h
    · rintro ⟨hall, rfl⟩
      obtain ⟨hpiece, hrest⟩ := List.forall_mem_cons.mp hall
      rw [decodePair_iff.mpr ⟨hpiece, rfl⟩, ih.mpr ⟨hrest, rfl⟩]
      rfl

/-! ## The loop over the pieces -/

/-- The limits of a decoded field. -/
structure FieldOk (field : Bytes × Bytes) : Prop where
  named : 1 ≤ field.1.length
  name : field.1.length ≤ maxFormNameBytes
  nameClean : ∀ b ∈ field.1, isNameControl b = false
  value : field.2.length ≤ maxFormValueBytes
  valueClean : ∀ b ∈ field.2, isValueControl b = false

theorem lookup_isSome_iff_mem {fields : Fields} {name : Bytes} :
    (fields.lookup name).isSome = true ↔ name ∈ fields.map Prod.fst := by
  rw [List.lookup_isSome_iff, List.mem_map]
  simp only [beq_iff_eq, @eq_comm _ name]

/-- What the loop asks of a decoded pair. -/
theorem field_checked {fields : Fields} {name value : Bytes} :
    ¬(name = [] ∨ maxFormNameBytes < name.length ∨ maxFormValueBytes < value.length ∨
        (fields.lookup name).isSome = true ∨ name.any isNameControl = true ∨
        value.any isValueControl = true) ↔
      FieldOk (name, value) ∧ name ∉ fields.map Prod.fst := by
  rw [lookup_isSome_iff_mem]
  simp only [not_or, Nat.not_lt, Bool.not_eq_true, List.any_eq_false]
  constructor
  · rintro ⟨hne, hname, hvalue, hfresh, hnameClean, hvalueClean⟩
    refine ⟨⟨List.length_pos_iff.mpr hne, hname, ?_, hvalue, ?_⟩, hfresh⟩
    · exact fun b hb => Bool.not_eq_true _ ▸ hnameClean b hb
    · exact fun b hb => Bool.not_eq_true _ ▸ hvalueClean b hb
  · rintro ⟨⟨hne, hname, hnameClean, hvalue, hvalueClean⟩, hfresh⟩
    refine ⟨List.length_pos_iff.mp hne, hname, hvalue, hfresh, ?_, ?_⟩
    · exact fun b hb => Bool.not_eq_true _ ▸ hnameClean b hb
    · exact fun b hb => Bool.not_eq_true _ ▸ hvalueClean b hb

/-- One pass of the loop. -/
theorem parsePairs_cons {piece : Bytes} {rest : List Bytes} {count : Nat} {fields result : Fields} :
    parsePairs (piece :: rest) count fields = some result ↔
      count + 1 ≤ maxFormFields ∧ ∃ field, decodePair piece = some field ∧ FieldOk field ∧
        field.1 ∉ fields.map Prod.fst ∧ parsePairs rest (count + 1) (fields ++ [field]) = some result := by
  cases hsplit : splitPair piece with
  | none => simp [parsePairs, decodePair, hsplit]
  | some raw =>
    obtain ⟨rawName, rawValue⟩ := raw
    cases hname : decodeComponent rawName with
    | none => simp [parsePairs, decodePair, hsplit, hname]
    | some name =>
      cases hvalue : decodeComponent rawValue with
      | none => simp [parsePairs, decodePair, hsplit, hname, hvalue]
      | some value =>
        have hpair : decodePair piece = some (name, value) := by
          simp [decodePair, hsplit, hname, hvalue]
        simp only [parsePairs, hpair, hsplit, hname, hvalue, Option.some.injEq, exists_eq_left']
        by_cases hroom : maxFormFields < count + 1
        · rw [if_pos hroom]
          simp only [reduceCtorEq, false_iff]
          rintro ⟨hle, _⟩
          omega
        · rw [if_neg hroom]
          by_cases hchecked : FieldOk (name, value) ∧ name ∉ fields.map Prod.fst
          · rw [if_neg (field_checked.mpr hchecked)]
            simp only [Nat.not_lt.mp hroom, hchecked.1, hchecked.2, not_false_eq_true, true_and]
          · rw [if_pos (not_not.mp fun h => hchecked (field_checked.mp h))]
            simp only [reduceCtorEq, false_iff]
            rintro ⟨_, hok, hfresh, _⟩
            exact hchecked ⟨hok, hfresh⟩

theorem decodePairs_cons {piece : Bytes} {rest : List Bytes} {decoded : Fields} :
    decodePairs (piece :: rest) = some decoded ↔
      ∃ field more, decodePair piece = some field ∧ decodePairs rest = some more ∧
        decoded = field :: more := by
  conv_lhs => unfold decodePairs
  constructor
  · intro h
    split at h
    · rename_i field more hfield hmore
      cases h
      exact ⟨field, more, hfield, hmore, rfl⟩
    · cases h
  · rintro ⟨field, more, hfield, hmore, rfl⟩
    rw [hfield, hmore]

theorem parsePairs_iff {pieces : List Bytes} {count : Nat} {fields result : Fields}
    (hcount : count ≤ maxFormFields) (hnodup : (fields.map Prod.fst).Nodup) :
    parsePairs pieces count fields = some result ↔
      count + pieces.length ≤ maxFormFields ∧
      ∃ decoded, decodePairs pieces = some decoded ∧ (∀ field ∈ decoded, FieldOk field) ∧
        result = fields ++ decoded ∧ (result.map Prod.fst).Nodup := by
  induction pieces generalizing count fields with
  | nil =>
    simp only [parsePairs, decodePairs, List.length_nil, Nat.add_zero, Option.some.injEq]
    constructor
    · rintro rfl
      exact ⟨hcount, [], rfl, by simp, by simp, hnodup⟩
    · rintro ⟨_, decoded, rfl, _, rfl, _⟩
      simp
  | cons piece rest ih =>
    rw [parsePairs_cons]
    constructor
    · rintro ⟨hroom, field, hfield, hok, hfresh, hrest⟩
      have hnew : ((fields ++ [field]).map Prod.fst).Nodup := by
        rw [List.map_append, List.nodup_append]
        refine ⟨hnodup, by simp, fun a ha b hb hab => hfresh ?_⟩
        rw [List.map_singleton, List.mem_singleton] at hb
        rwa [← hb, ← hab]
      obtain ⟨hlen, decoded, hdecoded, hall, rfl, hdistinct⟩ := (ih hroom hnew).mp hrest
      refine ⟨by rw [List.length_cons]; omega, field :: decoded, ?_, ?_, by simp, hdistinct⟩
      · exact decodePairs_cons.mpr ⟨field, decoded, hfield, hdecoded, rfl⟩
      · exact List.forall_mem_cons.mpr ⟨hok, hall⟩
    · rintro ⟨hlen, decoded, hdecoded, hall, rfl, hdistinct⟩
      obtain ⟨field, more, hfield, hmore, rfl⟩ := decodePairs_cons.mp hdecoded
      obtain ⟨hok, hrestOk⟩ := List.forall_mem_cons.mp hall
      rw [List.length_cons] at hlen
      have hsplit : fields ++ field :: more = fields ++ [field] ++ more := by simp
      have hnew : ((fields ++ [field]).map Prod.fst).Nodup := by
        rw [hsplit, List.map_append] at hdistinct
        exact (List.nodup_append.mp hdistinct).1
      have hfresh : field.1 ∉ fields.map Prod.fst := by
        rw [List.map_append] at hnew
        intro hmem
        exact (List.nodup_append.mp hnew).2.2 _ hmem _ (by simp) rfl
      have hroom : count + 1 ≤ maxFormFields := by omega
      refine ⟨hroom, field, hfield, hok, hfresh, (ih hroom hnew).mpr ?_⟩
      exact ⟨by omega, more, hmore, hrestOk, hsplit, hdistinct⟩

/-! ## The grammar -/

def pieces (body : Bytes) : List Bytes := body.splitOn 38

/-- The pairs a body stands for, in order. -/
def decodedFields (body : Bytes) : Fields := (pieces body).map pairOf

/-- The bodies a form may have. -/
structure FormBody (body : Bytes) : Prop where
  filled : 1 ≤ body.length
  size : body.length ≤ maxFormBytes
  count : (pieces body).length ≤ maxFormFields
  equals : ∀ piece ∈ pieces body, 61 ∈ piece
  escaped : WellEscaped body
  fields : ∀ field ∈ decodedFields body, FieldOk field
  distinct : ((decodedFields body).map Prod.fst).Nodup

theorem wellEscaped_intercalate (parts : List Bytes) :
    WellEscaped ([38].intercalate parts) ↔ ∀ part ∈ parts, WellEscaped part := by
  induction parts with
  | nil => simp [wellEscaped_nil]
  | cons part rest ih =>
    cases rest with
    | nil => simp
    | cons next more =>
      have hjoin : [38].intercalate (part :: next :: more) =
          part ++ 38 :: [38].intercalate (next :: more) := by
        simp [List.intercalate, List.intersperse]
      rw [hjoin, wellEscaped_append (by decide) (by decide), ih, List.forall_mem_cons (l := next :: more)]

theorem wellEscaped_pieces (body : Bytes) :
    WellEscaped body ↔ ∀ piece ∈ pieces body, WellEscaped piece := by
  rw [← wellEscaped_intercalate, pieces, List.intercalate_splitOn]

theorem parseForm_iff {body : Bytes} {fields : Fields} :
    parseForm body = some fields ↔ FormBody body ∧ fields = decodedFields body := by
  unfold parseForm
  split
  · rename_i hsize
    simp only [reduceCtorEq, false_iff]
    rintro ⟨hbody, _⟩
    have hfilled := hbody.filled
    have hsmall := hbody.size
    omega
  · rename_i hsize
    rw [parsePairs_iff (Nat.zero_le _) (by simp)]
    simp only [decodePairs_iff, List.nil_append, Nat.zero_add]
    constructor
    · rintro ⟨hcount, decoded, ⟨hall, rfl⟩, hok, rfl, hdistinct⟩
      refine ⟨⟨by omega, by omega, hcount, fun piece hpiece => (hall piece hpiece).1, ?_, hok,
        hdistinct⟩, rfl⟩
      exact (wellEscaped_pieces body).mpr fun piece hpiece => (hall piece hpiece).2
    · rintro ⟨hbody, rfl⟩
      refine ⟨hbody.count, _, ⟨fun piece hpiece => ⟨hbody.equals piece hpiece, ?_⟩, rfl⟩, hbody.fields,
        rfl, hbody.distinct⟩
      exact (wellEscaped_pieces body).mp hbody.escaped piece hpiece

/-! ## What the result depends on -/

theorem length_intercalate {parts : List Bytes} (h : parts ≠ []) :
    ([38].intercalate parts : Bytes).length + 1 = parts.flatten.length + parts.length := by
  induction parts with
  | nil => exact (h rfl).elim
  | cons part rest ih =>
    cases rest with
    | nil => simp
    | cons next more =>
      have hjoin : ([38].intercalate (part :: next :: more) : Bytes) =
          part ++ 38 :: [38].intercalate (next :: more) := by
        simp [List.intercalate, List.intersperse]
      have hrest := ih (List.cons_ne_nil _ _)
      rw [hjoin, List.flatten_cons, List.length_append, List.length_append, List.length_cons,
        List.length_cons (a := part)]
      omega

theorem length_of_pieces (body : Bytes) :
    body.length + 1 = (pieces body).flatten.length + (pieces body).length := by
  have hne : pieces body ≠ [] := List.splitOn_ne_nil _ _
  rw [← length_intercalate hne, pieces, List.intercalate_splitOn]

/-- Another spelling or order of the same pairs, within the limits, is a form body too. -/
theorem FormBody.respelled {body body' : Bytes} (h : FormBody body)
    (hperm : (decodedFields body).Perm (decodedFields body')) (hfilled : 1 ≤ body'.length)
    (hsize : body'.length ≤ maxFormBytes) (hequals : ∀ piece ∈ pieces body', 61 ∈ piece)
    (hescaped : WellEscaped body') : FormBody body' where
  filled := hfilled
  size := hsize
  count := by
    have hlength := hperm.length_eq
    simp only [decodedFields, List.length_map] at hlength
    exact hlength ▸ h.count
  equals := hequals
  escaped := hescaped
  fields field hfield := h.fields field (hperm.mem_iff.mpr hfield)
  distinct := (hperm.map Prod.fst).nodup_iff.mp h.distinct

theorem FormBody.permuted {body body' : Bytes} (h : FormBody body)
    (hperm : (pieces body).Perm (pieces body')) : FormBody body' := by
  have hlength : body'.length = body.length := by
    have hflat := hperm.flatten.length_eq
    have hcount := hperm.length_eq
    have hbody := length_of_pieces body
    have hbody' := length_of_pieces body'
    omega
  refine h.respelled (hperm.map pairOf) (hlength ▸ h.filled) (hlength ▸ h.size) ?_ ?_
  · exact fun piece hpiece => h.equals piece (hperm.mem_iff.mpr hpiece)
  · rw [wellEscaped_pieces]
    intro piece hpiece
    exact (wellEscaped_pieces body).mp h.escaped piece (hperm.mem_iff.mpr hpiece)

/-- `parse_form` accepts exactly the bodies of the grammar and returns their pairs; the map
does not depend on the order of the pieces or on the spelling, and two spellings of a name
are refused. -/
theorem form_grammar :
    (∀ body fields, parseForm body = some fields ↔ FormBody body ∧ fields = decodedFields body) ∧
    (∀ body body' fields, parseForm body = some fields → (pieces body).Perm (pieces body') →
      ∃ fields', parseForm body' = some fields' ∧
        ∀ name, fields'.lookup name = fields.lookup name) ∧
    (∀ body body' fields, parseForm body = some fields →
      decodedFields body' = decodedFields body → 1 ≤ body'.length → body'.length ≤ maxFormBytes →
      (∀ piece ∈ pieces body', 61 ∈ piece) → WellEscaped body' → parseForm body' = some fields) ∧
    (∀ (body : Bytes) (i j : Nat) (first second : Bytes), i ≠ j → (pieces body)[i]? = some first →
      (pieces body)[j]? = some second → (pairOf first).1 = (pairOf second).1 →
      parseForm body = none) := by
  refine ⟨fun body fields => parseForm_iff, ?_, ?_, ?_⟩
  · intro body body' fields h hperm
    obtain ⟨hbody, rfl⟩ := parseForm_iff.mp h
    refine ⟨_, parseForm_iff.mpr ⟨hbody.permuted hperm, rfl⟩, fun name => ?_⟩
    exact (lookup_perm (hperm.map pairOf) hbody.distinct name).symm
  · intro body body' fields h hfields hfilled hsize hequals hescaped
    obtain ⟨hbody, rfl⟩ := parseForm_iff.mp h
    have hperm : (decodedFields body).Perm (decodedFields body') := List.Perm.of_eq hfields.symm
    apply parseForm_iff.mpr
    exact ⟨hbody.respelled hperm hfilled hsize hequals hescaped, hfields.symm⟩
  · intro body i j first second hij hfirst hsecond hname
    cases hparse : parseForm body with
    | none => rfl
    | some fields =>
      have hdistinct := (parseForm_iff.mp hparse).1.distinct
      have hat {k : Nat} {piece : Bytes} (h : (pieces body)[k]? = some piece) :
          ((decodedFields body).map Prod.fst)[k]? = some (pairOf piece).1 := by
        rw [decodedFields, List.map_map, List.getElem?_map, h]
        rfl
      have hlt := (List.getElem?_eq_some_iff.mp (hat hfirst)).1
      apply (hij _).elim
      apply (List.getElem?_inj hlt hdistinct).mp
      rw [hat hfirst, hat hsecond, hname]

theorem form_grammar_login :
    FormBody (ascii "user=ann+b&role=%61") ∧
    (∃ fields, parseForm (ascii "role=%61&user=ann+b") = some fields ∧
      ∀ name, fields.lookup name =
        List.lookup name [(ascii "user", ascii "ann b"), (ascii "role", ascii "a")]) ∧
    parseForm (ascii "user=ann%20b&role=a") =
      some [(ascii "user", ascii "ann b"), (ascii "role", ascii "a")] ∧
    parseForm (ascii "role=a&r%6Fle=b") = none := by
  obtain ⟨hgrammar, hpermuted, hrespelled, htwice⟩ := form_grammar
  have hparsed : parseForm (ascii "user=ann+b&role=%61") =
      some [(ascii "user", ascii "ann b"), (ascii "role", ascii "a")] := by decide +kernel
  have hother : parseForm (ascii "user=ann%20b&role=a") =
      some [(ascii "user", ascii "ann b"), (ascii "role", ascii "a")] := by decide +kernel
  obtain ⟨hbody, hfields⟩ := (hgrammar _ _).mp hparsed
  obtain ⟨hbody', hfields'⟩ := (hgrammar _ _).mp hother
  refine ⟨hbody, ?_, ?_, ?_⟩
  · apply hpermuted _ _ _ hparsed
    rw [← List.isPerm_iff]
    decide +kernel
  · exact hrespelled _ _ _ hparsed (hfields'.symm.trans hfields) hbody'.filled hbody'.size
      hbody'.equals hbody'.escaped
  · apply htwice _ 0 1 (ascii "role=a") (ascii "r%6Fle=b") (by decide)
    all_goals decide +kernel

end KonnectFapi.Guarantees

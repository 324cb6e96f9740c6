import KonnectFapi.Source.Transport.Guard
import Mathlib.Data.List.DropRight
import Mathlib.Data.List.TakeWhile

/-!
# The content type of a credential POST

Source: kong/plugins/fapi-as-mtls-transport/handler.lua:1024-1036 and 1245-1264. The
gate reads the first header of the name that `pairs` visits, and its pattern takes text
that runs on after the form's media type.
-/

namespace KonnectFapi.Guarantees
open Lib Lib.Lua Source.Transport

/-! ## Media types -/

def trim (t : Bytes) : Bytes := (t.dropWhile isSpace).rdropWhile isSpace

/-- The part of a header value before its first semicolon, trimmed and in lower case. -/
def mediaType (value : Bytes) : Bytes := lower (trim (value.takeWhile (· != 59)))

/-- The form's media type, alone or with parameters behind a semicolon. -/
def FormValue (value : Bytes) : Prop :=
  ∃ before after rest, lower value = before ++ formMediaType ++ after ++ rest ∧
    (∀ b ∈ before, isSpace b = true) ∧ (∀ b ∈ after, isSpace b = true) ∧
    (rest = [] ∨ ∃ params, rest = 59 :: params ∧ ∀ b ∈ params, isParameterByte b = true)

/-- The form's media type running on into further text without a semicolon. -/
def LooseValue (value : Bytes) : Prop :=
  ∃ before after b rest, lower value = before ++ formMediaType ++ after ++ b :: rest ∧
    (∀ c ∈ before, isSpace c = true) ∧ (∀ c ∈ after, isSpace c = true) ∧ isSpace b = false ∧
    ∀ c ∈ b :: rest, isParameterByte c = true

theorem space_plain {b : Byte} (h : isSpace b = true) : b ≠ 59 := by
  rintro rfl
  revert h
  decide

theorem parameter_plain {b : Byte} (h : isParameterByte b = true) : b ≠ 59 := by
  rintro rfl
  revert h
  decide

/-- The media type starts and ends visibly, and holds no semicolon. -/
theorem formMediaType_visible :
    (∃ head tail, formMediaType = head :: tail ∧ isSpace head = false) ∧
    (∃ front last, formMediaType = front ++ [last] ∧ isSpace last = false) ∧
    formMediaType.all (fun b => b != 59) = true := by
  refine ⟨⟨97, _, rfl, by decide⟩, ⟨formMediaType.dropLast, 100, by decide +kernel, by decide⟩, ?_⟩
  decide +kernel

theorem dropWhile_before {before rest : Bytes} (h : ∀ b ∈ before, isSpace b = true) :
    (before ++ formMediaType ++ rest).dropWhile isSpace = formMediaType ++ rest := by
  obtain ⟨⟨head, tail, hmedia, hhead⟩, _⟩ := formMediaType_visible
  rw [List.append_assoc, List.dropWhile_append_of_pos h, hmedia, List.cons_append,
    List.dropWhile_cons_of_neg (by rw [hhead]; decide)]

theorem takeWhile_spaces (t : Bytes) : ∀ b ∈ t.takeWhile isSpace, isSpace b = true :=
  fun _ hb => List.mem_takeWhile_imp hb

theorem dropWhile_after {after rest : Bytes} (h : ∀ b ∈ after, isSpace b = true)
    (hrest : startsWith isSpace rest = false) : (after ++ rest).dropWhile isSpace = rest := by
  rw [List.dropWhile_append_of_pos h]
  cases rest with
  | nil => rfl
  | cons b more => exact List.dropWhile_cons_of_neg (by simpa [startsWith] using hrest)

/-- What the pattern takes behind the media type and its blanks. -/
def tailMatches : Bytes → Bool
  | [] => true
  | b :: rest => if b = 59 then rest.all isParameterByte else (b :: rest).all isParameterByte

theorem matchesFormType_written {value before after rest : Bytes}
    (hvalue : lower value = before ++ formMediaType ++ after ++ rest)
    (hbefore : ∀ b ∈ before, isSpace b = true) (hafter : ∀ b ∈ after, isSpace b = true)
    (hrest : startsWith isSpace rest = false) :
    matchesFormType value = tailMatches rest := by
  have htext : (lower value).dropWhile isSpace = formMediaType ++ (after ++ rest) := by
    rw [hvalue, List.append_assoc (before ++ formMediaType), dropWhile_before hbefore]
  unfold matchesFormType
  dsimp only
  rw [htext, List.drop_left, dropWhile_after hafter hrest,
    List.isPrefixOf_iff_prefix.mpr (List.prefix_append _ _), Bool.true_and]
  cases rest with
  | nil => rfl
  | cons b rest => rfl

/-- The pattern takes the form's media type, and text that runs on after it. -/
theorem matchesFormType_iff (value : Bytes) :
    matchesFormType value = true ↔ FormValue value ∨ LooseValue value := by
  constructor
  · intro h
    have hprefix : formMediaType <+: (lower value).dropWhile isSpace := by
      unfold matchesFormType at h
      exact List.isPrefixOf_iff_prefix.mp (Bool.and_eq_true_iff.mp h).1
    obtain ⟨tail, htail⟩ := hprefix
    have hvalue : lower value = (lower value).takeWhile isSpace ++ formMediaType ++
        tail.takeWhile isSpace ++ tail.dropWhile isSpace := by
      rw [List.append_assoc, List.append_assoc, List.takeWhile_append_dropWhile, htail,
        List.takeWhile_append_dropWhile]
    have hvisible : startsWith isSpace (tail.dropWhile isSpace) = false := by
      cases hrest : tail.dropWhile isSpace with
      | nil => rfl
      | cons b rest =>
        have hhead := List.head_dropWhile_not isSpace (l := tail) (by rw [hrest]; exact List.cons_ne_nil _ _)
        simpa [hrest, startsWith] using hhead
    rw [matchesFormType_written hvalue (takeWhile_spaces _) (takeWhile_spaces _) hvisible] at h
    cases hrest : tail.dropWhile isSpace with
    | nil =>
      rw [hrest] at hvalue
      exact .inl ⟨_, _, [], hvalue, takeWhile_spaces _, takeWhile_spaces _, .inl rfl⟩
    | cons b rest =>
      rw [hrest] at hvalue hvisible h
      rw [tailMatches] at h
      split at h
      · rename_i hsemicolon
        rw [hsemicolon] at hvalue
        exact .inl ⟨_, _, _, hvalue, takeWhile_spaces _, takeWhile_spaces _,
          .inr ⟨rest, rfl, List.all_eq_true.mp h⟩⟩
      · exact .inr ⟨_, _, b, rest, hvalue, takeWhile_spaces _, takeWhile_spaces _,
          by simpa [startsWith] using hvisible, List.all_eq_true.mp h⟩
  · rintro (⟨before, after, rest, hvalue, hbefore, hafter, hrest⟩ |
      ⟨before, after, b, rest, hvalue, hbefore, hafter, hvisible, hall⟩)
    · rcases hrest with rfl | ⟨params, rfl, hparams⟩
      · rw [matchesFormType_written hvalue hbefore hafter rfl]
        rfl
      · rw [matchesFormType_written hvalue hbefore hafter rfl, tailMatches, if_pos rfl]
        exact List.all_eq_true.mpr hparams
    · rw [matchesFormType_written hvalue hbefore hafter (by simpa [startsWith] using hvisible),
        tailMatches, if_neg (parameter_plain (hall b List.mem_cons_self))]
      exact List.all_eq_true.mpr hall

/-! ## The media type of what the pattern takes -/

theorem isSpace_lower (b : Byte) : isSpace (lowerByte b) = isSpace b := by
  revert b
  exact byte_forall (by decide +kernel)

theorem semicolon_lower (b : Byte) : (lowerByte b != 59) = (b != 59) := by
  revert b
  exact byte_forall (by decide +kernel)

theorem lower_trim (t : Bytes) : lower (trim t) = trim (lower t) := by
  have hspace : isSpace ∘ lowerByte = isSpace := funext isSpace_lower
  unfold trim lower List.rdropWhile
  rw [List.dropWhile_map, hspace, ← List.map_reverse, List.dropWhile_map, hspace, List.map_reverse]

theorem mediaType_lower (value : Bytes) :
    mediaType value = trim ((lower value).takeWhile (· != 59)) := by
  have hsemicolon : (fun b : Byte => b != 59) ∘ lowerByte = fun b => b != 59 := funext semicolon_lower
  unfold mediaType
  rw [lower_trim, lower, lower, List.takeWhile_map, hsemicolon]

theorem trim_media {before after : Bytes} (hbefore : ∀ b ∈ before, isSpace b = true)
    (hafter : ∀ b ∈ after, isSpace b = true) :
    trim (before ++ formMediaType ++ after) = formMediaType := by
  obtain ⟨_, ⟨front, last, hmedia, hlast⟩, _⟩ := formMediaType_visible
  rw [trim, dropWhile_before hbefore, List.rdropWhile, List.reverse_append,
    List.dropWhile_append_of_pos (by simpa using hafter), hmedia, List.reverse_append,
    List.reverse_singleton, List.singleton_append, List.dropWhile_cons_of_neg (by rw [hlast]; decide)]
  simp

/-- Blanks, the media type and blanks hold no semicolon. -/
theorem takeWhile_media {before after : Bytes} (rest : Bytes) (hbefore : ∀ b ∈ before, isSpace b = true)
    (hafter : ∀ b ∈ after, isSpace b = true) :
    (before ++ formMediaType ++ after ++ rest).takeWhile (· != 59) =
      before ++ formMediaType ++ after ++ rest.takeWhile (· != 59) := by
  apply List.takeWhile_append_of_pos
  intro b hb
  rcases List.mem_append.mp hb with hb | hb
  · rcases List.mem_append.mp hb with hb | hb
    · simpa using space_plain (hbefore b hb)
    · exact List.all_eq_true.mp formMediaType_visible.2.2 b hb
  · simpa using space_plain (hafter b hb)

theorem mediaType_of_form {value : Bytes} (h : FormValue value) : mediaType value = formMediaType := by
  obtain ⟨before, after, rest, hvalue, hbefore, hafter, hrest⟩ := h
  rw [mediaType_lower, hvalue, takeWhile_media rest hbefore hafter]
  rcases hrest with rfl | ⟨params, rfl, _⟩
  · simpa using trim_media hbefore hafter
  · simpa using trim_media hbefore hafter

theorem mediaType_of_loose {value : Bytes} (h : LooseValue value) :
    mediaType value ≠ formMediaType := by
  obtain ⟨before, after, b, rest, hvalue, hbefore, hafter, hvisible, hall⟩ := h
  have hplain : (b :: rest).takeWhile (· != 59) = b :: rest := by
    rw [List.takeWhile_eq_self_iff]
    intro c hc
    simpa using parameter_plain (hall c hc)
  rw [mediaType_lower, hvalue, takeWhile_media _ hbefore hafter, hplain, trim, List.append_assoc,
    dropWhile_before hbefore]
  intro heq
  have hsplit := List.rdropWhile_append_rtakeWhile (p := isSpace)
    (l := formMediaType ++ (after ++ b :: rest))
  rw [heq] at hsplit
  have hspaces := List.append_cancel_left hsplit
  have hmem : b ∈ (formMediaType ++ (after ++ b :: rest)).rtakeWhile isSpace := by
    rw [hspaces]
    simp
  rw [List.mem_rtakeWhile_imp hmem] at hvisible
  cases hvisible

/-! ## Header tables -/

def isContentType (entry : Key × Value) : Bool := isNamed (ascii "content-type") entry

/-- A header value that is the form's media type, with parameters or without. -/
def IsFormValue : Value → Prop
  | .str value => FormValue value
  | _ => False

def IsLooseValue : Value → Prop
  | .str value => LooseValue value
  | _ => False

/-- Every content-type header of the table has the form's media type. -/
def AllForm (headers : Table) : Prop :=
  ∀ entry ∈ headers, isContentType entry = true →
    ∃ value, entry.2 = .str value ∧ mediaType value = formMediaType

/-- The gate admits forms only, whichever header `pairs` visits first, and so does
`prepare_post`. -/
structure ContentTypeSound (headers : Table) : Prop where
  form : ∀ order : Table, order.Perm headers → contentTypeIsForm order = true → AllForm headers
  order : ∀ order : Table, order.Perm headers → contentTypeIsForm order = contentTypeIsForm headers
  post : ∀ order : Table, order.Perm headers →
    ∀ (host : Host) (now : Rat) (context : Context) (identity : RouteIdentity) (kind : EndpointKind)
      (options : Table) (post : Prepared),
      preparePost host now context identity kind options order = some post → AllForm headers

/-- Every content-type header is the form's media type, or none is it or runs on after it. -/
def SeparatedTypes (headers : Table) : Prop :=
  (∀ entry ∈ headers, isContentType entry = true → IsFormValue entry.2) ∨
    ∀ entry ∈ headers, isContentType entry = true → ¬IsFormValue entry.2 ∧ ¬IsLooseValue entry.2

def acceptsValue : Value → Bool
  | .str value => matchesFormType value
  | _ => false

theorem acceptsValue_iff (v : Value) : acceptsValue v = true ↔ IsFormValue v ∨ IsLooseValue v := by
  cases v with
  | str value => exact matchesFormType_iff value
  | _ => simp [acceptsValue, IsFormValue, IsLooseValue]

theorem contentTypeIsForm_eq (headers : Table) : contentTypeIsForm headers =
    (headers.find? isContentType).any fun entry => acceptsValue entry.2 := by
  have named : isNamed (ascii "content-type") = isContentType := rfl
  rw [contentTypeIsForm, named]
  cases headers.find? isContentType with
  | none => rfl
  | some entry =>
    obtain ⟨key, v⟩ := entry
    cases v <;> rfl

/-- The header that is visited first decides. -/
theorem contentTypeIsForm_first {entry : Key × Value} {rest : Table}
    (h : isContentType entry = true) : contentTypeIsForm (entry :: rest) = acceptsValue entry.2 := by
  rw [contentTypeIsForm_eq, List.find?_cons_of_pos h]
  rfl

theorem contentTypeIsForm_of_all {headers : Table} {answer : Bool}
    (h : ∀ entry ∈ headers, isContentType entry = true → acceptsValue entry.2 = answer) :
    contentTypeIsForm headers = (answer && headers.any isContentType) := by
  rw [contentTypeIsForm_eq]
  cases hfound : headers.find? isContentType with
  | none =>
    have hnone : headers.any isContentType = false := by
      rw [List.any_eq_false]
      exact List.find?_eq_none.mp hfound
    rw [hnone, Bool.and_false]
    rfl
  | some entry =>
    have hmem := List.mem_of_find?_eq_some hfound
    have hname := List.find?_some hfound
    have hany : headers.any isContentType = true := List.any_eq_true.mpr ⟨entry, hmem, hname⟩
    rw [Option.any_some, h entry hmem hname, hany, Bool.and_true]

/-- Any header can be the first one visited. -/
theorem visited_first {headers : Table} {entry : Key × Value} (h : entry ∈ headers) :
    ∃ rest, (entry :: rest).Perm headers := by
  obtain ⟨before, after, rfl⟩ := List.append_of_mem h
  exact ⟨before ++ after, List.perm_middle.symm⟩

theorem allForm_of_separated {headers order : Table} (h : SeparatedTypes headers)
    (hperm : order.Perm headers) (haccepted : contentTypeIsForm order = true) : AllForm headers := by
  rcases h with hform | hnone
  · intro entry hentry hname
    have hvalue := hform entry hentry hname
    obtain ⟨key, v⟩ := entry
    cases v with
    | str value => exact ⟨value, rfl, mediaType_of_form hvalue⟩
    | _ => exact hvalue.elim
  · have hrefused : contentTypeIsForm order = (false && order.any isContentType) := by
      apply contentTypeIsForm_of_all
      intro entry hentry hname
      obtain ⟨hno, hnot⟩ := hnone entry (hperm.mem_iff.mp hentry) hname
      rw [Bool.eq_false_iff]
      exact fun h => (acceptsValue_iff entry.2).mp h |>.elim hno hnot
    rw [hrefused] at haccepted
    cases haccepted

theorem order_of_separated {headers order : Table} (h : SeparatedTypes headers)
    (hperm : order.Perm headers) : contentTypeIsForm order = contentTypeIsForm headers := by
  have hanswer : ∃ answer, ∀ entry ∈ headers, isContentType entry = true →
      acceptsValue entry.2 = answer := by
    rcases h with hform | hnone
    · refine ⟨true, fun entry hentry hname => ?_⟩
      exact (acceptsValue_iff entry.2).mpr (.inl (hform entry hentry hname))
    · refine ⟨false, fun entry hentry hname => ?_⟩
      obtain ⟨hno, hnot⟩ := hnone entry hentry hname
      rw [Bool.eq_false_iff]
      exact fun h => (acceptsValue_iff entry.2).mp h |>.elim hno hnot
  obtain ⟨answer, hall⟩ := hanswer
  rw [contentTypeIsForm_of_all hall, contentTypeIsForm_of_all fun entry hentry =>
    hall entry (hperm.mem_iff.mp hentry)]
  have hany : order.any isContentType = headers.any isContentType := by
    rw [Bool.eq_iff_iff, List.any_eq_true, List.any_eq_true]
    constructor
    · rintro ⟨entry, hentry, hname⟩
      exact ⟨entry, hperm.mem_iff.mp hentry, hname⟩
    · rintro ⟨entry, hentry, hname⟩
      exact ⟨entry, hperm.mem_iff.mpr hentry, hname⟩
  rw [hany]

/-- The gate is sound exactly on the tables whose content types are all the form's, or none
of them begins like it. -/
theorem content_type_sound_iff (headers : Table) :
    ContentTypeSound headers ↔ SeparatedTypes headers := by
  constructor
  · intro h
    by_contra hmixed
    unfold SeparatedTypes at hmixed
    push Not at hmixed
    obtain ⟨⟨other, hother, hotherName, hnoForm⟩, entry, hentry, hname, haccepts⟩ := hmixed
    have haccepted : acceptsValue entry.2 = true := by
      rw [acceptsValue_iff]
      by_cases hform : IsFormValue entry.2
      · exact .inl hform
      · exact .inr (haccepts hform)
    obtain ⟨rest, hfirst⟩ := visited_first hentry
    have htrue : contentTypeIsForm (entry :: rest) = true := by
      rw [contentTypeIsForm_first hname, haccepted]
    obtain ⟨value, hvalue, hmedia⟩ := h.form _ hfirst htrue other hother hotherName
    have hrefused : acceptsValue other.2 = false := by
      rw [Bool.eq_false_iff]
      intro hyes
      rcases (acceptsValue_iff other.2).mp hyes with hform | hloose
      · exact hnoForm hform
      · rw [hvalue] at hloose
        exact mediaType_of_loose hloose hmedia
    obtain ⟨rest', hfirst'⟩ := visited_first hother
    have hfalse : contentTypeIsForm (other :: rest') = false := by
      rw [contentTypeIsForm_first hotherName, hrefused]
    rw [h.order _ hfirst, ← h.order _ hfirst', hfalse] at htrue
    cases htrue
  · intro h
    refine ⟨fun order => allForm_of_separated h, fun order => order_of_separated h, ?_⟩
    intro order hperm host now context identity kind options post hpost
    apply allForm_of_separated h hperm
    by_contra hrefused
    unfold preparePost at hpost
    rw [Bool.eq_false_iff.mpr hrefused] at hpost
    cases hpost

/-- A content type that only begins with the form's passes, and with two spellings of the
header the one visited first decides. -/
theorem content_type_unsound :
    ¬ContentTypeSound [(.name "Content-Type", .str (ascii "application/x-www-form-urlencodedjson"))] ∧
    ¬ContentTypeSound [(.name "Content-Type", .str (ascii "application/x-www-form-urlencoded")),
      (.name "content-type", .str (ascii "application/json"))] := by
  constructor
  · intro h
    obtain ⟨value, hvalue, hmedia⟩ := h.form _ (List.Perm.refl _) (by decide +kernel) _
      List.mem_cons_self (by decide +kernel)
    cases hvalue
    revert hmedia
    decide +kernel
  · intro h
    have hsame := h.order _ (List.Perm.swap _ _ _)
    revert hsame
    decide +kernel

end KonnectFapi.Guarantees

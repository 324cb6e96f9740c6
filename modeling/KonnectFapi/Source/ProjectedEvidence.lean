import KonnectFapi.Lib.Refusal
import KonnectFapi.Source.ThirdPartyBackend

/-!
# What the backend projects

Source: third-party-backend/app.py:113-150. A projection is the thirteen whitelisted
fields, copied in one order; it is made exactly when each of them passes its check and
the two cross-checks hold.
-/

namespace KonnectFapi.Source.ThirdPartyBackend
open Lib

/-- The fields that reach the browser, in the order of the result. -/
def whitelist : List Text :=
  [text "route", text "azp", text "client_authentication"] ++ textFields ++ thumbprintFields ++
    flagFields

def copied (source : Members) (name : Text) : Text × Json :=
  (name, (source.lookup name).getD .null)

def selected (source : Members) : Members := whitelist.map (copied source)

def identityFields (expected : Expected) : List (Text × Text) :=
  [(text "route", expected.route), (text "azp", expected.azp),
    (text "client_authentication", expected.clientAuthentication)]

/-- `null`, or a short text without control characters. -/
def IsText (value : Option Json) : Prop :=
  value = some .null ∨ ∃ t, value = some (.str t) ∧ t.length ≤ 256 ∧ t.any isControl = false

def IsThumbprintValue (value : Option Json) : Prop :=
  ∃ t, value = some (.str t) ∧ t.length = 43 ∧ t.all isBase64Url = true

def IsFlag (name : Text) (value : Option Json) : Prop :=
  ∃ b, value = some (.bool b) ∧ (name = text "header_claims_match" ∨ b = true)

/-- Department and route are there, and each is what its header carried. -/
structure HeadersAgree (source : Members) : Prop where
  department : ∃ t, t ≠ [] ∧ source.lookup (text "department") = some (.str t) ∧
    source.lookup (text "department_header") = some (.str t)
  route : ∃ t, t ≠ [] ∧ source.lookup (text "logical_route") = some (.str t) ∧
    source.lookup (text "logical_route_header") = some (.str t)

structure Projectable (source : Members) (expected : Expected) : Prop where
  identity : ∀ field ∈ identityFields expected, source.lookup field.1 = some (.str field.2)
  texts : ∀ name ∈ textFields, IsText (source.lookup name)
  thumbprints : ∀ name ∈ thumbprintFields, IsThumbprintValue (source.lookup name)
  flags : ∀ name ∈ flagFields, IsFlag name (source.lookup name)
  binding : source.lookup (text "token_certificate_thumbprint") =
    source.lookup (text "forwarded_client_certificate_thumbprint")
  headers : source.lookup (text "header_claims_match") = some (.bool true) → HeadersAgree source

/-! ## One field -/

theorem projectIdentity_iff (source : Members) (field : Text × Text) (r : Text × Json) :
    projectIdentity source field = .ok r ↔
      source.lookup field.1 = some (.str field.2) ∧ r = copied source field.1 := by
  unfold projectIdentity copied
  constructor
  · intro h
    split at h
    · rename_i value found
      split at h
      · rename_i same
        cases h
        rw [found, ← same]
        exact ⟨rfl, rfl⟩
      · cases h
    · cases h
  · rintro ⟨found, rfl⟩
    rw [found]
    exact if_pos rfl

theorem projectText_iff (source : Members) (name : Text) (r : Text × Json) :
    projectText source name = .ok r ↔ IsText (source.lookup name) ∧ r = copied source name := by
  unfold projectText copied IsText
  constructor
  · intro h
    split at h
    · rename_i found
      cases h
      rw [found]
      exact ⟨Or.inl rfl, rfl⟩
    · rename_i value found
      split at h
      · rename_i good
        cases h
        rw [found]
        exact ⟨Or.inr ⟨value, rfl, good⟩, rfl⟩
      · cases h
    · cases h
  · rintro ⟨found | ⟨t, found, good⟩, rfl⟩
    · rw [found]
      rfl
    · rw [found]
      exact if_pos good

theorem projectThumbprint_iff (source : Members) (name : Text) (r : Text × Json) :
    projectThumbprint source name = .ok r ↔
      IsThumbprintValue (source.lookup name) ∧ r = copied source name := by
  unfold projectThumbprint copied IsThumbprintValue
  constructor
  · intro h
    split at h
    · rename_i value found
      split at h
      · rename_i good
        cases h
        rw [found]
        exact ⟨⟨value, rfl, good⟩, rfl⟩
      · cases h
    · cases h
  · rintro ⟨⟨t, found, good⟩, rfl⟩
    rw [found]
    exact if_pos good

theorem projectFlag_iff (source : Members) (name : Text) (r : Text × Json) :
    projectFlag source name = .ok r ↔ IsFlag name (source.lookup name) ∧ r = copied source name := by
  unfold projectFlag copied IsFlag
  constructor
  · intro h
    split at h
    · rename_i value found
      split at h
      · rename_i good
        cases h
        rw [found]
        exact ⟨⟨value, rfl, good⟩, rfl⟩
      · cases h
    · cases h
  · rintro ⟨⟨b, found, good⟩, rfl⟩
    rw [found]
    exact if_pos good

/-! ## The cross-checks -/

theorem lookup_map_copied (source : Members) {names : List Text} {name : Text} (h : name ∈ names) :
    (names.map (copied source)).lookup name = some ((source.lookup name).getD .null) := by
  induction names with
  | nil => cases h
  | cons first rest ih =>
    rw [List.map_cons, copied, List.lookup_cons]
    split
    · rename_i same
      rw [eq_of_beq same]
    · rename_i other
      rcases List.mem_cons.mp h with rfl | h
      · rw [beq_self_eq_true] at other
        cases other
      · exact ih h

theorem filled_selected (source : Members) {name : Text} (h : name ∈ whitelist) :
    filled (selected source) name = filled source name := by
  unfold filled selected
  rw [lookup_map_copied source h]
  cases source.lookup name <;> rfl

theorem filled_eq_some {result : Members} {name t : Text} :
    filled result name = some t ↔ result.lookup name = some (.str t) ∧ t ≠ [] := by
  unfold filled
  constructor
  · intro h
    split at h
    · rename_i c rest found
      cases h
      exact ⟨found, List.cons_ne_nil c rest⟩
    · cases h
  · rintro ⟨found, nonempty⟩
    rw [found]
    cases t with
    | nil => exact absurd rfl nonempty
    | cons c rest => rfl

theorem filled_of_thumbprint {source : Members} {name : Text}
    (h : IsThumbprintValue (source.lookup name)) :
    ∃ t, filled source name = some t ∧ source.lookup name = some (.str t) := by
  obtain ⟨t, found, length, -⟩ := h
  refine ⟨t, filled_eq_some.mpr ⟨found, ?_⟩, found⟩
  rintro rfl
  cases length

theorem consistentHeaders_selected (source : Members) :
    consistentHeaders (selected source) = consistentHeaders source := by
  have same : ∀ name ∈ textFields, filled (selected source) name = filled source name :=
    fun name h => filled_selected source (by
      rw [whitelist]
      simp only [List.mem_append]
      exact Or.inl (Or.inl (Or.inr h)))
  unfold textFields at same
  simp only [List.forall_mem_cons] at same
  obtain ⟨h1, h2, h3, h4, -⟩ := same
  unfold consistentHeaders textFields
  simp only [List.all_cons, List.all_nil, h1, h2, h3, h4]

theorem consistentHeaders_iff (source : Members) :
    consistentHeaders source = true ↔ HeadersAgree source := by
  unfold consistentHeaders textFields
  simp only [List.all_cons, List.all_nil, Bool.and_true, Bool.and_eq_true, beq_iff_eq,
    Option.isSome_iff_exists, filled_eq_some]
  constructor
  · rintro ⟨⟨⟨⟨d, hd⟩, ⟨r, hr⟩, -, -⟩, department⟩, route⟩
    rw [filled_eq_some.mpr hd] at department
    rw [filled_eq_some.mpr hr] at route
    exact ⟨⟨d, hd.2, hd.1, (filled_eq_some.mp department.symm).1⟩,
      ⟨r, hr.2, hr.1, (filled_eq_some.mp route.symm).1⟩⟩
  · rintro ⟨⟨d, hd, claim, header⟩, ⟨r, hr, claim', header'⟩⟩
    refine ⟨⟨⟨⟨d, claim, hd⟩, ⟨r, claim', hr⟩, ⟨d, header, hd⟩, ⟨r, header', hr⟩⟩, ?_⟩, ?_⟩
    · rw [filled_eq_some.mpr ⟨claim, hd⟩, filled_eq_some.mpr ⟨header, hd⟩]
    · rw [filled_eq_some.mpr ⟨claim', hr⟩, filled_eq_some.mpr ⟨header', hr⟩]

/-! ## The projection -/

theorem projectObject_iff (source result : Members) (expected : Expected) :
    projectObject source expected = .ok result ↔
      Projectable source expected ∧ result = selected source := by
  have whole : (identityFields expected).map (fun field => copied source field.1) ++
      textFields.map (copied source) ++ thumbprintFields.map (copied source) ++
      flagFields.map (copied source) = selected source := by
    unfold selected whitelist
    rw [List.map_append, List.map_append, List.map_append]
    rfl
  have certificate := @filled_selected source (text "token_certificate_thumbprint") (by
    simp [whitelist, thumbprintFields])
  have forwarded := @filled_selected source (text "forwarded_client_certificate_thumbprint") (by
    simp [whitelist, thumbprintFields])
  have claimed : (selected source).lookup (text "header_claims_match") =
      some ((source.lookup (text "header_claims_match")).getD .null) :=
    lookup_map_copied source (by simp [whitelist, flagFields])
  have flag : ((selected source).lookup (text "header_claims_match")).bind Json.bool? = some true ↔
      source.lookup (text "header_claims_match") = some (.bool true) := by
    rw [claimed]
    cases source.lookup (text "header_claims_match") with
    | none => simp [Json.bool?]
    | some v => cases v <;> simp [Json.bool?]
  unfold projectObject
  constructor
  · intro h
    obtain ⟨first, h1, h⟩ := bind_eq_ok.mp h
    obtain ⟨second, h2, h⟩ := bind_eq_ok.mp h
    obtain ⟨third, h3, h⟩ := bind_eq_ok.mp h
    obtain ⟨fourth, h4, h⟩ := bind_eq_ok.mp h
    obtain ⟨identity, rfl⟩ := (mapM_eq_ok_map (projectIdentity_iff source)).mp h1
    obtain ⟨texts, rfl⟩ := (mapM_eq_ok_map (projectText_iff source)).mp h2
    obtain ⟨thumbprints, rfl⟩ := (mapM_eq_ok_map (projectThumbprint_iff source)).mp h3
    obtain ⟨flags, rfl⟩ := (mapM_eq_ok_map (projectFlag_iff source)).mp h4
    dsimp only at h
    rw [← identityFields, whole, certificate, forwarded, consistentHeaders_selected] at h
    obtain ⟨c, filledC, foundC⟩ := filled_of_thumbprint
      (thumbprints (text "token_certificate_thumbprint") (by simp [thumbprintFields]))
    obtain ⟨f, filledF, foundF⟩ := filled_of_thumbprint
      (thumbprints (text "forwarded_client_certificate_thumbprint") (by simp [thumbprintFields]))
    split at h
    · cases h
    · rename_i binding
      split at h
      · cases h
      · rename_i headers
        cases h
        rw [not_not, filledC, filledF] at binding
        rw [flag] at headers
        refine ⟨⟨identity, texts, thumbprints, flags, ?_, fun matched => ?_⟩, rfl⟩
        · rw [foundC, foundF, Option.some.inj binding]
        · rw [← consistentHeaders_iff]
          simpa [matched] using headers
  · rintro ⟨good, rfl⟩
    have binding : filled source (text "token_certificate_thumbprint") =
        filled source (text "forwarded_client_certificate_thumbprint") := by
      unfold filled
      rw [good.binding]
    have headers : ¬ (((selected source).lookup (text "header_claims_match")).bind Json.bool? =
        some true ∧ consistentHeaders source = false) := by
      rw [flag]
      rintro ⟨matched, inconsistent⟩
      rw [(consistentHeaders_iff source).mpr (good.headers matched)] at inconsistent
      cases inconsistent
    refine bind_eq_ok.mpr ⟨_, (mapM_eq_ok_map (projectIdentity_iff source)).mpr
      ⟨good.identity, rfl⟩, ?_⟩
    refine bind_eq_ok.mpr ⟨_, (mapM_eq_ok_map (projectText_iff source)).mpr ⟨good.texts, rfl⟩, ?_⟩
    refine bind_eq_ok.mpr ⟨_, (mapM_eq_ok_map (projectThumbprint_iff source)).mpr
      ⟨good.thumbprints, rfl⟩, ?_⟩
    refine bind_eq_ok.mpr ⟨_, (mapM_eq_ok_map (projectFlag_iff source)).mpr ⟨good.flags, rfl⟩, ?_⟩
    dsimp only
    rw [← identityFields, whole, certificate, forwarded, consistentHeaders_selected]
    exact (if_neg (not_not.mpr binding)).trans (if_neg headers)

/-- Objects that agree on the whitelist have the same projection. -/
theorem selected_congr {source other : Members}
    (h : ∀ name ∈ whitelist, source.lookup name = other.lookup name) :
    selected source = selected other := by
  apply List.map_congr_left
  intro name hname
  rw [copied, copied, h name hname]

end KonnectFapi.Source.ThirdPartyBackend

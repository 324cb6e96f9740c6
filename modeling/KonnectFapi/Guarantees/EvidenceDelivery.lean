import KonnectFapi.Guarantees.VerifierAdmission
import KonnectFapi.Lib.JsonRoundTrip
import KonnectFapi.Lib.JsonTexts
import KonnectFapi.Source.EvidenceView
import KonnectFapi.Source.ThirdPartyBackend
import Mathlib.Algebra.GroupWithZero.Nat

/-!
# Evidence from the verifier to the page

Source: pop-verifier/app.py:208-255, third-party-backend/app.py:103-183,
ui/evidence.js:24-60. Of the three validators only the producer takes any short text;
the evidence goes through unchanged exactly when its texts are clean.
-/

namespace KonnectFapi.Guarantees
open Lib Lib.Json Source.PopVerifier Source.ThirdPartyBackend

/-- No control character, and no surrogate pair as two characters. -/
structure Clean (t : Text) : Prop where
  visible : t.any isControl = false
  unpaired : hasPair t = false

/-- The texts the verifier reports: two claims and two first header fields, when short. -/
def RoutingText (headers : HeaderFields) (claims : Claims) (t : Text) : Prop :=
  t.length ≤ 256 ∧
    (claims.lookup departmentClaim = some (.str t) ∨ claims.lookup routeClaim = some (.str t) ∨
      getFirst headers (text "X-Demo-Department") = some t ∨
      getFirst headers (text "X-Demo-Route") = some t)

/-- The verifier's response as the backend's client receives it. -/
def delivered (response : Response) : UpstreamResponse where
  status := response.status
  headers := response.headers
  read n := .ok (response.body.take n)

structure AcceptedEndToEnd (response : Response) (evidence : Members) (expected : Expected) : Prop where
  thirteen : evidence.length = 13
  size : response.body.length ≤ maxResponseBytes
  backend : ∃ result, projectEvidence response.body expected = .ok result ∧
    result.Perm evidence ∧ fetchEvidence (.ok (delivered response)) expected = (200, .obj result) ∧
    ∃ shown, Source.EvidenceView.project (.obj result) expected.route = .ok shown

/-! ## The evidence as the backend sees it -/

/-- The thirteen members, given the entry, the thumbprints and the routing texts. -/
def fields (expected : Expected) (certificate peer : Text) (routing : RoutingEvidence) : Members :=
  [(text "azp", .str expected.azp), (text "route", .str expected.route),
    (text "client_authentication", .str expected.clientAuthentication),
    (text "token_certificate_thumbprint", .str certificate),
    (text "forwarded_client_certificate_thumbprint", .str certificate),
    (text "api_gateway_tls_peer_certificate_thumbprint", .str peer),
    (text "token_signature_verified", .bool true), (text "binding_verified", .bool true)] ++
    routing.members

def identityMembers (expected : Expected) : Members :=
  [(text "route", .str expected.route), (text "azp", .str expected.azp),
    (text "client_authentication", .str expected.clientAuthentication)]

def textMembers (routing : RoutingEvidence) : Members :=
  [(text "department", orNull routing.department),
    (text "logical_route", orNull routing.logicalRoute),
    (text "department_header", orNull routing.departmentHeader),
    (text "logical_route_header", orNull routing.logicalRouteHeader)]

def thumbprintMembers (certificate peer : Text) : Members :=
  [(text "token_certificate_thumbprint", .str certificate),
    (text "forwarded_client_certificate_thumbprint", .str certificate),
    (text "api_gateway_tls_peer_certificate_thumbprint", .str peer)]

def verifiedMembers : Members :=
  [(text "token_signature_verified", .bool true), (text "binding_verified", .bool true)]

def matchMembers (routing : RoutingEvidence) : Members :=
  [(text "header_claims_match", .bool routing.headerClaimsMatch)]

/-- The same members in the order of the projection. -/
def projected (expected : Expected) (certificate peer : Text) (routing : RoutingEvidence) : Members :=
  identityMembers expected ++ textMembers routing ++ thumbprintMembers certificate peer ++
    (verifiedMembers ++ matchMembers routing)

theorem projected_perm (expected : Expected) (certificate peer : Text) (routing : RoutingEvidence) :
    (projected expected certificate peer routing).Perm (fields expected certificate peer routing) := by
  have swapped : (textMembers routing ++ (thumbprintMembers certificate peer ++ verifiedMembers)).Perm
      (thumbprintMembers certificate peer ++ verifiedMembers ++ textMembers routing) :=
    List.perm_append_comm
  have tail := (swapped.append_right (matchMembers routing)).cons
    (text "client_authentication", Json.str expected.clientAuthentication)
  exact ((tail.cons (text "azp", Json.str expected.azp)).cons (text "route", Json.str expected.route)).trans
    (List.Perm.swap _ _ _)

/-- A thumbprint of the encoded length and alphabet. -/
structure IsThumbprint (t : Text) : Prop where
  length : t.length = 43
  alphabet : t.all isBase64Url = true

theorem isThumbprint_sha256 {lib : Libraries} (digest : ∀ input, (lib.sha256 input).length = 32)
    (input : Bytes) : IsThumbprint (base64urlSha256 lib input) := by
  unfold base64urlSha256
  constructor
  · rw [ofAscii_length, Base64.url, Base64.length_encode, digest]
  · rw [List.all_eq_true]
    intro c hc
    obtain ⟨b, hb, rfl⟩ := List.mem_map.mp hc
    have alphabet := Base64.encode_alphabet 45 95 _ b hb
    have plain : ∀ b : Byte, isAlnum b = true ∨ b = 45 ∨ b = 95 →
        isBase64Url (CodePoint.ofByte b) = true := byte_forall (by decide +kernel)
    exact plain b alphabet

theorem mapM_ok {α β : Type} {f : α → Except Text β} {g : α → β} {l : List α}
    (h : ∀ a ∈ l, f a = .ok (g a)) : l.mapM f = .ok (l.map g) := by
  induction l with
  | nil => rfl
  | cons a rest ih =>
    rw [List.mapM_cons, h a List.mem_cons_self, ih fun a ha => h a (List.mem_cons_of_mem _ ha)]
    rfl

theorem projectText_orNull {source : Members} {name : Text} {value : Option Text}
    (found : source.lookup name = some (orNull value))
    (good : ∀ t, value = some t → t.length ≤ 256 ∧ t.any isControl = false) :
    projectText source name = .ok (name, orNull value) := by
  unfold projectText
  rw [found]
  cases value with
  | none => rfl
  | some t => exact if_pos (good t rfl)

theorem projectFlag_bool {source : Members} {name : Text} {value : Bool}
    (found : source.lookup name = some (.bool value))
    (good : name = text "header_claims_match" ∨ value = true) :
    projectFlag source name = .ok (name, .bool value) := by
  unfold projectFlag
  rw [found]
  exact if_pos good

/-- The flag's own condition: four texts that are there, equal in pairs. -/
def Matching (routing : RoutingEvidence) : Prop :=
  [routing.department, routing.logicalRoute, routing.departmentHeader,
    routing.logicalRouteHeader].all truthy = true ∧
  routing.department = routing.departmentHeader ∧ routing.logicalRoute = routing.logicalRouteHeader

/-- What the routing part of the evidence guarantees. -/
structure GoodRouting (routing : RoutingEvidence) : Prop where
  texts : ∀ t, some t ∈ [routing.department, routing.logicalRoute, routing.departmentHeader,
    routing.logicalRouteHeader] → t.length ≤ 256 ∧ t.any isControl = false
  consistent : routing.headerClaimsMatch = true → Matching routing

theorem filled_of_truthy {result : Members} {name : Text} {value : Option Text}
    (found : result.lookup name = some (orNull value)) (h : truthy value = true) :
    filled result name = value := by
  unfold filled
  rw [found]
  match value, h with
  | some (c :: rest), _ => rfl

theorem consistentHeaders_projected {expected : Expected} {certificate peer : Text}
    {routing : RoutingEvidence} (h : Matching routing) :
    consistentHeaders (projected expected certificate peer routing) = true := by
  obtain ⟨present, department, route⟩ := h
  simp only [List.all_cons, List.all_nil, Bool.and_true, Bool.and_eq_true] at present
  obtain ⟨h1, h2, h3, h4⟩ := present
  have f1 : filled (projected expected certificate peer routing) (text "department") =
      routing.department := filled_of_truthy rfl h1
  have f2 : filled (projected expected certificate peer routing) (text "logical_route") =
      routing.logicalRoute := filled_of_truthy rfl h2
  have f3 : filled (projected expected certificate peer routing) (text "department_header") =
      routing.departmentHeader := filled_of_truthy rfl h3
  have f4 : filled (projected expected certificate peer routing) (text "logical_route_header") =
      routing.logicalRouteHeader := filled_of_truthy rfl h4
  have some1 : ∀ {value : Option Text}, truthy value = true → value.isSome = true := by
    intro value h
    cases value with
    | none => cases h
    | some t => rfl
  unfold consistentHeaders textFields
  simp only [List.all_cons, List.all_nil, f1, f2, f3, f4, some1 h3, some1 h4,
    Bool.and_true, department, route, beq_self_eq_true]

theorem projectObject_fields {expected : Expected} {certificate peer : Text}
    {routing : RoutingEvidence} (thumbprint : IsThumbprint certificate) (peerThumbprint : IsThumbprint peer)
    (good : GoodRouting routing) :
    projectObject (fields expected certificate peer routing) expected =
      .ok (projected expected certificate peer routing) := by
  have identity : [(text "route", expected.route), (text "azp", expected.azp),
      (text "client_authentication", expected.clientAuthentication)].mapM
        (projectIdentity (fields expected certificate peer routing)) =
      .ok (identityMembers expected) := by
    refine mapM_ok (g := fun field : Text × Text => (field.1, Json.str field.2)) fun field hfield => ?_
    simp only [List.mem_cons, List.not_mem_nil, or_false] at hfield
    rcases hfield with rfl | rfl | rfl
    all_goals exact if_pos rfl
  have texts : textFields.mapM (projectText (fields expected certificate peer routing)) =
      .ok (textMembers routing) := by
    refine mapM_ok (g := fun name => (name,
      ((fields expected certificate peer routing).lookup name).getD .null)) fun name hname => ?_
    simp only [textFields, List.mem_cons, List.not_mem_nil, or_false] at hname
    rcases hname with rfl | rfl | rfl | rfl
    · exact projectText_orNull rfl fun t ht => good.texts t (by simp [ht])
    · exact projectText_orNull rfl fun t ht => good.texts t (by simp [ht])
    · exact projectText_orNull rfl fun t ht => good.texts t (by simp [ht])
    · exact projectText_orNull rfl fun t ht => good.texts t (by simp [ht])
  have thumbprints : thumbprintFields.mapM
      (projectThumbprint (fields expected certificate peer routing)) =
      .ok (thumbprintMembers certificate peer) := by
    refine mapM_ok (g := fun name => (name,
      ((fields expected certificate peer routing).lookup name).getD .null)) fun name hname => ?_
    simp only [thumbprintFields, List.mem_cons, List.not_mem_nil, or_false] at hname
    rcases hname with rfl | rfl | rfl
    · exact if_pos ⟨thumbprint.length, thumbprint.alphabet⟩
    · exact if_pos ⟨thumbprint.length, thumbprint.alphabet⟩
    · exact if_pos ⟨peerThumbprint.length, peerThumbprint.alphabet⟩
  have flags : flagFields.mapM (projectFlag (fields expected certificate peer routing)) =
      .ok (verifiedMembers ++ matchMembers routing) := by
    refine mapM_ok (g := fun name => (name,
      ((fields expected certificate peer routing).lookup name).getD .null)) fun name hname => ?_
    simp only [flagFields, List.mem_cons, List.not_mem_nil, or_false] at hname
    rcases hname with rfl | rfl | rfl
    · exact projectFlag_bool rfl (Or.inr rfl)
    · exact projectFlag_bool rfl (Or.inr rfl)
    · exact projectFlag_bool rfl (Or.inl rfl)
  have binding : filled (projected expected certificate peer routing)
        (text "token_certificate_thumbprint") =
      filled (projected expected certificate peer routing)
        (text "forwarded_client_certificate_thumbprint") := rfl
  have headers : ¬ ((((projected expected certificate peer routing).lookup
        (text "header_claims_match")).bind Json.bool?) = some true ∧
      consistentHeaders (projected expected certificate peer routing) = false) := by
    rintro ⟨flag, inconsistent⟩
    rw [consistentHeaders_projected (good.consistent (Option.some.inj flag))] at inconsistent
    cases inconsistent
  unfold projectObject
  rw [identity, texts, thumbprints, flags]
  exact (if_neg (not_not.mpr binding)).trans (if_neg headers)

/-! ## Size -/

theorem length_printChar (c : CodePoint) : (printChar c).length ≤ 12 := by
  unfold printChar
  split
  · simp
  · split
    · simp
    · split
      · simp [escapeUnit]
      · simp [escapeUnit]

theorem length_printString (s : Text) : (printString s).length ≤ 12 * s.length + 2 := by
  have body : (s.flatMap printChar).length ≤ 12 * s.length := by
    induction s with
    | nil => simp
    | cons c rest ih =>
      have := length_printChar c
      rw [List.flatMap_cons, List.length_append, List.length_cons]
      omega
  simp only [printString, List.length_append, List.length_cons, List.length_nil]
  omega

/-- Each member costs its name, its value and two separators. -/
theorem length_printMembers (found : Members) :
    (join (ascii ",") (printMembers found)).length ≤
      (found.map fun m => (printString m.1).length + 2).sum +
        (found.map fun m => (print m.2).length).sum := by
  induction found with
  | nil => simp [join, printMembers]
  | cons m rest ih =>
    have comma : (ascii ",").length = 1 := rfl
    have colon : (ascii ":").length = 1 := rfl
    cases rest with
    | nil =>
      simp only [join, printMembers, List.intercalate_singleton, List.length_append, List.map_cons,
        List.map_nil, List.sum_cons, List.sum_nil, colon]
      omega
    | cons next rest =>
      rw [printMembers, printMembers, join_cons_cons]
      rw [printMembers] at ih
      simp only [List.length_append, List.map_cons, List.sum_cons, colon, comma] at ih ⊢
      omega

theorem length_print_str {t : Text} {bound : Nat} (h : t.length ≤ bound) :
    (print (.str t)).length ≤ 12 * bound + 2 := by
  have := length_printString t
  show (printString t).length ≤ _
  omega

theorem length_print_orNull {value : Option Text} (h : ∀ t, value = some t → t.length ≤ 256) :
    (print (orNull value)).length ≤ 3074 := by
  cases value with
  | none => decide
  | some t => exact length_print_str (h t rfl)

theorem length_print_bool (b : Bool) : (print (.bool b)).length ≤ 5 := by cases b <;> decide

def fieldNames : List Text :=
  [text "azp", text "route", text "client_authentication"] ++ thumbprintFields ++
    [text "token_signature_verified", text "binding_verified"] ++ textFields ++
    [text "header_claims_match"]

theorem fields_names (expected : Expected) (certificate peer : Text) (routing : RoutingEvidence) :
    (fields expected certificate peer routing).map Prod.fst = fieldNames := rfl

theorem fieldNames_length :
    (fieldNames.map fun name => (printString name).length + 2).sum ≤ 400 := by
  decide +kernel

theorem length_print_fields {expected : Expected} (known : expected ∈ routes.map Prod.snd)
    {certificate peer : Text} {routing : RoutingEvidence} (thumbprint : IsThumbprint certificate)
    (peerThumbprint : IsThumbprint peer)
    (short : ∀ t, some t ∈ [routing.department, routing.logicalRoute, routing.departmentHeader,
      routing.logicalRouteHeader] → t.length ≤ 256) :
    (print (.obj (fields expected certificate peer routing))).length ≤ maxResponseBytes := by
  have entry : expected.azp.length ≤ 25 ∧ expected.route.length ≤ 7 ∧
      expected.clientAuthentication.length ≤ 15 := by
    simp only [routes, List.map_cons, List.map_nil, List.mem_cons, List.not_mem_nil, or_false] at known
    rcases known with rfl | rfl <;> decide +kernel
  have h1 := length_print_str entry.1
  have h2 := length_print_str entry.2.1
  have h3 := length_print_str entry.2.2
  have h4 := length_print_str (Nat.le_of_eq thumbprint.length)
  have h5 := length_print_str (Nat.le_of_eq peerThumbprint.length)
  have h6 := length_print_orNull fun t (ht : routing.department = some t) => short t (by simp [ht])
  have h7 := length_print_orNull fun t (ht : routing.logicalRoute = some t) => short t (by simp [ht])
  have h8 := length_print_orNull fun t (ht : routing.departmentHeader = some t) =>
    short t (by simp [ht])
  have h9 := length_print_orNull fun t (ht : routing.logicalRouteHeader = some t) =>
    short t (by simp [ht])
  have h10 := length_print_bool true
  have h11 := length_print_bool routing.headerClaimsMatch
  have members := length_printMembers (fields expected certificate peer routing)
  have braces : (print (.obj (fields expected certificate peer routing))).length =
      (join (ascii ",") (printMembers (fields expected certificate peer routing))).length + 2 := by
    simp only [print, List.length_append]
    show 1 + _ + 1 = _
    omega
  have names : ((fields expected certificate peer routing).map
      fun m => (printString m.1).length + 2).sum ≤ 400 := by
    rw [show (fun m : Text × Json => (printString m.1).length + 2) =
      (fun name => (printString name).length + 2) ∘ Prod.fst from rfl, ← List.map_map, fields_names]
    exact fieldNames_length
  have values : ((fields expected certificate peer routing).map fun m => (print m.2).length).sum ≤
      14450 := by
    simp only [fields, RoutingEvidence.members, List.cons_append, List.nil_append, List.map_cons,
      List.map_nil, List.sum_cons, List.sum_nil]
    omega
  rw [braces]
  unfold maxResponseBytes
  omega

/-! ## What comes through -/

theorem mapM_mem {α β : Type} {f : α → Except Text β} {l : List α} {found : List β}
    (h : l.mapM f = .ok found) : ∀ b ∈ found, ∃ a ∈ l, f a = .ok b := by
  induction l generalizing found with
  | nil =>
    cases h
    simp
  | cons a rest ih =>
    rw [List.mapM_cons] at h
    cases first : f a with
    | error e => simp [first, bind, Except.bind] at h
    | ok b =>
      cases others : rest.mapM f with
      | error e => simp [first, others, bind, Except.bind] at h
      | ok found' =>
        simp only [first, others, bind, Except.bind, pure, Except.pure, Except.ok.injEq] at h
        subst h
        rw [List.forall_mem_cons]
        refine ⟨⟨a, List.mem_cons_self, first⟩, fun b hb => ?_⟩
        obtain ⟨a', inside, made⟩ := ih others b hb
        exact ⟨a', List.mem_cons_of_mem _ inside, made⟩

def otherFields : List Text :=
  [text "route", text "azp", text "client_authentication"] ++ thumbprintFields ++ flagFields

theorem textFields_apart {name : Text} (field : name ∈ textFields) : name ∉ otherFields := by
  have all : textFields.all (fun name => !otherFields.contains name) = true := by decide +kernel
  simpa using List.all_eq_true.mp all name field

/-- A projected text is one of the source's, without a control character. -/
theorem projectObject_texts {source result : Members} {expected : Expected}
    (h : projectObject source expected = .ok result) {name t : Text} (field : name ∈ textFields)
    (inside : (name, Json.str t) ∈ result) :
    source.lookup name = some (.str t) ∧ t.any isControl = false := by
  unfold projectObject at h
  cases identity : [(text "route", expected.route), (text "azp", expected.azp),
      (text "client_authentication", expected.clientAuthentication)].mapM (projectIdentity source) with
  | error e => simp [identity, bind, Except.bind] at h
  | ok first =>
    cases texts : textFields.mapM (projectText source) with
    | error e => simp [identity, texts, bind, Except.bind] at h
    | ok second =>
      cases thumbprints : thumbprintFields.mapM (projectThumbprint source) with
      | error e => simp [identity, texts, thumbprints, bind, Except.bind] at h
      | ok third =>
        cases flags : flagFields.mapM (projectFlag source) with
        | error e => simp [identity, texts, thumbprints, flags, bind, Except.bind] at h
        | ok fourth =>
          simp only [identity, texts, thumbprints, flags, bind, Except.bind] at h
          have whole : result = first ++ second ++ third ++ fourth := by
            split at h
            · cases h
            · split at h
              · cases h
              · exact (Except.ok.inj h).symm
          subst whole
          simp only [List.mem_append] at inside
          have apart := textFields_apart field
          simp only [otherFields, List.mem_append, not_or] at apart
          rcases inside with ((inside | inside) | inside) | inside
          · obtain ⟨asked, hasked, made⟩ := mapM_mem identity _ inside
            unfold projectIdentity at made
            repeat' split at made
            all_goals cases made
            exact absurd (List.mem_map_of_mem (f := Prod.fst) hasked) apart.1.1
          · obtain ⟨asked, hasked, made⟩ := mapM_mem texts _ inside
            unfold projectText at made
            split at made
            · cases made
            · rename_i value found
              split at made
              · rename_i good
                cases made
                exact ⟨found, good.2⟩
              · cases made
            · cases made
          · obtain ⟨asked, hasked, made⟩ := mapM_mem thumbprints _ inside
            unfold projectThumbprint at made
            repeat' split at made
            all_goals cases made
            exact absurd hasked apart.1.2
          · obtain ⟨asked, hasked, made⟩ := mapM_mem flags _ inside
            unfold projectFlag at made
            repeat' split at made
            all_goals cases made

theorem allMembers_lookup {p : Text → Prop} {source : Members} (h : AllMembers p source)
    {name t : Text} (found : source.lookup name = some (.str t)) : p t := by
  induction source with
  | nil => cases found
  | cons m rest ih =>
    obtain ⟨key, v⟩ := m
    rw [List.lookup_cons] at found
    split at found
    · cases found
      exact h.2.1
    · exact ih h.2.2 found

theorem unique_keeps {p : Text → Prop} (found : Members) (v : Json) (h : unique found = some v)
    (texts : AllMembers p found) : AllTexts p v := by
  unfold unique at h
  split at h
  · cases h
    exact texts
  · cases h

/-- No text of the projection holds a pair: the reader has joined them. -/
theorem projectEvidence_clean {body : Bytes} {expected : Expected} {result : Members}
    (h : projectEvidence body expected = .ok result) {name t : Text} (field : name ∈ textFields)
    (inside : (name, Json.str t) ∈ result) : Clean t := by
  unfold projectEvidence at h
  split at h
  · cases h
  · rename_i source read
    obtain ⟨decoded, decodes, loaded⟩ := Option.bind_eq_some_iff.mp read
    have texts : AllTexts (fun s => hasPair s = false) (.obj source) :=
      loads_texts (fun _ h => h) unique_keeps (scalar_decodeUtf8 decodes) loaded
    obtain ⟨found, visible⟩ := projectObject_texts h field inside
    exact ⟨visible, allMembers_lookup texts found⟩
  · cases h

/-! ## The verifier's texts -/

theorem mem_fields {expected : Expected} {certificate peer : Text} {routing : RoutingEvidence}
    {name t : Text} (field : name ∈ textFields) :
    (name, Json.str t) ∈ fields expected certificate peer routing ↔
      (name, Json.str t) ∈ textMembers routing := by
  rw [← (projected_perm expected certificate peer routing).mem_iff]
  have apart := textFields_apart field
  simp only [otherFields, List.mem_append, not_or] at apart
  simp only [projected, List.mem_append]
  constructor
  · rintro (((inside | inside) | inside) | (inside | inside))
    · exact absurd (List.mem_map_of_mem (f := Prod.fst) inside) apart.1.1
    · exact inside
    · exact absurd (List.mem_map_of_mem (f := Prod.fst) inside) apart.1.2
    · simp [verifiedMembers] at inside
    · simp [matchMembers] at inside
  · exact fun inside => Or.inl (Or.inl (Or.inr inside))

theorem orNull_eq_str {value : Option Text} {t : Text} : Json.str t = orNull value ↔ value = some t := by
  cases value with
  | none => simp [orNull]
  | some s => simp [orNull, eq_comm]

/-- The texts of the four fields. -/
theorem routingText_iff {headers : HeaderFields} {claims : Claims} {t : Text} :
    RoutingText headers claims t ↔
      ∃ name ∈ textFields, (name, Json.str t) ∈ textMembers (routingEvidence headers claims) := by
  have one : ∀ {value : Option Json},
      safeEvidenceText value = some t ↔ t.length ≤ 256 ∧ value = some (.str t) := by
    intro value
    rw [safeEvidenceText_eq_some, and_comm]
  have header : ∀ {value : Option Text}, value.map Json.str = some (.str t) ↔ value = some t := by
    intro value
    cases value <;> simp
  have texts : (∃ name ∈ textFields,
      (name, Json.str t) ∈ textMembers (routingEvidence headers claims)) ↔
      (routingEvidence headers claims).department = some t ∨
      (routingEvidence headers claims).logicalRoute = some t ∨
      (routingEvidence headers claims).departmentHeader = some t ∨
      (routingEvidence headers claims).logicalRouteHeader = some t := by
    simp only [textMembers, List.mem_cons, List.not_mem_nil, or_false, Prod.mk.injEq, orNull_eq_str]
    constructor
    · rintro ⟨name, -, ⟨-, h⟩ | ⟨-, h⟩ | ⟨-, h⟩ | ⟨-, h⟩⟩
      · exact Or.inl h
      · exact Or.inr (Or.inl h)
      · exact Or.inr (Or.inr (Or.inl h))
      · exact Or.inr (Or.inr (Or.inr h))
    · rintro (h | h | h | h)
      · exact ⟨text "department", by simp [textFields], Or.inl ⟨rfl, h⟩⟩
      · exact ⟨text "logical_route", by simp [textFields], Or.inr (Or.inl ⟨rfl, h⟩)⟩
      · exact ⟨text "department_header", by simp [textFields], Or.inr (Or.inr (Or.inl ⟨rfl, h⟩))⟩
      · exact ⟨text "logical_route_header", by simp [textFields], Or.inr (Or.inr (Or.inr ⟨rfl, h⟩))⟩
  rw [texts]
  simp only [routingEvidence, one, header, RoutingText]
  rw [← and_or_left, ← and_or_left, ← and_or_left]

theorem routingText_mem {headers : HeaderFields} {claims : Claims} {t : Text}
    (h : some t ∈ [(routingEvidence headers claims).department,
      (routingEvidence headers claims).logicalRoute, (routingEvidence headers claims).departmentHeader,
      (routingEvidence headers claims).logicalRouteHeader]) : RoutingText headers claims t := by
  simp only [List.mem_cons, List.not_mem_nil, or_false] at h
  rw [routingText_iff]
  rcases h with h | h | h | h
  · exact ⟨text "department", by simp [textFields], by simp [textMembers, ← h, orNull]⟩
  · exact ⟨text "logical_route", by simp [textFields], by simp [textMembers, ← h, orNull]⟩
  · exact ⟨text "department_header", by simp [textFields], by simp [textMembers, ← h, orNull]⟩
  · exact ⟨text "logical_route_header", by simp [textFields], by simp [textMembers, ← h, orNull]⟩

theorem goodRouting {headers : HeaderFields} {claims : Claims}
    (clean : ∀ t, RoutingText headers claims t → Clean t) :
    GoodRouting (routingEvidence headers claims) where
  texts t h := ⟨(routingText_mem h).1, (clean t (routingText_mem h)).visible⟩
  consistent h := by
    simp only [routingEvidence, Bool.and_eq_true] at h
    obtain ⟨⟨present, department⟩, route⟩ := h
    obtain ⟨d, -, left, right, -⟩ := constantTimeTextEqual_iff.mp department
    obtain ⟨r, -, left', right', -⟩ := constantTimeTextEqual_iff.mp route
    exact ⟨present, left.trans right.symm, left'.trans right'.symm⟩

/-! ## Reading the body back -/

theorem hasPair_thumbprint {t : Text} (h : IsThumbprint t) : hasPair t = false := by
  refine hasPair_of_below fun c hc => ?_
  have := List.all_eq_true.mp h.alphabet c hc
  simp only [isBase64Url, Bool.and_eq_true, decide_eq_true_eq] at this
  omega

theorem readable_orNull (hook : Members → Option Json) {value : Option Text}
    (h : ∀ t, value = some t → hasPair t = false) : Readable hook (orNull value) := by
  cases value with
  | none => trivial
  | some t => exact h t rfl

theorem readable_fields {expected : Expected} (known : expected ∈ routes.map Prod.snd)
    {certificate peer : Text} {routing : RoutingEvidence} (thumbprint : IsThumbprint certificate)
    (peerThumbprint : IsThumbprint peer)
    (unpaired : ∀ t, some t ∈ [routing.department, routing.logicalRoute, routing.departmentHeader,
      routing.logicalRouteHeader] → hasPair t = false) :
    Readable unique (.obj (fields expected certificate peer routing)) := by
  have entry : hasPair expected.azp = false ∧ hasPair expected.route = false ∧
      hasPair expected.clientAuthentication = false := by
    simp only [routes, List.map_cons, List.map_nil, List.mem_cons, List.not_mem_nil, or_false] at known
    rcases known with rfl | rfl <;> simp
  have distinct : fieldNames.Nodup := by decide +kernel
  have names : fieldNames.all (fun name => !hasPair name) = true := by
    simp [fieldNames, thumbprintFields, textFields]
  constructor
  · unfold unique
    rw [fields_names, if_pos distinct]
  · refine readableMembers_of_forall unique fun m hm => ⟨?_, ?_⟩
    · have inside : m.1 ∈ fieldNames := by
        rw [← fields_names expected certificate peer routing]
        exact List.mem_map_of_mem hm
      simpa using List.all_eq_true.mp names m.1 inside
    · simp only [fields, RoutingEvidence.members, List.cons_append, List.nil_append, List.mem_cons,
        List.not_mem_nil, or_false] at hm
      rcases hm with rfl | rfl | rfl | rfl | rfl | rfl | rfl | rfl | rfl | rfl | rfl | rfl | rfl
      · exact entry.1
      · exact entry.2.1
      · exact entry.2.2
      · exact hasPair_thumbprint thumbprint
      · exact hasPair_thumbprint thumbprint
      · exact hasPair_thumbprint peerThumbprint
      · trivial
      · trivial
      · exact readable_orNull _ fun t ht => unpaired t (by simp [← ht])
      · exact readable_orNull _ fun t ht => unpaired t (by simp [← ht])
      · exact readable_orNull _ fun t ht => unpaired t (by simp [← ht])
      · exact readable_orNull _ fun t ht => unpaired t (by simp [← ht])
      · trivial

/-- The entry of the token's authorized party, and the evidence built for it. -/
theorem buildEvidence_fields {headers : HeaderFields} {claims : Claims} {certificate peer : Text}
    {evidence : Members} (h : buildEvidence headers claims certificate certificate peer = some evidence) :
    ∃ expected ∈ routes.map Prod.snd, claims.lookup (text "azp") = some (.str expected.azp) ∧
      evidence = fields expected certificate peer (routingEvidence headers claims) := by
  unfold buildEvidence at h
  split at h
  · rename_i azp hazp
    obtain ⟨⟨route, clientAuthentication⟩, known, rfl⟩ := Option.map_eq_some_iff.mp h
    obtain ⟨before, after, split, -⟩ := List.lookup_eq_some_iff.mp known
    have inside : (azp, route, clientAuthentication) ∈ azpRoutes := by
      rw [split]
      simp
    refine ⟨⟨route, azp, clientAuthentication⟩, ?_, hazp, rfl⟩
    simp only [azpRoutes, List.mem_cons, List.not_mem_nil, or_false, Prod.mk.injEq] at inside
    rcases inside with ⟨rfl, rfl, rfl⟩ | ⟨rfl, rfl, rfl⟩
    · simp [routes]
    · simp [routes]
  · cases h

/-! ## Delivery -/

theorem declaredLength_decimal {n : Nat} (h : n ≤ maxResponseBytes) :
    declaredLength [ofAscii (decimal n)] = some (some n) := by
  have numeral := decimal_numeral n
  have digits : (ofAscii (decimal n)).length ≤ 10 := by
    have bound : (Nat.toDigits 10 n).length ≤ 10 :=
      (Nat.length_toDigits_le_iff (by decide) (by decide)).mpr
        (Nat.lt_of_le_of_lt h (by decide))
    rw [ofAscii_length]
    simpa [decimal] using bound
  have nonempty : ofAscii (decimal n) ≠ [] := by
    rcases numeral.leading with zero | ⟨d, more, split, -⟩
    · rw [zero]
      exact List.cons_ne_nil _ _
    · rw [split]
      exact List.cons_ne_nil _ _
  unfold declaredLength
  dsimp only
  rw [numeral.value, if_pos ⟨digits, nonempty, List.all_eq_true.mpr numeral.inside, h⟩]

/-- A JSON answer that fits is fetched as what it projects to. -/
theorem fetchEvidence_delivered {body : Json} {expected : Expected} {result : Members}
    (fits : (print body).length ≤ maxResponseBytes)
    (projects : projectEvidence (print body) expected = .ok result) :
    fetchEvidence (.ok (delivered (jsonResponse 200 body []))) expected = (200, .obj result) := by
  have contentType : getAll (delivered (jsonResponse 200 body [])).headers (text "Content-Type") =
      [text "application/json"] := rfl
  have length : getAll (delivered (jsonResponse 200 body [])).headers (text "Content-Length") =
      [ofAscii (decimal (print body).length)] := rfl
  have media : mediaType (text "application/json") = text "application/json" := by decide +kernel
  have whole : (print body).take (maxResponseBytes + 1) = print body :=
    List.take_of_length_le (by omega)
  have fresh : ¬ (maxResponseBytes < (print body).length ∨
      (some (print body).length).any (· ≠ (print body).length) = true) := by
    simp
    omega
  have status : (delivered (jsonResponse 200 body [])).status = 200 := rfl
  have unauthorized : ¬ ((delivered (jsonResponse 200 body [])).status = 401 ∨
      (delivered (jsonResponse 200 body [])).status = 403) := by
    rw [status]
    decide
  have read : (delivered (jsonResponse 200 body [])).read (maxResponseBytes + 1) = .ok (print body) :=
    congrArg Except.ok whole
  unfold fetchEvidence
  dsimp only
  rw [contentType, length, declaredLength_decimal fits, read]
  rw [if_neg unauthorized, if_neg (not_not.mpr status)]
  dsimp only
  rw [if_neg (not_not.mpr media), if_neg fresh, projects]

/-- Evidence with clean texts is projected to itself. -/
theorem projectEvidence_fields {expected : Expected} (known : expected ∈ routes.map Prod.snd)
    {certificate peer : Text} {headers : HeaderFields} {claims : Claims}
    (thumbprint : IsThumbprint certificate) (peerThumbprint : IsThumbprint peer)
    (clean : ∀ t, RoutingText headers claims t → Clean t) :
    projectEvidence (print (.obj (fields expected certificate peer (routingEvidence headers claims))))
      expected = .ok (projected expected certificate peer (routingEvidence headers claims)) := by
  have readable := readable_fields known thumbprint peerThumbprint
    fun t ht => (clean t (routingText_mem ht)).unpaired
  unfold projectEvidence
  rw [loads_bytes unique readable]
  exact projectObject_fields thumbprint peerThumbprint (goodRouting clean)

/-- The page takes what the backend returns for the entry's route. -/
theorem project_projected {expected : Expected} (known : expected ∈ routes.map Prod.snd)
    (certificate peer : Text) (routing : RoutingEvidence) :
    ∃ shown, Source.EvidenceView.project (.obj (projected expected certificate peer routing))
      expected.route = .ok shown := by
  simp only [routes, List.map_cons, List.map_nil, List.mem_cons, List.not_mem_nil, or_false] at known
  rcases known with rfl | rfl <;> exact ⟨_, rfl⟩

/-- Every 200 has an entry and fits; it is accepted unchanged by backend and page exactly when the
texts it reports are clean. -/
theorem evidence_accepted_iff (server : Server)
    (digest : ∀ input, (server.libraries.sha256 input).length = 32) {jwt : Jwt} {request : Request}
    (path : request.path = text "/evidence") (accepted : (doGet server jwt request).status = 200) :
    ∃ claims evidence expected, verifiedClaims server jwt request = some claims ∧
      evidenceOf server jwt request = some evidence ∧
      (doGet server jwt request).body = print (.obj evidence) ∧
      expected ∈ routes.map Prod.snd ∧ claims.lookup (text "azp") = some (.str expected.azp) ∧
      (doGet server jwt request).body.length ≤ maxResponseBytes ∧
      (AcceptedEndToEnd (doGet server jwt request) evidence expected ↔
        ∀ t, RoutingText request.headers claims t → Clean t) := by
  obtain ⟨token, claims, certificate, evidence, -, verified, dictionary, built, answer⟩ :=
    doGet_evidence path accepted
  obtain ⟨expected, known, azp, rfl⟩ := buildEvidence_fields built
  have thumbprint := isThumbprint_sha256 digest certificate
  have peerThumbprint := isThumbprint_sha256 digest server.pinnedGatewayPeerDer
  have fits : (print (.obj (fields expected (base64urlSha256 server.libraries certificate)
      (base64urlSha256 server.libraries server.pinnedGatewayPeerDer)
      (routingEvidence request.headers claims)))).length ≤ maxResponseBytes :=
    length_print_fields known thumbprint peerThumbprint fun t ht => (routingText_mem ht).1
  rw [answer]
  refine ⟨claims, _, expected, verified, dictionary, rfl, known, azp, fits, ?_⟩
  constructor
  · intro through t ht
    obtain ⟨result, projects, same, -⟩ := through.backend
    obtain ⟨name, field, inside⟩ := routingText_iff.mp ht
    exact projectEvidence_clean projects field (same.mem_iff.mpr ((mem_fields field).mpr inside))
  · intro clean
    have projects := projectEvidence_fields known thumbprint peerThumbprint clean
    exact ⟨rfl, fits, _, projects, projected_perm _ _ _ _, fetchEvidence_delivered fits projects,
      project_projected known _ _ _⟩

/-! Two answers of the demo server. -/

theorem demo_digest (input : Bytes) : (demoServer.libraries.sha256 input).length = 32 := by
  show (if input = gatewayDer then _ else if input = clientDer then _ else _ : Bytes).length = 32
  split
  · rfl
  · split <;> rfl

theorem evidence_accepted_engineering : ∃ claims evidence expected,
    verifiedClaims demoServer (demoJwt (text "engineering")) (demoRequest (text "engineering")) =
      some claims ∧
    (AcceptedEndToEnd
      (doGet demoServer (demoJwt (text "engineering")) (demoRequest (text "engineering"))) evidence
      expected ↔ ∀ t, RoutingText (demoRequest (text "engineering")).headers claims t → Clean t) :=
  have ⟨claims, evidence, expected, verified, _, _, _, _, _, iff⟩ :=
    @evidence_accepted_iff demoServer demo_digest _ (demoRequest (text "engineering")) rfl demo_accepted
  ⟨claims, evidence, expected, verified, iff⟩

/-- A department with a tab in it is reported by the verifier and refused by the backend. -/
theorem evidence_accepted_tab :
    (doGet demoServer (demoJwt (text "sales\ttokyo")) (demoRequest (text "sales\ttokyo"))).status = 200 ∧
    ∀ expected ∈ routes.map Prod.snd, ∀ evidence, ¬ AcceptedEndToEnd
      (doGet demoServer (demoJwt (text "sales\ttokyo")) (demoRequest (text "sales\ttokyo"))) evidence
      expected := by
  refine ⟨by decide +kernel, fun expected known evidence through => ?_⟩
  obtain ⟨result, projects, -⟩ := through.backend
  have refused : (routes.map Prod.snd).all (fun expected => !(projectEvidence (doGet demoServer
      (demoJwt (text "sales\ttokyo")) (demoRequest (text "sales\ttokyo"))).body expected).isOk) =
      true := by decide +kernel
  have := List.all_eq_true.mp refused expected known
  rw [projects] at this
  cases this

end KonnectFapi.Guarantees

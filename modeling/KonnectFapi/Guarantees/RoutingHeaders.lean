import KonnectFapi.Source.PopVerifier

/-!
# Routing claims across the header hop

Source: pop-verifier/app.py:76-82, 208-238; kong/api-gateway.yaml:147-151. The gateway
writes the two verified claims into header fields as UTF-8, the server hands the
verifier one character a byte. The comparison is right exactly for plain claims.
-/

namespace KonnectFapi.Guarantees
open Lib Source.PopVerifier

/-- The first fields of both names, by the bytes that arrived. -/
structure Received (headers : HeaderFields) (department route : Bytes) : Prop where
  department : getFirst headers (text "X-Demo-Department") = some (latin1 department)
  route : getFirst headers (text "X-Demo-Route") = some (latin1 route)

/-- The bytes the gateway copied are reported as a match, any others are not. -/
structure ComparedByBytes (claims : Claims) (department route : Bytes) : Prop where
  copied : ∀ headers, Received headers department route →
    (routingEvidence headers claims).headerClaimsMatch = true
  changed : ∀ headers department' route', Received headers department' route' →
    department' ≠ department ∨ route' ≠ route →
    (routingEvidence headers claims).headerClaimsMatch = false

/-- One claim against the field that arrived for it. -/
theorem constantTimeTextEqual_received {claim : Text} {bs : Bytes} (encoded : encodeUtf8 claim = some bs)
    (short : claim.length ≤ 256) (arrived : Bytes) :
    constantTimeTextEqual (some claim) (safeEvidenceText (some (.str (latin1 arrived)))) = true ↔
      latin1 arrived = claim := by
  constructor
  · intro h
    obtain ⟨t, -, left, right, -⟩ := constantTimeTextEqual_iff.mp h
    obtain ⟨isText, -⟩ := safeEvidenceText_eq_some.mp right
    cases left
    exact Json.str.inj (Option.some.inj isText)
  · intro same
    have whole : safeEvidenceText (some (.str (latin1 arrived))) = some claim :=
      safeEvidenceText_eq_some.mpr ⟨by rw [same], short⟩
    exact constantTimeTextEqual_iff.mpr ⟨claim, bs, rfl, whole, encoded⟩

/-- Both claims present and short: the flag says that both fields read as their claims. -/
theorem headerClaimsMatch_iff {claims : Claims} {department route : Text} {bd br hd hr : Bytes}
    (claimD : claims.lookup departmentClaim = some (.str department))
    (claimR : claims.lookup routeClaim = some (.str route)) (nonemptyD : department ≠ [])
    (nonemptyR : route ≠ []) (shortD : department.length ≤ 256) (shortR : route.length ≤ 256)
    (utf8D : encodeUtf8 department = some bd) (utf8R : encodeUtf8 route = some br)
    {headers : HeaderFields} (received : Received headers hd hr) :
    (routingEvidence headers claims).headerClaimsMatch = true ↔
      latin1 hd = department ∧ latin1 hr = route := by
  have safeD : safeEvidenceText (some (.str department)) = some department :=
    safeEvidenceText_eq_some.mpr ⟨rfl, shortD⟩
  have safeR : safeEvidenceText (some (.str route)) = some route :=
    safeEvidenceText_eq_some.mpr ⟨rfl, shortR⟩
  unfold routingEvidence
  dsimp only
  rw [received.department, received.route, claimD, claimR, safeD, safeR, Option.map_some,
    Option.map_some, Bool.and_eq_true, Bool.and_eq_true, constantTimeTextEqual_received utf8D shortD,
    constantTimeTextEqual_received utf8R shortR]
  constructor
  · rintro ⟨⟨-, d⟩, r⟩
    exact ⟨d, r⟩
  · rintro ⟨d, r⟩
    refine ⟨⟨?_, d⟩, r⟩
    rw [d, r, safeD, safeR]
    simp [truthy, nonemptyD, nonemptyR]

/-- Nothing but a plain claim arrives as itself. -/
theorem plain_of_latin1 {claim : Text} {bs : Bytes} (encoded : encodeUtf8 claim = some bs)
    (same : latin1 bs = claim) : ∀ c ∈ claim, c.val < 128 := by
  have length : bs.length = claim.length := by rw [← same, latin1, ofAscii_length]
  exact (plain_of_length encoded).2 length

/-- The comparison of the two claims is one of bytes exactly when both are plain. -/
theorem routing_headers_compared_iff {claims : Claims} {department route : Text} {bd br : Bytes}
    (claimD : claims.lookup departmentClaim = some (.str department))
    (claimR : claims.lookup routeClaim = some (.str route)) (nonemptyD : department ≠ [])
    (nonemptyR : route ≠ []) (shortD : department.length ≤ 256) (shortR : route.length ≤ 256)
    (utf8D : encodeUtf8 department = some bd) (utf8R : encodeUtf8 route = some br) :
    ComparedByBytes claims bd br ↔ ∀ c ∈ department ++ route, c.val < 128 := by
  have flag := fun {hd hr : Bytes} {headers : HeaderFields} (received : Received headers hd hr) =>
    headerClaimsMatch_iff claimD claimR nonemptyD nonemptyR shortD shortR utf8D utf8R received
  rw [List.forall_mem_append]
  constructor
  · intro compared
    have received : Received [(text "X-Demo-Department", latin1 bd), (text "X-Demo-Route", latin1 br)]
        bd br := ⟨rfl, rfl⟩
    obtain ⟨d, r⟩ := (flag received).mp (compared.copied _ received)
    exact ⟨plain_of_latin1 utf8D d, plain_of_latin1 utf8R r⟩
  · rintro ⟨plainD, plainR⟩
    have sameD := encodeUtf8_plain plainD utf8D
    have sameR := encodeUtf8_plain plainR utf8R
    constructor
    · intro headers received
      exact (flag received).mpr ⟨sameD, sameR⟩
    · intro headers hd hr received differs
      rw [← Bool.not_eq_true, flag received]
      rintro ⟨d, r⟩
      rcases differs with differs | differs
      · exact differs (ofAscii_injective (d.trans sameD.symm))
      · exact differs (ofAscii_injective (r.trans sameR.symm))

def engineeringClaims : Claims :=
  [(departmentClaim, .str (text "engineering")), (routeClaim, .str (text "engineering-route"))]

theorem routing_headers_engineering :
    ComparedByBytes engineeringClaims (ascii "engineering") (ascii "engineering-route") := by
  have department : engineeringClaims.lookup departmentClaim = some (.str (text "engineering")) := rfl
  have route : engineeringClaims.lookup routeClaim = some (.str (text "engineering-route")) := rfl
  have plain : (text "engineering" ++ text "engineering-route").all (·.val < 128) = true := by
    decide +kernel
  exact (routing_headers_compared_iff department route (by decide) (by decide) (by decide) (by decide)
    (by decide +kernel) (by decide +kernel)).mpr fun c hc => of_decide_eq_true (List.all_eq_true.mp plain c hc)

/-- A department of two characters beyond ASCII, six bytes on the wire. -/
def salesClaims : Claims :=
  [(departmentClaim, .str [21942, 26989]), (routeClaim, .str (text "sales-route"))]

theorem routing_headers_beyond_ascii :
    encodeUtf8 [21942, 26989] = some [229, 150, 182, 230, 165, 173] ∧
      ¬ ComparedByBytes salesClaims [229, 150, 182, 230, 165, 173] (ascii "sales-route") := by
  refine ⟨by decide +kernel, fun compared => ?_⟩
  have copied := compared.copied
    [(text "X-Demo-Department", latin1 [229, 150, 182, 230, 165, 173]),
      (text "X-Demo-Route", latin1 (ascii "sales-route"))] ⟨by decide +kernel, by decide +kernel⟩
  exact absurd copied (by decide +kernel)

end KonnectFapi.Guarantees

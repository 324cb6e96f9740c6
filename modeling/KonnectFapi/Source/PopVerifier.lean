import KonnectFapi.Lib.Base64
import KonnectFapi.Lib.HeaderFields
import KonnectFapi.Lib.Json

/-!
# The upstream verifier

Source: pop-verifier/app.py:20-328. Certificate parsing, SHA-256 and the JWT library
are parameters; what is raised is told apart only as far as the handlers do. The
reply is the status, the added header fields and the body.
-/

namespace KonnectFapi.Source.PopVerifier
open Lib

/-! ## Settings -/

structure Settings where
  issuer : Text
  audience : Text
  requiredScopes : List Text
  allowedAlgorithms : List Text
  openid : text "openid" ∈ requiredScopes
  demoAudience : audience = text "fapi-demo-api"
  ps256Only : allowedAlgorithms = [text "PS256"]

/-- The module-level settings; nothing where importing the module raises. -/
def settings (environ : Text → Option Text) : Option Settings :=
  let issuer := (environ (text "OIDC_ISSUER")).getD (text "https://localhost:8444/realms/fapi-demo")
  let audience := (environ (text "OIDC_AUDIENCE")).getD (text "fapi-demo-api")
  let scopes := words ((environ (text "OIDC_REQUIRED_SCOPES")).getD (text "openid"))
  let algorithms := words ((environ (text "OIDC_ALLOWED_ALGORITHMS")).getD (text "PS256"))
  if demoAudience : audience = text "fapi-demo-api" then
    if openid : text "openid" ∈ scopes then
      if ps256Only : algorithms = [text "PS256"] then
        some ⟨issuer, audience, scopes, algorithms, openid, demoAudience, ps256Only⟩
      else none
    else none
  else none

def apiUpstreamCommonName : Text := text "api-gateway-upstream"
def departmentClaim : Text := text "https://fapi-demo.example.com/department"
def routeClaim : Text := text "https://fapi-demo.example.com/route"

def azpRoutes : List (Text × Text × Text) :=
  [(text "third-party-fapi-mtls", text "route-a", text "tls_client_auth"),
    (text "third-party-fapi-pkj-mtls", text "route-b", text "private_key_jwt")]

def maxForwardedCertHeaderBytes : Nat := 24 * 1024
def pemCertificateBegin : Bytes := ascii "-----BEGIN CERTIFICATE-----"
def pemCertificateEnd : Bytes := ascii "-----END CERTIFICATE-----"

/-! ## Libraries -/

inductive Raised where
  | tokenValidation (reason : Text)
  | valueError
  | other
  deriving DecidableEq

def untrustedPeer : Raised := .tokenValidation (text "untrusted API Gateway peer")

def ambiguousCertificate : Raised :=
  .tokenValidation (text "forwarded client certificate is missing or ambiguous")

def invalidCertificate : Raised :=
  .tokenValidation (text "forwarded client certificate is invalid")

/-- A loaded certificate as far as it is looked at. -/
structure Certificate where
  /-- The values of the subject's common-name attributes. -/
  commonNames : List Text
  /-- `public_bytes(Encoding.DER)`. -/
  der : Bytes

/-- The keyword arguments of `jwt.decode`. -/
structure DecodeOptions where
  algorithms : List Text
  audience : Text
  issuer : Text
  require : List Text
  verifyNbf : Bool

abbrev Claims := List (Text × Json)

structure Libraries where
  loadDer : Bytes → Except Raised Certificate
  loadPem : Bytes → Except Raised Certificate
  sha256 : Bytes → Bytes

/-- Looking up the signing key and decoding; nothing when anything is raised. -/
abbrev Jwt := Text → DecodeOptions → Option Claims

structure Server where
  settings : Settings
  libraries : Libraries
  pinnedGatewayPeerDer : Bytes

/-! ## Texts -/

def base64urlSha256 (lib : Libraries) (value : Bytes) : Text := ofAscii (Base64.url (lib.sha256 value))

/-- `compare_digest` of the encodings; a value that is no text, or has no encoding, equals nothing. -/
def constantTimeTextEqual (left right : Option Text) : Bool :=
  match left, right with
  | some left, some right =>
    match encodeUtf8 left, encodeUtf8 right with
    | some left, some right => left == right
    | _, _ => false
  | _, _ => false

theorem constantTimeTextEqual_iff {left right : Option Text} :
    constantTimeTextEqual left right = true ↔
      ∃ t bs, left = some t ∧ right = some t ∧ encodeUtf8 t = some bs := by
  unfold constantTimeTextEqual
  constructor
  · intro h
    split at h
    · rename_i left right
      split at h
      · rename_i l r hl hr
        obtain rfl := eq_of_beq h
        exact ⟨left, l, rfl, by rw [encodeUtf8_injective hl hr], hl⟩
      · cases h
    · cases h
  · rintro ⟨t, bs, rfl, rfl, encoded⟩
    simp [encoded]

/-! ## The peer and the headers -/

def certificateCommonName (certificate : Certificate) : Except Raised Text :=
  match certificate.commonNames with
  | [name] => .ok name
  | _ => .error untrustedPeer

def verifyApiGatewayPeer (lib : Libraries) (peerDer : Option Bytes) (pinnedPeerDer : Bytes) :
    Except Raised Text :=
  match peerDer with
  | none => .error untrustedPeer
  | some peerDer =>
    if peerDer = [] ∨ pinnedPeerDer = [] then .error untrustedPeer
    else
      match lib.loadDer peerDer >>= certificateCommonName with
      | .error .other => .error .other
      | .error _ => .error untrustedPeer
      | .ok commonName =>
        if commonName ≠ apiUpstreamCommonName ∨ peerDer ≠ pinnedPeerDer then .error untrustedPeer
        else .ok (base64urlSha256 lib peerDer)

def bearerToken (headers : HeaderFields) : Option Text :=
  match getAll headers (text "Authorization") with
  | [authorization] =>
    match partition 32 authorization with
    | some (scheme, value) =>
      if lowerText scheme = text "bearer" ∧ value ≠ [] ∧ 32 ∉ value then some value else none
    | none => none
  -- without the header the default text has no separator
  | _ => none

def forwardedClientCertificateDer (lib : Libraries) (headers : HeaderFields) : Except Raised Bytes :=
  match getAll headers (text "X-Client-Cert") with
  | [encoded] =>
    if encoded = [] ∨ maxForwardedCertHeaderBytes < encoded.length ∨ 44 ∈ encoded then
      .error ambiguousCertificate
    else if encoded.any fun c => 128 ≤ c.val then .error invalidCertificate
    else
      let encodedBytes := encoded.map fun c => UInt8.ofNat c.val
      if badEscape encodedBytes then .error invalidCertificate
      else
        let pemBytes := unquoteToBytes encodedBytes
        if count pemCertificateBegin pemBytes ≠ 1 ∨ count pemCertificateEnd pemBytes ≠ 1 ∨
            ¬ pemCertificateBegin <+: pemBytes ∨ ¬ pemCertificateEnd <:+ rstrip pemBytes then
          .error invalidCertificate
        else
          match lib.loadPem pemBytes with
          | .ok certificate => .ok certificate.der
          | .error .valueError => .error invalidCertificate
          | .error raised => .error raised
  | _ => .error ambiguousCertificate

/-! ## The access token -/

def decodeOptions (settings : Settings) : DecodeOptions where
  algorithms := settings.allowedAlgorithms
  audience := settings.audience
  issuer := settings.issuer
  require := [text "exp", text "iat", text "iss", text "aud", text "cnf", text "scope", text "azp"]
  verifyNbf := true

/-- What the verified claims are checked for: the thumbprint they are bound to. -/
def checkClaims (settings : Settings) (claims : Claims) : Except Raised Text :=
  match claims.lookup (text "scope") with
  | some (.str scope) =>
    if settings.requiredScopes.all fun required => required ∈ words scope then
      match claims.lookup (text "azp") with
      | some (.str azp) =>
        if (azpRoutes.lookup azp).isSome then
          match (claims.lookup (text "cnf")).bind fun confirmation =>
              confirmation.get? (text "x5t#S256") with
          | some (.str (c :: rest)) => .ok (c :: rest)
          | _ => .error (.tokenValidation (text "certificate binding is missing"))
        else .error (.tokenValidation (text "authorized party is invalid"))
      | _ => .error (.tokenValidation (text "authorized party is invalid"))
    else .error (.tokenValidation (text "required scope is missing"))
  | _ => .error (.tokenValidation (text "required scope is missing"))

def verifyAccessToken (settings : Settings) (jwt : Jwt) (token : Text) :
    Except Raised (Claims × Text) :=
  match jwt token (decodeOptions settings) with
  | none => .error (.tokenValidation (text "JWT validation failed"))
  | some claims => (checkClaims settings claims).map fun thumbprint => (claims, thumbprint)

def verifyForwardedCertificateBinding (lib : Libraries) (headers : HeaderFields)
    (tokenThumbprint : Text) : Except Raised Text :=
  match forwardedClientCertificateDer lib headers with
  | .error raised => .error raised
  | .ok forwardedDer =>
    if constantTimeTextEqual (some tokenThumbprint) (some (base64urlSha256 lib forwardedDer)) then
      .ok (base64urlSha256 lib forwardedDer)
    else .error (.tokenValidation (text "certificate binding mismatch"))

/-! ## Evidence -/

/-- A text of at most 256 characters. -/
def safeEvidenceText (value : Option Json) : Option Text :=
  match value with
  | some (.str t) => if t.length ≤ 256 then some t else none
  | _ => none

theorem safeEvidenceText_eq_some {value : Option Json} {t : Text} :
    safeEvidenceText value = some t ↔ value = some (.str t) ∧ t.length ≤ 256 := by
  unfold safeEvidenceText
  split
  · rename_i found
    split
    · rename_i short
      constructor
      · rintro ⟨⟩
        exact ⟨rfl, short⟩
      · rintro ⟨⟨⟩, -⟩
        rfl
    · rename_i long
      simp only [reduceCtorEq, false_iff, not_and]
      rintro ⟨⟩
      exact long
  · rename_i notText
    simp only [reduceCtorEq, false_iff, not_and]
    exact fun isText => absurd isText (notText t)

structure RoutingEvidence where
  department : Option Text
  logicalRoute : Option Text
  departmentHeader : Option Text
  logicalRouteHeader : Option Text
  headerClaimsMatch : Bool

/-- Neither `None` nor the empty text. -/
def truthy (value : Option Text) : Bool := value.any (· ≠ [])

def routingEvidence (headers : HeaderFields) (claims : Claims) : RoutingEvidence :=
  let department := safeEvidenceText (claims.lookup departmentClaim)
  let logicalRoute := safeEvidenceText (claims.lookup routeClaim)
  let departmentHeader := safeEvidenceText ((getFirst headers (text "X-Demo-Department")).map .str)
  let logicalRouteHeader := safeEvidenceText ((getFirst headers (text "X-Demo-Route")).map .str)
  { department, logicalRoute, departmentHeader, logicalRouteHeader
    headerClaimsMatch :=
      [department, logicalRoute, departmentHeader, logicalRouteHeader].all truthy &&
        constantTimeTextEqual department departmentHeader &&
        constantTimeTextEqual logicalRoute logicalRouteHeader }

def orNull (value : Option Text) : Json :=
  match value with
  | some t => .str t
  | none => .null

def RoutingEvidence.members (evidence : RoutingEvidence) : List (Text × Json) :=
  [(text "department", orNull evidence.department),
    (text "logical_route", orNull evidence.logicalRoute),
    (text "department_header", orNull evidence.departmentHeader),
    (text "logical_route_header", orNull evidence.logicalRouteHeader),
    (text "header_claims_match", .bool evidence.headerClaimsMatch)]

/-- The members of the evidence in the order they are written; nothing on a missing key. -/
def buildEvidence (headers : HeaderFields) (claims : Claims)
    (tokenThumbprint forwardedThumbprint tlsPeerThumbprint : Text) : Option (List (Text × Json)) :=
  match claims.lookup (text "azp") with
  | some (.str azp) =>
    (azpRoutes.lookup azp).map fun (route, clientAuthentication) =>
      [(text "azp", .str azp), (text "route", .str route),
        (text "client_authentication", .str clientAuthentication),
        (text "token_certificate_thumbprint", .str tokenThumbprint),
        (text "forwarded_client_certificate_thumbprint", .str forwardedThumbprint),
        (text "api_gateway_tls_peer_certificate_thumbprint", .str tlsPeerThumbprint),
        (text "token_signature_verified", .bool true), (text "binding_verified", .bool true)] ++
        (routingEvidence headers claims).members
  | _ => none

/-! ## The handler -/

structure Request where
  /-- `connection.getpeercert(binary_form=True)`. -/
  peer : Except Raised (Option Bytes)
  path : Text
  headers : HeaderFields

structure Response where
  status : Nat
  headers : HeaderFields
  body : Bytes
  deriving DecidableEq

def jsonResponse (status : Nat) (body : Json) (extraHeaders : HeaderFields) : Response :=
  let data := body.print
  { status
    headers := [(text "Content-Type", text "application/json"), (text "Cache-Control", text "no-store"),
      (text "Content-Length", ofAscii (decimal data.length))] ++ extraHeaders
    body := data }

def invalidToken (reason : Text) : Response :=
  jsonResponse 401 (.obj [(text "error", .str (text "invalid_token")), (text "reason", .str reason)])
    [(text "WWW-Authenticate", text "Bearer error=\"invalid_token\"")]

/-- The credentials of an evidence request: claims and both thumbprints. -/
def verifyCredentials (server : Server) (jwt : Jwt) (headers : HeaderFields) (token : Text) :
    Except Raised (Claims × Text × Text) :=
  match verifyAccessToken server.settings jwt token with
  | .error raised => .error raised
  | .ok (claims, tokenThumbprint) =>
    (verifyForwardedCertificateBinding server.libraries headers tokenThumbprint).map
      fun forwarded => (claims, tokenThumbprint, forwarded)

def doGet (server : Server) (jwt : Jwt) (request : Request) : Response :=
  match request.peer >>= fun peer =>
      verifyApiGatewayPeer server.libraries peer server.pinnedGatewayPeerDer with
  | .error _ => invalidToken (text "untrusted API Gateway peer")
  | .ok tlsPeerThumbprint =>
    if request.path = text "/healthz" then
      jsonResponse 200 (.obj [(text "status", .str (text "ok"))]) []
    else if request.path ≠ text "/evidence" then
      jsonResponse 404 (.obj [(text "error", .str (text "not_found"))]) []
    else
      match bearerToken request.headers with
      | none | some [] => invalidToken (text "missing bearer token")
      | some token =>
        match verifyCredentials server jwt request.headers token with
        | .error (.tokenValidation reason) => invalidToken reason
        | .error _ => invalidToken (text "invalid credentials")
        | .ok (claims, tokenThumbprint, forwardedThumbprint) =>
          match buildEvidence request.headers claims tokenThumbprint forwardedThumbprint
              tlsPeerThumbprint with
          | none => invalidToken (text "invalid credentials")
          | some evidence => jsonResponse 200 (.obj evidence) []

end KonnectFapi.Source.PopVerifier

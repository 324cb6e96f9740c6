import KonnectFapi.Source.PopVerifier

/-!
# What an evidence answer rests on

Source: pop-verifier/app.py:85-328. A 200 on `/evidence` is traced back through the
peer pin, the bearer token, the claims and the forwarded certificate; its body is
then a function of the verified claims and of the two routing fields.
-/

namespace KonnectFapi.Guarantees
open Lib Source.PopVerifier

/-- One field, whose decoded value is one PEM certificate, loaded as `der`. -/
structure OneForwarded (lib : Libraries) (headers : HeaderFields) (der : Bytes) : Prop where
  field : ∃ encoded pem certificate,
    getAll headers (text "X-Client-Cert") = [encoded] ∧
    (∀ c ∈ encoded, c.val < 128) ∧
    pem = unquoteToBytes (encoded.map fun c => UInt8.ofNat c.val) ∧
    count pemCertificateBegin pem = 1 ∧ count pemCertificateEnd pem = 1 ∧
    pemCertificateBegin <+: pem ∧ pemCertificateEnd <:+ rstrip pem ∧
    lib.loadPem pem = .ok certificate ∧ certificate.der = der

/-- What the checks of a token's claims establish, with the thumbprint it is bound to. -/
structure ClaimsVerified (settings : Settings) (claims : Claims) (thumbprint : Text) : Prop where
  scopes : ∃ scope, claims.lookup (text "scope") = some (.str scope) ∧
    ∀ required ∈ settings.requiredScopes, required ∈ words scope
  azp : ∃ azp, claims.lookup (text "azp") = some (.str azp) ∧ (azpRoutes.lookup azp).isSome = true
  bound : ((claims.lookup (text "cnf")).bind fun confirmation =>
    confirmation.get? (text "x5t#S256")) = some (.str thumbprint)

structure AdmittedRequest (server : Server) (jwt : Jwt) (request : Request) (token : Text) (claims : Claims)
    (certificate : Bytes) : Prop where
  peer : request.peer = .ok (some server.pinnedGatewayPeerDer) ∧ server.pinnedGatewayPeerDer ≠ []
  bearer : ∃ scheme, getAll request.headers (text "Authorization") = [scheme ++ 32 :: token] ∧
    lowerText scheme = text "bearer" ∧ token ≠ [] ∧ 32 ∉ token
  verified : jwt token (decodeOptions server.settings) = some claims
  claims : ClaimsVerified server.settings claims (base64urlSha256 server.libraries certificate)
  forwarded : OneForwarded server.libraries request.headers certificate

/-- The claims the JWT library returned for the request's bearer token. -/
def verifiedClaims (server : Server) (jwt : Jwt) (request : Request) : Option Claims :=
  (bearerToken request.headers).bind fun token => jwt token (decodeOptions server.settings)

/-- The dictionary an accepted request is answered with. -/
def evidenceOf (server : Server) (jwt : Jwt) (request : Request) : Option (List (Text × Json)) :=
  match verifiedClaims server jwt request,
      forwardedClientCertificateDer server.libraries request.headers with
  | some claims, .ok der =>
    buildEvidence request.headers claims (base64urlSha256 server.libraries der)
      (base64urlSha256 server.libraries der)
      (base64urlSha256 server.libraries server.pinnedGatewayPeerDer)
  | _, _ => none

/-- The identity the body names is the one the table has for the token's `azp`. -/
def Reported (claims : Claims) (body : Bytes) : Prop :=
  ∃ azp route clientAuthentication evidence,
    claims.lookup (text "azp") = some (.str azp) ∧
    azpRoutes.lookup azp = some (route, clientAuthentication) ∧
    body = (Json.obj evidence).print ∧
    evidence.lookup (text "azp") = some (.str azp) ∧
    evidence.lookup (text "route") = some (.str route) ∧
    evidence.lookup (text "client_authentication") = some (.str clientAuthentication)

/-! ## One lemma for each check -/

theorem verifyApiGatewayPeer_ok {lib : Libraries} {peer : Option Bytes} {pinned : Bytes}
    {thumbprint : Text} (h : verifyApiGatewayPeer lib peer pinned = .ok thumbprint) :
    peer = some pinned ∧ pinned ≠ [] ∧ thumbprint = base64urlSha256 lib pinned := by
  unfold verifyApiGatewayPeer at h
  split at h
  · cases h
  · rename_i der
    split at h
    · cases h
    · rename_i present
      split at h
      · cases h
      · cases h
      · split at h
        · cases h
        · rename_i trusted
          simp only [not_or, not_not] at present trusted
          obtain ⟨-, same⟩ := trusted
          cases h
          exact ⟨by rw [same], present.2, by rw [same]⟩

theorem bearerToken_some {headers : HeaderFields} {token : Text}
    (h : bearerToken headers = some token) :
    ∃ scheme, getAll headers (text "Authorization") = [scheme ++ 32 :: token] ∧
      lowerText scheme = text "bearer" ∧ token ≠ [] ∧ 32 ∉ token := by
  unfold bearerToken at h
  split at h
  · rename_i authorization single
    split at h
    · rename_i scheme value parts
      split at h
      · rename_i shape
        cases h
        exact ⟨scheme, by rw [single, eq_of_partition parts], shape⟩
      · cases h
    · cases h
  · cases h

theorem forwardedClientCertificateDer_ok {lib : Libraries} {headers : HeaderFields} {der : Bytes}
    (h : forwardedClientCertificateDer lib headers = .ok der) : OneForwarded lib headers der := by
  unfold forwardedClientCertificateDer at h
  split at h
  · rename_i encoded single
    split at h
    · cases h
    · split at h
      · cases h
      · rename_i plain
        dsimp only at h
        split at h
        · cases h
        · split at h
          · cases h
          · rename_i shape
            simp only [not_or, not_not] at shape
            obtain ⟨once, onceEnd, front, behind⟩ := shape
            split at h
            · rename_i certificate loaded
              cases h
              have ascii : ∀ c ∈ encoded, c.val < 128 := by
                intro c hc
                simp only [List.any_eq_true, decide_eq_true_eq, not_exists, not_and, not_le] at plain
                exact plain c hc
              exact ⟨_, _, certificate, single, ascii, rfl, once, onceEnd, front, behind, loaded, rfl⟩
            · cases h
            · cases h
  · cases h

theorem checkClaims_ok {settings : Settings} {claims : Claims} {thumbprint : Text}
    (h : checkClaims settings claims = .ok thumbprint) : ClaimsVerified settings claims thumbprint := by
  unfold checkClaims at h
  split at h
  · rename_i scope hscope
    split at h
    · rename_i granted
      split at h
      · rename_i azp hazp
        split at h
        · rename_i known
          split at h
          · rename_i c rest bound
            cases h
            refine ⟨⟨scope, hscope, fun required hr => ?_⟩, ⟨azp, hazp, known⟩, bound⟩
            exact of_decide_eq_true (List.all_eq_true.mp granted required hr)
          · cases h
        · cases h
      · cases h
    · cases h
  · cases h

theorem verifyForwardedCertificateBinding_ok {lib : Libraries} {headers : HeaderFields}
    {tokenThumbprint forwarded : Text}
    (h : verifyForwardedCertificateBinding lib headers tokenThumbprint = .ok forwarded) :
    ∃ der, forwardedClientCertificateDer lib headers = .ok der ∧ tokenThumbprint = base64urlSha256 lib der ∧
      forwarded = base64urlSha256 lib der := by
  unfold verifyForwardedCertificateBinding at h
  split at h
  · cases h
  · rename_i der found
    split at h
    · rename_i equal
      cases h
      obtain ⟨t, -, left, right, -⟩ := constantTimeTextEqual_iff.mp equal
      cases left
      exact ⟨der, found, (Option.some.inj right).symm, rfl⟩
    · cases h

theorem verifyCredentials_ok {server : Server} {jwt : Jwt} {headers : HeaderFields} {token : Text}
    {claims : Claims} {tokenThumbprint forwarded : Text}
    (h : verifyCredentials server jwt headers token = .ok (claims, tokenThumbprint, forwarded)) :
    ∃ der, jwt token (decodeOptions server.settings) = some claims ∧
      forwardedClientCertificateDer server.libraries headers = .ok der ∧
      ClaimsVerified server.settings claims (base64urlSha256 server.libraries der) ∧
      tokenThumbprint = base64urlSha256 server.libraries der ∧
      forwarded = base64urlSha256 server.libraries der := by
  unfold verifyCredentials verifyAccessToken at h
  cases decoded : jwt token (decodeOptions server.settings) with
  | none => simp [decoded] at h
  | some found =>
    cases checked : checkClaims server.settings found with
    | error raised => simp [decoded, checked, Except.map] at h
    | ok thumbprint =>
      cases binding : verifyForwardedCertificateBinding server.libraries headers thumbprint with
      | error raised => simp [decoded, checked, binding, Except.map] at h
      | ok value =>
        simp only [decoded, checked, binding, Except.map, Except.ok.injEq, Prod.mk.injEq] at h
        obtain ⟨rfl, rfl, rfl⟩ := h
        obtain ⟨der, found, same, rfl⟩ := verifyForwardedCertificateBinding_ok binding
        exact ⟨der, rfl, found, same ▸ checkClaims_ok checked, same, rfl⟩

/-! ## The answer -/

theorem jsonResponse_status (status : Nat) (body : Json) (extra : HeaderFields) :
    (jsonResponse status body extra).status = status := rfl

/-- A 200 on `/evidence`: what was admitted, and the evidence in the body. -/
theorem doGet_evidence {server : Server} {jwt : Jwt} {request : Request}
    (path : request.path = text "/evidence") (accepted : (doGet server jwt request).status = 200) :
    ∃ token claims certificate evidence, AdmittedRequest server jwt request token claims certificate ∧
      verifiedClaims server jwt request = some claims ∧
      evidenceOf server jwt request = some evidence ∧
      buildEvidence request.headers claims (base64urlSha256 server.libraries certificate)
        (base64urlSha256 server.libraries certificate)
        (base64urlSha256 server.libraries server.pinnedGatewayPeerDer) = some evidence ∧
      doGet server jwt request = jsonResponse 200 (.obj evidence) [] := by
  have unhealthy : request.path ≠ text "/healthz" := by rw [path]; decide
  unfold doGet at accepted ⊢
  split at accepted
  · cases accepted
  · rename_i tlsPeerThumbprint peerOk
    rw [if_neg unhealthy, if_neg (not_not.mpr path)] at accepted ⊢
    have peer : request.peer = .ok (some server.pinnedGatewayPeerDer) ∧
        server.pinnedGatewayPeerDer ≠ [] ∧
        tlsPeerThumbprint = base64urlSha256 server.libraries server.pinnedGatewayPeerDer := by
      cases hpeer : request.peer with
      | error raised => simp [hpeer, bind, Except.bind] at peerOk
      | ok der =>
        rw [hpeer] at peerOk
        obtain ⟨rfl, rest⟩ := verifyApiGatewayPeer_ok peerOk
        exact ⟨rfl, rest⟩
    split at accepted
    · cases accepted
    · cases accepted
    · rename_i token notEmpty bearer
      split at accepted
      · cases accepted
      · cases accepted
      · rename_i claims tokenThumbprint forwardedThumbprint credentials
        obtain ⟨der, verified, found, checked, rfl, rfl⟩ := verifyCredentials_ok credentials
        split at accepted
        · cases accepted
        · rename_i evidence built
          obtain ⟨pinned, present, rfl⟩ := peer
          refine ⟨token, claims, der, evidence,
            ⟨⟨pinned, present⟩, bearerToken_some bearer, verified, checked,
              forwardedClientCertificateDer_ok found⟩, ?_, ?_, built, rfl⟩
          · unfold verifiedClaims
            rw [bearer, Option.bind_some, verified]
          · unfold evidenceOf verifiedClaims
            rw [bearer, Option.bind_some, verified, found]
            exact built

theorem buildEvidence_reported {headers : HeaderFields} {claims : Claims} {a b c : Text}
    {evidence : List (Text × Json)} (h : buildEvidence headers claims a b c = some evidence) :
    Reported claims (Json.obj evidence).print := by
  unfold buildEvidence at h
  split at h
  · rename_i azp hazp
    obtain ⟨⟨route, clientAuthentication⟩, known, rfl⟩ := Option.map_eq_some_iff.mp h
    exact ⟨azp, route, clientAuthentication, _, hazp, known, rfl, rfl, rfl, rfl⟩
  · cases h

/-- The evidence looks at no other field than the two it reports. -/
theorem buildEvidence_congr {headers headers' : HeaderFields} (claims : Claims) (a b c : Text)
    (department : getFirst headers (text "X-Demo-Department") =
      getFirst headers' (text "X-Demo-Department"))
    (route : getFirst headers (text "X-Demo-Route") = getFirst headers' (text "X-Demo-Route")) :
    buildEvidence headers claims a b c = buildEvidence headers' claims a b c := by
  have same : routingEvidence headers claims = routingEvidence headers' claims := by
    unfold routingEvidence
    rw [department, route]
  unfold buildEvidence
  rw [same]

/-- Every 200 is earned, and says nothing but what was verified: a second one with the same
claims and the same first routing fields has the same body. The certificate need not be compared
on its own, the claims are bound to it. -/
theorem evidence_admission (server : Server) {jwt : Jwt} {request : Request}
    (path : request.path = text "/evidence") (accepted : (doGet server jwt request).status = 200) :
    (∃ token claims certificate, AdmittedRequest server jwt request token claims certificate ∧
      Reported claims (doGet server jwt request).body) ∧
    ∀ jwt' request', request'.path = text "/evidence" → (doGet server jwt' request').status = 200 →
      verifiedClaims server jwt' request' = verifiedClaims server jwt request →
      getFirst request'.headers (text "X-Demo-Department") =
        getFirst request.headers (text "X-Demo-Department") →
      getFirst request'.headers (text "X-Demo-Route") =
        getFirst request.headers (text "X-Demo-Route") →
      (doGet server jwt' request').body = (doGet server jwt request).body := by
  obtain ⟨token, claims, certificate, evidence, admitted, verified, -, built, answer⟩ :=
    doGet_evidence path accepted
  constructor
  · refine ⟨token, claims, certificate, admitted, ?_⟩
    rw [answer]
    exact buildEvidence_reported built
  · intro jwt' request' path' accepted' sameClaims department route
    obtain ⟨token', claims', certificate', evidence', admitted', verified', -, built', answer'⟩ :=
      doGet_evidence path' accepted'
    obtain rfl : claims' = claims := by
      rw [verified, verified'] at sameClaims
      exact Option.some.inj sameClaims
    have thumbprint : base64urlSha256 server.libraries certificate' =
        base64urlSha256 server.libraries certificate := by
      have both := admitted'.claims.bound.symm.trans admitted.claims.bound
      exact Json.str.inj (Option.some.inj both)
    rw [thumbprint, buildEvidence_congr claims' _ _ _ department route] at built'
    rw [answer, answer', Option.some.inj (built'.symm.trans built)]

/-! ## A demo request -/

/-- The bytes of a numeral, the most significant first. -/
def bigEndian : Nat → Nat → Bytes
  | 0, _ => []
  | length + 1, n => UInt8.ofNat (n / 256 ^ length % 256) :: bigEndian length n

def gatewayDer : Bytes :=
    bigEndian 44 0x308201183081cba003020102020101300506032b6570301f311d301b06035504030c146170692d6761746577 ++
    bigEndian 44 0x61792d757073747265616d301e170d3236313131393031313230335a170d3336313131363031313230335a30 ++
    bigEndian 44 0x1f311d301b06035504030c146170692d676174657761792d757073747265616d302a300506032b6570032100 ++
    bigEndian 44 0x5390c3aa7a356158e4180404e1b9fad610d93617cbbe077ce94e6d516e8e87daa32c302a30090603551d1304 ++
    bigEndian 44 0x023000301d0603551d0e041604142c7758ceaf9e6876bfbbaca95ee0b44e4d92cb60300506032b6570034100 ++
    bigEndian 44 0xdfec6d35393601350dcec959d488cef5743d53b9b3107cc23514cddfb002aa8f7a77f311f0cd874fb368e906 ++
    bigEndian 20 0x8cc957ef87704f64b8d6c276656d196d7f143d06

def clientDer : Bytes :=
    bigEndian 44 0x3082010c3081bfa003020102020101300506032b657030193117301506035504030c0e6b6f6e672d66617069 ++
    bigEndian 44 0x2d6d746c73301e170d3236313131393031313230335a170d3336313131363031313230335a30193117301506 ++
    bigEndian 44 0x035504030c0e6b6f6e672d666170692d6d746c73302a300506032b6570032100d041458e112bf1caf74036a7 ++
    bigEndian 44 0x83825adf26de08727047ebc637446781d39dc7fea32c302a30090603551d1304023000301d0603551d0e0416 ++
    bigEndian 44 0x0414dcddfc52e7dce712d3dd4f584dcfbf23bde0dacc300506032b6570034100cb4b26f7cdac9ea448e36714 ++
    bigEndian 44 0x31124dc603930bf890632a3df1d30770861f126d2a40036044dbf24422b17019482dfa63c07abd65f8b7312b ++
    bigEndian 8 0x1303ffb6462e9d0f

/-- The client certificate as the gateway forwards it. -/
def forwardedPem : Text :=
    text "-----BEGIN%20CERTIFICATE-----%0A" ++
    text "MIIBDDCBv6ADAgECAgEBMAUGAytlcDAZMRcwFQYDVQQDDA5rb25nLWZhcGktbXRs%0A" ++
    text "czAeFw0yNjExMTkwMTEyMDNaFw0zNjExMTYwMTEyMDNaMBkxFzAVBgNVBAMMDmtv%0A" ++
    text "bmctZmFwaS1tdGxzMCowBQYDK2VwAyEA0EFFjhEr8cr3QDang4Ja3ybeCHJwR%2BvG%0A" ++
    text "N0RngdOdx%2F6jLDAqMAkGA1UdEwQCMAAwHQYDVR0OBBYEFNzd%2FFLn3OcS091PWE3P%0A" ++
    text "vyO94NrMMAUGAytlcANBAMtLJvfNrJ6kSONnFDESTcYDkwv4kGMqPfHTB3CGHxJt%0A" ++
    text "KkADYETb8kQisXAZSC36Y8B6vWX4tzErEwP%2FtkYunQ8%3D%0A" ++
    text "-----END%20CERTIFICATE-----%0A"

def demoLibraries : Libraries where
  loadDer der :=
    if der = gatewayDer then .ok ⟨[apiUpstreamCommonName], gatewayDer⟩ else .error .valueError
  loadPem pem :=
    if pem = unquoteToBytes (forwardedPem.map fun c => UInt8.ofNat c.val) then
      .ok ⟨[text "kong-fapi-mtls"], clientDer⟩
    else .error .valueError
  sha256 input :=
    if input = gatewayDer then
      bigEndian 32 0x62feae39a6ef1de47bd044b52b22873acd3b348a64615c27c29a73fc3c4e9489
    else if input = clientDer then
      bigEndian 32 0xbdce43816e1f8bf2d218efea07f564dbc971398f7577bc1c18790f481409619a
    else List.replicate 32 0

def demoServer : Server where
  settings := ⟨text "https://localhost:8444/realms/fapi-demo", text "fapi-demo-api", [text "openid"],
    [text "PS256"], by decide, rfl, rfl⟩
  libraries := demoLibraries
  pinnedGatewayPeerDer := gatewayDer

def demoClaims (department : Text) : Claims :=
  [(text "iss", .str (text "https://localhost:8444/realms/fapi-demo")),
    (text "aud", .arr [.str (text "fapi-demo-api"), .str (text "api-gateway-introspection")]),
    (text "azp", .str (text "third-party-fapi-mtls")), (text "iat", .int 1700000000),
    (text "exp", .int 1700000060), (text "scope", .str (text "openid profile")),
    (text "cnf", .obj [(text "x5t#S256", .str (text "vc5DgW4fi_LSGO_qB_Vk28lxOY91d7wcGHkPSBQJYZo"))]),
    (departmentClaim, .str department), (routeClaim, .str (text "engineering-route"))]

/-- The library's answer for the one token the realm has issued. -/
def demoJwt (department : Text) : Jwt := fun token _ =>
  if token = text "header.payload.signature" then some (demoClaims department) else none

def demoRequest (department : Text) : Request where
  peer := .ok (some gatewayDer)
  path := text "/evidence"
  headers := [(text "Authorization", text "Bearer header.payload.signature"),
    (text "X-Client-Cert", forwardedPem), (text "X-Demo-Department", department),
    (text "X-Demo-Route", text "engineering-route")]

theorem demo_accepted :
    (doGet demoServer (demoJwt (text "engineering")) (demoRequest (text "engineering"))).status = 200 := by
  decide +kernel

theorem evidence_admission_demo : ∃ token claims certificate,
    AdmittedRequest demoServer (demoJwt (text "engineering")) (demoRequest (text "engineering")) token claims
      certificate :=
  have ⟨token, claims, certificate, admitted, _⟩ :=
    (@evidence_admission demoServer _ (demoRequest (text "engineering")) rfl demo_accepted).1
  ⟨token, claims, certificate, admitted⟩

end KonnectFapi.Guarantees

import KonnectFapi.Lib.Refusal
import KonnectFapi.Lib.YamlValue

/-!
# The validator of a gateway's foundation state

Source: scripts/wp1_target.py:133-280 and scripts/wp1.py:11-26. A file is what reading and
parsing it gave, the environment templates rendered. A refusal carries its message.
-/

namespace KonnectFapi.Source.GatewayState
open Lib Lib.Yaml

/-- What a path held when it was read. -/
inductive File where
  /-- Missing, or a symbolic link where those are refused. -/
  | missing
  /-- An expression other than a reference to the environment is left. -/
  | unsupported
  /-- No YAML, or a mapping that repeats a key. -/
  | malformed
  | holds (document : Yaml) (unique : document.Loaded)

inductive Gateway where
  | api
  | thirdParty
  deriving DecidableEq

/-! ## `validate_foundation_state` -/

def parseFoundation : File → Except Refused Entries
  | .missing => .error .raised
  | .unsupported => fail "foundation state contains an unsupported template expression"
  | .malformed => fail "foundation state is not valid duplicate-free YAML"
  | .holds document _ =>
    match document with
    | .dict parsed => .ok parsed
    | _ => fail "foundation state must be a YAML mapping"

theorem parseFoundation_loaded {file : File} {parsed : Entries}
    (h : parseFoundation file = .ok parsed) : (Yaml.dict parsed).Loaded := by
  cases file with
  | holds document unique =>
    cases document with
    | dict entries =>
      cases h
      exact unique
    | scalar s => cases h
    | list items => cases h
  | missing => cases h
  | unsupported => cases h
  | malformed => cases h

def requireTags (entity : Entries) : Except Refused Unit :=
  require (same (get entity "tags") (strs ["fapi2-demo", "fapi2-foundation"]))
    "foundation entity ownership tags were changed"

/-- The certificates of a foundation: id, the variable of the certificate, the key's reference. -/
def expectedCertRefs : Gateway → List (String × String × String)
  | .api =>
    [("44444444-4444-4444-8444-444444444444", "DECK_API_INTROSPECTION_CERT_YAML",
        "\x7bvault://env/API_INTROSPECTION_KEY\x7d"),
      ("55555555-5555-4555-8555-555555555555", "DECK_API_UPSTREAM_CERT_YAML",
        "\x7bvault://env/API_UPSTREAM_KEY\x7d")]
  | .thirdParty =>
    [("11111111-1111-4111-8111-111111111111", "DECK_ROUTE_A_TLS_CERT_YAML",
        "\x7bvault://env/ROUTE_A_TLS_KEY\x7d"),
      ("22222222-2222-4222-8222-222222222222", "DECK_ROUTE_B_TLS_CERT_YAML",
        "\x7bvault://env/ROUTE_B_TLS_KEY\x7d")]

def expectedCaRef : Gateway → List (String × String)
  | .api => []
  | .thirdParty => [("33333333-3333-4333-8333-333333333333", "DECK_FAPI_CA_CERT_YAML")]

def entityId : Yaml → Except Refused (Text × Entries)
  | .dict entity =>
    match get entity "id" with
    | .scalar (.str id) => .ok (id, entity)
    | _ => fail "foundation certificate entity set or fixed IDs were changed"
  | _ => fail "foundation certificate entity set or fixed IDs were changed"

/-- The rows of a collection with their ids, which are the expected ones, each once. -/
def fixedRows (collection : Yaml) (expectedIds : List String) :
    Except Refused (List (Text × Entries)) := do
  match collection with
  | .list items =>
    let rows ← items.mapM entityId
    require (rows.length == expectedIds.length &&
        (rows.all fun row => expectedIds.any fun id => row.1 == text id) &&
        expectedIds.all fun id => rows.any fun row => row.1 == text id)
      "foundation certificate entity set or fixed IDs were changed"
    return rows
  | _ => fail "foundation certificate entity set or fixed IDs were changed"

def checkCertificate (gateway : Gateway) (row : Text × Entries) : Except Refused Unit := do
  require (keysAre row.2 ["id", "cert", "key", "tags"])
    "foundation certificate entity fields were changed"
  requireTags row.2
  match (expectedCertRefs gateway).find? fun ref => text ref.1 == row.1 with
  | some (_, env, key) =>
    require (same (get row.2 "cert") (str ("foundation-template:" ++ env)) &&
        same (get row.2 "key") (str key))
      "foundation certificate identity or secret reference was changed"
  | none => .error .raised

def checkCaCertificate (gateway : Gateway) (row : Text × Entries) : Except Refused Unit := do
  require (keysAre row.2 ["id", "cert", "tags"])
    "foundation certificate entity fields were changed"
  requireTags row.2
  require ((expectedCaRef gateway).any fun ref => row.1 == text ref.1 &&
      same (get row.2 "cert") (str ("foundation-template:" ++ ref.2)))
    "foundation CA certificate identity or reference was changed"

/-- `list(ROUTES)`. -/
def routes : Yaml :=
  .list [
    obj [("route_id", str "754519ff-b0b9-5ed5-94c0-e453d260c6c4"), ("logical_route", str "A"),
      ("client_id", str "third-party-fapi-mtls"),
      ("certificate_file", str "/etc/kong/fapi/route-a.crt"),
      ("key_file", str "/etc/kong/fapi/route-a.key")],
    obj [("route_id", str "0f45debe-a3a6-5207-aea3-637227fb96f2"), ("logical_route", str "B"),
      ("client_id", str "third-party-fapi-pkj-mtls"),
      ("certificate_file", str "/etc/kong/fapi/route-b.crt"),
      ("key_file", str "/etc/kong/fapi/route-b.key")]]

def transportConfig : Yaml :=
  obj [("issuer", str "https://localhost:8444/realms/fapi-demo"),
    ("internal_origin", str "https://keycloak:8443"),
    ("discovery_url",
      str "https://keycloak:8443/realms/fapi-demo/.well-known/openid-configuration"),
    ("jwks_url", str "https://keycloak:8443/realms/fapi-demo/protocol/openid-connect/certs"),
    ("par_url",
      str "https://keycloak:8443/realms/fapi-demo/protocol/openid-connect/ext/par/request"),
    ("token_url", str "https://keycloak:8443/realms/fapi-demo/protocol/openid-connect/token"),
    ("revocation_url",
      str "https://keycloak:8443/realms/fapi-demo/protocol/openid-connect/revoke"),
    ("metadata_certificate_file", str "/etc/kong/fapi/third-party-metadata.crt"),
    ("metadata_key_file", str "/etc/kong/fapi/third-party-metadata.key"),
    ("routes", routes),
    ("evidence_correlation_enabled", bool false)]

def isTrue : Yaml → Bool
  | .scalar (.bool b) => b
  | _ => false

/-- `value is None`. -/
def isNone : Yaml → Bool
  | .scalar .null => true
  | _ => false

def checkTransportPlugin (plugins : Yaml) : Except Refused Unit :=
  match plugins with
  | .list [.dict plugin] => do
    require (keysAre plugin ["id", "name", "enabled", "protocols", "tags", "config"] &&
        agrees plugin [("id", str "88888888-8888-4888-8888-888888888888"),
          ("name", str "fapi-as-mtls-transport")] &&
        isTrue (get plugin "enabled") &&
        agrees plugin [("protocols", strs ["http", "https"]), ("config", transportConfig)])
      "third-party global transport entity identity or config was changed"
    requireTags plugin
  | .list [_] => .error .raised
  | _ => fail "third-party foundation must contain exactly one global transport entity"

def validateFoundationState (gateway : Gateway) (file : File) : Except Refused Unit := do
  require (!file matches .missing)
    (match gateway with
      | .api => "foundation state is missing: kong/foundation/api.yaml"
      | .thirdParty => "foundation state is missing: kong/foundation/third-party.yaml")
  let parsed ← parseFoundation file
  require (parsed.all fun e =>
      ["_format_version", "_info", "certificates", "ca_certificates", "plugins"].any fun name =>
        e.1.same (.str (text name)))
    "foundation state contains an unexpected top-level entity or key"
  require (agrees parsed [("_format_version", str "3.0"),
      ("_info", obj [("select_tags", strs ["fapi2-demo", "fapi2-foundation"])])])
    "foundation state select_tags were changed"
  require (!(gateway = .api && (lookup (.str (text "ca_certificates")) parsed).isSome))
    "API foundation must not manage the shared API CA"
  let certificates ← fixedRows (get parsed "certificates") ((expectedCertRefs gateway).map (·.1))
  certificates.forM (checkCertificate gateway)
  let caCertificates ← fixedRows
    (if gateway = .api then .list [] else get parsed "ca_certificates")
    ((expectedCaRef gateway).map (·.1))
  caCertificates.forM (checkCaCertificate gateway)
  require (isNone (get parsed "services") && isNone (get parsed "routes"))
    "foundation state must not contain services or routes"
  match gateway with
  | .api =>
    require (lookup (.str (text "plugins")) parsed).isNone
      "API foundation must not contain any plugin entities"
  | .thirdParty => checkTransportPlugin (get parsed "plugins")

end KonnectFapi.Source.GatewayState

import KonnectFapi.Source.Deck.Manifest
import Mathlib.Data.List.Infix

/-!
# The role inputs

Source: scripts/run-deck.py:366-398 and scripts/wp1_target.py:558-619. The certificates and
keys a gateway's states refer to; `openssl` decides what a certificate is.
-/

namespace KonnectFapi.Source.Deck
open Lib Lib.Json
open Dialogue (check attempt)
open GatewayState (Gateway)

/-! ## `certificate_der` -/

/-- `\s` of an ASCII pattern. -/
def isAsciiSpace (c : CodePoint) : Bool := (9 ≤ c.val && c.val ≤ 13) || c.val == 32

def isBase64Point (c : CodePoint) : Bool :=
  (48 ≤ c.val && c.val ≤ 57) || (65 ≤ c.val && c.val ≤ 90) || (97 ≤ c.val && c.val ≤ 122) ||
    c.val == 43 || c.val == 47 || c.val == 61

/-- One carriage return at the end of a line belongs to its break. -/
def withoutReturn (line : Text) : Text :=
  match line.getLast? with
  | some c => if c.val = 13 then line.dropLast else line
  | none => line

/-- `SINGLE_CERTIFICATE_PEM.fullmatch(pem)` -/
def isSingleCertificate (pem : Text) : Bool :=
  let lines := ((pem.dropWhile isAsciiSpace).rdropWhile isAsciiSpace).splitOnP (·.val == 10)
  match lines.dropLast.map withoutReturn, lines.getLast? with
  | first :: body, some last =>
    first == text "-----BEGIN CERTIFICATE-----" && last == text "-----END CERTIFICATE-----" &&
      !body.isEmpty && body.all fun line => !line.isEmpty && line.all isBase64Point
  | _, _ => false

def certificateDer (value : Json) : Asking Bytes := do
  let malformed := "role-scoped certificate input is missing or malformed"
  let .str (c :: rest) := value | refuse malformed
  let pem := RuntimeDiff.replaceFrom (text "\\n") (text "\n") 0 (c :: rest)
  demand (isSingleCertificate pem) malformed
  match (← ask (.openssl pem) : Option (Int × Bytes)) with
  | some (0, b :: der) => return b :: der
  | _ => refuse malformed

/-! ## `validate_role_values` -/

/-- `ROLE_INPUT_FIELDS` -/
def certificateFields : Gateway → List String
  | .api => ["DECK_FAPI_CA_CERT_YAML", "DECK_API_INTROSPECTION_CERT_YAML", "DECK_API_UPSTREAM_CERT_YAML"]
  | .thirdParty => ["DECK_FAPI_CA_CERT_YAML", "DECK_ROUTE_A_TLS_CERT_YAML",
      "DECK_ROUTE_B_TLS_CERT_YAML", "DECK_BACKEND_HOP_CERT_YAML"]

def keyFields : Gateway → List String
  | .api => ["API_INTROSPECTION_KEY", "API_UPSTREAM_KEY"]
  | .thirdParty => ["ROUTE_A_TLS_KEY", "ROUTE_B_TLS_KEY", "BACKEND_HOP_KEY"]

def roleFields (gateway : Gateway) : List String := certificateFields gateway ++ keyFields gateway

def isKeyText : Option Json → Bool
  | some (.str t) => (text "-----BEGIN ").isPrefixOf t && decide (text "PRIVATE KEY-----" <:+: t)
  | _ => false

/-- The loop over the certificates. -/
def checkCertificates (values : Dict) : List String → Asking Unit
  | [] => return ()
  | name :: rest => do
    let _ ← certificateDer ((values.lookup (text name)).getD .null)
    checkCertificates values rest

def validateRoleValues (gateway : Gateway) (roleValues : Json) : Asking Dict := do
  let .obj values := roleValues | refuse "role-scoped decK input is malformed"
  demand (namesAre values (roleFields gateway)) "role-scoped decK input fields are malformed"
  checkCertificates values (certificateFields gateway)
  demand ((keyFields gateway).all fun name => isKeyText (values.lookup (text name)))
    "role-scoped decK input fields are malformed"
  return values

/-! ## `read_private_role_file` -/

def maxRoleFileBytes : Nat := 1048576

def roleFile (gateway : Gateway) : String :=
  match gateway with
  | .api => ".generated/runtime-api.json"
  | .thirdParty => ".generated/runtime-third-party.json"

def readPrivateRoleFile (path : String) (requirePrivateMode : Bool) : Asking Json := do
  let unsuitable :=
    "role-scoped decK input must be a regular file with safe permissions under 1 MiB"
  match (← ask (.roleFile path requirePrivateMode) : RoleRead) with
  | .unsafeDirectory => refuse "role-scoped decK input directory is missing or unsafe"
  | .failed => refuse "role-scoped decK inputs are missing or unsafe"
  | .unsuitable => refuse unsuitable
  | .content raw => do
    demand (raw.length ≤ maxRoleFileBytes) unsuitable
    match (decodeUtf8 raw).bind (loads fun found => some (.obj (dict found))) with
    | some value => return value
    | none => refuse "role-scoped decK inputs are malformed"

/-- The role file, read and validated. -/
def askRoleValues (gateway : Gateway) (requirePrivateMode : Bool) : Asking Dict := do
  validateRoleValues gateway (← readPrivateRoleFile (roleFile gateway) requirePrivateMode)

/-- The values as the variables of an environment; each of them is a text. -/
def roleVariables (values : Dict) : List (Text × Text) :=
  values.filterMap fun m => (str? m.2).map (m.1, ·)

end KonnectFapi.Source.Deck

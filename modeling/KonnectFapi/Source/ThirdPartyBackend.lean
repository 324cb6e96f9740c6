import KonnectFapi.Lib.HeaderFields
import KonnectFapi.Lib.Json

/-!
# The third-party backend's view of the evidence

Source: third-party-backend/app.py:23-183. The upstream exchange is data: what raising
or answering each step of it did. A rejection carries its message, which no caller
looks at.
-/

namespace KonnectFapi.Source.ThirdPartyBackend
open Lib

def maxResponseBytes : Nat := 16 * 1024

/-- Route, authorized party and client authentication of an entry. -/
structure Expected where
  route : Text
  azp : Text
  clientAuthentication : Text
  deriving DecidableEq

def routes : List (Text × Expected) :=
  [(text "/evidence/route-a", ⟨text "route-a", text "third-party-fapi-mtls", text "tls_client_auth"⟩),
    (text "/evidence/route-b",
      ⟨text "route-b", text "third-party-fapi-pkj-mtls", text "private_key_jwt"⟩)]

def textFields : List Text :=
  [text "department", text "logical_route", text "department_header", text "logical_route_header"]

def thumbprintFields : List Text :=
  [text "token_certificate_thumbprint", text "forwarded_client_certificate_thumbprint",
    text "api_gateway_tls_peer_certificate_thumbprint"]

def flagFields : List Text :=
  [text "token_signature_verified", text "binding_verified", text "header_claims_match"]

abbrev Members := List (Text × Json)

/-! ## `project_evidence` -/

def projectIdentity (source : Members) (field : Text × Text) : Except Text (Text × Json) :=
  match source.lookup field.1 with
  | some (.str value) =>
    if value = field.2 then .ok (field.1, .str value) else .error (text "wrong route identity")
  | _ => .error (text "wrong route identity")

def projectText (source : Members) (name : Text) : Except Text (Text × Json) :=
  match source.lookup name with
  | some .null => .ok (name, .null)
  | some (.str value) =>
    if value.length ≤ 256 ∧ value.any isControl = false then .ok (name, .str value)
    else .error (text "invalid text")
  | _ => .error (text "invalid text")

/-- `[A-Za-z0-9_-]`. -/
def isBase64Url (c : CodePoint) : Bool :=
  c.val < 128 && (isAlnum (UInt8.ofNat c.val) || c.val == 95 || c.val == 45)

def projectThumbprint (source : Members) (name : Text) : Except Text (Text × Json) :=
  match source.lookup name with
  | some (.str value) =>
    if value.length = 43 ∧ value.all isBase64Url = true then .ok (name, .str value)
    else .error (text "invalid thumbprint")
  | _ => .error (text "invalid thumbprint")

def projectFlag (source : Members) (name : Text) : Except Text (Text × Json) :=
  match source.lookup name with
  | some (.bool value) =>
    if name = text "header_claims_match" ∨ value = true then .ok (name, .bool value)
    else .error (text "invalid verification")
  | _ => .error (text "invalid verification")

/-- A member of the result when it is a text that is not empty. -/
def filled (result : Members) (name : Text) : Option Text :=
  match result.lookup name with
  | some (.str (c :: rest)) => some (c :: rest)
  | _ => none

def consistentHeaders (result : Members) : Bool :=
  textFields.all (fun name => (filled result name).isSome) &&
    filled result (text "department") == filled result (text "department_header") &&
    filled result (text "logical_route") == filled result (text "logical_route_header")

def projectObject (source : Members) (expected : Expected) : Except Text Members := do
  let identity ← [(text "route", expected.route), (text "azp", expected.azp),
    (text "client_authentication", expected.clientAuthentication)].mapM (projectIdentity source)
  let texts ← textFields.mapM (projectText source)
  let thumbprints ← thumbprintFields.mapM (projectThumbprint source)
  let flags ← flagFields.mapM (projectFlag source)
  let result := identity ++ texts ++ thumbprints ++ flags
  if filled result (text "token_certificate_thumbprint") ≠
      filled result (text "forwarded_client_certificate_thumbprint") then
    .error (text "inconsistent binding")
  else if ((result.lookup (text "header_claims_match")).bind Json.bool?) = some true ∧
      consistentHeaders result = false then
    .error (text "inconsistent headers")
  else .ok result

def projectEvidence (body : Bytes) (expected : Expected) : Except Text Members :=
  match (decodeUtf8 body).bind (Json.loads Json.unique) with
  | none => .error (text "invalid JSON")
  | some (.obj source) => projectObject source expected
  | some _ => .error (text "invalid object")

/-! ## `fetch_evidence` -/

inductive Fault where
  | timeout
  | os
  | http
  deriving DecidableEq

structure UpstreamResponse where
  status : Nat
  headers : HeaderFields
  /-- `read(n)`. -/
  read : Nat → Except Fault Bytes

/-- `value.split(";", 1)[0].strip().lower()`. -/
def mediaType (value : Text) : Text :=
  lowerText (((value.takeWhile (· ≠ 59)).dropWhile isSpacePoint).rdropWhile isSpacePoint)

/-- The bound on a declared length, when the fields are well formed. -/
def declaredLength : List Text → Option (Option Nat)
  | [] => some none
  | [value] =>
    if value.length ≤ 10 ∧ value ≠ [] ∧ value.all Json.isDigitPoint = true ∧
        Json.digitsValue value ≤ maxResponseBytes then
      some (some (Json.digitsValue value))
    else none
  | _ => none

def errorBody (name : String) : Json := .obj [(text "error", .str (text name))]

def unavailable : Nat × Json := (502, errorBody "upstream_unavailable")

/-- What the exchange answers; every exception the source names is mapped to an answer. -/
def fetchEvidence (exchange : Except Fault UpstreamResponse) (expected : Expected) : Nat × Json :=
  match exchange with
  | .error .timeout => (504, errorBody "upstream_timeout")
  | .error _ => unavailable
  | .ok response =>
    if response.status = 401 ∨ response.status = 403 then
      (response.status, errorBody "upstream_unauthorized")
    else if response.status ≠ 200 then unavailable
    else
      match getAll response.headers (text "Content-Type"),
          declaredLength (getAll response.headers (text "Content-Length")) with
      | [contentType], some declared =>
        if mediaType contentType ≠ text "application/json" then unavailable
        else
          match response.read (maxResponseBytes + 1) with
          | .error .timeout => (504, errorBody "upstream_timeout")
          | .error _ => unavailable
          | .ok body =>
            if maxResponseBytes < body.length ∨ declared.any (· ≠ body.length) then unavailable
            else
              match projectEvidence body expected with
              | .ok result => (200, .obj result)
              | .error _ => unavailable
      | _, _ => unavailable

end KonnectFapi.Source.ThirdPartyBackend

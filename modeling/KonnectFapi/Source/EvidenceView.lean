import KonnectFapi.Lib.Json
import Mathlib.Algebra.GroupWithZero.Nat

/-!
# The page's view of the evidence

Source: ui/evidence.js:9-60. A script's string is given by its code points, two
surrogates that form a pair being one; lengths are counted in UTF-16 units.
-/

namespace KonnectFapi.Source.EvidenceView
open Lib

structure Client where
  azp : Text
  routeKey : Text
  route : Text
  clientAuth : Text

def clients : List (Text × Client) :=
  [(text "third-party-fapi-mtls",
      ⟨text "third-party-fapi-mtls", text "route-a", text "Route A", text "tls_client_auth"⟩),
    (text "third-party-fapi-pkj-mtls",
      ⟨text "third-party-fapi-pkj-mtls", text "route-b", text "Route B", text "private_key_jwt"⟩)]

/-- `なし`. -/
def absent : Text := [12394, 12375]

/-- `value.length`. -/
def utf16Length (t : Text) : Nat := (t.map fun c => if c.val < 65536 then 1 else 2).sum

def safeText (value : Option Json) : Text :=
  match value with
  | some (.str t) =>
    if 128 < utf16Length t ∨ t.any isControl = true then absent
    else if t = [] then absent else t
  | _ => absent

def isBase64Url (c : CodePoint) : Bool :=
  c.val < 128 && (isAlnum (UInt8.ofNat c.val) || c.val == 95 || c.val == 45)

def thumbprintPrefix (value : Option Json) : Text :=
  match value with
  | some (.str t) => if t.length = 43 ∧ t.all isBase64Url = true then t.take 12 else absent
  | _ => absent

mutual
/-- The property key a value stands for; of numbers only that it is no client's name. -/
def propertyKey : Json → Text
  | .null => text "null"
  | .bool b => text (if b then "true" else "false")
  | .int n => ofAscii (Json.printInt n)
  | .float literal => literal
  | .str t => t
  | .arr items => (propertyKeys items).flatten
  | .obj _ => text "[object Object]"

/-- The elements joined with commas, an empty one for `null`. -/
def propertyKeys : List Json → List Text
  | [] => []
  | [v] => [elementKey v]
  | v :: rest => elementKey v :: text "," :: propertyKeys rest

def elementKey : Json → Text
  | .null => []
  | .bool b => text (if b then "true" else "false")
  | .int n => ofAscii (Json.printInt n)
  | .float literal => literal
  | .str t => t
  | .arr items => (propertyKeys items).flatten
  | .obj _ => text "[object Object]"
end

structure Shown where
  azp : Text
  route : Text
  clientAuth : Text
  department : Text
  logicalRoute : Text
  departmentHeader : Text
  logicalRouteHeader : Text
  headerMatches : Bool
  signatureVerified : Bool
  bindingVerified : Bool
  tokenThumbprintPrefix : Text
  clientThumbprintPrefix : Text

def isTrue (value : Option Json) : Bool :=
  match value with
  | some (.bool true) => true
  | _ => false

def project (evidence : Json) (expectedRoute : Text) : Except Text Shown :=
  match evidence with
  | .obj fields =>
    -- a field that is missing reads as `undefined`, a key like any other
    let key := ((fields.lookup (text "azp")).map propertyKey).getD (text "undefined")
    match clients.lookup key with
    | none => .error (text "API response does not match the selected route")
    | some client =>
      if client.routeKey ≠ expectedRoute then
        .error (text "API response does not match the selected route")
      else
        .ok
          { azp := client.azp
            route := client.route
            clientAuth := client.clientAuth
            department := safeText (fields.lookup (text "department"))
            logicalRoute := safeText (fields.lookup (text "logical_route"))
            departmentHeader := safeText (fields.lookup (text "department_header"))
            logicalRouteHeader := safeText (fields.lookup (text "logical_route_header"))
            headerMatches := isTrue (fields.lookup (text "header_claims_match"))
            signatureVerified := isTrue (fields.lookup (text "token_signature_verified"))
            bindingVerified := isTrue (fields.lookup (text "binding_verified"))
            tokenThumbprintPrefix :=
              thumbprintPrefix (fields.lookup (text "token_certificate_thumbprint"))
            clientThumbprintPrefix :=
              thumbprintPrefix (fields.lookup (text "forwarded_client_certificate_thumbprint")) }
  | _ => .error (text "API response is not evidence")

end KonnectFapi.Source.EvidenceView

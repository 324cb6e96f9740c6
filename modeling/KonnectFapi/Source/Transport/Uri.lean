import KonnectFapi.Source.Transport.Manifest

/-!
# Target classification

Source: kong/plugins/fapi-as-mtls-transport/handler.lua:865-900 (`url_origin`,
`protected_origin`, `classify`) and 1044-1053 (`method_for`). The string patterns
are read by the language's own matching rules: the scheme class does not contain
`:`, so its maximal run is the only candidate, and `.*@(.+)$` takes the last `@`
that something follows.
-/

namespace KonnectFapi.Source.Transport
open Lib Lib.Lua

inductive EndpointKind where
  | discovery | jwks | par | token | revocation
  deriving DecidableEq, Repr

inductive IdentityKind where
  | metadata | route
  deriving DecidableEq, Repr

def EndpointKind.text : EndpointKind → Bytes
  | .discovery => ascii "discovery"
  | .jwks => ascii "jwks"
  | .par => ascii "par"
  | .token => ascii "token"
  | .revocation => ascii "revocation"

/-- The three results of `classify`. -/
structure Endpoint where
  kind : EndpointKind
  mappedUri : Bytes
  identityKind : IdentityKind
  deriving DecidableEq

/-- `[%w+%.%-]` -/
def isSchemeByte (b : Byte) : Bool := isAlnum b || b == 43 || b == 46 || b == 45

/-- `[^/?#]` -/
def isAuthorityByte (b : Byte) : Bool := !(b == 47 || b == 63 || b == 35)

/-- `authority:match(".*@(.+)$") or authority`. The byte at the very end is never
the separator, so the search runs over what precedes it. -/
def hostPort (authority : Bytes) : Bytes :=
  match authority.reverse with
  | [] => []
  | last :: before =>
    if before.contains 64 then (last :: before.takeWhile (· != 64)).reverse else authority

/-- `uri:match("^([%a][%w+%.%-]*)://([^/?#]+)")`, before the authority is trimmed. -/
def matchOrigin (uri : Bytes) : Option (Bytes × Bytes) :=
  match uri with
  | [] => none
  | first :: _ =>
    if isAlpha first then
      let rest := uri.dropWhile isSchemeByte
      if (ascii "://").isPrefixOf rest then
        let authority := (rest.drop 3).takeWhile isAuthorityByte
        if authority = [] then none else some (uri.takeWhile isSchemeByte, authority)
      else none
    else none

def urlOrigin (uri : Value) : Option (Bytes × Bytes) :=
  match uri with
  | .str text => (matchOrigin text).map fun (scheme, authority) =>
      (lower scheme, lower (hostPort authority))
  | _ => none

/-- The two authorities the guard protects. -/
def asAuthorities : List Bytes := [ascii "localhost:8444", ascii "keycloak:8443"]

/-- First result of `protected_origin`. -/
def protectedOrigin (uri : Value) : Bool :=
  match urlOrigin uri with
  | some (_, authority) => asAuthorities.contains authority
  | none => false

/-- Second result of `protected_origin`. -/
def originScheme (uri : Value) : Option Bytes := (urlOrigin uri).map Prod.fst

def classify (uri : Value) (method : Bytes) : Option Endpoint :=
  if method = ascii "GET" ∧ uri.isStr discoveryPublic = true then
    some ⟨.discovery, discoveryInternal, .metadata⟩
  else if method = ascii "GET" ∧ uri.isStr discoveryInternal = true then
    some ⟨.discovery, discoveryInternal, .metadata⟩
  else if method = ascii "GET" ∧ uri.isStr jwks = true then some ⟨.jwks, jwks, .metadata⟩
  else if method = ascii "POST" ∧ uri.isStr par = true then some ⟨.par, par, .route⟩
  else if method = ascii "POST" ∧ uri.isStr token = true then some ⟨.token, token, .route⟩
  else if method = ascii "POST" ∧ uri.isStr revocation = true then
    some ⟨.revocation, revocation, .route⟩
  else none

/-- `method_for`, on options already normalised to a table. -/
def methodFor (options : Table) : Option Bytes :=
  match options.get (.name "method") with
  | .nil => some (ascii "GET")
  | .str m => some (upper m)
  | _ => none

/-- The five locators requests to the authorization server are mapped to. -/
def internalUrls : List Bytes := [discoveryInternal, jwks, par, token, revocation]

/-- Everything `classify` recognises is read by its own URL, whose authority the
origin reader finds protected and whose scheme is `https`. -/
theorem classify_spec {uri : Value} {method : Bytes} {endpoint : Endpoint}
    (h : classify uri method = some endpoint) :
    endpoint.mappedUri ∈ internalUrls ∧ protectedOrigin uri = true ∧
      originScheme uri = some (ascii "https") ∧
      (endpoint.identityKind = .route ↔
        endpoint.kind = .par ∨ endpoint.kind = .token ∨ endpoint.kind = .revocation) ∧
      (endpoint.mappedUri = par ↔ endpoint.kind = .par) ∧
      (endpoint.mappedUri = token ↔ endpoint.kind = .token) ∧
      (endpoint.mappedUri = revocation ↔ endpoint.kind = .revocation) := by
  unfold classify at h
  split at h
  · rename_i hc
    obtain rfl := Value.isStr_iff.mp hc.2
    cases h
    decide
  split at h
  · rename_i hc
    obtain rfl := Value.isStr_iff.mp hc.2
    cases h
    decide
  split at h
  · rename_i hc
    obtain rfl := Value.isStr_iff.mp hc.2
    cases h
    decide
  split at h
  · rename_i hc
    obtain rfl := Value.isStr_iff.mp hc.2
    cases h
    decide
  split at h
  · rename_i hc
    obtain rfl := Value.isStr_iff.mp hc.2
    cases h
    decide
  split at h
  · rename_i hc
    obtain rfl := Value.isStr_iff.mp hc.2
    cases h
    decide
  · cases h

end KonnectFapi.Source.Transport

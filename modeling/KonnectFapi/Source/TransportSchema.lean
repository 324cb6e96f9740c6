import KonnectFapi.Source.Transport.Config

/-!
# The transport's schema

`validate_routes`, the validator of the configuration record, and the fields the
record declares. The control plane checks a configuration against this file, which
writes the manifest out a second time; it accepts no undeclared field, and the
runtime adds its own before a worker sees the record.

Source: kong/plugins/fapi-as-mtls-transport/schema.lua:1-217
-/

namespace KonnectFapi.Source.TransportSchema
open Lib Lib.Lua

def idA : Bytes := ascii "754519ff-b0b9-5ed5-94c0-e453d260c6c4"
def idB : Bytes := ascii "0f45debe-a3a6-5207-aea3-637227fb96f2"

/-- The `expected` table of `validate_routes`. -/
def expected : List (Bytes × List (Bytes × Bytes)) :=
  [(idA, [(ascii "logical_route", ascii "A"), (ascii "client_id", ascii "third-party-fapi-mtls"),
      (ascii "certificate_file", ascii "/etc/kong/fapi/route-a.crt"),
      (ascii "key_file", ascii "/etc/kong/fapi/route-a.key")]),
    (idB, [(ascii "logical_route", ascii "B"),
      (ascii "client_id", ascii "third-party-fapi-pkj-mtls"),
      (ascii "certificate_file", ascii "/etc/kong/fapi/route-b.crt"),
      (ascii "key_file", ascii "/etc/kong/fapi/route-b.key")])]

/-- The names a route record may use. -/
def routeFields : List Bytes :=
  ["route_id", "logical_route", "client_id", "certificate_file", "key_file"].map ascii

def isRouteField : Key → Bool
  | .str name => routeFields.contains name
  | _ => false

/-- One pass of the loop over `routes`: the id it marks as seen. -/
def validateRoute (seen : List Bytes) (route : Value) : Except String Bytes :=
  if !route.isTable then .error "Route record requires a non-empty route_id"
  else
    match route.field "route_id" with
    | .str id =>
      if id = [] then .error "Route record requires a non-empty route_id"
      else if id ∈ seen then .error "Route identities must be present exactly once"
      else
        match expected.lookup id with
        | none => .error "route_id is not in the fixed manifest"
        | some identity =>
          if !identity.all (fun (key, value) => (route.fields.get (.str key)).isStr value) then
            .error "Route identity fields do not match the fixed manifest"
          else if !route.fields.all (fun e => isRouteField e.1) then
            .error "Route record contains an unexpected field"
          else if route.fields.length ≠ 5 then
            .error "each Route record must contain exactly five fields"
          else .ok id
    | _ => .error "Route record requires a non-empty route_id"

/-- The loop over `routes`: the ids it has seen at its end. -/
def seenRoutes : List Bytes → List Value → Except String (List Bytes)
  | seen, [] => .ok seen
  | seen, route :: rest => do
    let id ← validateRoute seen route
    seenRoutes (id :: seen) rest

def validateRoutes (routes : Value) : Except String Unit :=
  if !routes.isTable || routes.border ≠ 2 then
    .error "exactly the fixed Route A and Route B entries are required"
  else do
    let seen ← seenRoutes [] routes.fields.items
    if idA ∉ seen ∨ idB ∉ seen then .error "both fixed Route identities are required"
    else .ok ()

/-- The `custom_validator` of the configuration record. -/
def customValidator (config : Value) : Except String Unit :=
  if !config.isTable then .error "transport configuration is required"
  else validateRoutes (config.field "routes")

/-- The required strings of the record with their `one_of` lists. -/
def oneOf : List (String × List String) :=
  [("issuer", ["https://localhost:8444/realms/fapi-demo"]),
    ("internal_origin", ["https://keycloak:8443"]),
    ("discovery_url",
      ["https://keycloak:8443/realms/fapi-demo/.well-known/openid-configuration"]),
    ("jwks_url", ["https://keycloak:8443/realms/fapi-demo/protocol/openid-connect/certs"]),
    ("par_url", ["https://keycloak:8443/realms/fapi-demo/protocol/openid-connect/ext/par/request"]),
    ("token_url", ["https://keycloak:8443/realms/fapi-demo/protocol/openid-connect/token"]),
    ("revocation_url", ["https://keycloak:8443/realms/fapi-demo/protocol/openid-connect/revoke"]),
    ("metadata_certificate_file", ["/etc/kong/fapi/third-party-metadata.crt"]),
    ("metadata_key_file", ["/etc/kong/fapi/third-party-metadata.key"])]

/-- The other two fields of the record. -/
def otherFields : List String := ["routes", "evidence_correlation_enabled"]

/-- The record declares the field, or it is one of those the runtime adds. -/
def isDeclared : Key → Bool
  | .str name => ((oneOf.map Prod.fst ++ otherFields).map ascii).contains name ||
      Transport.kongConfigMetadata.contains name
  | _ => false

/-- What the declared fields ask of a record, its routes apart. -/
structure FieldsAccepted (config : Value) : Prop where
  table : config.isTable = true
  texts : ∀ field ∈ oneOf, ∃ text ∈ field.2, config.field field.1 = .str (ascii text)
  flag : config.field "evidence_correlation_enabled" = .nil ∨
    ∃ b, config.field "evidence_correlation_enabled" = .bool b
  declared : ∀ e ∈ config.fields, isDeclared e.1 = true

end KonnectFapi.Source.TransportSchema

import KonnectFapi.Lib.LuaValue

/-!
# Fixed locators, limits and the route manifest

Source: kong/plugins/fapi-as-mtls-transport/handler.lua:11-62. The two route
records are the only ones the transport ever registers.
-/

namespace KonnectFapi.Source.Transport
open Lib

def issuer : Bytes := ascii "https://localhost:8444/realms/fapi-demo"
def internalOrigin : Bytes := ascii "https://keycloak:8443"
def discoveryPublic : Bytes := issuer ++ ascii "/.well-known/openid-configuration"
def discoveryInternal : Bytes :=
  internalOrigin ++ ascii "/realms/fapi-demo/.well-known/openid-configuration"
def jwks : Bytes := internalOrigin ++ ascii "/realms/fapi-demo/protocol/openid-connect/certs"
def par : Bytes :=
  internalOrigin ++ ascii "/realms/fapi-demo/protocol/openid-connect/ext/par/request"
def token : Bytes := internalOrigin ++ ascii "/realms/fapi-demo/protocol/openid-connect/token"
def revocation : Bytes := internalOrigin ++ ascii "/realms/fapi-demo/protocol/openid-connect/revoke"

def correlationHeader : Bytes := ascii "X-Fapi-Demo-Observation-ID"
def assertionType : Bytes := ascii "urn:ietf:params:oauth:client-assertion-type:jwt-bearer"
def maxFormBytes : Nat := 16384
def maxFormFields : Nat := 64
def maxFormNameBytes : Nat := 256
def maxFormValueBytes : Nat := 8192
def maxObservations : Nat := 32
def statusDirectory : Bytes := ascii "/run/kong/fapi-transport-ready"
def maxReadyMarkerBytes : Nat := 16384
def maxWorkers : Nat := 64

def metadataCertificateFile : Bytes := ascii "/etc/kong/fapi/third-party-metadata.crt"
def metadataKeyFile : Bytes := ascii "/etc/kong/fapi/third-party-metadata.key"

/-- One record of `MANIFEST`, and of the routes table built from it. -/
structure ManifestRoute where
  routeId : Bytes
  logicalRoute : Bytes
  clientId : Bytes
  certificateFile : Bytes
  keyFile : Bytes
  deriving DecidableEq

def routeA : ManifestRoute where
  routeId := ascii "754519ff-b0b9-5ed5-94c0-e453d260c6c4"
  logicalRoute := ascii "A"
  clientId := ascii "third-party-fapi-mtls"
  certificateFile := ascii "/etc/kong/fapi/route-a.crt"
  keyFile := ascii "/etc/kong/fapi/route-a.key"

def routeB : ManifestRoute where
  routeId := ascii "0f45debe-a3a6-5207-aea3-637227fb96f2"
  logicalRoute := ascii "B"
  clientId := ascii "third-party-fapi-pkj-mtls"
  certificateFile := ascii "/etc/kong/fapi/route-b.crt"
  keyFile := ascii "/etc/kong/fapi/route-b.key"

/-- `MANIFEST[route_id]`. -/
def manifest (routeId : Bytes) : Option ManifestRoute :=
  if routeId = routeA.routeId then some routeA
  else if routeId = routeB.routeId then some routeB
  else none

/-- Runtime-only fields Kong decorates configure records with. -/
def kongConfigMetadata : List Bytes :=
  ["ordering", "route_id", "service_id", "consumer_id", "consumer_group_id",
    "plugin_instance_name", "__plugin_id", "__ws_id", "__plugin_name", "__key__", "__seq__",
    "__compiled_condition", "__compiled_expressions"].map ascii

theorem manifest_eq_some {id : Bytes} {route : ManifestRoute} (h : manifest id = some route) :
    (route = routeA ∨ route = routeB) ∧ route.routeId = id := by
  unfold manifest at h
  split at h
  · rename_i hid
    cases h
    exact ⟨Or.inl rfl, hid.symm⟩
  · split at h
    · rename_i hid
      cases h
      exact ⟨Or.inr rfl, hid.symm⟩
    · cases h

end KonnectFapi.Source.Transport

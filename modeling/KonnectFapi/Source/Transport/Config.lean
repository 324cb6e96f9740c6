import KonnectFapi.Source.Transport.State

/-!
# Configuration: validation, hash, signature and identities

Source: kong/plugins/fapi-as-mtls-transport/handler.lua:126-183 (`client_identity`),
236-351 (`unwrap_plugin_config`, `validate_config`, `canonical_config_hash`) and
746-779 (`config_signature`).
-/

namespace KonnectFapi.Source.Transport
open Lib Lib.Lua

/-- `eku_text:gsub("^%s+", ""):gsub("%s+$", "")` -/
def trim (text : Bytes) : Bytes :=
  ((text.dropWhile isSpace).reverse.dropWhile isSpace).reverse

def clientIdentity (host : Host) (env : Env) (certPath keyPath : Bytes) : Option Identity := do
  let certPem ← readLimited (env.files certPath) 262144
  let keyPem ← readLimited (env.files keyPath) 65536
  let cert ← host.x509New certPem
  let privateKey ← host.pkeyNew keyPem
  if !host.checkPrivateKey cert privateKey then none
  let (notBefore, notAfter) ← host.getLifetime cert
  if (env.now : Rat) < notBefore || notAfter ≤ env.now then none
  let eku ← host.extendedKeyUsage cert
  if trim eku ≠ ascii "TLS Web Client Authentication" then none
  let fingerprint ← host.certDigest cert
  if fingerprint.length ≠ 32 then none
  let certCdata ← host.parsePemCert certPem
  let keyCdata ← host.parsePemPrivKey keyPem
  return { certificateCdata := certCdata, keyCdata := keyCdata, certificate := cert,
           privateKey := privateKey, fingerprint := hex fingerprint }

def unwrapPluginConfig (configs : Value) : Option Value :=
  if !configs.isTable || configs.border ≠ 1 then none
  else
    let entry := configs.fields.get (.num 1)
    if !entry.isTable then none
    else if (entry.field "config").isTable then some (entry.field "config") else some entry

/-- The `expected` table of `validate_config`. -/
def expectedFields : List (Bytes × Bytes) :=
  [(ascii "issuer", issuer), (ascii "internal_origin", internalOrigin),
    (ascii "discovery_url", discoveryInternal), (ascii "jwks_url", jwks), (ascii "par_url", par),
    (ascii "token_url", token), (ascii "revocation_url", revocation),
    (ascii "metadata_certificate_file", metadataCertificateFile),
    (ascii "metadata_key_file", metadataKeyFile)]

/-- Fields a configuration may carry. -/
def isConfigField (key : Key) : Bool :=
  match key with
  | .str name => (expectedFields.lookup name).isSome || name == ascii "routes" ||
      name == ascii "evidence_correlation_enabled" || kongConfigMetadata.contains name
  | _ => false

/-- The fields of a manifest record other than its id, in the source's words. -/
def ManifestRoute.fields (route : ManifestRoute) : List (Bytes × Bytes) :=
  [(ascii "logical_route", route.logicalRoute), (ascii "client_id", route.clientId),
    (ascii "certificate_file", route.certificateFile), (ascii "key_file", route.keyFile)]

def isRouteField (expected : ManifestRoute) (key : Key) : Bool :=
  match key with
  | .str name => name == ascii "route_id" || (expected.fields.lookup name).isSome
  | _ => false

/-- One pass of the routes loop: the manifest record the element spells out. -/
def validateRoute (route : Value) : Option ManifestRoute :=
  if !route.isTable then none
  else
    match route.field "route_id" with
    | .str id =>
      match manifest id with
      | none => none
      | some expected =>
        if expected.fields.all (fun (name, value) => (route.fields.get (.str name)).isStr value) &&
            route.fields.all (fun e => isRouteField expected e.1) then some expected else none
    | _ => none

def validateRoutes : List Value → List ManifestRoute → Option (List ManifestRoute)
  | [], routes => some routes
  | route :: rest, routes =>
    match validateRoute route with
    | none => none
    | some expected =>
      if expected ∈ routes then none else validateRoutes rest (routes ++ [expected])

/-- `v == nil or type(v) == "boolean"` -/
def isOptionalBool : Value → Bool
  | .nil => true
  | .bool _ => true
  | _ => false

def validateConfig (process : Process) (config : Value) : Option (List ManifestRoute) :=
  if !config.isTable then none
  else if !expectedFields.all (fun (name, value) => (config.fields.get (.str name)).isStr value) then
    none
  else if !isOptionalBool (config.field "evidence_correlation_enabled") then none
  else if !config.fields.all (fun e => isConfigField e.1) then none
  else if !(config.field "routes").isTable || (config.field "routes").border ≠ 2 then none
  else
    match validateRoutes (config.field "routes").fields.items [] with
    | none => none
    | some routes =>
      if routeA ∉ routes ∨ routeB ∉ routes then none
      else if process.bootstrapIssuer ≠ some issuer ∨ process.bootstrapOrigin ≠ some internalOrigin then
        none
      else some routes

/-- `tostring(config.evidence_correlation_enabled == true)` -/
def evidenceText (config : Value) : Bytes :=
  ascii (if (config.field "evidence_correlation_enabled").isTrue then "true" else "false")

/-- `ordered_ids`. -/
def orderedIds : List Bytes := [routeB.routeId, routeA.routeId]

/-- A config field the hash takes over verbatim. -/
def configText (config : Value) (name : String) : Bytes := (config.field name).str?.getD []

def canonicalConfigHash (host : Host) (config : Value) (routes : List ManifestRoute)
    (identities : List (Bytes × Identity)) (metadata : Identity) : Option Bytes :=
  let ordered := orderedIds.filterMap fun id => routes.find? fun route => route.routeId = id
  let values := [issuer, internalOrigin, discoveryInternal, jwks, par, token, revocation,
    configText config "metadata_certificate_file", configText config "metadata_key_file",
    metadata.fingerprint, evidenceText config] ++
    ordered.flatMap fun route => [route.routeId, route.logicalRoute, route.clientId,
      route.certificateFile, route.keyFile,
      ((identities.lookup route.routeId).map Identity.fingerprint).getD []]
  sha256 host (join [0] values)

def routeSignature (host : Host) (route : Value) : Bytes :=
  join [0] (["route_id", "logical_route", "client_id", "certificate_file", "key_file"].map
    fun name => tostringOr host (route.field name))

def configSignature (host : Host) (config : Value) : Option Bytes :=
  let routes := (config.field "routes").fields.items
  if !routes.all Value.isTable then none
  else
    let signed := (routes.map (routeSignature host)).insertionSort (· ≤ ·)
    let values := (["issuer", "internal_origin", "discovery_url", "jwks_url", "par_url", "token_url",
      "revocation_url", "metadata_certificate_file", "metadata_key_file"].map
        fun name => tostringOr host (config.field name)) ++ [evidenceText config, join [1] signed]
    sha256 host (join [0] values)

/-- `identities[route_id]` for every validated route; one failure fails all. -/
def routeIdentities (host : Host) (env : Env) :
    List ManifestRoute → Option (List (Bytes × Identity))
  | [] => some []
  | route :: rest => do
    let identity ← clientIdentity host env route.certificateFile route.keyFile
    let identities ← routeIdentities host env rest
    return (route.routeId, identity) :: identities

end KonnectFapi.Source.Transport

import KonnectFapi.Source.RuntimeDiff

/-!
# The scope of the API runtime migration

Source: scripts/wp3_runtime.py:18-92 and 518-695. An entry of the diff is kept with its
identity; the created and deleted entities are JSON objects.
-/

namespace KonnectFapi.Source.Migration
open Lib Lib.Json RuntimeDiff

structure Identity where
  kind : Text
  name : Text
  id : Option Text
  deriving DecidableEq

/-- An entry of the diff: its identity, and what the normalized entry keeps. -/
structure Change where
  identity : Identity
  name : Text
  old : Json
  new : Json

/-- `normalized_entry`. -/
def Change.json (change : Change) : Json :=
  .obj [(text "kind", .str change.identity.kind), (text "name", .str change.name),
    (text "body", .obj [(text "old", change.old), (text "new", change.new)])]

/-! ## The fixed identities -/

def introspectionCertId : Text := text "44444444-4444-4444-8444-444444444444"
def upstreamCertId : Text := text "55555555-5555-4555-8555-555555555555"
def sharedApiCaId : Text := text "33333333-3333-4333-8333-333333333333"

def runtimeServiceName : Text := text "fapi-api-resource-server"
def runtimeRouteName : Text := text "fapi-api-resource-server-route"
def runtimeServiceId : Text := text "a5fe77b4-93fd-4f84-bb31-71c245dedd09"
def runtimeRouteId : Text := text "14d51ff4-613c-4769-96ce-330cd8075855"

/-- `RUNTIME_ENTITY_IDS`, with `EXPECTED_RUNTIME_CREATE_KINDS`: name, id and kind. -/
def runtimeEntities : List (Text × Text × Text) :=
  [(runtimeServiceName, runtimeServiceId, text "service"),
    (runtimeRouteName, runtimeRouteId, text "route"),
    (text "pre-function", text "4374b81d-77c4-4da1-9dfe-fbb0949a13ba", text "plugin"),
    (text "openid-connect", text "ed488e53-d29d-4db7-ba89-78b3bbf35df3", text "plugin"),
    (text "tls-handshake-modifier", text "6c3a195b-2fa7-4ed8-8ae4-72db3d2c537c", text "plugin"),
    (text "tls-metadata-headers", text "a6b8e2df-3612-47db-b863-b6dee55f2dc4", text "plugin")]

def routeA : Text := text "route-a"
def routeB : Text := text "route-b"

/-- `LEGACY_API_SERVICE_ROUTE_TAGS`. -/
def legacyServices : List (Text × Text) :=
  [(text "fapi-mtls-service", routeA), (text "fapi-pkj-mtls-service", routeB)]

/-- `LEGACY_API_ROUTE_SERVICE_TAGS`. -/
def legacyRoutes : List (Text × Text) :=
  [(text "fapi-mtls-route", routeA), (text "fapi-pkj-mtls-route", routeB)]

/-- `LEGACY_API_PLUGIN_ROUTE_TAGS`. -/
def legacyPlugins : List (Text × Text) :=
  [(text "cors", routeA), (text "request-transformer", routeA), (text "openid-connect", routeA),
    (text "cors", routeB), (text "request-transformer", routeB), (text "openid-connect", routeB),
    (text "fapi-client-auth-bridge", routeB)]

/-- `EXPECTED_RUNTIME_MIGRATION_SUMMARY`. -/
def expectedCount : Operation → Nat
  | .creating => 6
  | .updating => 0
  | .deleting => 13

def protectedIds : List Text :=
  [sharedApiCaId, introspectionCertId, upstreamCertId] ++ runtimeEntities.map (·.2.1)

/-! ## Reading entities -/

/-- `canonical_entity_kind`. -/
def canonicalEntityKind (kind : Text) : Option Text :=
  [(text "service", text "service"), (text "services", text "service"),
    (text "route", text "route"), (text "routes", text "route"),
    (text "plugin", text "plugin"), (text "plugins", text "plugin"),
    (text "certificate", text "certificate"), (text "certificates", text "certificate")].lookup
      (lowerText kind)

def strings : List Json → Option (List Text)
  | [] => some []
  | .str s :: rest => (strings rest).map (s :: ·)
  | _ :: _ => none

/-- `_legacy_route_tag`. -/
def legacyRouteTag (entity : Json) : Option Text :=
  match entity.get? (text "tags") with
  | some (.arr tags) =>
    match strings tags with
    | some [first, second] =>
      if first = second then none
      else
        let other := if first = text "fapi2-demo" then some second
          else if second = text "fapi2-demo" then some first else none
        other.filter fun tag => tag = routeA || tag = routeB
    | _ => none
  | _ => none

/-- A text that is not empty. -/
def filledText : Option Json → Option Text
  | some (.str (c :: rest)) => some (c :: rest)
  | _ => none

/-- `_relation_id`. -/
def relationId (entity : Json) (field : String) (expectedName : Text) : Option Text :=
  match entity.get? (text field) with
  | some (.obj relation) =>
    if namesAre relation ["id", "name"] && (member relation "name").bind str? == some expectedName then
      filledText (member relation "id")
    else none
  | _ => none

/-- `_certificate_relation_id`. -/
def certificateRelationId (entity : Json) (field : String) : Option Text :=
  match entity.get? (text field) with
  | some (.obj relation) =>
    if namesAre relation ["id"] then filledText (member relation "id") else none
  | _ => none

/-- `value == [s, ...]`. -/
def isTexts (value : Option Json) (expected : List Text) : Bool :=
  match value with
  | some (.arr items) => strings items == some expected
  | _ => false

def isText (value : Option Json) (expected : Text) : Bool := value.bind str? == some expected

/-! ## `validate_runtime_diff_scope` -/

/-- The loop over the created entities. -/
def checkCreate (change : Change) : Except Refused Unit := do
  let name := change.identity.name
  let kind := canonicalEntityKind change.identity.kind
  if kind = some (text "plugin") then
    require (change.name == name ++ text " for route " ++ runtimeRouteName &&
        (change.new.get? (text "service")).isNone &&
        relationId change.new "route" runtimeRouteName == some runtimeRouteId)
      "API runtime plugin create descriptor or Route binding changed"
  else
    require (change.name == name)
      "API runtime create report name does not match its canonical entity name"
  require (kind != some (text "route") ||
      relationId change.new "service" runtimeServiceName == some runtimeServiceId)
    "API runtime Route create is not bound to the fixed Resource Server Service"
  require (kind == (runtimeEntities.lookup name).map (·.2) &&
      isText (change.new.get? (text "name")) name &&
      isTexts (change.new.get? (text "tags")) [text "fapi2-demo", text "api"])
    "API runtime diff create kind, canonical name, or ownership tags changed"

/-- What the loop over the deletes collects. -/
structure Scan where
  services : List (Text × Text)
  named : List (Text × Text × Text)
  certificates : List (Change × Text)

/-- The legacy service of a tag. -/
def serviceOfTag (tag : Text) : Text :=
  match legacyServices.find? fun entry => entry.2 == tag with
  | some entry => entry.1
  | none => []

def scanNamed (scan : Scan) (change : Change) (kind tag : Text) : Except Refused Scan := do
  let name := change.identity.name
  require (isText (change.new.get? (text "name")) name)
    "API runtime delete name does not match its decK identity"
  let scan := { scan with named := scan.named ++ [(kind, name, tag)] }
  if kind = text "service" then
    require (legacyServices.lookup name == some tag && (scan.services.lookup tag).isNone)
      "API runtime Service delete is outside the legacy Route boundary"
    require (change.name == name)
      "API runtime delete report name does not match its canonical entity name"
    return { scan with services := scan.services ++ [(tag, change.identity.id.getD [])] }
  else if kind = text "route" then
    require (legacyRoutes.lookup name == some tag)
      "API runtime Route delete is outside the legacy Route boundary"
    require (change.name == name)
      "API runtime delete report name does not match its canonical entity name"
    return scan
  else
    require (legacyPlugins.contains (name, tag))
      "API runtime plugin delete is outside the legacy Route boundary"
    require (change.name == name ++ text " for service " ++ serviceOfTag tag)
      "legacy plugin display name changed from its Service association"
    return scan

/-- One pass of the loop over the deletes. -/
def scanDelete (scan : Scan) (change : Change) : Except Refused Scan :=
  let unknown := "API runtime migration attempted an unknown or protected delete"
  match canonicalEntityKind change.identity.kind, change.identity.id with
  | some kind, some id => do
    require (!protectedIds.contains id && isText (change.new.get? (text "id")) id) unknown
    let some tag := legacyRouteTag change.new
      | fail "API runtime migration delete has tags outside the legacy Route boundary"
    if kind = text "certificate" then
      return { scan with certificates := scan.certificates ++ [(change, tag)] }
    else scanNamed scan change kind tag
  | _, _ => fail unknown

def scanDeletes : Scan → List Change → Except Refused Scan
  | scan, [] => .ok scan
  | scan, change :: rest => do
    let scan ← scanDelete scan change
    scanDeletes scan rest

/-- `expected_named`. -/
def expectedNamed : List (Text × Text × Text) :=
  legacyServices.map (fun e => (text "service", e)) ++ legacyRoutes.map (fun e => (text "route", e)) ++
    legacyPlugins.map fun e => (text "plugin", e)

def checkCertificate (row : Change × Text) : Except Refused Unit :=
  require (row.1.identity.id.all (fun id => !protectedIds.contains id &&
      isText (row.1.new.get? (text "id")) id))
    "API runtime migration attempted to delete a protected certificate"

/-- `certificates_by_route`: the last certificate of a tag. -/
def certificateOf (scan : Scan) (tag : Text) : Option Text :=
  (scan.certificates.reverse.find? fun row => row.2 == tag).bind (·.1.identity.id)

/-- The second loop over the deletes: what each of them refers to. -/
def checkRelations (scan : Scan) (change : Change) : Except Refused Unit :=
  let kind := canonicalEntityKind change.identity.kind
  let tag := (legacyRouteTag change.new).getD []
  if kind = some (text "service") then
    require (certificateRelationId change.new "client_certificate" == certificateOf scan tag &&
        isTexts (change.new.get? (text "ca_certificates")) [sharedApiCaId])
      "legacy Service certificate relations changed from the Route-owned certificates"
  else if kind = some (text "route") ∨ kind = some (text "plugin") then
    require (relationId change.new "service" (serviceOfTag tag) == scan.services.lookup tag)
      "legacy Route or plugin is not scoped to its matching legacy Service"
  else .ok ()

def ids (changes : List Change) : List (Option Text) := changes.map (·.identity.id)

def validateRuntimeDiffScope (changes : Operation → List Change) : Except Refused Unit := do
  if Operation.all.all fun op => (changes op).isEmpty then return
  require (Operation.all.all fun op => (changes op).length == expectedCount op)
    "API runtime migration must match the reviewed 6/0/13 operation boundary"
  let creates := (changes .creating).map fun change => (change.identity.name, change.identity.id)
  require (creates.all (fun pair => runtimeEntities.any fun e => pair == (e.1, some e.2.1)) &&
      runtimeEntities.all fun e => creates.contains (e.1, some e.2.1))
    "API runtime diff creates do not match its six fixed entity identities"
  (changes .creating).forM checkCreate
  require (decide (ids (changes .creating) ++ ids (changes .deleting)).Nodup)
    "API runtime diff report contains duplicate entity IDs"
  let scan ← scanDeletes ⟨[], [], []⟩ (changes .deleting)
  require (scan.named.isPerm expectedNamed &&
      [routeA, routeB].all (fun tag => (scan.services.lookup tag).isSome))
    "API runtime deletes do not match the 11 known legacy Services, Routes, and plugins"
  require ((scan.certificates.map (·.2)).isPerm [routeA, routeB])
    "API runtime migration must delete the two Route-scoped certificates only"
  scan.certificates.forM checkCertificate
  (changes .deleting).forM (checkRelations scan)

end KonnectFapi.Source.Migration

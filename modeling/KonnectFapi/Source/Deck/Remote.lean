import KonnectFapi.Source.Deck.RoleInputs

/-!
# What is checked of the control plane

Source: scripts/wp1_target.py:539-555, 618-643 and 704-746; scripts/wp1.py:112-121 and 184-195.
Every check reads from the control plane that the local target names.
-/

namespace KonnectFapi.Source.Deck
open Lib Lib.Json
open Dialogue (check attempt)
open GatewayState (Gateway)
open SchemaPages (Response Sources requestSchemaPages collectSchemaPages entryOf joinNames)

def targetText (target : Dict) (name : String) : Text :=
  ((target.lookup (text name)).bind str?).getD []

def controlPlaneUrl (base : Text) (target : Dict) : Text :=
  base ++ text "/v2/control-planes/" ++ targetText target "control_plane_id"

/-- `response.get("data", response)`; only a mapping has it. -/
def remoteData (response : Json) : Except Refused Json :=
  match response with
  | .obj found => .ok ((found.lookup (text "data")).getD response)
  | _ => .error .raised

def isMapping : Json → Bool
  | .obj _ => true
  | _ => false

/-- `value.get(name)` where the value is a mapping. -/
def field (value : Json) (name : String) : Json := (value.get? (text name)).getD .null

section
variable (x : Libraries)

/-- The control plane is the local target. -/
def matchesTarget (target : Dict) (remote : Json) : Bool :=
  let same (value : Json) (name member : String) : Bool :=
    equal x.floatEquality (field value name) ((target.lookup (text member)).getD .null)
  isMapping remote && same remote "id" "control_plane_id" && same remote "name" "control_plane_name" &&
    isMapping (field remote "config") &&
    same (field remote "config") "control_plane_endpoint" "control_plane_endpoint" &&
    same (field remote "config") "telemetry_endpoint" "telemetry_endpoint"

def checkRemoteTarget (target : Dict) : Response → Except Refused Unit
  | .raised => .error .raised
  | .answered status response => do
    let remote ← remoteData response
    require (status == 200 && matchesTarget x target remote)
      "read-only control plane metadata does not match local target ID, name, or endpoints"

def verifyRemoteTarget (base : Text) (target : Dict) (token : Text) : Asking Unit := do
  check (checkRemoteTarget x target (← ask (.request (controlPlaneUrl base target) token)))

/-! ## `verify_shared_api_ca` -/

def sharedApiCaId : String := "33333333-3333-4333-8333-333333333333"

def isSharedCa (remote : Json) : Bool :=
  isMapping remote && equal x.floatEquality (field remote "id") (.str (text sharedApiCaId)) &&
    match field remote "tags" with
    | .arr [.str tag] => tag == text "fapi2-demo"
    | _ => false

def verifySharedApiCa (base : Text) (target : Dict) (token : Text) (roleCertificate : Json) :
    Asking Unit := do
  let unverified := "required shared API CA could not be verified"
  let url := controlPlaneUrl base target ++ text "/core-entities/ca_certificates/" ++ text sharedApiCaId
  let .answered status response := (← ask (.request url token) : Response) | check (.error .raised)
  demand (status == 200 && isMapping response) unverified
  let remote ← check (remoteData response)
  demand (isSharedCa x remote) "required shared API CA metadata does not match"
  let malformed := "required shared API CA certificate is malformed"
  let .ok remoteDer ← attempt (certificateDer (field remote "cert")) | refuse malformed
  let .ok expectedDer ← attempt (certificateDer roleCertificate) | refuse malformed
  demand (remoteDer == expectedDer) "required shared API CA certificate does not match runtime input"

/-! ## `check_schemas` -/

/-- `PLUGIN_FILES` -/
def pluginFiles : List (String × String) :=
  [("fapi-as-mtls-transport", "kong/plugins/fapi-as-mtls-transport/schema.lua"),
    ("fapi-client-auth-bridge", "kong/plugins/fapi-client-auth-bridge/schema.lua")]

/-- `path.read_text()` -/
def readText (path : String) : Asking Text := do
  let .content t := (← ask (.readText path) : TextRead) | check (.error .raised)
  return t

/-- The desired sources, by plugin name. -/
def readPlugins : List (String × String) → Asking Sources
  | [] => return []
  | plugin :: rest => do
    let source ← readText plugin.2
    return (text plugin.1, source) :: (← readPlugins rest)

/-- `normalize_schema` -/
def normalizeSchema (source : Text) : Except Refused Text := do
  require (!source.isEmpty) "schema Lua must be a non-empty string"
  let source := RuntimeDiff.replaceFrom (text "\r\n") (text "\n") 0 source
  return match source.getLast? with
    | some c => if c.val = 10 then source.dropLast else source
    | none => source

def schemaHash (source : Text) : Except Refused Text := do
  let normalized ← normalizeSchema source
  let some bytes := encodeUtf8 normalized | .error .raised
  return x.sha256 bytes

/-- The loop of `compare_schema_hashes`: what every plugin's schema hashes to. -/
def compareHashes (expected observed : Sources) : List Text → Except Refused (List (Text × Text))
  | [] => .ok []
  | name :: rest => do
    let want ← schemaHash x ((expected.lookup name).getD [])
    let got ← schemaHash x ((observed.lookup name).getD [])
    if want = got then return (name, want) :: (← compareHashes expected observed rest)
    else .error (.valueError (text "schema drift for " ++ name ++ text ": expected " ++ want ++
      text ", observed " ++ got))

def sameNames (expected observed : Sources) : Bool :=
  expected.all (fun m => (observed.lookup m.1).isSome) && observed.all fun m => (expected.lookup m.1).isSome

def compareSchemaHashes (expected observed : Sources) : Except Refused (List (Text × Text)) := do
  require (sameNames expected observed) "schema inventory is incomplete or contains unexpected entries"
  compareHashes x expected observed (sortOn id (expected.map Prod.fst))

def schemasUrl (base : Text) (target : Dict) : Text :=
  controlPlaneUrl base target ++ text "/core-entities/plugin-schemas"

/-- `print` once for every line. -/
def writeLines : List Text → Asking Unit
  | [] => return ()
  | line :: rest => do
    let _ : Unit ← ask (.write line)
    writeLines rest

def checkSchemas (gateway : Gateway) (base : Text) (target : Dict) (token : Text) : Asking Unit := do
  match gateway with
  | .api =>
    writeLines [text "api foundation has no custom plugin entities; schema inventory check skipped"]
  | .thirdParty => do
    let expected ← readPlugins pluginFiles
    let server : Nat → Response ← ask (.schemaPages (schemasUrl base target) token)
    let pages ← check (requestSchemaPages server).2
    let observed ← check (collectSchemaPages pages (expected.map Prod.fst))
    let hashes ← check (compareSchemaHashes x expected observed)
    writeLines (hashes.map fun m => m.1 ++ text ": CP " ++ targetText target "control_plane_id" ++
      text " schema hash matches " ++ m.2)

end

end KonnectFapi.Source.Deck

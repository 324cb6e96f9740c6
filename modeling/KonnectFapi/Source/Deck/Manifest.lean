import KonnectFapi.Source.Deck.Questions

/-!
# The local manifest

Source: scripts/wp1_target.py:57-143 and scripts/wp1.py:32-38. What both scripts check before
they read a token: the gateway's own states and the targets they are bound to.
-/

namespace KonnectFapi.Source.Deck
open Lib Lib.Json
open Dialogue (check)
open GatewayState (Gateway File Readings validateFoundationState validateThirdPartyRuntimeState)
open Targets (strip endpointHost validateTargets)

inductive Operation where
  | validate
  | preflight
  | diff
  | sync
  | schemaCheck
  | schemaSync
  deriving DecidableEq

/-! ## `read_config` and `read_env` -/

/-- The breaks of `str.splitlines()`; an empty line between two of them is passed over. -/
def isLineBreak (c : CodePoint) : Bool :=
  (10 ≤ c.val && c.val ≤ 13) || (28 ≤ c.val && c.val ≤ 30) || c.val == 133 || c.val == 8232 ||
    c.val == 8233

/-- `value.strip().strip("\"'")` -/
def unquoted (value : Text) : Text :=
  let isQuote (c : CodePoint) : Bool := c.val == 34 || c.val == 39
  ((strip value).dropWhile isQuote).rdropWhile isQuote

/-- The loop over the lines, for the keys that are kept. -/
def parseLine (keeps : Text → Bool) (values : List (Text × Text)) (line : Text) : List (Text × Text) :=
  let line := strip line
  if (text "#").isPrefixOf line then values
  else
    match partition 61 line with
    | none => values
    | some (key, value) => if keeps key then put values key (unquoted value) else values

def parseLines (keeps : Text → Bool) (t : Text) : List (Text × Text) :=
  (t.splitOnP isLineBreak).foldl (parseLine keeps) []

def isNameStart (c : CodePoint) : Bool :=
  (65 ≤ c.val && c.val ≤ 90) || (97 ≤ c.val && c.val ≤ 122) || c.val == 95

/-- `re.fullmatch(r"[A-Za-z_][A-Za-z0-9_]*", key)` -/
def isVariable : Text → Bool
  | [] => false
  | c :: rest => isNameStart c && rest.all fun d => isNameStart d || (48 ≤ d.val && d.val ≤ 57)

def configKeys : List Text :=
  [text "TF_VAR_control_plane_name", text "TF_VAR_third_party_control_plane_name",
    text "KONNECT_SERVER_URL"]

def readLines (keeps : Text → Bool) (path : String) : Asking (List (Text × Text)) := do
  match (← ask (.readText path) : TextRead) with
  | .missing => return []
  | .failed => check (.error .raised)
  | .content t => return parseLines keeps t

def readConfig (path : String) : Asking (List (Text × Text)) := readLines (configKeys.contains ·) path

def readEnv (path : String) : Asking (List (Text × Text)) := readLines isVariable path

def get (values : List (Text × Text)) (key : String) (default : Text) : Text :=
  (values.lookup (text key)).getD default

def expectedNames (env : List (Text × Text)) : List (Text × Text) :=
  [(text "api", get env "TF_VAR_control_plane_name" (text "keycloak-fapi2-demo")),
    (text "third-party",
      get env "TF_VAR_third_party_control_plane_name" (text "keycloak-fapi2-third-party-demo"))]

/-! ## `local_manifest` -/

def gatewayName : Gateway → Text
  | .api => text "api"
  | .thirdParty => text "third-party"

/-- `FOUNDATION_FILES` -/
def foundationFile : Gateway → String
  | .api => "kong/foundation/api.yaml"
  | .thirdParty => "kong/foundation/third-party.yaml"

/-- `RUNTIME_FILES` -/
def runtimeFile : Gateway → String
  | .api => "kong/api-gateway.yaml"
  | .thirdParty => "kong/third-party-gateway.yaml"

def isStage (stage : Option Text) (name : String) : Bool := stage == some (text name)

/-- The gateway is one of the two. -/
def validateSelector (stage : Option Text) (operation : Operation) : Except Refused Unit :=
  match operation with
  | .diff | .sync =>
    require (isStage stage "foundation" || isStage stage "runtime") "STAGE must be foundation or runtime"
  | .schemaCheck | .schemaSync => require stage.isNone "schema operations do not accept STAGE"
  | .validate | .preflight => .ok ()

/-- `validate_third_party_runtime_state`, its files read one after another. -/
def askThirdPartyState : Asking Unit := do
  let compose : File ← ask (.yaml "docker-compose.yml")
  let foundation : File ← ask (.yaml "kong/foundation/third-party.yaml")
  let state : File ← ask (.yaml "kong/third-party-gateway.yaml")
  let foundationAgain : File ← ask (.yaml "kong/foundation/third-party.yaml")
  let _ ← check (validateThirdPartyRuntimeState ⟨compose, state, foundation, foundationAgain⟩)

/-- The runtime state of a gateway. -/
def askRuntimeState : Gateway → Asking Unit
  | .api => do check (← ask .apiRuntimeState)
  | .thirdParty => askThirdPartyState

/-- What is checked of the gateway's own files. -/
def askStates (gateway : Gateway) (stage : Option Text) (operation : Operation) : Asking Unit := do
  let foundation : File ← ask (.yaml (foundationFile gateway))
  check (validateFoundationState gateway foundation)
  match operation with
  | .validate =>
    match gateway with
    | .api =>
      if (← ask (.fileExists (runtimeFile .api)) : Bool) then askRuntimeState .api
    | .thirdParty => if isStage stage "runtime" then askRuntimeState .thirdParty
  | .diff | .sync =>
    if isStage stage "runtime" then askRuntimeState gateway
    let state := if isStage stage "foundation" then foundationFile gateway else runtimeFile gateway
    let found : Bool ← ask (.isFile state)
    check (if found then .ok ()
      else .error (.valueError (stage.getD [] ++ text " state is missing: " ++ text state)))
  | _ => return ()

/-- What `local_manifest` returns: the manifest and the target of the gateway. -/
structure ManifestInfo where
  manifest : Dict
  target : Dict

/-- `url.rstrip("/")` -/
def withoutSlashes (url : Text) : Text := url.rdropWhile (·.val == 47)

/-- The checks of the rendered manifest. -/
def checkManifest (py : Python) (gateway : Gateway) (document : Json) (config : List (Text × Text)) :
    Except Refused ManifestInfo := do
  -- a list of the two names would pass the comparison and fail one line later
  let .obj manifest := document | .error .raised
  require (namesAre manifest ["konnect_server_url", "targets"])
    "gateway target manifest fields are malformed"
  let some (.obj targets) := manifest.lookup (text "targets") | .error .raised
  let normalized ← validateTargets py targets (expectedNames config)
  let regionHost ← endpointHost py ((manifest.lookup (text "konnect_server_url")).getD .null)
  let envRegion := withoutSlashes (get config "KONNECT_SERVER_URL" (text "https://us.api.konghq.com"))
  let envHost ← endpointHost py (.str envRegion)
  require (regionHost == envHost) "Konnect region URL does not match the rendered target manifest"
  let some (.obj target) := normalized.lookup (gatewayName gateway) | .error .raised
  return ⟨manifest, target⟩

def manifestPath : String := ".generated/gateway_targets.json"

def askManifest (x : Libraries) (gateway : Gateway) : Asking ManifestInfo := do
  let found : Bool ← ask (.isFile manifestPath)
  demand found "generated gateway target manifest is missing; render it after provisioning"
  let .content t := (← ask (.readText manifestPath) : TextRead) | check (.error .raised)
  let document ← check (parseJson t)
  let config ← readConfig ".env"
  check (checkManifest x.py gateway document config)

/-- Without a manifest where the operation needs none. -/
def localManifest (x : Libraries) (gateway : Gateway) (stage : Option Text) (operation : Operation) :
    Asking (Option ManifestInfo) := do
  check (validateSelector stage operation)
  askStates gateway stage operation
  match operation with
  | .validate | .preflight => return none
  | _ => return some (← askManifest x gateway)

end KonnectFapi.Source.Deck

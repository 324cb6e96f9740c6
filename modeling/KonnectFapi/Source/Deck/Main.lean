import KonnectFapi.Source.Deck.Approval
import KonnectFapi.Source.Deck.Remote
import KonnectFapi.Source.MigrationDiff

/-!
# The deck script

Source: scripts/run-deck.py:397-682. The sole path on which decK is started.
-/

namespace KonnectFapi.Source.Deck
open Lib Lib.Json
open Dialogue (check)
open GatewayState (Gateway)
open Targets (strip)

inductive Mode where
  | diff
  | sync
  deriving DecidableEq

namespace Mode

def name : Mode → String
  | diff => "diff"
  | sync => "sync"

def operation : Mode → Operation
  | diff => .diff
  | sync => .sync

end Mode

/-- The command line, and the environment the process is started in. -/
structure Start where
  mode : Mode
  gateway : Gateway
  stage : Text
  /-- `os.environ` -/
  environ : List (Text × Text)
  /-- The absolute root, with a slash. -/
  root : Text

namespace Start
variable (s : Start)

def isRuntime : Bool := s.stage == text "runtime"

/-- Runtime syncs of the two gateways. -/
def isApiSync : Bool := s.isRuntime && decide (s.mode = .sync) && decide (s.gateway = .api)
def isThirdPartySync : Bool := s.isRuntime && decide (s.mode = .sync) && decide (s.gateway = .thirdParty)

/-- `state_relative` -/
def stateRelative : String :=
  if s.stage = text "foundation" then foundationFile s.gateway else runtimeFile s.gateway

def state : Text := s.root ++ text s.stateRelative

def approves (name : String) : Bool := s.environ.lookup (text name) == some (text "YES")

end Start

/-! ## `run_deck_subprocess` -/

/-- What `subprocess.run` returns. -/
structure Finished where
  returncode : Int
  stdout : Text
  stderr : Text

/-- `f"{label} ..."` -/
def labelled (gateway : Gateway) (message : String) : Refused :=
  .valueError (text (match gateway with
    | .api => "API runtime migration"
    | .thirdParty => "third-party runtime") ++ text message)

/-- A process that does not end, or does not start. `runtimeSync` is the sync itself, `migrationDiff`
the diff before it. -/
def deckFailure (gateway : Gateway) (mode : String) (runtimeSync migrationDiff timedOut : Bool) : Refused :=
  if runtimeSync then
    labelled gateway (if timedOut then
        " sync timed out; outcome is unknown; inspect current state before any retry"
      else
        " sync transport failed; outcome is unknown; inspect current state before any retry")
  else if timedOut then
    if migrationDiff then .valueError (text "API runtime migration diff timed out; sync was not attempted")
    else .valueError (text "decK " ++ text mode ++
      text " timed out; no raw subprocess output was retained")
  else .valueError (text "decK " ++ text mode ++
    text " could not be started; no raw subprocess output was retained")

def finishedOr (failure : Bool → Refused) : DeckResult → Except Refused Finished
  | .finished returncode stdout stderr => .ok ⟨returncode, stdout, stderr⟩
  | .undecodable => .error .raised
  | .timedOut => .error (failure true)
  | .osError => .error (failure false)

/-! ## The checks before any request -/

def requireApproval (s : Start) : Except Refused Unit := do
  require (!s.isThirdPartySync || s.approves "TP_BACKEND_RUNTIME_V2_APPROVED")
    "third-party runtime sync requires TP_BACKEND_RUNTIME_V2_APPROVED=YES after Root review"
  require (!s.isApiSync || s.approves "WP3_API_RUNTIME_MIGRATION_APPROVED")
    "API runtime sync is a separate live migration; it requires WP3_API_RUNTIME_MIGRATION_APPROVED=YES after root review"

section
variable (x : Libraries)

/-- `read_migration_approval` -/
def askMigrationApproval (target roleValues : Dict) : Asking Json := do
  let files : MigrationFiles ← ask .migrationFiles
  check (Migration.readMigrationApproval x.sha256 x.floats
    ⟨files.directories, files.receipt, targetText target "control_plane_id", files.stateLinked,
      files.state, .obj roleValues⟩)

/-- `migration_receipt` or `wp5_receipt`. -/
def askReceipt (s : Start) (target roleValues : Dict) : Asking (Option Json) := do
  if s.isApiSync then return some (← askMigrationApproval x target roleValues)
  else if s.isThirdPartySync then return some (← askBackendApproval x target roleValues)
  else return none

/-- `local_manifest`, which returns a manifest for both modes. -/
def askInfo (s : Start) : Asking ManifestInfo := do
  let some info ← localManifest x s.gateway (some s.stage) s.mode.operation | check (.error .raised)
  return info

/-- Everything that is read before the token. -/
structure Prepared where
  info : ManifestInfo
  roleValues : Dict
  receipt : Option Json

def prepare (s : Start) : Asking Prepared := do
  let info ← askInfo x s
  let found : Bool ← ask (.isFile s.stateRelative)
  check (if found then .ok () else
    .error (.valueError (text "fixed " ++ s.stage ++ text " state is unavailable")))
  check (requireApproval s)
  let roleValues ← askRoleValues s.gateway s.isRuntime
  let receipt ← askReceipt x s info.target roleValues
  return ⟨info, roleValues, receipt⟩

/-! ## The checks of the control plane -/

def baseOf (info : ManifestInfo) : Text := withoutSlashes (targetText info.manifest "konnect_server_url")

/-- The token, once the control plane is the one that is meant. -/
def connect (s : Start) (prepared : Prepared) : Asking Text := do
  let config ← readEnv ".env"
  let token := get config "KONNECT_TOKEN" []
  demand (!token.isEmpty) "KONNECT_TOKEN is required after local target validation"
  let base := baseOf prepared.info
  verifyRemoteTarget x base prepared.info.target token
  if s.gateway = .api then
    verifySharedApiCa x base prepared.info.target token
      ((prepared.roleValues.lookup (text "DECK_FAPI_CA_CERT_YAML")).getD .null)
  checkSchemas x s.gateway base prepared.info.target token
  return token

/-! ## The commands -/

/-- What every command of a run shares. -/
structure Session where
  prepared : Prepared
  token : Text
  /-- `.generated/deck.env` -/
  generated : List (Text × Text)

namespace Session
variable (session : Session)

def target : Dict := session.prepared.info.target
def base : Text := baseOf session.prepared.info

/-- `environment` -/
def environment (s : Start) : List (Text × Text) :=
  let updated := amend (amend s.environ session.generated) (roleVariables session.prepared.roleValues)
  let named := amend updated
    [(text "DECK_KONNECT_TOKEN", session.token), (text "KONNECT_SERVER_URL", session.base),
      (text "KONNECT_CONTROL_PLANE_NAME", targetText session.target "control_plane_name")]
  named.filter fun m => m.1 != text "KONNECT_TOKEN"

/-- `sensitive_values` -/
def sensitiveValues : List Text :=
  session.token :: (session.generated.map Prod.snd ++ (roleVariables session.prepared.roleValues).map Prod.snd)

/-- `[*common_command]` with the word in its place, and further arguments. -/
def command (s : Start) (word : String) (further : List String) : List Text :=
  [text "gateway", text word, s.state, text "--konnect-addr", session.base,
    text "--konnect-control-plane-name", targetText session.target "control_plane_name"] ++
    (if s.isRuntime && decide (s.gateway = .thirdParty) then [text "--parallelism", text "1"] else []) ++
    further.map text

end Session

/-- A deck process; what it ends with. -/
def runDeck (s : Start) (session : Session) (word : String) (further : List String)
    (failure : Bool → Refused) : Asking Finished := do
  let result : DeckResult ← ask (.deck (session.command s word further) (session.environment s))
  check (finishedOr failure result)

/-- `result.stderr.strip()` -/
def isQuiet (t : Text) : Bool := (strip t).isEmpty

/-! ## The review of a third-party runtime sync -/

/-- The fresh diff is the one of the receipt. -/
def checkReviewedDiff (receipt : Json) (secrets : List Text) (stdout : Text) : Except Refused Unit := do
  let (view, digest) ← RuntimeDiff.parseSanitizedRuntimeDiff x.sha256 x.floats x.walk stdout secrets
  let _ ← validateBackendScope view.summary view.operationsJson (field receipt "plan_type")
  require (equal x.floatEquality (.str digest) (field receipt "diff_sha256") &&
      equal x.floatEquality view.summary (field receipt "summary") &&
      equal x.floatEquality view.operationsJson (field receipt "operations"))
    "third-party runtime diff changed after Root review; sync was not attempted"

/-- Target, state and role inputs, read again, are still those of the receipt. -/
def askUnchanged (s : Start) (receipt : Json) : Asking Unit := do
  let info ← askInfo x s
  let roleValues ← askRoleValues s.gateway true
  let fresh ← askBackendApproval x info.target roleValues
  let changed :=
    "third-party runtime target, state, or role inputs changed after review; sync was not attempted"
  demand (equal x.floatEquality fresh receipt) changed
  let linked : Bool ← ask (.isLink s.stateRelative)
  demand (!linked) changed
  let some state := (← ask (.fileBytes s.stateRelative) : Option Bytes)
    | refuse "file to digest is missing or unsafe"
  demand (equal x.floatEquality (.str (x.sha256 state)) (field receipt "state_sha256") &&
      equal x.floatEquality (.str (x.canonicalSha256 (.obj roleValues))) (field receipt "role_inputs_sha256") &&
      equal x.floatEquality (.str (x.canonicalSha256 (.obj info.target))) (field receipt "target_sha256"))
    changed

def reviewThirdParty (s : Start) (session : Session) (receipt : Json) : Asking Unit := do
  let invalid := "third-party route validation failed; sync was not attempted"
  let validation ← runDeck s session "validate" ["--online-entities-list", "Routes", "--no-color"]
    (fun _ => .valueError (text invalid))
  demand (validation.returncode == 0 && isQuiet validation.stderr) invalid
  let diff ← runDeck s session "diff" ["--json-output", "--no-color", "--no-mask-deck-env-vars-value"]
    (deckFailure s.gateway "diff" false false)
  demand (diff.returncode == 0 && isQuiet diff.stderr)
    "third-party runtime pre-sync diff failed; sync was not attempted"
  check (checkReviewedDiff x receipt session.sensitiveValues diff.stdout)
  askUnchanged x s receipt

/-! ## The review of the API migration -/

def checkMigrationDiff (receipt : Json) (stdout : Text) : Except Refused Unit := do
  let (view, digest) ← Migration.parseDeckDiffReport x.sha256 x.floats stdout
  require (equal x.floatEquality (.str digest) (field receipt "diff_sha256") &&
      equal x.floatEquality (RuntimeDiff.summaryJson view.count) (field receipt "summary") &&
      equal x.floatEquality view.operationsJson (field receipt "operations"))
    "API runtime migration diff changed after approval; sync was not attempted"

/-- State and role inputs, read again, are still those of the receipt. -/
def askMigrationUnchanged (s : Start) (receipt : Json) : Asking Unit := do
  let roleValues ← askRoleValues s.gateway true
  let changed :=
    "API runtime state or certificate role inputs changed after approval; sync was not attempted"
  let linked : Bool ← ask (.isLink s.stateRelative)
  demand (!linked) changed
  let some state := (← ask (.fileBytes s.stateRelative) : Option Bytes)
    | refuse "file to digest is missing or unsafe"
  demand (equal x.floatEquality (.str (x.sha256 state)) (field receipt "state_sha256") &&
      equal x.floatEquality (.str (x.canonicalSha256 (.obj roleValues))) (field receipt "role_inputs_sha256"))
    changed

def reviewMigration (s : Start) (session : Session) (receipt : Json) : Asking Unit := do
  let diff ← runDeck s session "diff" ["--json-output", "--no-color"]
    (deckFailure s.gateway "diff" false true)
  demand (diff.returncode == 0) "API runtime migration diff failed; sync was not attempted"
  demand (isQuiet diff.stderr)
    "API runtime migration diff returned unexpected diagnostics; sync was not attempted"
  check (checkMigrationDiff x receipt diff.stdout)
  askMigrationUnchanged x s receipt

/-- The review the stage and the gateway call for. -/
def review (s : Start) (session : Session) : Asking Unit :=
  match session.prepared.receipt with
  | some receipt =>
    if s.isThirdPartySync then reviewThirdParty x s session receipt
    else reviewMigration x s session receipt
  | none => return ()

/-! ## `main` -/

def writeLine (line : Text) : Asking Unit := ask (.write line)

/-- `json.dumps(operations, sort_keys=True, separators=(",", ":"))` of a view. -/
def viewLine (summary operations : Json) : Text :=
  ofAscii (canonical (.obj [(text "summary", summary), (text "operations", operations)]))

def fileSha256 (path : String) : Asking Text := do
  let some bytes := (← ask (.fileBytes path) : Option Bytes) | refuse "file to digest is missing or unsafe"
  return x.sha256 bytes

/-- What is printed after a runtime diff. -/
def reportDiff (s : Start) (session : Session) (stdout : Text) : Asking Unit := do
  let roleInputs := x.canonicalSha256 (.obj session.prepared.roleValues)
  match s.gateway with
  | .api => do
    let (view, digest) ← check (Migration.parseDeckDiffReport x.sha256 x.floats stdout)
    writeLine (viewLine (RuntimeDiff.summaryJson view.count) view.operationsJson)
    writeLine (text "WP3_MIGRATION_DIFF_SHA256=" ++ digest)
    writeLine (text "WP3_API_RUNTIME_STATE_SHA256=" ++ (← fileSha256 x s.stateRelative))
    writeLine (text "WP3_API_RUNTIME_ROLE_INPUTS_SHA256=" ++ roleInputs)
  | .thirdParty => do
    let (view, digest) ← check
      (RuntimeDiff.parseSanitizedRuntimeDiff x.sha256 x.floats x.walk stdout session.sensitiveValues)
    writeLine (viewLine view.summary view.operationsJson)
    writeLine (text "TP_BACKEND_RUNTIME_V2_STATE_SHA256=" ++ (← fileSha256 x s.stateRelative))
    writeLine (text "TP_BACKEND_RUNTIME_V2_ROLE_INPUTS_SHA256=" ++ roleInputs)
    writeLine (text "TP_BACKEND_RUNTIME_V2_TARGET_SHA256=" ++ x.canonicalSha256 (.obj session.target))
    writeLine (text "TP_BACKEND_RUNTIME_V2_DIFF_SHA256=" ++ digest)

/-- What follows the requested command. -/
def conclude (s : Start) (session : Session) (result : Finished) : Asking Int := do
  let sanitize := RuntimeDiff.sanitizeOutput x.walk session.sensitiveValues
  if s.isRuntime && decide (s.mode = .diff) then
    check (if result.returncode = 0 then .ok () else
      .error (.valueError (gatewayName s.gateway ++ text " runtime diff failed")))
    check (if isQuiet (sanitize result.stderr) then .ok () else
      .error (.valueError (gatewayName s.gateway ++ text " runtime diff returned unexpected diagnostics")))
    reportDiff x s session result.stdout
  else if s.isRuntime && result.returncode != 0 then
    check (.error (labelled s.gateway
      " sync exited nonzero; outcome is unknown; inspect current state before any retry"))
  else if s.isThirdPartySync then
    writeLine (text "third-party runtime sync completed for the approved backend runtime v2 scope; decK output withheld")
  else
    writeLine (sanitize result.stdout)
    writeLine (sanitize result.stderr)
  return result.returncode

/-- The arguments of the requested command. -/
def furtherArguments (s : Start) : List String :=
  if s.isRuntime && decide (s.mode = .diff) then
    ["--json-output", "--no-color"] ++
      (if s.gateway = .thirdParty then ["--no-mask-deck-env-vars-value"] else [])
  else []

/-- The requested command and its report. -/
def runRequested (s : Start) (session : Session) : Asking Int := do
  writeLine (text "decK " ++ text s.mode.name ++ text ": gateway=" ++ gatewayName s.gateway ++
    text ", stage=" ++ s.stage ++ text ", target=" ++ targetText session.target "control_plane_name")
  let result ← runDeck s session s.mode.name (furtherArguments s)
    (deckFailure s.gateway s.mode.name (s.isRuntime && decide (s.mode = .sync)) false)
  conclude x s session result

def main (s : Start) : Asking Int := do
  let prepared ← prepare x s
  let token ← connect x s prepared
  let generated ← readEnv ".generated/deck.env"
  let session : Session := ⟨prepared, token, generated⟩
  review x s session
  runRequested x s session

end

end KonnectFapi.Source.Deck

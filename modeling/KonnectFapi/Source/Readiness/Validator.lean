import KonnectFapi.Lib.JsonEqual
import KonnectFapi.Lib.JsonCanonical
import Mathlib.Data.List.DropRight

/-!
# The readiness validator of the supervisor

Source: scripts/require-wp5-readiness.sh:149-247 (the embedded program) and 263-278. Every
way it ends without its two lines is one refusal. Decimal digits beyond ASCII, the equality
of floats and the digest are parameters.
-/

namespace KonnectFapi.Source.Readiness
open Lib Lib.Json

/-- The decimal digits of the language, with their values. -/
structure Digits where
  value : CodePoint → Option Nat

/-- `int(value)` where `value.isdecimal()`. -/
def Digits.number (digits : Digits) (t : Text) : Option Nat :=
  if t = [] then none
  else t.foldlM (fun n c => (digits.value c).map fun d => 10 * n + d) 0

/-- `re.fullmatch` with a fixed number of lower-case hexadecimal digits. -/
def isHexText (length : Nat) (t : Text) : Bool :=
  t.length == length && t.all fun c =>
    (48 ≤ c.val && c.val ≤ 57) || (97 ≤ c.val && c.val ≤ 102)

/-- `allowed`. -/
def allowedFields : List String :=
  ["worker_id", "pid", "generation", "config_hash", "registry_epoch", "wrapper_ready",
    "registry_ready", "bridge_loaded", "delegate_ready", "routes"]

def routeFields : List String := ["route_id", "logical_route", "client_id"]

def expectedRoute (routeId logicalRoute clientId : String) : Dict :=
  [(text "route_id", .str (text routeId)), (text "logical_route", .str (text logicalRoute)),
    (text "client_id", .str (text clientId))]

/-- `expected_routes`, sorted by route id. -/
def expectedRoutes : List Dict :=
  [expectedRoute "0f45debe-a3a6-5207-aea3-637227fb96f2" "B" "third-party-fapi-pkj-mtls",
    expectedRoute "754519ff-b0b9-5ed5-94c0-e453d260c6c4" "A" "third-party-fapi-mtls"]

/-- What the first loop collects. -/
structure Snapshot where
  generation : Option Text := none
  workerPids : List Nat := []
  rows : List (Text × Dict) := []

/-- A later value of a name replaces an earlier one. -/
def loadsDict (t : Text) : Option Json := Json.loads (fun found => some (.obj (dict found))) t

/-- One line of the standard input. -/
def readLine (digits : Digits) (snapshot : Snapshot) (line : Text) : Option Snapshot := do
  let (kind, remainder) ← partition 9 (line.rdropWhile (· == 10))
  if kind = text "G" then
    if snapshot.generation.isSome then none
    else return { snapshot with generation := some remainder }
  else if kind = text "P" then
    let pid ← digits.number remainder
    if pid < 1 || snapshot.workerPids.contains pid then none
    else return { snapshot with workerPids := pid :: snapshot.workerPids }
  else if kind = text "S" then
    let (filename, value) ← partition 9 remainder
    let .obj row ← loadsDict value | none
    if namesAre row allowedFields then return { snapshot with rows := snapshot.rows ++ [(filename, row)] }
    else none
  else none

/-- An element of `current`. -/
structure CurrentWorker where
  workerId : Int
  pid : Int
  registryEpoch : Text
  deriving DecidableEq

/-- What the second loop collects. -/
structure Coverage where
  seenWorkerIds : List Int := []
  hashes : List Text := []
  current : List CurrentWorker := []

def isTrue (row : Dict) (name : String) : Bool :=
  match row.lookup (text name) with
  | some (.bool b) => b
  | _ => false

def hexAt (row : Dict) (name : String) : Option Text :=
  match row.lookup (text name) with
  | some (.str t) => if isHexText 64 t then some t else none
  | _ => none

def textField (row : Dict) (name : String) : Option Text := (row.lookup (text name)).bind str?

def asDict : Json → Option Dict
  | .obj found => some found
  | _ => none

section
variable (floats : FloatEquality)

/-- The checks of `routes`. Where the ids are no texts the sorted list differs from the
expected one, or cannot be built. -/
def routesExpected (row : Dict) : Bool :=
  match row.lookup (text "routes") with
  | some (.arr items) =>
    match items.mapM asDict with
    | some routes =>
      routes.all (fun route => namesAre route routeFields) &&
        routes.all (fun route => (textField route "route_id").isSome) &&
        equal floats (.arr ((sortOn (fun route => (textField route "route_id").getD []) routes).map .obj))
          (.arr (expectedRoutes.map .obj))
    | none => false
  | _ => false

/-- The checks of a row whose process is a current worker. -/
def currentRow (generation : Text) (row : Dict) (workerId pid : Int) :
    Option (Text × CurrentWorker) := do
  guard (textField row "generation" == some generation)
  let configHash ← hexAt row "config_hash"
  let epoch ← hexAt row "registry_epoch"
  guard (["wrapper_ready", "registry_ready", "bridge_loaded", "delegate_ready"].all (isTrue row))
  guard (routesExpected floats row)
  return (configHash, ⟨workerId, pid, epoch⟩)

/-- One pass of the second loop. -/
def coverRow (generation : Text) (workerPids : List Nat) (coverage : Coverage)
    (entry : Text × Dict) : Option Coverage := do
  let .int workerId ← entry.2.lookup (text "worker_id") | none
  guard (0 ≤ workerId && !coverage.seenWorkerIds.contains workerId)
  let coverage := { coverage with seenWorkerIds := workerId :: coverage.seenWorkerIds }
  guard (entry.1 == text "worker-" ++ ofAscii (printInt workerId) ++ text ".json")
  match entry.2.lookup (text "pid") with
  | some (.int pid) =>
    -- a status of another process is passed over
    if (workerPids.map Int.ofNat).contains pid then do
      let (configHash, worker) ← currentRow floats generation entry.2 workerId pid
      return { coverage with
        hashes := configHash :: coverage.hashes
        current := coverage.current ++ [worker] }
    else return coverage
  | _ => return coverage

/-- What the validator has accepted. -/
structure Accepted where
  generation : Text
  configHash : Text
  current : List CurrentWorker
  deriving DecidableEq

def validateRows (snapshot : Snapshot) (expectedGeneration : Text) : Option Accepted := do
  let generation ← snapshot.generation
  guard (generation != [] && generation == expectedGeneration && !snapshot.workerPids.isEmpty &&
    !snapshot.rows.isEmpty)
  let coverage ← snapshot.rows.foldlM (coverRow floats generation snapshot.workerPids) {}
  let configHash :: more := coverage.hashes | none
  guard (more.all (· == configHash))
  guard (snapshot.workerPids.all fun pid => (coverage.current.map (·.pid)).contains (pid : Int))
  return ⟨generation, configHash, coverage.current⟩

def validate (digits : Digits) (lines : List Text) (expectedGeneration : Text) : Option Accepted := do
  let snapshot ← lines.foldlM (readLine digits) {}
  validateRows floats snapshot expectedGeneration

end

/-! ## What is printed -/

def CurrentWorker.json (worker : CurrentWorker) : Json :=
  .obj [(text "worker_id", .int worker.workerId), (text "pid", .int worker.pid),
    (text "registry_epoch", .str worker.registryEpoch)]

namespace Accepted

def workers (accepted : Accepted) : List CurrentWorker :=
  sortOn CurrentWorker.workerId accepted.current

def marker (accepted : Accepted) : Json :=
  .obj [(text "generation", .str accepted.generation), (text "config_hash", .str accepted.configHash),
    (text "workers", .arr (accepted.workers.map CurrentWorker.json))]

def fingerprintSource (accepted : Accepted) : Json :=
  .obj [(text "generation", .str accepted.generation), (text "config_hash", .str accepted.configHash),
    (text "routes", .arr (expectedRoutes.map .obj)),
    (text "workers", .arr (accepted.workers.map CurrentWorker.json))]

/-- The two lines. -/
def output (sha256 : Bytes → Bytes) (accepted : Accepted) : Bytes :=
  hex (sha256 (canonical accepted.fingerprintSource)) ++ [10] ++ canonical accepted.marker ++ [10]

end Accepted

/-! ## What the supervisor makes of them -/

/-- `check_ready_once`: the fingerprint and the marker of an output, which the command
substitution has stripped of its last line feeds. -/
def readValidation (output : Bytes) : Option (Bytes × Bytes) :=
  let validation := output.rdropWhile (· == 10)
  let fingerprint := validation.takeWhile (· != 10)
  let marker :=
    if validation.contains 10 then (validation.dropWhile (· != 10)).tail else validation
  if marker != [] && !marker.contains 10 then some (fingerprint, marker) else none

end KonnectFapi.Source.Readiness

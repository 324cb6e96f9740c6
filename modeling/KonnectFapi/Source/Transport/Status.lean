import KonnectFapi.Source.Transport.State

/-!
# Worker identity, status export and the ready marker

Source: kong/plugins/fapi-as-mtls-transport/handler.lua:353-607. A status write
replaces the worker's own file by rename, so readers see whole documents.
-/

namespace KonnectFapi.Source.Transport
open Lib Lib.Lua

/-- `[%w._:-]` -/
def isGenerationByte (b : Byte) : Bool :=
  isAlnum b || b == 46 || b == 95 || b == 58 || b == 45

/-- `startup_generation:match("^[%w._:-]+$")` and the length bound. -/
def generationAccepted (generation : Option Bytes) : Bool :=
  match generation with
  | some g => g ≠ [] && g.all isGenerationByte && g.length ≤ 128
  | none => false

def ensureWorkerIdentity (process : Process) (force : Bool) (s : State) : State :=
  if s.workerId.isSome && !force then s
  else
    let s := { s with
      workerId := some (process.workerId.getD 0)
      pid := some (process.workerPid.getD 0)
      startupGeneration := process.generation }
    let s :=
      match process.statusDir with
      | some dir =>
        if dir = [] then
          { s with
            statusConfigValid := some true
            statusDir := none
            startupGeneration := some (s.startupGeneration.getD (ascii "offline-test")) }
        else if dir ≠ statusDirectory || !generationAccepted s.startupGeneration then
          { s with statusConfigValid := some false }
        else { s with statusConfigValid := some true, statusDir := some dir }
      | none =>
        { s with
          statusConfigValid := some true
          statusDir := none
          startupGeneration := some (s.startupGeneration.getD (ascii "offline-test")) }
    { s with startupGeneration := some (s.startupGeneration.getD (ascii "unavailable")) }

def numberOr (n : Option Nat) : Bytes := decimal (n.getD 0)

def refreshRegistryEpoch (host : Host) (s : State) : State :=
  match s.configHash with
  | none => s
  | some configHash =>
    { s with registryEpoch := sha256 host (join [0] [numberOr s.workerId, numberOr s.pid,
        s.startupGeneration.getD [], configHash]) }

/-- Sorted by logical route, as `table.sort` leaves them. -/
def publicRoutes (s : State) : List PublicRoute :=
  match s.registry with
  | none => []
  | some registry =>
    (registry.routes.map fun (id, route) =>
      (⟨id, route.logicalRoute, route.clientId⟩ : PublicRoute)).insertionSort
        fun left right => left.logicalRoute ≤ right.logicalRoute

/-- The document `status_snapshot` builds once the worker identity is set. -/
def snapshot (s : State) : StatusSnapshot where
  workerId := s.workerId
  pid := s.pid
  generation := s.startupGeneration
  configHash := s.configHash
  registryEpoch := s.registryEpoch
  wrapperReady := s.wrapperReady
  registryReady := s.registryReady && !s.failed && !s.statusExportFailed
  bridgeLoaded := s.bridgeLoaded
  delegateReady := s.delegateReady && !s.failed && !s.statusExportFailed
  routes := publicRoutes s

def statusSnapshot (process : Process) (s : State) : State × StatusSnapshot :=
  let s := ensureWorkerIdentity process false s
  (s, snapshot s)

def removeReadyMarker (s : State) : List FileEffect :=
  if s.statusDir = some statusDirectory then [.removeMarker] else []

def writeStatus (process : Process) (env : Env) (s : State) : State × List FileEffect :=
  let s := ensureWorkerIdentity process false s
  if !s.workerInitialized then (s, [])
  else
    let removal := if s.failed || !s.registryReady then removeReadyMarker s else []
    match s.statusDir with
    | none => (s, removal)
    | some _ =>
      let s := { s with statusExportFailed := false }
      if env.firstExport then (s, removal ++ [.writeStatus (snapshot s)])
      else
        let s := { s with statusExportFailed := true }
        (s, removal ++ removeReadyMarker s ++
          if env.fallbackExport then [.writeStatus (snapshot s)] else [])

/-- Table keys are distinct, so equal counts leave no key out. -/
def hasExactKeys (value : Value) (allowed : List Bytes) : Bool :=
  value.isTable &&
    value.fields.all (fun e => match e.1 with
      | .str key => allowed.contains key
      | _ => false) &&
    value.fields.length == allowed.length

/-- A number field that is a whole number of at least `least`. -/
def wholeAtLeast (least : Rat) (v : Value) : Option Rat :=
  match v with
  | .num q => if q.den = 1 ∧ least ≤ q then some q else none
  | _ => none

/-- The loop over `marker.workers`: running count, ids and pids seen, and whether
this worker was met. -/
def coversLoop (s : State) : Table → Nat → List Rat → List Rat → Bool → Bool
  | [], count, _, _, foundSelf => decide (0 < count) && foundSelf
  | (key, worker) :: rest, count, workerIds, pids, foundSelf =>
    match key with
    | .num index =>
      if index.den ≠ 1 ∨ index < 1 ∨ (maxWorkers : Rat) < index then false
      else if maxWorkers < count + 1 ||
          !hasExactKeys worker ([ascii "worker_id", ascii "pid", ascii "registry_epoch"]) then false
      else
        match wholeAtLeast 0 (worker.field "worker_id"), wholeAtLeast 1 (worker.field "pid"),
            worker.field "registry_epoch" with
        | some workerId, some pid, .str epoch =>
          if epoch = [] || workerIds.contains workerId || pids.contains pid then false
          else
            coversLoop s rest (count + 1) (workerId :: workerIds) (pid :: pids)
              (foundSelf || (s.workerId.map (fun n => (n : Rat)) == some workerId &&
                s.pid.map (fun n => (n : Rat)) == some pid && s.registryEpoch == some epoch))
        | _, _, _ => false
    | _ => false

/-- `v == text` where the right side may be nil. -/
def equalsText (v : Value) (text : Option Bytes) : Bool :=
  match text with
  | some t => v.isStr t
  | none => v.isNil

/-- `ready_marker_covers_worker`, on the content of the marker file. -/
def readyMarkerCoversWorker (host : Host) (s : State) (marker : Option Bytes) : Bool :=
  match s.statusDir with
  | none => true
  | some dir =>
    if dir ≠ statusDirectory || s.configHash.isNone || s.registryEpoch.isNone ||
        s.statusConfigValid == some false || s.statusExportFailed then false
    else
      match (readLimited marker maxReadyMarkerBytes).bind host.cjsonDecode with
      | none => false
      | some value =>
        if !hasExactKeys value ([ascii "generation", ascii "config_hash", ascii "workers"]) ||
            !equalsText (value.field "generation") s.startupGeneration ||
            !equalsText (value.field "config_hash") s.configHash ||
            !(value.field "workers").isTable then false
        else coversLoop s (value.field "workers").fields 0 [] [] false

/-- Path of the marker, as `wrap_request_uri` and `access` open it. -/
def readyMarker : Bytes := statusDirectory ++ ascii "/ready.json"

def markBridgeLoaded (process : Process) (env : Env) (s : State) : State × List FileEffect :=
  let s := { s with bridgeLoaded := true }
  if s.workerInitialized then writeStatus process env s else (s, [])

/-- `mark_bridge_status(ready, epoch)`; a `ready` other than `true` counts as false
and an epoch that is not a string never equals the current one. -/
def markBridgeStatus (process : Process) (env : Env) (ready : Bool) (epoch : Option Bytes)
    (s : State) : State × List FileEffect :=
  let s := { s with
    bridgeLoaded := true
    delegateReady := ready && !s.failed && s.registryReady && epoch.isSome &&
      epoch == s.registryEpoch }
  if s.workerInitialized then
    let removal := if !s.delegateReady then removeReadyMarker s else []
    let (s, written) := writeStatus process env s
    (s, removal ++ written)
  else (s, [])

end KonnectFapi.Source.Transport

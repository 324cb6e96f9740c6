import KonnectFapi.Source.Transport.Config
import KonnectFapi.Source.Transport.Status

/-!
# configure, init_worker, access

Source: kong/plugins/fapi-as-mtls-transport/handler.lua:609-744, 781-843,
1456-1542. `refresh_bridge_status` is the last statement of every path that
calls it, so an operation returns whether it asks for that refresh and the
worker module runs it.
-/

namespace KonnectFapi.Source.Transport
open Lib Lib.Lua

structure Outcome where
  state : State
  effects : List FileEffect
  /-- The operation ends in `refresh_bridge_status()`. -/
  refresh : Bool

/-- The block nine exits of `configure` share. -/
def latchFailed (process : Process) (env : Env) (s : State) : Outcome :=
  let s := { s with failed := true, registryReady := false, delegateReady := false, registry := none }
  let (s, effects) := writeStatus process env s
  ⟨s, effects, true⟩

def initialConfigAbsent (configs : Value) : Bool :=
  match configs with
  | .nil => true
  | .table _ entries => entries.isEmpty
  | _ => false

/-- `identities_with_routes`. -/
def mergeIdentities (routes : List ManifestRoute) (identities : List (Bytes × Identity)) :
    List (Bytes × RouteIdentity) :=
  routes.filterMap fun route =>
    (identities.lookup route.routeId).map fun identity =>
      (route.routeId, { route with toIdentity := identity })

/-- The tail of `configure`, from the accepted hash on. -/
def acceptConfig (host : Host) (process : Process) (env : Env) (config : Value)
    (routes : List ManifestRoute) (identities : List (Bytes × Identity)) (metadata : Identity)
    (configHash signature : Bytes) (s : State) : Outcome :=
  let s := { s with
    configHash := some configHash
    configSource := some signature
    startupGeneration := some (s.startupGeneration.getD (ascii "offline-test")) }
  let s := refreshRegistryEpoch host s
  match s.registryEpoch with
  | none => latchFailed process env s
  | some _ =>
    let s := { s with
      registry := some {
        evidenceCorrelationEnabled := (config.field "evidence_correlation_enabled").isTrue
        metadataIdentity := metadata
        routes := mergeIdentities routes identities }
      registryReady := s.statusConfigValid != some false
      delegateReady := false }
    let (s, effects) := writeStatus process env s
    ⟨s, effects, true⟩

/-- What `configure` computes from its argument and the files before it touches
the state: nothing, or the accepted material with its hash and signature. -/
structure Loaded where
  config : Value
  routes : List ManifestRoute
  identities : List (Bytes × Identity)
  metadata : Identity
  configHash : Bytes
  signature : Bytes

/-- `config` and `signature`, up to the comparison with `state.config_source`. -/
def loadSignature (host : Host) (process : Process) (configs : Value) :
    Option (Value × List ManifestRoute × Bytes) := do
  let config ← unwrapPluginConfig configs
  let routes ← validateConfig process config
  let signature ← configSignature host config
  return (config, routes, signature)

/-- The identities and the hash, up to the comparison with `state.config_hash`. -/
def loadConfig (host : Host) (process : Process) (env : Env) (configs : Value) : Option Loaded := do
  let (config, routes, signature) ← loadSignature host process configs
  let metadata ← clientIdentity host env (configText config "metadata_certificate_file")
    (configText config "metadata_key_file")
  let identities ← routeIdentities host env routes
  let configHash ← canonicalConfigHash host config routes identities metadata
  return { config, routes, identities, metadata, configHash, signature }

def configure (host : Host) (process : Process) (env : Env) (configs : Value) (s : State) :
    Outcome :=
  let s := ensureWorkerIdentity process false s
  if s.failed then
    let (s, effects) := writeStatus process env { s with registryReady := false, delegateReady := false }
    ⟨s, effects, false⟩
  else if initialConfigAbsent configs && s.configSource.isNone && s.configHash.isNone then
    let s := { s with registry := none, registryReady := false, delegateReady := false }
    let removal := removeReadyMarker s
    let (s, effects) := writeStatus process env s
    ⟨s, removal ++ effects, true⟩
  else
    -- a changed signature latches before any file is read
    match loadConfig host process env configs with
    | none => latchFailed process env s
    | some loaded =>
      if s.configSource.isSome && s.configSource != some loaded.signature then
        latchFailed process env s
      else if s.configHash.isSome && s.configHash != some loaded.configHash then
        latchFailed process env s
      else
        acceptConfig host process env loaded.config loaded.routes loaded.identities loaded.metadata
          loaded.configHash loaded.signature s

/-- `install_wrapper`: the wrapped function is installed at most once. -/
def installWrapper (env : Env) (s : State) : State × Bool :=
  if !env.httpUsable then (s, false)
  else if s.httpWrapped then (s, false)
  else ({ s with httpWrapped := true, wrapperReady := true }, true)

/-- A configuration accepted before the worker started becomes ready again. -/
def restoreReady (s : State) : State :=
  { s with registryReady := if s.registry.isSome then s.statusConfigValid != some false && !s.failed
      else s.registryReady }

/-- `if not install_wrapper() then ..` -/
def installOrFail (env : Env) (s : State) : State :=
  let (s, installed) := installWrapper env s
  if installed then s else { s with failed := true, registryReady := false }

def initWorker (host : Host) (process : Process) (env : Env) (s : State) : Outcome :=
  let s := ensureWorkerIdentity process true s
  let removal := removeReadyMarker s
  let s := refreshRegistryEpoch host { s with workerInitialized := true }
  let s := installOrFail env (restoreReady s)
  let (s, effects) := writeStatus process env s
  ⟨s, removal ++ effects, true⟩

/-- `context_is_valid`. -/
def contextIsValid (s : State) (context : Option Context) : Option RouteIdentity :=
  match context, s.registry with
  | some context, some registry =>
    if !context.ready || !s.registryReady || s.failed ||
        context.registryEpoch != s.registryEpoch then none
    else
      match context.trustedRouteIdentity.bind registry.route with
      | some identity =>
        if some identity.clientId ≠ context.clientId ∨ some identity.logicalRoute ≠ context.logicalRoute
        then none else some identity
      | none => none
  | _, _ => none

def currentRegistryEpoch (s : State) : Option Bytes :=
  if s.registryReady && !s.failed then s.registryEpoch else none

def routeManifestMatches (s : State) (routeId clientId logicalRoute : Bytes)
    (epoch : Option Bytes) : Bool :=
  if !s.registryReady || s.failed || epoch != s.registryEpoch then false
  else
    match s.registry.bind fun registry => registry.route routeId with
    | some route => route.clientId == clientId && route.logicalRoute == logicalRoute
    | none => false

def routeCertificateMatches (host : Host) (env : Env) (s : State) (routeId path : Bytes) : Bool :=
  if !s.registryReady || s.failed then false
  else
    match s.registry.bind fun registry => registry.route routeId with
    | none => false
    | some route =>
      if path ≠ route.certificateFile then false
      else
        match (readLimited (env.files path) 262144).bind host.x509New |>.bind host.certDigest with
        | some fingerprint => hex fingerprint == route.fingerprint
        | none => false

def routeIdentityMatches (s : State) (context : Option Context) (clientId logicalRoute : Bytes) :
    Bool :=
  match contextIsValid s context with
  | some route => route.clientId == clientId && route.logicalRoute == logicalRoute
  | none => false

/-- `Transport:access`: the shared context it leaves and whether it answered 503. -/
structure AccessResult where
  shared : Option Context
  exit503 : Bool

/-- `sharedTable` is whether `kong.ctx.shared` is a table; without one there is no
context to leave. -/
def access (host : Host) (env : Env) (s : State) (sharedTable : Bool) (routeId : Option Bytes) :
    AccessResult :=
  let reserved := routeId.bind manifest
  let route := routeId.bind fun id => s.registry.bind fun registry => registry.route id
  if !sharedTable then ⟨none, reserved.isSome⟩
  else
    match reserved with
    | none => ⟨none, false⟩
    | some _ =>
      match route with
      | none => ⟨none, true⟩
      | some route =>
        if !s.registryReady || s.failed || !s.wrapperReady || s.statusExportFailed ||
            !readyMarkerCoversWorker host s (env.files readyMarker) then ⟨none, true⟩
        else
          ⟨some { ready := true
                  registryEpoch := s.registryEpoch
                  logicalRoute := some route.logicalRoute
                  clientId := some route.clientId
                  trustedRouteIdentity := routeId
                  certificateFingerprint := some route.fingerprint }, false⟩

end KonnectFapi.Source.Transport

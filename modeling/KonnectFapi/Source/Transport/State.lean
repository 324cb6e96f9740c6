import KonnectFapi.Source.Transport.Assertion
import KonnectFapi.Source.Transport.Form
import KonnectFapi.Source.Transport.Uri

/-!
# Worker-local state, request contexts and what an operation sees

Source: kong/plugins/fapi-as-mtls-transport/handler.lua:64-79 (`state`), 709-726
(registry), 1533-1541 (the shared context), 1087-1099 and 1384-1397
(observations). `by_logical_route` and the stored HTTP functions are never read
back by a decision and are left out.
-/

namespace KonnectFapi.Source.Transport
open Lib Lib.Lua

/-- Result of `client_identity`. -/
structure Identity where
  certificateCdata : Cdata
  keyCdata : Cdata
  certificate : X509
  privateKey : PKey
  fingerprint : Bytes
  deriving DecidableEq

/-- A manifest record merged with its identity. -/
structure RouteIdentity extends ManifestRoute, Identity
  deriving DecidableEq

structure Registry where
  evidenceCorrelationEnabled : Bool
  metadataIdentity : Identity
  /-- `routes`, keyed by route id. -/
  routes : List (Bytes × RouteIdentity)
  deriving DecidableEq

structure State where
  wrapperReady : Bool
  registryReady : Bool
  bridgeLoaded : Bool
  delegateReady : Bool
  failed : Bool
  registry : Option Registry
  configHash : Option Bytes
  configSource : Option Bytes
  registryEpoch : Option Bytes
  statusExportFailed : Bool
  workerInitialized : Bool
  workerId : Option Nat
  pid : Option Nat
  startupGeneration : Option Bytes
  statusConfigValid : Option Bool
  statusDir : Option Bytes
  /-- `http.__fapi_as_transport_wrapped`. -/
  httpWrapped : Bool
  deriving DecidableEq

/-- The module-level table as the handler file creates it. -/
def State.initial : State where
  wrapperReady := false
  registryReady := false
  bridgeLoaded := false
  delegateReady := false
  failed := false
  registry := none
  configHash := none
  configSource := none
  registryEpoch := none
  statusExportFailed := false
  workerInitialized := false
  workerId := none
  pid := none
  startupGeneration := none
  statusConfigValid := none
  statusDir := none
  httpWrapped := false

/-- What one phase of an operation sees of the file system and the clock, and how
its status export and its check of the HTTP module turn out. -/
structure Env where
  files : Bytes → Option Bytes
  now : Nat
  firstExport : Bool
  fallbackExport : Bool
  httpUsable : Bool

/-- One element of the status document. -/
structure PublicRoute where
  routeId : Bytes
  logicalRoute : Bytes
  clientId : Bytes
  deriving DecidableEq

/-- `status_snapshot()`. -/
structure StatusSnapshot where
  workerId : Option Nat
  pid : Option Nat
  generation : Option Bytes
  configHash : Option Bytes
  registryEpoch : Option Bytes
  wrapperReady : Bool
  registryReady : Bool
  bridgeLoaded : Bool
  delegateReady : Bool
  routes : List PublicRoute
  deriving DecidableEq

/-- Writes to the shared status directory, in the order they are made. -/
inductive FileEffect where
  | removeMarker
  | writeStatus (row : StatusSnapshot)
  deriving DecidableEq

inductive RejectionReason where
  | invalidMethod | unknownAsEndpoint | contextExternalUrl | registryNotReady
  | bootstrapMarkerMissingOrStale | httpBlocked | invalidMetadataRequest | staleContext
  | missingOrStaleRouteContext | transportOptionsRejected | invalidFormContentType
  | observationIdUnavailable | invalidOrDuplicatePost | signerUnavailable
  deriving DecidableEq, Repr

inductive RejectionLayer where
  | transportGuard | signer | network | transportRedirect
  deriving DecidableEq, Repr

inductive ObservationResult where
  | notSent | networkError | redirectRejected | responseReceived
  deriving DecidableEq, Repr

/-- An entry of `context.observations`; `endpointKind = none` prints `"unknown"`. -/
structure Observation where
  requestId : Option Bytes := none
  logicalRoute : Option Bytes
  endpointKind : Option EndpointKind
  method : Option Bytes
  identityKind : Option Bytes := none
  oauthAuthMethod : Option Bytes := none
  result : ObservationResult
  sent : Option Bool := none
  notSent : Bool
  rejectionLayer : Option RejectionLayer := none
  reasonCode : Option RejectionReason := none
  grantType : Option Bytes := none
  claimSummary : Option AssertionSummary := none
  tokenKind : Option Bytes := none
  httpStatus : Option Rat := none

/-- The closure `register_delegate` stores, by what it captures. -/
structure Callback where
  epoch : Bytes
  conf : Value

/-- `kong.ctx.shared.fapi_as_transport`. Absent ledger tables are empty ones, as
the handler normalises them before use. -/
structure Context where
  ready : Bool
  registryEpoch : Option Bytes
  logicalRoute : Option Bytes
  clientId : Option Bytes
  trustedRouteIdentity : Option Bytes
  certificateFingerprint : Option Bytes
  sentOperations : List Bytes := []
  operationDigests : List (Bytes × Bytes) := []
  observations : List Observation := []
  observationsTruncated : Bool := false
  observationId : Option Bytes := none
  signAssertion : Option Callback := none
  signerEpoch : Option Bytes := none

/-- `context.ready or context.logical_route`. -/
def Context.marked (context : Context) : Bool := context.ready || context.logicalRoute.isSome

/-- What send-once decisions read: the ledger and the two fields its keys are built from. -/
def Context.account (context : Context) : List Bytes × Option Bytes × Option Bytes :=
  (context.sentOperations, context.logicalRoute, context.clientId)

/-- `state.registry.routes[route_id]`. -/
def Registry.route (registry : Registry) (routeId : Bytes) : Option RouteIdentity :=
  registry.routes.lookup routeId

end KonnectFapi.Source.Transport

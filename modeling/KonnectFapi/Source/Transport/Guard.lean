import KonnectFapi.Source.Transport.Options

/-!
# The request guard

Source: kong/plugins/fapi-as-mtls-transport/handler.lua:1075-1099, 1159-1454.
A call runs without interruption up to the signer callback or the underlying
`request_uri`, the only places it yields: `beginCall` is the first stretch,
`afterSigner` and `afterNetwork` the two others. The context is a shared table,
so each stretch is handed its current content and returns the new one.
-/

namespace KonnectFapi.Source.Transport
open Lib Lib.Lua

/-! ## Operation ledger -/

/-- `table.concat({logical_route, kind, grant_type or "", digest or "single-send"}, "\0")` -/
def operationKey (logicalRoute : Bytes) (kind : EndpointKind) (grantType : Option Bytes)
    (digest : Bytes) : Bytes :=
  join [0] [logicalRoute, kind.text, grantType.getD [],
    if kind = .revocation then digest else ascii "single-send"]

/-- Results of `validate_form_for_operation`. -/
inductive FormCheck where
  | refused
  | valid (summary : Option AssertionSummary)

def validateFormForOperation (host : Host) (now : Rat) (identity : RouteIdentity)
    (kind : EndpointKind) (fields : Fields) : FormCheck :=
  let clientId := fields.field "client_id"
  let hasAssertion := (fields.field "client_assertion").isSome ||
    (fields.field "client_assertion_type").isSome
  if clientId.isSome && clientId != some identity.clientId then .refused
  else if identity.logicalRoute = ascii "A" && hasAssertion then .refused
  else if kind = .token then
    if clientId ≠ some identity.clientId then .refused
    else if fields.field "grant_type" ≠ some (ascii "authorization_code") ∧
        fields.field "grant_type" ≠ some (ascii "refresh_token") then .refused
    else .valid none
  else if identity.logicalRoute = ascii "A" then
    if clientId ≠ some identity.clientId then .refused else .valid none
  else if kind = .par ∨ kind = .revocation then
    if fields.field "client_assertion_type" ≠ some assertionType then .refused
    else
      match fields.field "client_assertion" with
      | none => .refused
      | some assertion =>
        match assertionSummary host now assertion identity.clientId false with
        | none => .refused
        | some summary =>
          if kind = .revocation ∧ (fields.field "token").getD [] = [] then .refused
          else .valid (some summary)
  else .refused

def operationDigest (host : Host) (clientId : Bytes) (kind : EndpointKind) (fields : Fields) :
    Option Bytes :=
  if kind = .revocation then
    (sha256 host ((fields.field "token").getD [])).bind fun tokenDigest =>
      sha256 host (clientId ++ [0] ++ tokenDigest)
  else formDigest host fields [ascii "client_assertion", ascii "client_assertion_type"]

structure Prepared where
  body : Bytes
  fields : Fields
  replayKey : Bytes
  digest : Bytes
  grantType : Option Bytes
  assertionSummary : Option AssertionSummary

/-- No content-length header, or exactly one that spells the body's length. -/
def contentLengthAgrees (host : Host) (headers : Table) (body : Bytes) : Bool :=
  match headers.filter (isNamed (ascii "content-length")) with
  | [] => true
  | [(_, value)] => tostring host value == decimal body.length
  | _ => false

/-- `prepare_post` up to the ledger lookup. -/
def preparePost (host : Host) (now : Rat) (context : Context) (identity : RouteIdentity)
    (kind : EndpointKind) (options headers : Table) : Option Prepared :=
  if !contentTypeIsForm headers then none
  else
    match options.get (.name "body") with
    | .str body =>
      if !contentLengthAgrees host headers body then none
      else
        match parseForm body with
        | none => none
        | some fields =>
          if kind = .token ∧ context.logicalRoute = some (ascii "B") ∧
              ((fields.field "client_assertion").isSome ∨
                (fields.field "client_assertion_type").isSome) then none
          else
            match validateFormForOperation host now identity kind fields with
            | .refused => none
            | .valid summary =>
              match operationDigest host (context.clientId.getD []) kind fields with
              | none => none
              | some digest =>
                let grantType := if kind = .token then fields.field "grant_type" else none
                some { body := body
                       fields := fields
                       replayKey := operationKey (context.logicalRoute.getD []) kind grantType digest
                       digest := digest
                       grantType := grantType
                       assertionSummary := summary }
    | _ => none

/-! ## Observations -/

/-- `append_observation`: the slot the entry got, when it was kept. -/
def appendObservation (s : State) (context : Option Context) (entry : Observation) :
    Option Context × Option Nat :=
  match context, s.registry with
  | some c, some registry =>
    if !registry.evidenceCorrelationEnabled then (some c, none)
    else if maxObservations ≤ c.observations.length then
      (some { c with observationsTruncated := true }, none)
    else (some { c with observations := c.observations ++ [entry] }, some c.observations.length)
  | c, _ => (c, none)

/-- `reject`: `record_not_sent` and the generic error. -/
def reject (s : State) (context : Option Context) (kind : Option EndpointKind)
    (method : Option Bytes) (reason : RejectionReason) : Option Context :=
  (appendObservation s context {
    logicalRoute := context.bind Context.logicalRoute
    endpointKind := kind
    method := method
    result := .notSent
    notSent := true
    rejectionLayer := some .transportGuard
    reasonCode := some reason }).1

/-- Later writes to an entry already in the table. -/
def updateObservation (context : Option Context) (slot : Option Nat) (entry : Observation) :
    Option Context :=
  match context, slot with
  | some c, some i => some { c with observations := c.observations.set i entry }
  | c, _ => c

/-! ## Admission -/

/-- The TLS identity a call was admitted with. -/
inductive Selected where
  | metadata (identity : Identity)
  | route (identity : RouteIdentity)

def Selected.identity : Selected → Identity
  | .metadata identity => identity
  | .route identity => identity.toIdentity

def Selected.routeName : Selected → Bytes
  | .metadata _ => ascii "metadata"
  | .route identity => identity.logicalRoute

inductive Admission where
  | passthrough
  | refused (kind : Option EndpointKind) (method : Option Bytes) (reason : RejectionReason)
  | admitted (endpoint : Endpoint) (method : Bytes) (selected : Selected)
  /-- An index of a nil registry: the language raises. -/
  | raised

/-- `wrap_request_uri` up to the choice of the identity. -/
def admitCall (host : Host) (s : State) (env : CallEnv) (context : Option Context) (uri : Value)
    (options : Table) : Admission :=
  match methodFor options with
  | none =>
    if context.isSome || protectedOrigin uri then .refused none none .invalidMethod
    else .passthrough
  | some method =>
    match classify uri method with
    | none =>
      if protectedOrigin uri || (context.map Context.marked).getD false then
        .refused none (some method)
          (if protectedOrigin uri then .unknownAsEndpoint else .contextExternalUrl)
      else .passthrough
    | some endpoint =>
      if !s.registryReady || s.failed || !s.wrapperReady then
        .refused (some endpoint.kind) (some method) .registryNotReady
      else if !readyMarkerCoversWorker host s env.marker then
        .refused (some endpoint.kind) (some method) .bootstrapMarkerMissingOrStale
      else if originScheme uri ≠ some (ascii "https") then
        .refused (some endpoint.kind) (some method) .httpBlocked
      else
        match endpoint.identityKind with
        | .metadata =>
          match s.registry with
          | none => .raised
          | some registry =>
            if method ≠ ascii "GET" || !(options.get (.name "body")).isNil then
              .refused (some endpoint.kind) (some method) .invalidMetadataRequest
            else if (context.map Context.marked).getD false && (contextIsValid s context).isNone then
              .refused (some endpoint.kind) (some method) .staleContext
            else .admitted endpoint method (.metadata registry.metadataIdentity)
        | .route =>
          match contextIsValid s context with
          | none => .refused (some endpoint.kind) (some method) .missingOrStaleRouteContext
          | some identity => .admitted endpoint method (.route identity)

/-! ## The first stretch -/

/-- A call that has yielded, by what its later stretches use. -/
structure Pending where
  endpoint : Endpoint
  params : Table
  prepared : Option Prepared
  clientId : Bytes
  slot : Option Nat
  observation : Observation

/-- How a stretch ends. `rejected` and `signerFailed` both answer the generic error;
the latter has already entered the operation in the ledger. -/
inductive Begun where
  | rejected
  | signerFailed (pending : Pending)
  | passthrough (uri : Value) (options : Table)
  | awaitSigner (pending : Pending)
  | sending (pending : Pending)
  | raised

/-- The checks of `invoke_signer` before the callback runs. -/
def signerCallable (s : State) (context : Context) (clientId : Bytes) : Bool :=
  context.signAssertion.isSome && context.signerEpoch == s.registryEpoch &&
    context.registryEpoch == s.registryEpoch && context.clientId == some clientId &&
    context.logicalRoute == some (ascii "B")

def requestObservation (context : Option Context) (endpoint : Endpoint) (method : Bytes)
    (selected : Selected) (correlationId : Option Bytes) : Observation where
  requestId := correlationId
  logicalRoute := context.bind Context.logicalRoute
  endpointKind := some endpoint.kind
  method := some method
  identityKind := some (match selected with
    | .metadata _ => ascii "metadata"
    | .route identity => ascii "route_" ++ identity.logicalRoute)
  oauthAuthMethod := some (match selected with
    | .metadata _ => ascii "none"
    | .route identity =>
      if identity.logicalRoute = ascii "A" then ascii "tls_client_auth" else ascii "private_key_jwt")
  result := .notSent
  sent := some false
  notSent := true

/-- `sent_operations[key] = true` and `operation_digests[key] = digest`. -/
def markSent (context : Context) (prepared : Prepared) : Context :=
  { context with
    sentOperations := prepared.replayKey :: context.sentOperations
    operationDigests := (prepared.replayKey, prepared.digest) :: context.operationDigests }

/-- Marking the observation sent, right before the underlying call. -/
def Pending.markedSent (pending : Pending) : Pending :=
  { pending with observation := { pending.observation with sent := some true, notSent := false } }

def signerUnavailable (pending : Pending) : Observation :=
  { pending.observation with
    result := .notSent
    notSent := true
    rejectionLayer := some .signer
    reasonCode := some .signerUnavailable }

/-- The correlation id is stored in the context when there is one. -/
def storeObservationId (context : Option Context) (id : Option Bytes) : Option Context :=
  match id with
  | some id => context.map fun c => { c with observationId := some id }
  | none => context

/-- From the recorded observation to the first yield. -/
def dispatch (s : State) (context : Option Context) (selected : Selected) (pending : Pending) :
    Option Context × Begun :=
  let (context, slot) := appendObservation s context pending.observation
  let pending := { pending with slot := slot }
  if pending.endpoint.kind = .token ∧ selected.routeName = ascii "B" then
    match context with
    | none => (none, .raised)
    | some c =>
      if signerCallable s c pending.clientId then (some c, .awaitSigner pending)
      else (updateObservation (some c) slot (signerUnavailable pending), .signerFailed pending)
  else
    let pending := pending.markedSent
    (updateObservation context slot pending.observation, .sending pending)

/-- From the guarded options to the first yield. -/
def launch (s : State) (registry : Registry) (context : Option Context) (selected : Selected)
    (correlationId : Option Bytes) (pending : Pending) : Option Context × Begun :=
  if registry.evidenceCorrelationEnabled && correlationId.isNone then
    (reject s context (some pending.endpoint.kind) pending.observation.method
      .observationIdUnavailable, .rejected)
  else dispatch s (storeObservationId context correlationId) selected pending

/-- The observation of a prepared post. -/
def postObservation (entry : Observation) (kind : EndpointKind) (prepared : Prepared) : Observation :=
  { entry with
    grantType := prepared.grantType
    claimSummary := prepared.assertionSummary
    tokenKind := if kind = .revocation then
      some ((prepared.fields.field "token_type_hint").getD (ascii "unspecified")) else none }

/-- `params`: the copy of the caller's options with its own header table. -/
def copiedOptions (options : Table) : Table :=
  options.set (.name "headers") (.table 0 (options.get (.name "headers")).fields)

def beginAdmitted (host : Host) (s : State) (env : CallEnv) (context : Option Context)
    (self : Value) (options : Table) (endpoint : Endpoint) (method : Bytes) (selected : Selected) :
    Option Context × Begun :=
  match s.registry with
  | none => (context, .raised)
  | some registry =>
    match setMtlsOptions host s registry env self (copiedOptions options) selected.identity
        selected.routeName with
    | .refused =>
      (reject s context (some endpoint.kind) (some method) .transportOptionsRejected, .rejected)
    | .raised => (context, .raised)
    | .prepared params correlationId =>
      let params := (params.erase (.name "path")).erase (.name "query")
      let headers := (params.get (.name "headers")).fields
      let entry := requestObservation context endpoint method selected correlationId
      match selected with
      | .metadata _ =>
        launch s registry context selected correlationId
          { endpoint, params, prepared := none, clientId := [], slot := none, observation := entry }
      | .route identity =>
        if !contentTypeIsForm headers then
          (reject s context (some endpoint.kind) (some method) .invalidFormContentType, .rejected)
        else
          match context with
          | none => (none, .raised)
          | some c =>
            let refused : Option Context × Begun :=
              ((appendObservation s (some c) { entry with
                rejectionLayer := some .transportGuard
                reasonCode := some .invalidOrDuplicatePost }).1, .rejected)
            match preparePost host env.now c identity endpoint.kind params headers with
            | none => refused
            | some prepared =>
              if c.sentOperations.contains prepared.replayKey then refused
              else
                -- fixed before the signer is called or the network can yield
                launch s registry (some (markSent c prepared)) selected correlationId
                  { endpoint, params, prepared := some prepared, clientId := identity.clientId,
                    slot := none, observation := postObservation entry endpoint.kind prepared }

/-- `wrap_request_uri` up to its first yield. -/
def beginCall (host : Host) (s : State) (env : CallEnv) (context : Option Context)
    (self uri options : Value) : Option Context × Begun :=
  match admitCall host s env context uri options.fields with
  | .passthrough => (context, .passthrough uri options.fields)
  | .refused kind method reason => (reject s context kind method reason, .rejected)
  | .raised => (context, .raised)
  | .admitted endpoint method selected =>
    beginAdmitted host s env context self options.fields endpoint method selected

/-! ## The stretches after a yield -/

/-- What `pcall(context.sign_assertion)` gives. -/
inductive SignerResult where
  | raised
  | returned (assertion assertionType : Value)

/-- `invoke_signer` once the callback has answered. -/
def signedAssertion (host : Host) (now : Rat) (clientId : Bytes) (result : SignerResult) :
    Option (Bytes × Bytes × AssertionSummary) :=
  match result with
  | .raised => none
  | .returned assertion kind =>
    match assertion, kind.isStr assertionType with
    | .str text, true =>
      (assertionSummary host now text clientId true).map fun summary => (text, assertionType, summary)
    | _, _ => none

def assertionSuffix (assertion kind : Bytes) : Bytes :=
  ascii "&client_assertion=" ++ urlencode assertion ++
    ascii "&client_assertion_type=" ++ urlencode kind

/-- The form and the length header after the assertion is appended. -/
def signedParams (params : Table) (body assertion kind : Bytes) : Table :=
  let body := body ++ assertionSuffix assertion kind
  (params.set (.name "body") (.str body)).set (.name "headers")
    (.table 0 (setHeader (params.get (.name "headers")).fields (ascii "Content-Length")
      (decimal body.length)))

def afterSigner (host : Host) (now : Nat) (context : Option Context) (pending : Pending)
    (result : SignerResult) : Option Context × Begun :=
  match pending.prepared, signedAssertion host now pending.clientId result with
  | some prepared, some (assertion, kind, summary) =>
    let pending := { pending with
      params := signedParams pending.params prepared.body assertion kind
      observation := { pending.observation with
        claimSummary := some summary
        oauthAuthMethod := some (ascii "private_key_jwt") } }
    let pending := pending.markedSent
    (updateObservation context pending.slot pending.observation, .sending pending)
  | _, _ => (updateObservation context pending.slot (signerUnavailable pending), .signerFailed pending)

/-- What `pcall(state.original_request_uri, ..)` gives: an error or nil, or a
response with the status the client read. -/
inductive NetworkResult where
  | failed
  | response (status : Option Rat) (tag : Bytes)

inductive CallResult where
  | genericError
  | response (status : Option Rat) (tag : Bytes)
  deriving DecidableEq

def afterNetwork (context : Option Context) (pending : Pending) (result : NetworkResult) :
    Option Context × CallResult :=
  let entry := pending.observation
  match result with
  | .failed =>
    (updateObservation context pending.slot { entry with
      result := .networkError
      notSent := false
      rejectionLayer := some .network }, .genericError)
  | .response status tag =>
    if (status.map fun q => decide (300 ≤ q ∧ q < 400)).getD false then
      (updateObservation context pending.slot { entry with
        result := .redirectRejected
        notSent := false
        rejectionLayer := some .transportRedirect
        httpStatus := status }, .genericError)
    else
      (updateObservation context pending.slot { entry with
        result := .responseReceived
        notSent := false
        httpStatus := status }, .response status tag)

end KonnectFapi.Source.Transport

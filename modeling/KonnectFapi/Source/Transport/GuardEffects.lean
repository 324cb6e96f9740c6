import KonnectFapi.Source.Transport.Guard

/-!
# What a request call can do

The stretches of the guard, inverted: how each can end, what is then known of the
call, and what it leaves in the shared context. Observations never decide
anything, so contexts are compared without them.
-/

namespace KonnectFapi.Source.Transport
open Lib Lib.Lua

/-- A context without the evidence collected in it. -/
def Context.ledger (context : Context) : Context :=
  { context with observations := [], observationsTruncated := false, observationId := none }

/-- Equal up to the evidence collected. -/
def SameLedger (before after : Option Context) : Prop :=
  after.map Context.ledger = before.map Context.ledger

theorem SameLedger.refl (context : Option Context) : SameLedger context context := rfl

theorem SameLedger.trans {a b c : Option Context} (hab : SameLedger a b) (hbc : SameLedger b c) :
    SameLedger a c := Eq.trans hbc hab

theorem SameLedger.eq_none {after : Option Context} (h : SameLedger none after) : after = none := by
  unfold SameLedger at h
  simpa using h

theorem SameLedger.of_some {c : Context} {after : Option Context} (h : SameLedger (some c) after) :
    ∃ c', after = some c' ∧ c'.ledger = c.ledger := by
  unfold SameLedger at h
  simpa using h

/-- Evidence is no part of the account. -/
theorem SameLedger.account {before after : Option Context} (h : SameLedger before after) :
    after.map Context.account = before.map Context.account := by
  have read : ∀ c : Context, c.account = c.ledger.account := fun _ => rfl
  have both := congrArg (Option.map Context.account) h
  simpa only [Option.map_map, Function.comp_def, ← read] using both

/-! ## Observations leave the ledger alone -/

theorem appendObservation_ledger (s : State) (context : Option Context) (entry : Observation) :
    SameLedger context (appendObservation s context entry).1 := by
  unfold appendObservation
  split
  · split
    · rfl
    · split <;> rfl
  · rfl

theorem reject_ledger (s : State) (context : Option Context) (kind : Option EndpointKind)
    (method : Option Bytes) (reason : RejectionReason) :
    SameLedger context (reject s context kind method reason) :=
  appendObservation_ledger s context _

theorem updateObservation_ledger (context : Option Context) (slot : Option Nat)
    (entry : Observation) : SameLedger context (updateObservation context slot entry) := by
  unfold updateObservation
  split <;> rfl

theorem storeObservationId_ledger (context : Option Context) (id : Option Bytes) :
    SameLedger context (storeObservationId context id) := by
  unfold storeObservationId
  cases id <;> cases context <;> rfl

/-! ## The first stretch -/

/-- How a call that passed the guard goes on. -/
inductive Launched (s : State) (selected : Selected) (context : Option Context)
    (pending : Pending) : Begun → Prop where
  | sending (slot : Option Nat)
      (direct : ¬ (pending.endpoint.kind = .token ∧ selected.routeName = ascii "B")) :
      Launched s selected context pending (.sending { pending with slot := slot }.markedSent)
  | awaitSigner (slot : Option Nat) (c : Context) (same : SameLedger context (some c))
      (signed : pending.endpoint.kind = .token ∧ selected.routeName = ascii "B")
      (callable : signerCallable s c pending.clientId = true) :
      Launched s selected context pending (.awaitSigner { pending with slot := slot })
  | signerFailed (slot : Option Nat)
      (signed : pending.endpoint.kind = .token ∧ selected.routeName = ascii "B") :
      Launched s selected context pending (.signerFailed { pending with slot := slot })
  | raised (absent : context = none)
      (signed : pending.endpoint.kind = .token ∧ selected.routeName = ascii "B") :
      Launched s selected context pending .raised

theorem dispatch_effect (s : State) (context : Option Context) (selected : Selected)
    (pending : Pending) :
    SameLedger context (dispatch s context selected pending).1 ∧
      Launched s selected context pending (dispatch s context selected pending).2 := by
  have appended := appendObservation_ledger s context pending.observation
  unfold dispatch
  generalize appendObservation s context pending.observation = noted at appended ⊢
  obtain ⟨c', slot⟩ := noted
  dsimp only at appended ⊢
  split
  · rename_i signed
    cases c' with
    | none =>
      refine ⟨appended, .raised ?_ signed⟩
      unfold SameLedger at appended
      simpa using appended.symm
    | some c =>
      dsimp only
      split
      · rename_i callable
        exact ⟨appended, .awaitSigner slot c appended signed callable⟩
      · exact ⟨appended.trans (updateObservation_ledger _ _ _), .signerFailed slot signed⟩
  · rename_i direct
    exact ⟨appended.trans (updateObservation_ledger _ _ _), .sending slot direct⟩

/-- Contexts that agree up to evidence launch alike. -/
theorem Launched.of_same {s : State} {selected : Selected} {a b : Option Context}
    {pending : Pending} {begun : Begun} (same : SameLedger a b)
    (h : Launched s selected b pending begun) : Launched s selected a pending begun := by
  cases h with
  | sending slot direct => exact .sending slot direct
  | awaitSigner slot c found signed callable =>
    exact .awaitSigner slot c (same.trans found) signed callable
  | signerFailed slot signed => exact .signerFailed slot signed
  | raised absent signed =>
    subst absent
    refine .raised ?_ signed
    unfold SameLedger at same
    simpa using same.symm

/-- Metadata requests are never signed. -/
theorem Launched.of_metadata {s : State} {identity : Identity} {context : Option Context}
    {pending : Pending} {begun : Begun}
    (h : Launched s (.metadata identity) context pending begun) :
    ∃ slot, begun = .sending { pending with slot := slot }.markedSent := by
  have notB : (Selected.metadata identity).routeName ≠ ascii "B" := by
    show ascii "metadata" ≠ ascii "B"
    decide
  cases h with
  | sending slot direct => exact ⟨slot, rfl⟩
  | awaitSigner slot c found signed => exact absurd signed.2 notB
  | signerFailed slot signed => exact absurd signed.2 notB
  | raised absent signed => exact absurd signed.2 notB

theorem launch_effect (s : State) (registry : Registry) (context : Option Context)
    (selected : Selected) (correlationId : Option Bytes) (pending : Pending)
    (identified : registry.evidenceCorrelationEnabled = true → correlationId.isSome = true) :
    SameLedger context (launch s registry context selected correlationId pending).1 ∧
      Launched s selected context pending
        (launch s registry context selected correlationId pending).2 := by
  unfold launch
  split
  · rename_i h
    simp only [Bool.and_eq_true, Option.isNone_iff_eq_none] at h
    have := identified h.1
    rw [h.2] at this
    cases this
  · have stored := storeObservationId_ledger context correlationId
    obtain ⟨same, launched⟩ :=
      dispatch_effect s (storeObservationId context correlationId) selected pending
    exact ⟨stored.trans same, launched.of_same stored⟩

/-- `params.path = nil` and `params.query = nil` -/
def withoutLocator (params : Table) : Table := (params.erase (.name "path")).erase (.name "query")

def paramHeaders (params : Table) : Table := (params.get (.name "headers")).fields

/-- A call that passed every check of its first stretch. -/
structure Admitted (host : Host) (s : State) (env : CallEnv) (context : Option Context)
    (client uri : Value) (options : Table) (selected : Selected) (pending : Pending) : Prop where
  admitted : ∃ method, admitCall host s env context uri options =
    .admitted pending.endpoint method selected
  prepared : ∃ registry params correlationId, s.registry = some registry ∧
    setMtlsOptions host s registry env client (copiedOptions options) selected.identity
      selected.routeName = .prepared params correlationId ∧
    pending.params = withoutLocator params

/-- The ledger checks of a credential POST, on the context as the call found it. -/
structure PostAdmitted (host : Host) (env : CallEnv) (c : Context) (identity : RouteIdentity)
    (pending : Pending) (post : Prepared) : Prop where
  form : contentTypeIsForm (paramHeaders pending.params) = true
  prepared : preparePost host env.now c identity pending.endpoint.kind pending.params
    (paramHeaders pending.params) = some post
  fresh : post.replayKey ∉ c.sentOperations

/-- The ways through the first stretch. -/
inductive BeginEffect (host : Host) (s : State) (env : CallEnv) (context : Option Context)
    (self uri options : Value) : Option Context × Begun → Prop where
  | passthrough (admission : admitCall host s env context uri options.fields = .passthrough) :
      BeginEffect host s env context self uri options (context, .passthrough uri options.fields)
  | rejected (after : Option Context) (same : SameLedger context after) :
      BeginEffect host s env context self uri options (after, .rejected)
  | raised (after : Option Context) (same : SameLedger context after) :
      BeginEffect host s env context self uri options (after, .raised)
  | metadata (identity : Identity) (pending : Pending) (after : Option Context)
      (admitted : Admitted host s env context self uri options.fields (.metadata identity) pending)
      (bare : pending.prepared = none) (same : SameLedger context after) :
      BeginEffect host s env context self uri options (after, .sending pending)
  | post (identity : RouteIdentity) (pending : Pending) (c : Context) (post : Prepared)
      (after : Option Context) (begun : Begun)
      (found : context = some c)
      (admitted : Admitted host s env context self uri options.fields (.route identity) pending)
      (posted : PostAdmitted host env c identity pending post)
      (carries : pending.prepared = some post) (client : pending.clientId = identity.clientId)
      (same : SameLedger (some (markSent c post)) after)
      (launched : Launched s (.route identity) (some (markSent c post)) pending begun)
      (alive : begun ≠ .raised) :
      BeginEffect host s env context self uri options (after, begun)

/-- What is known of options `set_mtls_options` has prepared. -/
structure MtlsPrepared (host : Host) (s : State) (registry : Registry) (client : Value)
    (options : Table) (identity : Identity) (routeName : Bytes) (params : Table)
    (id : Option Bytes) : Prop where
  accepted : optionsAccepted client options = true
  stock : stockIdentityMatches host options identity = true
  noAssertion : headersHaveAssertion (removeNamedHeader
    (removeNamedHeader (options.get (.name "headers")).fields hostHeader) correlationHeader) = false
  identified : registry.evidenceCorrelationEnabled = true → id.isSome = true
  written : ∃ epoch, s.registryEpoch = some epoch ∧ params = tlsOptions epoch options
    (transportHeaders (options.get (.name "headers")).fields id) routeName identity

theorem finishOptions_prepared {s : State} {options headers params : Table} {identity : Identity}
    {routeName : Bytes} {id id' : Option Bytes}
    (h : finishOptions s options headers identity routeName id = .prepared params id') :
    id' = id ∧ ∃ epoch, s.registryEpoch = some epoch ∧
      params = tlsOptions epoch options (transportHeaders headers id) routeName identity := by
  unfold finishOptions at h
  split at h
  · cases h
  · rename_i epoch hepoch
    obtain ⟨params', id'⟩ := OptionsResult.prepared.inj h
    exact ⟨id'.symm, epoch, hepoch, params'.symm⟩

theorem setMtlsOptions_prepared {host : Host} {s : State} {registry : Registry} {env : CallEnv}
    {self : Value} {options params : Table} {identity : Identity} {routeName : Bytes}
    {id : Option Bytes}
    (h : setMtlsOptions host s registry env self options identity routeName = .prepared params id) :
    MtlsPrepared host s registry self options identity routeName params id := by
  unfold setMtlsOptions at h
  split at h
  · cases h
  rename_i accepted
  split at h
  · cases h
  rename_i stock
  dsimp only at h
  split at h
  · cases h
  rename_i noAssertion
  simp only [Bool.not_eq_true', Bool.not_eq_false, Bool.not_eq_true] at accepted stock noAssertion
  split at h
  · split at h
    · cases h
    · obtain ⟨rfl, written⟩ := finishOptions_prepared h
      exact ⟨accepted, stock, noAssertion, fun _ => rfl, written⟩
  · rename_i disabled
    obtain ⟨rfl, written⟩ := finishOptions_prepared h
    exact ⟨accepted, stock, noAssertion, fun enabled => absurd enabled disabled, written⟩

/-! ## Admission -/

/-- Everything an admission has checked. -/
structure AdmissionChecked (host : Host) (s : State) (env : CallEnv) (context : Option Context)
    (uri : Value) (options : Table) (endpoint : Endpoint) (method : Bytes) (selected : Selected) :
    Prop where
  read : methodFor options = some method
  classified : classify uri method = some endpoint
  ready : s.registryReady = true ∧ s.failed = false ∧ s.wrapperReady = true
  marker : readyMarkerCoversWorker host s env.marker = true
  identity : match selected with
    | .metadata identity => endpoint.identityKind = .metadata ∧
        ∃ registry, s.registry = some registry ∧ identity = registry.metadataIdentity
    | .route identity => endpoint.identityKind = .route ∧
        contextIsValid s context = some identity

theorem admitCall_admitted {host : Host} {s : State} {env : CallEnv} {context : Option Context}
    {uri : Value} {options : Table} {endpoint : Endpoint} {method : Bytes} {selected : Selected}
    (h : admitCall host s env context uri options = .admitted endpoint method selected) :
    AdmissionChecked host s env context uri options endpoint method selected := by
  unfold admitCall at h
  split at h
  · split at h <;> cases h
  rename_i method' hmethod
  split at h
  · split at h <;> cases h
  rename_i endpoint' hendpoint
  split at h
  · cases h
  rename_i ready
  split at h
  · cases h
  rename_i marker
  split at h
  · cases h
  simp only [Bool.or_eq_true, Bool.not_eq_true', not_or, Bool.not_eq_false, Bool.not_eq_true]
    at ready marker
  split at h
  · rename_i hkind
    split at h
    · cases h
    · rename_i registry hregistry
      split at h
      · cases h
      · split at h
        · cases h
        · cases h
          exact ⟨hmethod, hendpoint, ⟨ready.1.1, ready.1.2, ready.2⟩, marker, hkind, registry, hregistry, rfl⟩
  · rename_i hkind
    split at h
    · cases h
    · rename_i identity hvalid
      cases h
      exact ⟨hmethod, hendpoint, ⟨ready.1.1, ready.1.2, ready.2⟩, marker, hkind, hvalid⟩

/-- What a valid context agrees with. -/
structure ContextChecked (s : State) (c : Context) (identity : RouteIdentity) : Prop where
  ready : c.ready = true ∧ s.registryReady = true ∧ s.failed = false
  epoch : c.registryEpoch = s.registryEpoch
  registered : ∃ registry id, s.registry = some registry ∧ c.trustedRouteIdentity = some id ∧
    registry.route id = some identity
  client : c.clientId = some identity.clientId
  logicalRoute : c.logicalRoute = some identity.logicalRoute

theorem contextIsValid_checked {s : State} {context : Option Context} {identity : RouteIdentity}
    (h : contextIsValid s context = some identity) :
    ∃ c, context = some c ∧ ContextChecked s c identity := by
  unfold contextIsValid at h
  split at h
  · rename_i c registry hregistry
    split at h
    · cases h
    · rename_i checks
      simp only [Bool.or_eq_true, Bool.not_eq_true', bne_iff_ne, not_or, Bool.not_eq_false,
        Bool.not_eq_true, ne_eq, Decidable.not_not] at checks
      split at h
      · rename_i identity' hroute
        split at h
        · cases h
        · rename_i agree
          cases h
          simp only [not_or, ne_eq, Decidable.not_not] at agree
          obtain ⟨id, htrusted, hid⟩ := Option.bind_eq_some_iff.mp hroute
          exact ⟨c, rfl, ⟨checks.1.1.1, checks.1.1.2, checks.1.2⟩, checks.2,
            ⟨registry, id, hregistry, htrusted, hid⟩, agree.1.symm, agree.2.symm⟩
      · cases h
  · cases h

/-! ## The form checks -/

/-- What `validate_form_for_operation` has checked of a form it accepts. -/
structure FormChecked (host : Host) (now : Rat) (identity : RouteIdentity) (kind : EndpointKind)
    (fields : Fields) : Prop where
  client : ∀ id, fields.field "client_id" = some id → id = identity.clientId
  clientPresent : kind = .token ∨ identity.logicalRoute = ascii "A" →
    fields.field "client_id" = some identity.clientId
  grant : kind = .token → fields.field "grant_type" = some (ascii "authorization_code") ∨
    fields.field "grant_type" = some (ascii "refresh_token")
  unsigned : identity.logicalRoute = ascii "A" → fields.field "client_assertion" = none ∧
    fields.field "client_assertion_type" = none
  signed : kind ≠ .token → identity.logicalRoute ≠ ascii "A" →
    fields.field "client_assertion_type" = some assertionType ∧
      ∃ assertion, fields.field "client_assertion" = some assertion ∧
        AcceptedAssertion host now assertion identity.clientId false

theorem validateFormForOperation_valid {host : Host} {now : Rat} {identity : RouteIdentity}
    {kind : EndpointKind} {fields : Fields} {summary : Option AssertionSummary}
    (h : validateFormForOperation host now identity kind fields = .valid summary) :
    FormChecked host now identity kind fields := by
  unfold validateFormForOperation at h
  dsimp only at h
  split at h
  · cases h
  rename_i client
  split at h
  · cases h
  rename_i unsigned
  have client' : ∀ id, fields.field "client_id" = some id → id = identity.clientId := by
    intro id hid
    simpa [hid] using client
  have unsigned' : identity.logicalRoute = ascii "A" → fields.field "client_assertion" = none ∧
      fields.field "client_assertion_type" = none := by
    intro hA
    simpa [hA] using unsigned
  split at h
  · rename_i htoken
    split at h
    · cases h
    rename_i present
    split at h
    · cases h
    rename_i grant
    simp only [ne_eq, Decidable.not_not] at present
    exact {
      client := client'
      clientPresent := fun _ => present
      grant := fun _ => by
        by_contra none
        exact grant ⟨fun code => none (Or.inl code), fun refresh => none (Or.inr refresh)⟩
      unsigned := unsigned'
      signed := fun notToken => absurd htoken notToken }
  rename_i htoken
  split at h
  · rename_i hA
    split at h
    · cases h
    rename_i present
    simp only [ne_eq, Decidable.not_not] at present
    exact {
      client := client'
      clientPresent := fun _ => present
      grant := fun token => absurd token htoken
      unsigned := unsigned'
      signed := fun _ notA => absurd hA notA }
  rename_i hA
  split at h
  · split at h
    · cases h
    rename_i kindIs typeIs
    simp only [ne_eq, Decidable.not_not] at typeIs
    split at h
    · cases h
    rename_i assertion hassertion
    split at h
    · cases h
    rename_i found hfound
    exact {
      client := client'
      clientPresent := fun which => absurd which (not_or.mpr ⟨htoken, hA⟩)
      grant := fun token => absurd token htoken
      unsigned := unsigned'
      signed := fun _ _ => ⟨typeIs, assertion, hassertion,
        assertionSummary_isSome.mp (by rw [hfound]; rfl)⟩ }
  · cases h

/-- What `prepare_post` has checked of a post it accepts, and how its key is built. -/
structure PostChecked (host : Host) (now : Rat) (c : Context) (identity : RouteIdentity)
    (kind : EndpointKind) (options : Table) (post : Prepared) : Prop where
  body : options.get (.name "body") = .str post.body
  parsed : parseForm post.body = some post.fields
  unsignedToken : kind = .token → c.logicalRoute = some (ascii "B") →
    post.fields.field "client_assertion" = none ∧ post.fields.field "client_assertion_type" = none
  valid : FormChecked host now identity kind post.fields
  digest : operationDigest host (c.clientId.getD []) kind post.fields = some post.digest
  grant : post.grantType = if kind = .token then post.fields.field "grant_type" else none
  key : post.replayKey = operationKey (c.logicalRoute.getD []) kind post.grantType post.digest

theorem preparePost_prepared {host : Host} {now : Rat} {c : Context} {identity : RouteIdentity}
    {kind : EndpointKind} {options headers : Table} {post : Prepared}
    (h : preparePost host now c identity kind options headers = some post) :
    PostChecked host now c identity kind options post := by
  unfold preparePost at h
  split at h
  · cases h
  split at h
  · rename_i body hbody
    split at h
    · cases h
    split at h
    · cases h
    rename_i fields hfields
    split at h
    · cases h
    rename_i unsignedToken
    split at h
    · cases h
    rename_i summary hvalid
    split at h
    · cases h
    rename_i digest hdigest
    cases h
    refine ⟨hbody, hfields, fun token routeB => ?_, validateFormForOperation_valid hvalid, hdigest,
      rfl, rfl⟩
    simpa [token, routeB] using unsignedToken
  · cases h

/-! ## Assembling the first stretch -/

theorem beginAdmitted_effect (host : Host) (s : State) (env : CallEnv) (context : Option Context)
    (self uri options : Value) {endpoint : Endpoint} {method : Bytes} {selected : Selected}
    (admission : admitCall host s env context uri options.fields = .admitted endpoint method selected) :
    BeginEffect host s env context self uri options
      (beginAdmitted host s env context self options.fields endpoint method selected) := by
  unfold beginAdmitted
  split
  · exact .raised _ (SameLedger.refl _)
  rename_i registry hregistry
  split
  · exact .rejected _ (reject_ledger ..)
  · exact .raised _ (SameLedger.refl _)
  rename_i params correlationId hparams
  have identified := (setMtlsOptions_prepared hparams).identified
  have options' : ∃ registry' params' id, s.registry = some registry' ∧
      setMtlsOptions host s registry' env self (copiedOptions options.fields) selected.identity
        selected.routeName = .prepared params' id ∧ withoutLocator params = withoutLocator params' :=
    ⟨registry, params, correlationId, hregistry, hparams, rfl⟩
  dsimp only
  split
  · rename_i identity
    let pending : Pending :=
      { endpoint, params := withoutLocator params, prepared := none, clientId := [], slot := none,
        observation := requestObservation context endpoint method (.metadata identity) correlationId }
    change BeginEffect host s env context self uri options
      (launch s registry context (.metadata identity) correlationId pending)
    obtain ⟨same, launched⟩ := launch_effect s registry context (.metadata identity) correlationId
      pending identified
    obtain ⟨slot, sent⟩ := launched.of_metadata
    generalize launch s registry context (.metadata identity) correlationId pending = result
      at same sent ⊢
    obtain ⟨after, begun⟩ := result
    subst sent
    have admitted : Admitted host s env context self uri options.fields (.metadata identity)
        { pending with slot := slot }.markedSent := ⟨⟨method, admission⟩, options'⟩
    exact .metadata identity _ after admitted rfl same
  · rename_i identity
    split
    · exact .rejected _ (reject_ledger ..)
    rename_i form
    rw [Bool.not_eq_true', Bool.not_eq_false] at form
    obtain ⟨c, rfl, -⟩ := contextIsValid_checked (admitCall_admitted admission).identity.2
    dsimp only
    split
    · exact .rejected _ (appendObservation_ledger ..)
    rename_i post hpost
    split
    · exact .rejected _ (appendObservation_ledger ..)
    rename_i fresh
    let pending : Pending :=
      { endpoint, params := withoutLocator params, prepared := some post,
        clientId := identity.clientId, slot := none,
        observation := postObservation
          (requestObservation (some c) endpoint method (.route identity) correlationId)
          endpoint.kind post }
    change BeginEffect host s env (some c) self uri options
      (launch s registry (some (markSent c post)) (.route identity) correlationId pending)
    obtain ⟨same, launched⟩ := launch_effect s registry (some (markSent c post)) (.route identity)
      correlationId pending identified
    generalize launch s registry (some (markSent c post)) (.route identity) correlationId pending
      = result at same launched ⊢
    obtain ⟨after, begun⟩ := result
    have admitted : Admitted host s env (some c) self uri options.fields (.route identity)
        pending := ⟨⟨method, admission⟩, options'⟩
    have posted : PostAdmitted host env c identity pending post :=
      ⟨form, hpost, by simpa using fresh⟩
    refine .post identity pending c post after begun rfl admitted posted rfl rfl same launched ?_
    rintro rfl
    cases launched with
    | raised absent => cases absent

theorem beginCall_effect (host : Host) (s : State) (env : CallEnv) (context : Option Context)
    (self uri options : Value) :
    BeginEffect host s env context self uri options
      (beginCall host s env context self uri options) := by
  unfold beginCall
  split
  · rename_i admission
    exact .passthrough admission
  · exact .rejected _ (reject_ledger ..)
  · exact .raised _ (SameLedger.refl _)
  · rename_i admission
    exact beginAdmitted_effect host s env context self uri options admission

/-! ## The stretches after a yield -/

/-- The second stretch sends what the signer completed, or nothing. -/
inductive SignerEffect (host : Host) (now : Nat) (pending : Pending) (result : SignerResult) :
    Begun → Prop where
  | failed : SignerEffect host now pending result (.signerFailed pending)
  | signed (post : Prepared) (assertion kind : Bytes) (summary : AssertionSummary)
      (observation : Observation) (carries : pending.prepared = some post)
      (answer : signedAssertion host now pending.clientId result = some (assertion, kind, summary)) :
      SignerEffect host now pending result (.sending { pending with
        params := signedParams pending.params post.body assertion kind
        observation := observation })

theorem afterSigner_effect (host : Host) (now : Nat) (context : Option Context) (pending : Pending)
    (result : SignerResult) :
    SameLedger context (afterSigner host now context pending result).1 ∧
      SignerEffect host now pending result (afterSigner host now context pending result).2 := by
  unfold afterSigner
  split
  · rename_i post assertion kind summary carries answer
    exact ⟨updateObservation_ledger .., .signed post assertion kind summary _ carries answer⟩
  · exact ⟨updateObservation_ledger .., .failed⟩

/-- An answer the guard takes from the signer is an accepted assertion. -/
theorem signedAssertion_accepted {host : Host} {now : Rat} {clientId : Bytes}
    {result : SignerResult} {assertion kind : Bytes} {summary : AssertionSummary}
    (h : signedAssertion host now clientId result = some (assertion, kind, summary)) :
    kind = assertionType ∧ AcceptedAssertion host now assertion clientId true := by
  unfold signedAssertion at h
  split at h
  · cases h
  · split at h
    · obtain ⟨found, hfound, triple⟩ := Option.map_eq_some_iff.mp h
      cases triple
      exact ⟨rfl, assertionSummary_isSome.mp (by rw [hfound]; rfl)⟩
    · cases h

theorem signedParams_body (params : Table) (body assertion kind : Bytes) :
    (signedParams params body assertion kind).get (.name "body") =
      .str (body ++ assertionSuffix assertion kind) := by
  unfold signedParams
  dsimp only
  rw [Table.get_set_of_ne _ _ _ _ (by decide), Table.get_set_self]

theorem afterNetwork_effect (context : Option Context) (pending : Pending)
    (result : NetworkResult) : SameLedger context (afterNetwork context pending result).1 := by
  unfold afterNetwork
  split
  · exact updateObservation_ledger ..
  · dsimp only
    split <;> exact updateObservation_ledger ..

end KonnectFapi.Source.Transport

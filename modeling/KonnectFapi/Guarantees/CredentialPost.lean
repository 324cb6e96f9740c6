import KonnectFapi.Source.Deployment
import KonnectFapi.Source.RegisteredRoutes
import KonnectFapi.Source.Transport.OperationKey

/-!
# Every credential POST that leaves the guard

Source: kong/plugins/fapi-as-mtls-transport/handler.lua:1109-1454. What the client
is handed for the PAR, token and revocation endpoints, read off the options and
the decoded body it gets.
-/

namespace KonnectFapi.Guarantees
open Lib Lib.Lua Source.Transport Source.Worker

/-- The endpoints credentials are posted to. -/
def credentialUrls : List Bytes := [par, token, revocation]

/-- What the receiver reads in the form. -/
structure SoundForm (host : Host) (now : Rat) (identity : RouteIdentity) (kind : EndpointKind)
    (fields : Fields) : Prop where
  client : ∀ id, (ascii "client_id", id) ∈ fields → id = identity.clientId
  clientPresent : kind = .token ∨ identity.logicalRoute = ascii "A" →
    (ascii "client_id", identity.clientId) ∈ fields
  grant : kind = .token → ∃ grant, (ascii "grant_type", grant) ∈ fields ∧
    (grant = ascii "authorization_code" ∨ grant = ascii "refresh_token")
  routeA : identity.logicalRoute = ascii "A" → ∀ field ∈ fields,
    field.1 ≠ ascii "client_assertion" ∧ field.1 ≠ ascii "client_assertion_type"
  routeB : identity.logicalRoute = ascii "B" → ∃ assertion exactTtl,
    fields.filter (fun field => field.1 = ascii "client_assertion") =
        [(ascii "client_assertion", assertion)] ∧
      fields.filter (fun field => field.1 = ascii "client_assertion_type") =
        [(ascii "client_assertion_type", assertionType)] ∧
      AcceptedAssertion host now assertion identity.clientId exactTtl

/-- The options a connection is made with. -/
structure SoundOptions (client : Value) (identity : Identity) (params : Table) : Prop where
  tls : TlsFixed params identity
  directClient : hasProxy (client.field "proxy_opts") = false
  noLocator : params.get (.name "path") = .nil ∧ params.get (.name "query") = .nil
  noSession : params.get (.name "ssl_session") = .nil
  hostHeader : namedHeaders (paramHeaders params) hostHeader =
    [(.str hostHeader, .str (ascii "keycloak:8443"))]
  noAssertionHeader : headersHaveAssertion (paramHeaders params) = false

/-- What the client is handed for a credential endpoint. -/
structure SoundPost (host : Host) (s : State) (now : Rat) (c : Context) (identity : RouteIdentity)
    (client : Value) (kind : EndpointKind) (params : Table) : Prop where
  epoch : c.registryEpoch.isSome = true ∧ c.registryEpoch = currentRegistryEpoch s
  registered : ∃ registry id, s.registry = some registry ∧ c.trustedRouteIdentity = some id ∧
    registry.route id = some identity ∧ manifest id = some identity.toManifestRoute
  options : SoundOptions client identity.toIdentity params
  form : ∃ body fields, params.get (.name "body") = .str body ∧ decodedForm body = some fields ∧
    SoundForm host now identity kind fields

/-! ## Forms -/

theorem mem_of_field {fields : Fields} {name : String} {value : Bytes}
    (h : fields.field name = some value) : (ascii name, value) ∈ fields := by
  obtain ⟨before, after, split, -⟩ := List.lookup_eq_some_iff.mp h
  rw [split]
  simp

theorem field_of_mem {fields : Fields} (distinct : (fields.map Prod.fst).Nodup) {name : String}
    {value : Bytes} (h : (ascii name, value) ∈ fields) : fields.field name = some value := by
  obtain ⟨before, after, rfl⟩ := List.append_of_mem h
  refine List.lookup_eq_some_iff.mpr ⟨before, after, rfl, fun entry hentry => ?_⟩
  rw [List.map_append, List.nodup_append] at distinct
  have := distinct.2.2 entry.1 (List.mem_map_of_mem hentry) (ascii name) (by simp)
  simpa using Ne.symm this

theorem filter_of_field {fields : Fields} (distinct : (fields.map Prod.fst).Nodup) {name : String}
    {value : Bytes} (h : fields.field name = some value) :
    fields.filter (fun field => field.1 = ascii name) = [(ascii name, value)] := by
  obtain ⟨before, after, rfl⟩ := List.append_of_mem (mem_of_field h)
  rw [List.map_append, List.map_cons, List.nodup_append, List.nodup_cons] at distinct
  obtain ⟨-, ⟨later, -⟩, earlier⟩ := distinct
  have noneBefore : before.filter (fun field => field.1 = ascii name) = [] := by
    rw [List.filter_eq_nil_iff]
    intro field hfield
    simpa using earlier field.1 (List.mem_map_of_mem hfield) (ascii name) (by simp)
  have noneAfter : after.filter (fun field => field.1 = ascii name) = [] := by
    rw [List.filter_eq_nil_iff]
    intro field hfield
    have found := List.mem_map_of_mem (f := Prod.fst) hfield
    simpa using fun same : field.1 = ascii name => later (same ▸ found)
  rw [List.filter_append, List.filter_cons, noneBefore, noneAfter]
  simp

theorem not_mem_of_field {fields : Fields} {name : String} (h : fields.field name = none)
    {field : Bytes × Bytes} (hfield : field ∈ fields) : field.1 ≠ ascii name := by
  intro same
  have := List.lookup_eq_none_iff.mp h field hfield
  simp [same] at this

/-- A checked form that is sent as it came. -/
theorem soundForm_of_checked {host : Host} {now : Rat} {identity : RouteIdentity}
    {kind : EndpointKind} {fields : Fields} (distinct : (fields.map Prod.fst).Nodup)
    (checked : FormChecked host now identity kind fields)
    (direct : ¬ (kind = .token ∧ identity.logicalRoute = ascii "B")) :
    SoundForm host now identity kind fields where
  client id hid := checked.client id (field_of_mem distinct hid)
  clientPresent which := mem_of_field (checked.clientPresent which)
  grant token := by
    rcases checked.grant token with code | refresh
    · exact ⟨_, mem_of_field code, Or.inl rfl⟩
    · exact ⟨_, mem_of_field refresh, Or.inr rfl⟩
  routeA isA field hfield :=
    ⟨not_mem_of_field (checked.unsigned isA).1 hfield, not_mem_of_field (checked.unsigned isA).2 hfield⟩
  routeB isB := by
    have notToken : kind ≠ .token := fun token => direct ⟨token, isB⟩
    obtain ⟨typeIs, assertion, hassertion, accepted⟩ :=
      checked.signed notToken (by rw [isB]; decide)
    exact ⟨assertion, false, filter_of_field distinct hassertion, filter_of_field distinct typeIs,
      accepted⟩

/-- A checked token form the signer has completed. -/
theorem soundForm_of_signed {host : Host} {now now' : Rat} {identity : RouteIdentity}
    {kind : EndpointKind} {fields : Fields} {assertion : Bytes}
    (distinct : (fields.map Prod.fst).Nodup)
    (checked : FormChecked host now identity kind fields) (isB : identity.logicalRoute = ascii "B")
    (unsigned : fields.field "client_assertion" = none ∧
      fields.field "client_assertion_type" = none)
    (accepted : AcceptedAssertion host now' assertion identity.clientId true) :
    SoundForm host now' identity kind (fields ++ [(ascii "client_assertion", assertion),
      (ascii "client_assertion_type", assertionType)]) where
  client id hid := by
    rcases List.mem_append.mp hid with own | added
    · exact checked.client id (field_of_mem distinct own)
    · simp [ascii] at added
  clientPresent which := List.mem_append_left _ (mem_of_field (checked.clientPresent which))
  grant token := by
    rcases checked.grant token with code | refresh
    · exact ⟨_, List.mem_append_left _ (mem_of_field code), Or.inl rfl⟩
    · exact ⟨_, List.mem_append_left _ (mem_of_field refresh), Or.inr rfl⟩
  routeA isA := absurd (isA.symm.trans isB) (by decide)
  routeB _ := by
    have none : ∀ name : String, fields.field name = none →
        fields.filter (fun field => field.1 = ascii name) = [] := by
      intro name absent
      rw [List.filter_eq_nil_iff]
      intro field hfield
      simpa using not_mem_of_field absent hfield
    refine ⟨assertion, true, ?_, ?_, accepted⟩
    · rw [List.filter_append, none _ unsigned.1]
      simp [ascii]
    · rw [List.filter_append, none _ unsigned.2]
      simp [ascii]

/-! ## Options -/

theorem soundOptions_of_prepared {host : Host} {s : State} {registry : Registry} {client : Value}
    {options params : Table} {identity : Identity} {routeName : Bytes} {id : Option Bytes}
    (h : MtlsPrepared host s registry client (copiedOptions options) identity routeName params id) :
    SoundOptions client identity (withoutLocator params) := by
  obtain ⟨epoch, -, written⟩ := h.written
  rw [written]
  have accepted := h.accepted
  simp only [optionsAccepted, proxyConfigured, Bool.and_eq_true, Bool.not_eq_true',
    Bool.or_eq_false_iff] at accepted
  have headers : ∀ key headers, (withoutLocator (tlsOptions epoch key headers routeName
      identity)).get (.name "headers") = .table 0 headers := by
    intro key headers
    unfold withoutLocator
    rw [Table.get_erase_of_ne _ _ _ (by decide), Table.get_erase_of_ne _ _ _ (by decide),
      tlsOptions_headers]
  refine ⟨((tlsOptions_fixed ..).erase (by decide)).erase (by decide), accepted.2.1, ⟨?_, ?_⟩, ?_,
    ?_, ?_⟩
  · unfold withoutLocator
    rw [Table.get_erase_of_ne _ _ _ (by decide), Table.get_erase_self]
  · unfold withoutLocator
    rw [Table.get_erase_self]
  · unfold withoutLocator
    rw [Table.get_erase_of_ne _ _ _ (by decide), Table.get_erase_of_ne _ _ _ (by decide),
      tlsOptions_kept _ _ _ _ _ (by decide)]
    exact Value.isNil_iff.mp accepted.1.2
  · unfold paramHeaders
    rw [headers]
    exact transportHeaders_host ..
  · unfold paramHeaders
    rw [headers]
    exact transportHeaders_assertion id h.noAssertion

theorem SoundOptions.signed {client : Value} {identity : Identity} {params : Table}
    (h : SoundOptions client identity params) (body assertion kind : Bytes) :
    SoundOptions client identity (signedParams params body assertion kind) := by
  have kept : ∀ key : Key, key ≠ .name "body" → key ≠ .name "headers" →
      (signedParams params body assertion kind).get key = params.get key := by
    intro key notBody notHeaders
    unfold signedParams
    dsimp only
    rw [Table.get_set_of_ne _ _ _ _ notHeaders, Table.get_set_of_ne _ _ _ _ notBody]
  have headers : paramHeaders (signedParams params body assertion kind) =
      setHeader (paramHeaders params) (ascii "Content-Length")
        (decimal (body ++ assertionSuffix assertion kind).length) := by
    unfold paramHeaders signedParams
    dsimp only
    rw [Table.get_set_self]
    rfl
  refine ⟨(h.tls.set (by decide) _).set (by decide) _, h.directClient, ?_, ?_, ?_, ?_⟩
  · rw [kept _ (by decide) (by decide), kept _ (by decide) (by decide)]
    exact h.noLocator
  · rw [kept _ (by decide) (by decide)]
    exact h.noSession
  · rw [headers, namedHeaders_set_of_ne (by decide)]
    exact h.hostHeader
  · rw [headers, headersHaveAssertion_eq_false, namedHeaders_set_of_ne (by decide),
      namedHeaders_set_of_ne (by decide)]
    exact headersHaveAssertion_eq_false.mp h.noAssertionHeader

/-! ## The call -/

/-- What the checks of an admitted post say about context, options and form. -/
theorem soundPost_of_admitted {host : Host} {s : State} {env : CallEnv} {c : Context}
    {client uri : Value} {options : Table} {identity : RouteIdentity} {pending : Pending}
    {post : Prepared} (fromManifest : ∀ registry, s.registry = some registry → registry.FromManifest)
    (admitted : Admitted host s env (some c) client uri options (.route identity) pending)
    (posted : PostAdmitted host env c identity pending post) :
    (c.registryEpoch.isSome = true ∧ c.registryEpoch = currentRegistryEpoch s) ∧
      (∃ registry id, s.registry = some registry ∧ c.trustedRouteIdentity = some id ∧
        registry.route id = some identity ∧ manifest id = some identity.toManifestRoute) ∧
      SoundOptions client identity.toIdentity pending.params ∧
      PostChecked host env.now c identity pending.endpoint.kind pending.params post ∧
      c.logicalRoute = some identity.logicalRoute := by
  obtain ⟨method, admission⟩ := admitted.admitted
  obtain ⟨registry, params, id, hregistry, hparams, hpending⟩ := admitted.prepared
  have prepared := setMtlsOptions_prepared hparams
  obtain ⟨c', found, valid⟩ := contextIsValid_checked (admitCall_admitted admission).identity.2
  cases found
  obtain ⟨registry', routeId, hregistry', trusted, hroute⟩ := valid.registered
  obtain ⟨epoch, hepoch, -⟩ := prepared.written
  refine ⟨⟨by rw [valid.epoch, hepoch]; rfl, ?_⟩, ⟨registry', routeId, hregistry', trusted, hroute,
    fromManifest registry' hregistry' routeId identity hroute⟩, ?_,
    preparePost_prepared posted.prepared, valid.logicalRoute⟩
  · rw [valid.epoch]
    simp [currentRegistryEpoch, valid.ready.2.1, valid.ready.2.2]
  · rw [hpending]
    exact soundOptions_of_prepared prepared

/-- A metadata endpoint is not one of the credential endpoints. -/
theorem metadata_not_credential {host : Host} {s : State} {env : CallEnv}
    {context : Option Context} {client uri : Value} {options : Table} {identity : Identity}
    {pending : Pending}
    (h : Admitted host s env context client uri options (.metadata identity) pending) :
    pending.endpoint.mappedUri ∉ credentialUrls := by
  intro credential
  obtain ⟨method, admission⟩ := h.admitted
  have checked := admitCall_admitted admission
  obtain ⟨-, -, -, kinds, isPar, isToken, isRevocation⟩ := classify_spec checked.classified
  have route : pending.endpoint.identityKind = .route := by
    simp only [credentialUrls, List.mem_cons, List.not_mem_nil, or_false] at credential
    exact kinds.mpr (credential.imp isPar.mp (Or.imp isToken.mp isRevocation.mp))
  rw [checked.identity.1] at route
  cases route

/-- What a call sends to a credential endpoint, at once or once the signer has
answered, is sound. -/
structure SoundCall (host : Host) (s : State) (env : CallEnv) (context : Option Context)
    (client uri options : Value) : Prop where
  direct : ∀ pending, (beginCall host s env context client uri options).2 = .sending pending →
    pending.endpoint.mappedUri ∈ credentialUrls →
      ∃ c identity, context = some c ∧
        SoundPost host s env.now c identity client pending.endpoint.kind pending.params
  signed : ∀ pending, (beginCall host s env context client uri options).2 = .awaitSigner pending →
    ∀ (now : Nat) context' result next,
      (afterSigner host now context' pending result).2 = .sending next →
        ∃ c identity, context = some c ∧
          SoundPost host s now c identity client next.endpoint.kind next.params

end KonnectFapi.Guarantees

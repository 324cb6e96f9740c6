import KonnectFapi.Source.Keycloak.Prepared

/-!
# The synchronisation converges

Source: scripts/sync-keycloak-demo-data.py:593-622. Once everything was planned, nothing
fails any more: the requests are answered, the checks at the end pass, and a second run
plans nothing and leaves the server as it is.
-/

namespace KonnectFapi.Guarantees
open Lib Lib.Json Lib.Reconciler Source.Keycloak

variable {floats : FloatEquality} {supply : IdSupply Text}

theorem comparable_clients {desired clients : Json} (h : Comparable floats desired)
    (hclients : desiredClientsOf desired = .ok clients) : Comparable floats clients := by
  unfold desiredClientsOf subscript at hclients
  split at hclients
  · split at hclients
    · rename_i v hlookup
      obtain rfl := Except.ok.inj hclients
      exact h.member hlookup
    · cases hclients
  · cases hclients

theorem wanted_of_prepared {desired : Json} {s : Server} {plan : SyncPlan}
    (hdesired : Comparable floats desired) (prepared : Prepared floats desired s plan) :
    ClientsWanted floats s.clients prepared.wanted :=
  clientsWanted_of_asks (comparable_clients hdesired prepared.clientsThere) prepared.asks
    prepared.ready

/-- The plan made from the server a run left is idle. -/
theorem reached_idle (filled : ∀ taken, supply.next taken ≠ []) {desired : Json} {s s' : Server}
    {plan : SyncPlan} (hdesired : Comparable floats desired) (hrealm : Comparable floats (.obj s.realm))
    (prepared : Prepared floats desired s plan)
    (reached : Reached floats supply s s' plan.realm prepared.wanted) :
    ∃ idle, prepareSync floats desired s' = .ok idle ∧ IdlePlan idle := by
  have hwanted := wanted_of_prepared hdesired prepared
  obtain ⟨wantedAgain, hidle⟩ := hwanted.settles filled reached.clients
  obtain ⟨readyAgain, componentId, hkeep⟩ := provider_settles filled prepared.providerReady
  rw [← reached.components] at readyAgain hkeep
  have hnone : realmAdminPayload floats (.obj s'.realm) (.obj prepared.realm) = .ok [] := by
    rw [reached.realm]
    exact realm_settles hrealm (prepared.realmObject ▸ hdesired) prepared.realmPlan
  obtain ⟨realmPlan⟩ := realmAdminPayload_ok.mp hnone
  refine ⟨⟨[], prepared.wanted.map (plannedAction floats s'.clients), .noop componentId⟩,
    prepareSync_ok.mpr ⟨⟨prepared.provider, prepared.realm, prepared.realmObject, realmPlan,
      prepared.clients, prepared.clientsThere, prepared.wanted, prepared.asks,
      fun w hw => (wantedAgain.planned w hw).ready, rfl, readyAgain, ?_⟩⟩,
    rfl, hidle, componentId, rfl⟩
  rw [hkeep]
  rfl

/-! ## A realm to run on -/

/-- Ids longer than all that are taken. -/
def longerIds : IdSupply Text where
  next taken := text "n" ++ taken.flatten
  fresh taken h := by
    have hlength := List.Sublist.length_le (List.sublist_flatten_of_mem h)
    rw [List.length_append] at hlength
    have hone : (text "n").length = 1 := rfl
    omega

theorem longerIds_filled (taken : List Text) : longerIds.next taken ≠ [] :=
  List.append_ne_nil_of_left_ne_nil (List.cons_ne_nil _ _) _

def texts (values : List (String × String)) : Json :=
  .obj (values.map fun (name, value) => (text name, .str (text value)))

def exampleClient (clientId authenticator : String) (attributes : Json) (mappers : List Json) : Json :=
  .obj [(text "clientId", .str (text clientId)), (text "name", .str (text clientId)),
    (text "enabled", .bool true), (text "protocol", .str (text "openid-connect")),
    (text "publicClient", .bool false), (text "consentRequired", .bool false),
    (text "fullScopeAllowed", .bool false), (text "clientAuthenticatorType", .str (text authenticator)),
    (text "standardFlowEnabled", .bool true), (text "implicitFlowEnabled", .bool false),
    (text "directAccessGrantsEnabled", .bool false), (text "serviceAccountsEnabled", .bool false),
    (text "redirectUris", .arr []), (text "webOrigins", .arr []), (text "attributes", attributes),
    (text "protocolMappers", .arr mappers)]

def exampleMapper : Json :=
  .obj [(text "name", .str (text "department")), (text "protocol", .str (text "openid-connect")),
    (text "protocolMapper", .str (text "oidc-usermodel-attribute-mapper")),
    (text "config", texts [("user.attribute", "department"), ("id.token.claim", "true")])]

def exampleRealm : Json :=
  .obj [(text "realm", .str (text "fapi-demo")), (text "enabled", .bool true),
    (text "sslRequired", .str (text "all")), (text "defaultSignatureAlgorithm", .str (text "PS256")),
    (text "accessCodeLifespan", .int 60), (text "revokeRefreshToken", .bool true),
    (text "refreshTokenMaxReuse", .int 0),
    (text "components", .obj [(keyProviderType, .arr [.obj
      [(text "name", .str managedKeyProviderName), (text "providerId", .str managedKeyProviderId),
        (text "config", .obj managedKeyProviderConfig)]])]),
    (text "clients", .arr
      [exampleClient "third-party-fapi-mtls" "client-x509"
        (texts [("x509.subjectdn", "CN=kong-fapi-mtls")]) [exampleMapper],
      exampleClient "third-party-fapi-pkj-mtls" "client-jwt" (texts []) [exampleMapper],
      exampleClient "api-gateway-introspection" "client-x509" (texts []) []]),
    (text "clientPolicies", .obj [(text "policies", .arr
      [.obj [(text "name", .str (text "fapi-2-confidential-clients")), (text "enabled", .bool true)]])]),
    (text "clientProfiles", .obj [(text "profiles", .arr [])])]

/-- One managed client that is out of date, and things of other origin. -/
def exampleServer : Server where
  realm := [(text "realm", .str (text "fapi-demo")), (text "displayName", .str (text "demo")),
    (text "clientPolicies", .obj [(text "policies", .arr
      [.obj [(text "name", .str (text "own-policy")), (text "enabled", .bool true)]])])]
  clients := ⟨[(text "a", ⟨[(text "clientId", .str (text "legacy"))], .empty⟩),
    (text "b", ⟨[(text "clientId", .str (text "third-party-fapi-mtls")),
      (text "attributes", texts [("x509.subjectdn", "CN=old"), ("acr.loa.map", "none")])],
      ⟨[(text "m", [(text "name", .str (text "audience"))])], by decide⟩⟩)], by decide +kernel⟩
  components := ⟨[(text "k", [(text "name", .str (text "hmac-generated"))])], by decide⟩

/-- Documents without floats. -/
def noFloats : FloatEquality := ⟨fun _ _ => false, fun _ _ => false⟩

theorem example_planned : ∃ plan, prepareSync noFloats exampleRealm exampleServer = .ok plan := by
  have h : (prepareSync noFloats exampleRealm exampleServer).isOk = true := by decide +kernel
  cases hplan : prepareSync noFloats exampleRealm exampleServer with
  | error failure =>
    rw [hplan] at h
    cases h
  | ok plan => exact ⟨plan, rfl⟩

end KonnectFapi.Guarantees

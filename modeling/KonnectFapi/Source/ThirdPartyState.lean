import KonnectFapi.Source.FoundationState

/-!
# The validator of the third-party runtime state

Source: scripts/wp1_target.py:283-513. The foundation file is read twice, so it is
given twice: as it was validated and as it was compared with.
-/

namespace KonnectFapi.Source.GatewayState
open Lib Lib.Yaml

inductive Route where
  | a
  | b
  deriving DecidableEq

namespace Route

/-- A property of the two routes is checked on each. -/
instance {P : Route → Prop} [DecidablePred P] : Decidable (∀ route, P route) :=
  decidable_of_iff (P a ∧ P b) ⟨fun h route => by cases route; exacts [h.1, h.2], fun h => ⟨h a, h b⟩⟩

/-- `route` in the messages. -/
def name : Route → String
  | a => "A"
  | b => "B"

/-- `route.lower()`. -/
def lower : Route → String
  | a => "a"
  | b => "b"

def routeId : Route → String
  | a => "754519ff-b0b9-5ed5-94c0-e453d260c6c4"
  | b => "0f45debe-a3a6-5207-aea3-637227fb96f2"

def certificateId : Route → String
  | a => "11111111-1111-4111-8111-111111111111"
  | b => "22222222-2222-4222-8222-222222222222"

def client : Route → String
  | a => "third-party-fapi-mtls"
  | b => "third-party-fapi-pkj-mtls"

def path : Route → String
  | a => "/api/fapi/mtls"
  | b => "/api/fapi/pkj-mtls"

/-- `THIRD_PARTY_RUNTIME_SERVICE_IDS`. -/
def serviceId : Route → String
  | a => "0e48dd20-46a0-5b94-832b-014b857c58b5"
  | b => "b52f6f69-8c94-5148-a6a2-dbc5b6e2c15e"

/-- `THIRD_PARTY_RUNTIME_PLUGIN_IDS`. -/
def pluginIds : Route → List (String × Yaml)
  | a => [("cors", str "66d86cb7-9d75-5b1b-855d-63b1a9a957f9"),
      ("openid-connect", str "96d4d14a-4b66-5751-b8b0-d000c6c84409"),
      ("request-transformer", str "1f1902cb-dfa2-5003-a3ae-9968b2c126b2")]
  | b => [("cors", str "be2f0305-7644-5e24-9c0d-c5c16e726492"),
      ("fapi-client-auth-bridge", str "564675c7-1913-5d2c-8e2f-af7709855db5"),
      ("openid-connect", str "fa9b36b8-2ae3-5240-ac4e-c1303c33bb9c"),
      ("request-transformer", str "2678d008-77b3-5ec1-bc5d-8e2a5f8633a5")]

/-- `expected_names`. -/
def pluginNames : Route → List String
  | a => ["cors", "openid-connect", "request-transformer"]
  | b => ["cors", "fapi-client-auth-bridge", "openid-connect", "request-transformer"]

def tags (route : Route) : Yaml := strs ["fapi2-demo", "route-" ++ route.lower]

end Route

def hopId : String := "742c3d79-850f-5761-9544-63864bab5cad"

def caId : String := "33333333-3333-4333-8333-333333333333"

def backendHop : Yaml :=
  obj [("id", str hopId), ("cert", str "foundation-template:DECK_BACKEND_HOP_CERT_YAML"),
    ("key", str "\x7bvault://env/BACKEND_HOP_KEY\x7d"), ("tags", strs ["fapi2-demo", "backend-hop"])]

def staticService : Yaml :=
  obj [("name", str "third-party-static-ui"), ("id", str "878509ff-0d35-56d2-ba0e-aec6bbf00fe7"),
    ("protocol", str "http"), ("host", str "ui"), ("port", int 80),
    ("tags", strs ["fapi2-demo", "static-ui"]),
    ("routes", .list [
      obj [("id", str "aaced8a8-6936-520b-96ea-026a7b01b4b6"), ("name", str "third-party-static-ui"),
        ("expression", str
          "(http.path == \"/\" || http.path == \"/index.html\" || http.path == \"/evidence.js\")"),
        ("protocols", strs ["https"]), ("strip_path", bool false), ("priority", int 100),
        ("tags", strs ["fapi2-demo", "static-ui"])]]),
    ("plugins", .list [
      obj [("name", str "request-transformer"), ("id", str "941cfa0a-ffad-517d-b7b3-0088089513ae"),
        ("tags", strs ["fapi2-demo", "static-ui"]),
        ("config", obj [("remove", obj [("headers", strs ["Cookie", "Authorization",
          "client_assertion", "client_assertion_type", "X-Client-Cert", "X-Fapi-Route",
          "X-Fapi-Client-Auth", "X-Demo-Department", "X-Demo-Route"])])])]])]

/-! ## The services of the two routes -/

/-- The route whose id the service's only route entity has. -/
def routeOf (service : Entries) : Option Route :=
  match get service "routes" with
  | .list [.dict entity] =>
    [Route.a, Route.b].find? fun route => same (get entity "id") (str route.routeId)
  | _ => none

def expectedService (route : Route) : List (String × Yaml) :=
  [("id", str route.serviceId), ("name", str ("third-party-route-" ++ route.lower ++ "-api")),
    ("protocol", str "https"), ("host", str "third-party-backend"), ("port", int 9444),
    ("path", str ("/evidence/route-" ++ route.lower)), ("tls_verify", bool true),
    ("ca_certificates", strs [caId]), ("client_certificate", str hopId), ("tags", route.tags)]

def expectedRoute (route : Route) : Yaml :=
  obj [("id", str route.routeId), ("name", str ("third-party-route-" ++ route.lower)),
    ("paths", strs [route.path]), ("protocols", strs ["https"]), ("strip_path", bool true),
    ("tags", route.tags)]

/-- One pass of the loop over the services: the route a service serves. -/
def placeService (seen : List Route) : Yaml → Except Refused (Route × Entries)
  | .dict service =>
    match routeOf service with
    | none => fail "third-party runtime Route A/B IDs are missing or duplicated"
    | some route =>
      if route ∈ seen then fail "third-party runtime Route A/B IDs are missing or duplicated"
      else do
        require (keysAre service ["id", "name", "protocol", "host", "port", "path", "tls_verify",
            "ca_certificates", "client_certificate", "tags", "routes", "plugins"] &&
            agrees service (expectedService route))
          ("third-party Route " ++ route.name ++
            " must use verified internal HTTPS and its fixed TLS identity")
        require (same (get service "routes") (.list [expectedRoute route]))
          ("third-party Route " ++ route.name ++ " identity or HTTPS scope changed")
        return (route, service)
  | _ => fail "third-party runtime service is malformed"

/-- `by_route` after the loop. -/
def placeServices (byRoute : List (Route × Entries)) :
    List Yaml → Except Refused (List (Route × Entries))
  | [] => .ok byRoute
  | service :: rest => do
    let placed ← placeService (byRoute.map (·.1)) service
    placeServices (byRoute ++ [placed]) rest

/-! ## The plugins of a route -/

/-- `plugins_by_name[name]`: the last plugin of that name. -/
def named (plugins : List Yaml) (name : String) : Entries :=
  match plugins.reverse.findSome? fun
    | .dict plugin => if same (get plugin "name") (str name) then some plugin else none
    | _ => none with
  | some plugin => plugin
  | none => []

/-- The only plugin of a name is the one found under it. -/
theorem named_eq {plugins : List Yaml} {name : String} {plugin : Entries}
    (hmem : .dict plugin ∈ plugins) (hname : same (get plugin "name") (str name) = true)
    (honly : ∀ other, .dict other ∈ plugins → same (get other "name") (str name) = true →
      other = plugin) : named plugins name = plugin := by
  unfold named
  split
  · rename_i found hfound
    obtain ⟨v, hv, hsome⟩ := List.exists_of_findSome?_eq_some hfound
    split at hsome
    · rename_i other
      split at hsome
      · rename_i hother
        cases hsome
        exact honly _ (List.mem_reverse.mp hv) hother
      · cases hsome
    · cases hsome
  · rename_i hnone
    have := List.findSome?_eq_none_iff.mp hnone _ (List.mem_reverse.mpr hmem)
    simp [hname] at this

/-- The names of the plugins that are mappings. -/
def pluginNames (plugins : List Yaml) : List Yaml :=
  plugins.filterMap fun
    | .dict plugin => some (get plugin "name")
    | _ => none

def expectedPluginId (route : Route) (name : Yaml) : Yaml :=
  match name with
  | .scalar key => (lookup key (entries route.pluginIds)).getD null
  | _ => null

def checkPlugin (route : Route) (plugin : Yaml) : Except Refused Unit :=
  let message := "third-party Route " ++ route.name ++ " plugin scope changed"
  match plugin with
  | .dict plugin =>
    require (keysAre plugin (["name", "id", "tags", "config"] ++
          if same (get plugin "name") (str "fapi-client-auth-bridge") then ["protocols"] else []) &&
        same (get plugin "id") (expectedPluginId route (get plugin "name")) &&
        same (get plugin "tags") route.tags)
      message
  | _ => fail message

def corsConfig : Yaml :=
  obj [("origins", strs ["https://localhost:8443"]), ("methods", strs ["GET", "POST", "OPTIONS"]),
    ("headers", strs ["Accept", "Content-Type", "X-Demo-Department", "X-Demo-Route"]),
    ("credentials", bool true), ("max_age", int 3600)]

def transformerConfig (route : Route) : Yaml :=
  obj [("remove", obj [("headers", strs ["Cookie", "client_assertion", "client_assertion_type",
      "X-Client-Cert", "X-Fapi-Route", "X-Fapi-Client-Auth"])]),
    ("add", obj [("headers", strs ["X-Fapi-Route:route-" ++ route.lower,
      "X-Fapi-Client-Auth:" ++
        if route = .a then "tls_client_auth" else "private_key_jwt+mtls"])])]

def issuer : String := "https://localhost:8444/realms/fapi-demo"

def internal : String := "https://keycloak:8443/realms/fapi-demo"

def tokenUrl : String := internal ++ "/protocol/openid-connect/token"
def jwksUrl : String := internal ++ "/protocol/openid-connect/certs"
def parUrl : String := internal ++ "/protocol/openid-connect/ext/par/request"
def revokeUrl : String := internal ++ "/protocol/openid-connect/revoke"

/-- `common_oidc`. -/
def commonOidc : List (String × Yaml) :=
  [("issuer", str issuer),
    ("authorization_endpoint", str (issuer ++ "/protocol/openid-connect/auth")),
    ("token_endpoint", str tokenUrl), ("mtls_token_endpoint", str tokenUrl),
    ("jwks_endpoint", str jwksUrl), ("pushed_authorization_request_endpoint", str parUrl),
    ("revocation_endpoint", str revokeUrl), ("mtls_revocation_endpoint", str revokeUrl),
    ("end_session_endpoint", str (issuer ++ "/protocol/openid-connect/logout")),
    ("client_auth", strs ["tls_client_auth"]),
    ("token_endpoint_auth_method", str "tls_client_auth"),
    ("tls_client_auth_ssl_verify", bool true), ("ssl_verify", bool true),
    ("auth_methods", strs ["authorization_code", "session"]), ("scopes", strs ["openid", "profile"]),
    ("response_mode", str "query"), ("login_tokens", strs ["id_token"]),
    ("require_proof_key_for_code_exchange", bool true),
    ("require_pushed_authorization_requests", bool true), ("login_action", str "redirect"),
    ("logout_uri_suffix", str "/logout"), ("logout_methods", strs ["GET", "POST"]),
    ("logout_revoke", bool true), ("logout_revoke_access_token", bool true),
    ("logout_revoke_refresh_token", bool true)]

def identityOidc (route : Route) : List (String × Yaml) :=
  [("client_id", strs [route.client]), ("tls_client_auth_cert_id", str route.certificateId)]

def terminalOidc (route : Route) : List (String × Yaml) :=
  [("login_redirect_uri", strs ["https://localhost:8443/?authenticated=route-" ++ route.lower]),
    ("logout_redirect_uri", strs ["https://localhost:8443/?logout=route-" ++ route.lower])]

def callbackOidc (route : Route) : List (String × Yaml) :=
  [("redirect_uri", strs ["https://localhost:8443" ++ route.path])]

def tokenHeaderOidc : List (String × Yaml) :=
  [("upstream_access_token_header", str "authorization:bearer")]

/-- Client authentication at the pushed request and revocation endpoints. -/
def methodsOidc : Route → List (String × Yaml)
  | .a => [("client_auth", strs ["tls_client_auth"]),
      ("pushed_authorization_request_endpoint_auth_method", str "tls_client_auth"),
      ("revocation_endpoint_auth_method", str "tls_client_auth")]
  | .b => [("client_alg", strs ["PS256"]),
      ("pushed_authorization_request_endpoint_auth_method", str "private_key_jwt"),
      ("revocation_endpoint_auth_method", str "private_key_jwt")]

/-- `expected_jwk`. -/
def expectedJwk : Yaml :=
  obj [("kty", str "RSA"), ("kid", str "foundation-template:DECK_ROUTE_B_JWK_KID"),
    ("use", str "sig"), ("alg", str "PS256"),
    ("n", str "foundation-template:DECK_ROUTE_B_JWK_N"),
    ("e", str "foundation-template:DECK_ROUTE_B_JWK_E"),
    ("d", str "\x7bvault://env/route-b-jwk/d\x7d"), ("p", str "\x7bvault://env/route-b-jwk/p\x7d"),
    ("q", str "\x7bvault://env/route-b-jwk/q\x7d"), ("dp", str "\x7bvault://env/route-b-jwk/dp\x7d"),
    ("dq", str "\x7bvault://env/route-b-jwk/dq\x7d"),
    ("qi", str "\x7bvault://env/route-b-jwk/qi\x7d")]

def keyOidc : Route → List (String × Yaml)
  | .a => []
  | .b => [("client_jwk", .list [expectedJwk])]

/-- `expected_bridge`. -/
def bridgeConfig : Yaml :=
  obj [("issuer", str issuer),
    ("discovery_endpoint",
      str "https://keycloak:8443/realms/fapi-demo/.well-known/openid-configuration"),
    ("client_id", str Route.b.client), ("private_key_file", str "/etc/kong/fapi/route-b-pkj.key"),
    ("tls_certificate_file", str "/etc/kong/fapi/route-b.crt"),
    ("key_id", str "foundation-template:DECK_ROUTE_B_JWK_KID"),
    ("assertion_delivery", str "transport_delegate"), ("assertion_ttl", int 60)]

/-- The openid-connect checks of a route, in their order. -/
def checkOidc (route : Route) (config : Yaml) : Except Refused Unit :=
  match config with
  | .dict oidc => do
    require (agrees oidc commonOidc)
      ("third-party Route " ++ route.name ++ " OIDC HTTPS, TLS, or session policy changed")
    require (agrees oidc (identityOidc route))
      ("third-party Route " ++ route.name ++ " TLS client identity changed")
    require (agrees oidc (terminalOidc route)) "third-party single-origin terminal changed"
    require (agrees oidc (callbackOidc route))
      ("third-party Route " ++ route.name ++ " callback URI changed")
    require (agrees oidc tokenHeaderOidc)
      ("third-party Route " ++ route.name ++ " upstream token behavior changed")
    require (agrees oidc (methodsOidc route))
      (match route with
        | .a => "third-party Route A must use TLS client authentication for PAR and revocation"
        | .b => "third-party Route B must retain stock PS256 PAR/revocation and TLS token auth")
    require (agrees oidc (keyOidc route))
      "third-party Route B stock PS256 signing JWK references changed"
  | _ => fail ("third-party Route " ++ route.name ++ " OIDC HTTPS, TLS, or session policy changed")

def checkBridge (plugin : Entries) : Except Refused Unit :=
  require (agrees plugin [("protocols", strs ["grpc", "grpcs", "http", "https"]),
      ("config", bridgeConfig)])
    "third-party Route B bridge must use the fixed transport delegate"

/-- One pass of the loop over the routes. -/
def checkRoute (route : Route) (service : Entries) : Except Refused Unit :=
  let message := "third-party Route " ++ route.name ++ " plugin set changed"
  match get service "plugins" with
  | .list plugins => do
    require (sameItems (pluginNames plugins) (route.pluginNames.map str)) message
    plugins.forM (checkPlugin route)
    require (same (get (named plugins "cors") "config") corsConfig)
      "third-party browser origin contract changed"
    require (same (get (named plugins "request-transformer") "config") (transformerConfig route))
      "third-party backend credential header boundary changed"
    checkOidc route (get (named plugins "openid-connect") "config")
    if route = .b then checkBridge (named plugins "fapi-client-auth-bridge")
  | _ => fail message

/-! ## `validate_third_party_runtime_state` -/

/-- The files as they are read, the foundation state twice. -/
structure Readings where
  compose : File
  state : File
  foundation : File
  foundationAgain : File

/-- `compose["services"]["kong-third-party"]["environment"]["KONG_ROUTER_FLAVOR"]`. -/
def routerFlavor (compose : Yaml) : Option Yaml :=
  ["services", "kong-third-party", "environment", "KONG_ROUTER_FLAVOR"].foldl (fun found name =>
    match found with
    | some (.dict mapping) => lookup (.str (text name)) mapping
    | _ => none) (some compose)

def checkCompose : File → Except Refused Unit
  | .missing => fail "third-party runtime base Compose declaration is missing or unsafe"
  | .holds compose _ =>
    match routerFlavor compose with
    | none => fail "third-party runtime base Compose router declaration is malformed"
    | some flavor =>
      require (same flavor (str "expressions"))
        "third-party runtime requires the base Compose expressions router"
  | _ => fail "third-party runtime base Compose router declaration is malformed"

def checkStatic (services : List Yaml) : Except Refused Unit :=
  match services.getLast? with
  | some last =>
    require (same last staticService) "static UI service, exact paths, or credential stripping changed"
  | none => .error .raised

/-- What the state has to share with the foundation. -/
def checkFoundationEntities (state foundation : Entries) : Except Refused Unit := do
  require (same (get state "ca_certificates") (get foundation "ca_certificates"))
    "third-party runtime must preserve the foundation ca_certificates exactly"
  require (same (get state "plugins") (get foundation "plugins"))
    "third-party runtime must preserve the foundation plugins exactly"
  match lookup (.str (text "certificates")) foundation with
  | some (.list certificates) =>
    require (same (get state "certificates") (.list (certificates ++ [backendHop])))
      "third-party runtime must preserve A/B certificates and add exactly the backend hop identity"
  | _ => .error .raised

def validateThirdPartyRuntimeState (files : Readings) : Except Refused Entries := do
  checkCompose files.compose
  require (!files.state matches .missing) "third-party runtime state is missing or unsafe"
  validateFoundationState .thirdParty files.foundation
  let state ← parseFoundation files.state
  let foundation ← parseFoundation files.foundationAgain
  require (keysAre state ["_format_version", "_info", "certificates", "ca_certificates", "plugins",
      "services"])
    "third-party runtime state contains unexpected entities or fields"
  require (agrees state [("_format_version", str "3.0"),
      ("_info", obj [("select_tags", strs ["fapi2-demo"])])])
    "third-party runtime select_tags must remain fapi2-demo"
  checkFoundationEntities state foundation
  let .list services := get state "services"
    | fail "third-party runtime must contain exactly fixed Route A/B and static UI services"
  require (services.length == 3)
    "third-party runtime must contain exactly fixed Route A/B and static UI services"
  checkStatic services
  let byRoute ← placeServices [] services.dropLast
  let some serviceA := byRoute.lookup .a
    | fail "third-party runtime Route A/B services are incomplete"
  let some serviceB := byRoute.lookup .b
    | fail "third-party runtime Route A/B services are incomplete"
  checkRoute .a serviceA
  checkRoute .b serviceB
  return state

/-! ## The openid-connect configuration of an accepted state -/

/-- The service of a route among the services of a state. -/
def serviceOf (services : List Yaml) (route : Route) : Option Entries :=
  services.findSome? fun
    | .dict service => if routeOf service = some route then some service else none
    | _ => none

def oidcConfiguration (state : Entries) (route : Route) : Yaml :=
  match get state "services" with
  | .list services =>
    match serviceOf services route with
    | some service =>
      match get service "plugins" with
      | .list plugins => get (named plugins "openid-connect") "config"
      | _ => null
    | none => null
  | _ => null

/-- What the checks of a route compare; `client_auth` is compared twice on route A. -/
def reviewedOidc (route : Route) : List (String × Yaml) :=
  commonOidc ++ identityOidc route ++ terminalOidc route ++ callbackOidc route ++ tokenHeaderOidc ++
    (methodsOidc route).filter (·.1 != "client_auth") ++ keyOidc route

def isReviewed (route : Route) (key : Scalar) : Bool :=
  (reviewedOidc route).any fun e => key.same (.str (text e.1))

/-- The options no check of the route looks at. -/
def furtherOptions (route : Route) : Yaml → Entries
  | .dict oidc => oidc.filter fun e => !isReviewed route e.1
  | _ => []

theorem placeService_eq_ok {seen : List Route} {service : Yaml} {placed : Route × Entries}
    (h : placeService seen service = .ok placed) :
    service = .dict placed.2 ∧ routeOf placed.2 = some placed.1 ∧ placed.1 ∉ seen := by
  unfold placeService at h
  split at h
  · rename_i entries
    split at h
    · cases h
    · rename_i route hroute
      split at h
      · cases h
      · rename_i hnew
        obtain ⟨_, _, h⟩ := bind_eq_ok.mp h
        obtain ⟨_, _, h⟩ := bind_eq_ok.mp h
        cases h
        exact ⟨rfl, hroute, hnew⟩
  · cases h

theorem lookup_placeServices {services : List Yaml} {before byRoute : List (Route × Entries)}
    (h : placeServices before services = .ok byRoute) (route : Route) :
    byRoute.lookup route = (before.lookup route).or (serviceOf services route) := by
  induction services generalizing before with
  | nil =>
    cases h
    simp [serviceOf]
  | cons service rest ih =>
    obtain ⟨⟨placed, entries⟩, hplaced, hrest⟩ := bind_eq_ok.mp h
    obtain ⟨rfl, hroute, hnew⟩ := placeService_eq_ok hplaced
    rw [ih hrest, List.lookup_append]
    by_cases hthis : placed = route
    · subst hthis
      have hbefore : before.lookup placed = none := by
        refine List.lookup_eq_none_iff.mpr fun e he => bne_iff_ne.mpr fun heq => hnew ?_
        exact List.mem_map.mpr ⟨e, he, heq.symm⟩
      simp only [hbefore, serviceOf, hroute, List.findSome?_cons, if_true, List.lookup_cons_self,
        Option.none_or, Option.some_or]
    · have hother : ¬ routeOf entries = some route := by
        rw [hroute]
        exact fun heq => hthis (Option.some.inj heq)
      have hne : (route == placed) = false := beq_eq_false_iff_ne.mpr (Ne.symm hthis)
      simp only [serviceOf, hother, if_false, List.findSome?_cons, List.lookup_cons, hne,
        List.lookup_nil, Option.or_none]

theorem serviceOf_dropLast {services : List Yaml} {route : Route} {service : Entries}
    (h : serviceOf services.dropLast route = some service) : serviceOf services route = some service := by
  cases services with
  | nil => exact h
  | cons v rest =>
    rw [serviceOf, ← List.dropLast_append_getLast (l := v :: rest) (by simp), List.findSome?_append]
    rw [serviceOf] at h
    rw [h]
    rfl

theorem methodsOidc_subset (route : Route) {e : String × Yaml} (he : e ∈ methodsOidc route) :
    e ∈ commonOidc ∨ e ∈ (methodsOidc route).filter (·.1 != "client_auth") := by
  by_cases hname : e.1 = "client_auth"
  · left
    cases route <;> simp only [methodsOidc, List.mem_cons, List.not_mem_nil, or_false] at he
    · rcases he with rfl | rfl | rfl
      · simp [commonOidc]
      · simp at hname
      · simp at hname
    · rcases he with rfl | rfl | rfl <;> simp at hname
  · right
    exact List.mem_filter.mpr ⟨he, by simpa using hname⟩

theorem checkOidc_eq_ok {route : Route} {config : Yaml} {u : Unit} :
    checkOidc route config = .ok u ↔
      ∃ oidc, config = .dict oidc ∧ agrees oidc (reviewedOidc route) = true := by
  constructor
  · intro h
    unfold checkOidc at h
    split at h
    · rename_i oidc
      obtain ⟨_, hcommon, h⟩ := bind_eq_ok.mp h
      obtain ⟨_, hidentity, h⟩ := bind_eq_ok.mp h
      obtain ⟨_, hterminal, h⟩ := bind_eq_ok.mp h
      obtain ⟨_, hcallback, h⟩ := bind_eq_ok.mp h
      obtain ⟨_, hheader, h⟩ := bind_eq_ok.mp h
      obtain ⟨_, hmethods, hkey⟩ := bind_eq_ok.mp h
      rw [require_eq_ok] at hcommon hidentity hterminal hcallback hheader hmethods hkey
      refine ⟨oidc, rfl, List.all_eq_true.mpr fun e he => ?_⟩
      simp only [reviewedOidc, List.mem_append] at he
      rcases he with (((((he | he) | he) | he) | he) | he) | he
      · exact List.all_eq_true.mp hcommon e he
      · exact List.all_eq_true.mp hidentity e he
      · exact List.all_eq_true.mp hterminal e he
      · exact List.all_eq_true.mp hcallback e he
      · exact List.all_eq_true.mp hheader e he
      · exact List.all_eq_true.mp hmethods e (List.mem_filter.mp he).1
      · exact List.all_eq_true.mp hkey e he
    · cases h
  · rintro ⟨oidc, rfl, h⟩
    have part {expected : List (String × Yaml)} (hsub : ∀ e ∈ expected, e ∈ reviewedOidc route)
        (message : String) : require (agrees oidc expected) message = .ok () :=
      require_eq_ok.mpr (List.all_eq_true.mpr fun e he => List.all_eq_true.mp h e (hsub e he))
    unfold checkOidc
    refine bind_eq_ok.mpr ⟨(), part (fun e he => by simp [reviewedOidc, he]) _, ?_⟩
    refine bind_eq_ok.mpr ⟨(), part (fun e he => by simp [reviewedOidc, he]) _, ?_⟩
    refine bind_eq_ok.mpr ⟨(), part (fun e he => by simp [reviewedOidc, he]) _, ?_⟩
    refine bind_eq_ok.mpr ⟨(), part (fun e he => by simp [reviewedOidc, he]) _, ?_⟩
    refine bind_eq_ok.mpr ⟨(), part (fun e he => by simp [reviewedOidc, he]) _, ?_⟩
    refine bind_eq_ok.mpr ⟨(), part (fun e he => ?_) _, ?_⟩
    · simp only [reviewedOidc, List.mem_append]
      rcases methodsOidc_subset route he with hcommon | hmethods
      · simp only [hcommon, true_or]
      · simp only [hmethods, or_true, true_or]
    · exact part (fun e he => by simp [reviewedOidc, he]) _

/-- The openid-connect check of a route ran on what its service holds. -/
theorem checkRoute_oidc {route : Route} {service : Entries} {u : Unit}
    (h : checkRoute route service = .ok u) :
    ∃ plugins, get service "plugins" = .list plugins ∧
      checkOidc route (get (named plugins "openid-connect") "config") = .ok () := by
  unfold checkRoute at h
  split at h
  · rename_i plugins hplugins
    obtain ⟨_, _, h⟩ := bind_eq_ok.mp h
    obtain ⟨_, _, h⟩ := bind_eq_ok.mp h
    obtain ⟨_, _, h⟩ := bind_eq_ok.mp h
    obtain ⟨_, _, h⟩ := bind_eq_ok.mp h
    obtain ⟨_, hoidc, _⟩ := bind_eq_ok.mp h
    exact ⟨plugins, hplugins, hoidc⟩
  · cases h

/-- An accepted state is the one in the file, its list of services serves both routes. -/
theorem validate_services {files : Readings} {state : Entries}
    (h : validateThirdPartyRuntimeState files = .ok state) :
    parseFoundation files.state = .ok state ∧
      ∃ services, get state "services" = .list services ∧
        ∀ route, ∃ service, serviceOf services route = some service ∧
          checkRoute route service = .ok () := by
  unfold validateThirdPartyRuntimeState at h
  obtain ⟨_, _, h⟩ := bind_eq_ok.mp h
  obtain ⟨_, _, h⟩ := bind_eq_ok.mp h
  obtain ⟨_, _, h⟩ := bind_eq_ok.mp h
  obtain ⟨parsed, hparsed, h⟩ := bind_eq_ok.mp h
  obtain ⟨foundation, _, h⟩ := bind_eq_ok.mp h
  obtain ⟨_, _, h⟩ := bind_eq_ok.mp h
  obtain ⟨_, _, h⟩ := bind_eq_ok.mp h
  obtain ⟨_, _, h⟩ := bind_eq_ok.mp h
  split at h
  · rename_i services hservices
    obtain ⟨_, _, h⟩ := bind_eq_ok.mp h
    obtain ⟨_, _, h⟩ := bind_eq_ok.mp h
    obtain ⟨byRoute, hplaced, h⟩ := bind_eq_ok.mp h
    have served {route : Route} {service : Entries} (hfound : byRoute.lookup route = some service) :
        serviceOf services route = some service := by
      rw [lookup_placeServices hplaced] at hfound
      exact serviceOf_dropLast (by simpa using hfound)
    split at h
    · rename_i serviceA hA
      split at h
      · rename_i serviceB hB
        obtain ⟨_, hcheckA, h⟩ := bind_eq_ok.mp h
        obtain ⟨_, hcheckB, h⟩ := bind_eq_ok.mp h
        cases h
        refine ⟨hparsed, services, hservices, fun route => ?_⟩
        cases route with
        | a => exact ⟨serviceA, served hA, hcheckA⟩
        | b => exact ⟨serviceB, served hB, hcheckB⟩
      · cases h
    · cases h
  · cases h

/-- The checks of an accepted state ran on the configurations it holds. -/
theorem accepted_oidc {files : Readings} {state : Entries}
    (h : validateThirdPartyRuntimeState files = .ok state) (route : Route) :
    ∃ oidc, oidcConfiguration state route = .dict oidc ∧
      agrees oidc (reviewedOidc route) = true := by
  obtain ⟨_, services, hservices, hroutes⟩ := validate_services h
  obtain ⟨service, hservice, hcheck⟩ := hroutes route
  obtain ⟨plugins, hplugins, hoidc⟩ := checkRoute_oidc hcheck
  obtain ⟨oidc, hconfig, hagrees⟩ := checkOidc_eq_ok.mp hoidc
  refine ⟨oidc, ?_, hagrees⟩
  simp only [oidcConfiguration, hservices, hservice, hplugins, hconfig]

end KonnectFapi.Source.GatewayState

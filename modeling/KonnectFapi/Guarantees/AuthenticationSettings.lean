import KonnectFapi.Source.ThirdPartyState

/-!
# The authentication settings of an accepted third-party state

Source: scripts/wp1_target.py:283-513. Every option the validator compares is fixed on
both routes; every other option of the openid-connect plugin passes unseen. So an
accepted configuration is the reviewed one exactly when it has no further option, and
two accepted ones are identical exactly when their further options are. The validator
of the API gateway compares the whole configuration.
-/

namespace KonnectFapi.Guarantees
open Lib Lib.Yaml Source.GatewayState

/-! ## Values out of a loaded document -/

theorem loaded_get {mapping : Entries} (h : (Yaml.dict mapping).Loaded) (name : String) :
    (get mapping name).Loaded := by
  unfold Yaml.get
  cases hfound : lookup (.str (text name)) mapping with
  | none => exact trivial
  | some v => exact loaded_of_lookup h.2 hfound

theorem loaded_serviceOf {services : List Yaml} (h : (Yaml.list services).Loaded) {route : Route}
    {service : Entries} (hservice : serviceOf services route = some service) :
    (Yaml.dict service).Loaded := by
  obtain ⟨v, hmem, hv⟩ := List.exists_of_findSome?_eq_some hservice
  have hloaded := loadedItems_iff.mp h v hmem
  split at hv
  · split at hv
    · cases hv
      exact hloaded
    · cases hv
  · cases hv

theorem loaded_named {plugins : List Yaml} (h : (Yaml.list plugins).Loaded) (name : String) :
    (Yaml.dict (named plugins name)).Loaded := by
  unfold named
  split
  · rename_i plugin hplugin
    obtain ⟨v, hmem, hv⟩ := List.exists_of_findSome?_eq_some hplugin
    have hloaded := loadedItems_iff.mp h v (List.mem_reverse.mp hmem)
    split at hv
    · split at hv
      · cases hv
        exact hloaded
      · cases hv
    · cases hv
  · exact ⟨List.Pairwise.nil, trivial⟩

theorem loaded_oidcConfiguration {state : Entries} (h : (Yaml.dict state).Loaded) (route : Route) :
    (oidcConfiguration state route).Loaded := by
  unfold oidcConfiguration
  split
  · rename_i services hservices
    split
    · rename_i service hservice
      split
      · rename_i plugins hplugins
        have hlist := loaded_get h "services"
        rw [hservices] at hlist
        have hentries := loaded_get (loaded_serviceOf hlist hservice) "plugins"
        rw [hplugins] at hentries
        exact loaded_get (loaded_named hentries _) _
      · exact trivial
    · exact trivial
  · exact trivial

theorem accepted_loaded {files : Readings} {state : Entries}
    (h : validateThirdPartyRuntimeState files = .ok state) : (Yaml.dict state).Loaded :=
  parseFoundation_loaded (validate_services h).1

/-! ## The reviewed options -/

theorem isReviewed_respects (route : Route) : Respects (isReviewed route) := by
  intro a b hab
  unfold isReviewed
  congr 1
  funext e
  rw [Scalar.same_comm a, Scalar.same_comm b]
  exact Scalar.same_congr hab _

theorem reviewed_loaded : ∀ route, (obj (reviewedOidc route)).Loaded := by decide +kernel

/-- No reviewed value is the null value. -/
theorem reviewed_present (route : Route) :
    (reviewedOidc route).all (fun e => !same null e.2) = true := by
  cases route <;> rfl

theorem reviewed_agrees (route : Route) :
    agrees (entries (reviewedOidc route)) (reviewedOidc route) = true := by
  refine agrees_of_mem (reviewed_loaded route).1 (fun e he => he) (reviewed_loaded route).2 ?_
  cases route <;> rfl

theorem isReviewed_iff {route : Route} {key : Scalar} :
    isReviewed route key = true ↔
      ∃ e ∈ reviewedOidc route, key.same (.str (text e.1)) = true := by
  simp [isReviewed]

/-- An option the checks compare is there, with the value they compare it with. -/
theorem reviewed_value {route : Route} {oidc : Entries}
    (h : agrees oidc (reviewedOidc route) = true) {e : String × Yaml} (he : e ∈ reviewedOidc route) :
    ∃ v, lookup (.str (text e.1)) oidc = some v ∧ same v e.2 = true := by
  have hsame := List.all_eq_true.mp h e he
  have hpresent := List.all_eq_true.mp (reviewed_present route) e he
  unfold Yaml.get at hsame
  cases hfound : lookup (.str (text e.1)) oidc with
  | none =>
    rw [hfound, Option.getD_none] at hsame
    simp [hsame] at hpresent
  | some v =>
    rw [hfound] at hsame
    exact ⟨v, rfl, hsame⟩

/-- The compared part of an accepted configuration is the reviewed one. -/
theorem reviewed_part {route : Route} {oidc : Entries} (hloaded : (Yaml.dict oidc).Loaded)
    (h : agrees oidc (reviewedOidc route) = true) :
    same (.dict (oidc.filter fun e => isReviewed route e.1)) (obj (reviewedOidc route)) = true := by
  have hreviewed := reviewed_loaded route
  have hfound : ∀ e ∈ oidc.filter (fun e => isReviewed route e.1),
      ∃ w, lookup e.1 (entries (reviewedOidc route)) = some w ∧ same e.2 w = true := by
    intro e he
    obtain ⟨hmem, hkey⟩ := List.mem_filter.mp he
    obtain ⟨f, hf, hsame⟩ := isReviewed_iff.mp hkey
    obtain ⟨v, hv, hvf⟩ := reviewed_value h hf
    rw [lookup_of_mem hloaded.1 hmem hsame] at hv
    cases hv
    refine ⟨f.2, ?_, hvf⟩
    exact lookup_of_mem hreviewed.1 (List.mem_map_of_mem hf) (Scalar.same_symm hsame)
  have hback : ∀ e ∈ entries (reviewedOidc route),
      (lookup e.1 (oidc.filter fun e => isReviewed route e.1)).isSome = true := by
    intro e he
    obtain ⟨f, hf, rfl⟩ := List.mem_map.mp he
    obtain ⟨v, hv, _⟩ := reviewed_value h hf
    have hkey : isReviewed route (.str (text f.1)) = true :=
      isReviewed_iff.mpr ⟨f, hf, by simp⟩
    rw [lookup_filter (isReviewed_respects route), if_pos hkey, hv]
    rfl
  refine same_dict_iff.mpr ⟨?_, sameEntries_iff.mpr hfound⟩
  refine length_eq_of_found (distinctKeys_filter hloaded.1 _) hreviewed.1 (fun e he => ?_) hback
  obtain ⟨w, hw, _⟩ := hfound e he
  simp [hw]

theorem reviewed_filter (route : Route) :
    (entries (reviewedOidc route)).filter (fun e => isReviewed route e.1) =
      entries (reviewedOidc route) := by
  refine List.filter_eq_self.mpr fun e he => ?_
  obtain ⟨f, hf, rfl⟩ := List.mem_map.mp he
  exact isReviewed_iff.mpr ⟨f, hf, by simp⟩

theorem reviewed_further (route : Route) : furtherOptions route (obj (reviewedOidc route)) = [] := by
  refine List.filter_eq_nil_iff.mpr fun e he => ?_
  rw [← reviewed_filter route] at he
  simp [(List.mem_filter.mp he).2]

/-- Two configurations the checks accept are equal when their further options are. -/
theorem same_iff_further {route : Route} {xs ys : Entries} (hx : (Yaml.dict xs).Loaded)
    (hy : (Yaml.dict ys).Loaded) (hxs : agrees xs (reviewedOidc route) = true)
    (hys : agrees ys (reviewedOidc route) = true) :
    same (.dict xs) (.dict ys) = true ↔
      same (.dict (furtherOptions route (.dict xs))) (.dict (furtherOptions route (.dict ys))) =
        true := by
  refine same_dict_iff_of_part (isReviewed_respects route) ?_
  have hback : same (obj (reviewedOidc route)) (.dict (ys.filter fun e => isReviewed route e.1)) =
      true := same_symm (loaded_filter hy _) (reviewed_loaded route) (reviewed_part hy hys)
  exact same_trans (reviewed_part hx hxs) hback

theorem same_empty_iff {xs : Entries} : same (.dict xs) (.dict []) = true ↔ xs = [] := by
  rw [same_dict_iff]
  refine ⟨fun h => List.eq_nil_of_length_eq_zero h.1, fun h => ?_⟩
  subst h
  exact ⟨rfl, rfl⟩

/-! ## The shipped state, with any configurations of the two routes -/

def shippedCompose : Yaml :=
  obj [("services", obj [("kong-third-party",
    obj [("environment", obj [("KONG_ROUTER_FLAVOR", str "expressions")])])])]

def foundationTags : Yaml := strs ["fapi2-demo", "fapi2-foundation"]

def shippedCertificates : List Yaml :=
  [obj [("id", str "11111111-1111-4111-8111-111111111111"),
      ("cert", str "foundation-template:DECK_ROUTE_A_TLS_CERT_YAML"),
      ("key", str "\x7bvault://env/ROUTE_A_TLS_KEY\x7d"), ("tags", foundationTags)],
    obj [("id", str "22222222-2222-4222-8222-222222222222"),
      ("cert", str "foundation-template:DECK_ROUTE_B_TLS_CERT_YAML"),
      ("key", str "\x7bvault://env/ROUTE_B_TLS_KEY\x7d"), ("tags", foundationTags)]]

def shippedCa : Yaml :=
  .list [obj [("id", str "33333333-3333-4333-8333-333333333333"),
    ("cert", str "foundation-template:DECK_FAPI_CA_CERT_YAML"), ("tags", foundationTags)]]

def shippedTransport : Yaml :=
  .list [obj [("id", str "88888888-8888-4888-8888-888888888888"),
    ("name", str "fapi-as-mtls-transport"), ("enabled", bool true),
    ("protocols", strs ["http", "https"]), ("tags", foundationTags), ("config", transportConfig)]]

def shippedEntities : List (String × Yaml) :=
  [("ca_certificates", shippedCa), ("plugins", shippedTransport)]

def shippedFoundationEntries : List (String × Yaml) :=
  [("_format_version", str "3.0"), ("_info", obj [("select_tags", foundationTags)]),
    ("certificates", .list shippedCertificates)] ++ shippedEntities

def shippedFoundation : Yaml := obj shippedFoundationEntries

def shippedPlugin (route : Route) (name : String) (config : Yaml) : List (String × Yaml) :=
  [("name", str name), ("id", expectedPluginId route (str name)), ("tags", route.tags),
    ("config", config)]

def shippedBridge : List (String × Yaml) :=
  shippedPlugin .b "fapi-client-auth-bridge" bridgeConfig ++
    [("protocols", strs ["grpc", "grpcs", "http", "https"])]

def shippedPlugins (route : Route) (config : Yaml) : List Yaml :=
  [obj (shippedPlugin route "cors" corsConfig)] ++
    (match route with
      | .a => []
      | .b => [obj shippedBridge]) ++
    [obj (shippedPlugin route "openid-connect" config),
      obj (shippedPlugin route "request-transformer" (transformerConfig route))]

def shippedService (route : Route) (config : Yaml) : List (String × Yaml) :=
  expectedService route ++ [("routes", .list [expectedRoute route]),
    ("plugins", .list (shippedPlugins route config))]

def shippedState (config : Route → Yaml) : List (String × Yaml) :=
  [("_format_version", str "3.0"), ("_info", obj [("select_tags", strs ["fapi2-demo"])]),
    ("certificates", .list (shippedCertificates ++ [backendHop]))] ++ shippedEntities ++
    [("services", .list [obj (shippedService .a (config .a)), obj (shippedService .b (config .b)),
      staticService])]

theorem shippedPlugin_names (route : Route) (name : String) (config : Yaml) :
    (shippedPlugin route name config).map (·.1) = ["name", "id", "tags", "config"] := rfl

theorem shippedService_names (route : Route) (config : Yaml) :
    (shippedService route config).map (·.1) = ["id", "name", "protocol", "host", "port", "path",
      "tls_verify", "ca_certificates", "client_certificate", "tags", "routes", "plugins"] := rfl

theorem shippedState_names (config : Route → Yaml) :
    (shippedState config).map (·.1) = ["_format_version", "_info", "certificates",
      "ca_certificates", "plugins", "services"] := rfl

/-- No mapping of the shipped state repeats a key. -/
theorem shipped_names : ∀ names ∈ [["name", "id", "tags", "config"],
    ["id", "name", "protocol", "host", "port", "path", "tls_verify", "ca_certificates",
      "client_certificate", "tags", "routes", "plugins"],
    ["_format_version", "_info", "certificates", "ca_certificates", "plugins", "services"],
    ["_format_version", "_info", "certificates", "ca_certificates", "plugins"],
    ["name", "id", "tags", "config", "protocols"]], (names.map text).Nodup := by
  decide +kernel

theorem shipped_fixed :
    (∀ route, (transformerConfig route).Loaded ∧ (expectedRoute route).Loaded ∧
      LoadedEntries (entries (expectedService route))) ∧
    corsConfig.Loaded ∧ LoadedEntries (entries shippedBridge) ∧ staticService.Loaded ∧
      LoadedEntries (entries shippedFoundationEntries) ∧ backendHop.Loaded ∧
      shippedCompose.Loaded := by
  decide +kernel

/-- Ids and names are told apart where the validator tells them apart. -/
theorem shipped_identities :
    (∀ route, routeOf (entries [("routes", .list [expectedRoute route])]) = some route) ∧
    (∀ route, ∀ name ∈ ["cors", "openid-connect", "request-transformer"],
      same (expectedPluginId route (str name)) (expectedPluginId route (str name)) = true) ∧
    (∀ name ∈ Route.b.pluginNames, ∀ other ∈ Route.b.pluginNames,
      same (str name) (str other) = decide (name = other)) ∧
    accepts (checkPlugin .b (obj shippedBridge)) = true := by
  decide +kernel

theorem shippedPlugin_distinct (route : Route) (name : String) (config : Yaml) :
    DistinctKeys (entries (shippedPlugin route name config)) := by
  refine distinctKeys_entries (shipped_names _ ?_)
  rw [shippedPlugin_names]
  exact List.mem_cons_self

theorem shippedService_distinct (route : Route) (config : Yaml) :
    DistinctKeys (entries (shippedService route config)) := by
  refine distinctKeys_entries (shipped_names _ ?_)
  rw [shippedService_names]
  exact List.mem_cons_of_mem _ List.mem_cons_self

theorem shippedState_distinct (config : Route → Yaml) :
    DistinctKeys (entries (shippedState config)) := by
  refine distinctKeys_entries (shipped_names _ ?_)
  rw [shippedState_names]
  exact List.mem_cons_of_mem _ (List.mem_cons_of_mem _ List.mem_cons_self)

theorem shippedFoundation_distinct : DistinctKeys (entries shippedFoundationEntries) :=
  distinctKeys_entries (shipped_names _ (by simp [shippedFoundationEntries, shippedEntities]))

theorem shippedBridge_distinct : DistinctKeys (entries shippedBridge) :=
  distinctKeys_entries (shipped_names _ (by simp [shippedBridge, shippedPlugin]))

theorem shippedCompose_loaded : shippedCompose.Loaded := shipped_fixed.2.2.2.2.2.2

theorem shippedFoundation_loaded : shippedFoundation.Loaded :=
  ⟨shippedFoundation_distinct, shipped_fixed.2.2.2.2.1⟩

/-! ### The plugins of a route -/

theorem shippedPlugin_loaded (route : Route) (name : String) {config : Yaml} (h : config.Loaded)
    (hid : (expectedPluginId route (str name)).Loaded) :
    (obj (shippedPlugin route name config)).Loaded := by
  refine ⟨shippedPlugin_distinct route name config, trivial, hid, ?_, h, trivial⟩
  cases route <;> exact ⟨trivial, trivial, trivial⟩

theorem expectedPluginId_loaded (route : Route) (name : String) :
    (expectedPluginId route (str name)).Loaded := by
  have hids : LoadedEntries (entries route.pluginIds) := by
    cases route <;> simp [Route.pluginIds, entries, LoadedEntries, str, Loaded]
  unfold expectedPluginId
  simp only [str]
  cases hfound : lookup (.str (text name)) (entries route.pluginIds) with
  | none => exact trivial
  | some v => exact loaded_of_lookup hids hfound

theorem shippedPlugins_loaded (route : Route) {config : Yaml} (h : config.Loaded) :
    (Yaml.list (shippedPlugins route config)).Loaded := by
  have plugin (name : String) {c : Yaml} (hc : c.Loaded) :=
    shippedPlugin_loaded route name hc (expectedPluginId_loaded route name)
  have hcors := plugin "cors" shipped_fixed.2.1
  have htransformer := plugin "request-transformer" (shipped_fixed.1 route).1
  have hbridge : (obj shippedBridge).Loaded := ⟨shippedBridge_distinct, shipped_fixed.2.2.1⟩
  cases route with
  | a => exact ⟨hcors, plugin "openid-connect" h, htransformer, trivial⟩
  | b => exact ⟨hcors, hbridge, plugin "openid-connect" h, htransformer, trivial⟩

theorem shippedPlugin_get (route : Route) (name : String) (config : Yaml) {key : String} {v : Yaml}
    (h : (key, v) ∈ shippedPlugin route name config) :
    Yaml.get (entries (shippedPlugin route name config)) key = v :=
  get_of_mem (shippedPlugin_distinct route name config) (List.mem_map_of_mem h)

theorem shippedPlugin_name (route : Route) (name : String) (config : Yaml) :
    Yaml.get (entries (shippedPlugin route name config)) "name" = str name :=
  shippedPlugin_get route name config (by simp [shippedPlugin])

theorem shippedPlugin_config (route : Route) (name : String) (config : Yaml) :
    Yaml.get (entries (shippedPlugin route name config)) "config" = config :=
  shippedPlugin_get route name config (by simp [shippedPlugin])

theorem shippedPlugin_checked (route : Route) {name : String} (config : Yaml)
    (hname : name ∈ ["cors", "openid-connect", "request-transformer"]) :
    checkPlugin route (obj (shippedPlugin route name config)) = .ok () := by
  have hget {key : String} {v : Yaml} (h : (key, v) ∈ shippedPlugin route name config) :=
    shippedPlugin_get route name config h
  have hid : Yaml.get (entries (shippedPlugin route name config)) "id" =
      expectedPluginId route (str name) := hget (by simp [shippedPlugin])
  have htags : Yaml.get (entries (shippedPlugin route name config)) "tags" = route.tags :=
    hget (by simp [shippedPlugin])
  have hbridge : same (str name) (str "fapi-client-auth-bridge") = false := by
    simp only [List.mem_cons, List.not_mem_nil, or_false] at hname
    rcases hname with rfl | rfl | rfl <;>
      exact shipped_identities.2.2.1 _ (by simp [Route.pluginNames]) _ (by simp [Route.pluginNames])
  have hsame : same route.tags route.tags = true := by
    cases route <;> exact same_refl ⟨trivial, trivial, trivial⟩ rfl
  have hkeys := keysAre_entries (shippedPlugin_names route name config)
  refine require_eq_ok.mpr ?_
  rw [shippedPlugin_name, hid, htags, hbridge, shipped_identities.2.1 route name hname, hsame]
  simpa using hkeys

theorem shippedBridge_checked : checkPlugin .b (obj shippedBridge) = .ok () :=
  accepts_iff.mp shipped_identities.2.2.2

theorem shippedPlugins_checked (route : Route) (config : Yaml) :
    (shippedPlugins route config).forM (checkPlugin route) = .ok () := by
  refine forM_eq_ok.mpr fun plugin hplugin => ?_
  simp only [shippedPlugins, List.mem_append, List.mem_cons, List.not_mem_nil, or_false] at hplugin
  rcases hplugin with (rfl | hbridge) | rfl | rfl
  · exact shippedPlugin_checked route _ (by simp)
  · cases route with
    | a => cases hbridge
    | b =>
      rw [List.mem_singleton.mp hbridge]
      exact shippedBridge_checked
  · exact shippedPlugin_checked route _ (by simp)
  · exact shippedPlugin_checked route _ (by simp)

theorem shippedBridge_name :
    Yaml.get (entries shippedBridge) "name" = str "fapi-client-auth-bridge" :=
  get_of_mem shippedBridge_distinct
    (List.mem_map.mpr ⟨("name", _), by simp [shippedBridge, shippedPlugin], rfl⟩)

theorem shippedPlugins_names (route : Route) (config : Yaml) :
    pluginNames (shippedPlugins route config) = route.pluginNames.map str := by
  cases route <;>
    simp only [shippedPlugins, pluginNames, List.filterMap, obj, shippedPlugin_name,
      shippedBridge_name, List.append_nil, List.cons_append, List.nil_append, Route.pluginNames,
      List.map_cons, List.map_nil]

theorem mem_shippedPlugins {route : Route} {config : Yaml} {plugin : Entries}
    (h : .dict plugin ∈ shippedPlugins route config) :
    plugin = entries (shippedPlugin route "cors" corsConfig) ∨ plugin = entries shippedBridge ∨
      plugin = entries (shippedPlugin route "openid-connect" config) ∨
      plugin = entries (shippedPlugin route "request-transformer" (transformerConfig route)) := by
  simp only [shippedPlugins, List.mem_append, List.mem_cons, List.not_mem_nil, or_false, obj,
    Yaml.dict.injEq] at h
  rcases h with (rfl | hbridge) | rfl | rfl
  · exact .inl rfl
  · cases route with
    | a => cases hbridge
    | b =>
      cases List.mem_singleton.mp hbridge
      exact .inr (.inl rfl)
  · exact .inr (.inr (.inl rfl))
  · exact .inr (.inr (.inr rfl))

/-- The four names differ, so each plugin is found under its own. -/
theorem shippedPlugins_named {route : Route} {config : Yaml} {plugin : Entries} {name : String}
    (hmem : .dict plugin ∈ shippedPlugins route config) (hname : Yaml.get plugin "name" = str name) :
    named (shippedPlugins route config) name = plugin := by
  have hdiffer := shipped_identities.2.2.1
  simp only [Route.pluginNames, List.mem_cons, List.not_mem_nil, or_false, forall_eq_or_imp,
    forall_eq] at hdiffer
  refine named_eq hmem ?_ fun other hother hsame => ?_
  · rw [hname]
    exact same_refl trivial rfl
  · rcases mem_shippedPlugins hmem with rfl | rfl | rfl | rfl <;>
      rcases mem_shippedPlugins hother with rfl | rfl | rfl | rfl <;>
      simp_all [shippedPlugin_name, shippedBridge_name]

/-! ### The services -/

theorem shippedService_plugins (route : Route) (config : Yaml) :
    Yaml.get (entries (shippedService route config)) "plugins" =
      .list (shippedPlugins route config) :=
  get_of_mem (shippedService_distinct route config)
    (List.mem_map.mpr ⟨("plugins", _), by simp [shippedService], rfl⟩)

theorem shippedService_routes (route : Route) (config : Yaml) :
    Yaml.get (entries (shippedService route config)) "routes" = .list [expectedRoute route] :=
  get_of_mem (shippedService_distinct route config)
    (List.mem_map.mpr ⟨("routes", _), by simp [shippedService], rfl⟩)

theorem shippedService_loaded (route : Route) {config : Yaml} (h : config.Loaded) :
    (obj (shippedService route config)).Loaded := by
  refine ⟨shippedService_distinct route config, loadedEntries_iff.mpr fun e he => ?_⟩
  simp only [shippedService, entries, List.map_append, List.mem_append, List.map_cons, List.map_nil,
    List.mem_cons, List.not_mem_nil, or_false] at he
  rcases he with he | rfl | rfl
  · exact loadedEntries_iff.mp (shipped_fixed.1 route).2.2 _ he
  · exact ⟨(shipped_fixed.1 route).2.1, trivial⟩
  · exact shippedPlugins_loaded route h

theorem shippedRoute_checked (route : Route) {config : Yaml} (h : checkOidc route config = .ok ()) :
    checkRoute route (entries (shippedService route config)) = .ok () := by
  have hmem (name : String) (c : Yaml) (hname : obj (shippedPlugin route name c) ∈
      shippedPlugins route config) :
      Yaml.get (named (shippedPlugins route config) name) "config" = c := by
    rw [shippedPlugins_named hname (shippedPlugin_name route name c), shippedPlugin_config]
  have hnames : sameItems (route.pluginNames.map str) (route.pluginNames.map str) = true := by
    cases route
    · exact sameItems_refl ⟨trivial, trivial, trivial, trivial⟩ rfl
    · exact sameItems_refl ⟨trivial, trivial, trivial, trivial, trivial⟩ rfl
  have hcors : same corsConfig corsConfig = true := same_refl shipped_fixed.2.1 rfl
  have htransformer : same (transformerConfig route) (transformerConfig route) = true := by
    cases route <;> exact same_refl (shipped_fixed.1 _).1 rfl
  unfold checkRoute
  rw [shippedService_plugins]
  refine bind_eq_ok.mpr ⟨(), require_eq_ok.mpr (by rw [shippedPlugins_names]; exact hnames), ?_⟩
  refine bind_eq_ok.mpr ⟨(), shippedPlugins_checked route config, ?_⟩
  refine bind_eq_ok.mpr ⟨(), require_eq_ok.mpr ?_, ?_⟩
  · rw [hmem "cors" corsConfig (by simp [shippedPlugins])]
    exact hcors
  refine bind_eq_ok.mpr ⟨(), require_eq_ok.mpr ?_, ?_⟩
  · rw [hmem "request-transformer" (transformerConfig route) (by simp [shippedPlugins])]
    exact htransformer
  refine bind_eq_ok.mpr ⟨(), ?_, ?_⟩
  · rw [hmem "openid-connect" config (by simp [shippedPlugins])]
    exact h
  cases route with
  | a => rfl
  | b =>
    have hbridge : named (shippedPlugins .b config) "fapi-client-auth-bridge" =
        entries shippedBridge :=
      shippedPlugins_named (by simp [shippedPlugins, obj]) shippedBridge_name
    have hsub : ∀ e ∈ entries [("protocols", strs ["grpc", "grpcs", "http", "https"]),
        ("config", bridgeConfig)], e ∈ entries shippedBridge := by
      simp [entries, shippedBridge, shippedPlugin]
    rw [if_pos rfl, hbridge]
    exact require_eq_ok.mpr (agrees_of_mem shippedBridge_distinct hsub
      (loadedEntries_iff.mpr fun e he => loadedEntries_iff.mp shipped_fixed.2.2.1 e (hsub e he)) rfl)

theorem shippedService_route (route : Route) (config : Yaml) :
    routeOf (entries (shippedService route config)) = some route := by
  rw [← shipped_identities.1 route]
  unfold routeOf
  rw [shippedService_routes]
  rfl

theorem shippedService_placed (route : Route) (config : Yaml) {seen : List Route}
    (hnew : route ∉ seen) :
    placeService seen (obj (shippedService route config)) =
      .ok (route, entries (shippedService route config)) := by
  have hroute := shippedService_route route config
  have hagrees : agrees (entries (shippedService route config)) (expectedService route) = true := by
    refine agrees_of_mem (shippedService_distinct route config) ?_ (shipped_fixed.1 route).2.2 ?_
    · simp only [entries, shippedService, List.map_append]
      exact fun e he => List.mem_append_left _ he
    · cases route <;> rfl
  have hentity : same (.list [expectedRoute route]) (.list [expectedRoute route]) = true := by
    cases route <;> exact same_refl ⟨(shipped_fixed.1 _).2.1, trivial⟩ rfl
  simp only [placeService, obj, hroute, hnew, if_false]
  refine bind_eq_ok.mpr ⟨(), require_eq_ok.mpr ?_, ?_⟩
  · rw [keysAre_entries (shippedService_names route config), hagrees]
    rfl
  refine bind_eq_ok.mpr ⟨(), require_eq_ok.mpr ?_, rfl⟩
  rw [shippedService_routes]
  exact hentity

/-! ### The whole state -/

theorem shippedState_get (config : Route → Yaml) {key : String} {v : Yaml}
    (h : (key, v) ∈ shippedState config) : Yaml.get (entries (shippedState config)) key = v :=
  get_of_mem (shippedState_distinct config) (List.mem_map.mpr ⟨_, h, rfl⟩)

theorem shippedState_services (config : Route → Yaml) :
    Yaml.get (entries (shippedState config)) "services" =
      .list [obj (shippedService .a (config .a)), obj (shippedService .b (config .b)),
        staticService] :=
  shippedState_get config (by simp [shippedState])

theorem shippedFoundation_get {key : String} {v : Yaml} (h : (key, v) ∈ shippedFoundationEntries) :
    Yaml.get (entries shippedFoundationEntries) key = v :=
  get_of_mem shippedFoundation_distinct (List.mem_map.mpr ⟨_, h, rfl⟩)

theorem shippedFoundation_value (key : String) {v : Yaml} (h : (key, v) ∈ shippedFoundationEntries) :
    v.Loaded :=
  loadedEntries_iff.mp shipped_fixed.2.2.2.2.1 _ (List.mem_map.mpr ⟨_, h, rfl⟩)

theorem shippedCertificates_loaded : (Yaml.list (shippedCertificates ++ [backendHop])).Loaded := by
  have hlist : (Yaml.list shippedCertificates).Loaded :=
    shippedFoundation_value "certificates" (List.mem_append_left _ (by simp))
  refine loadedItems_iff.mpr fun v hv => ?_
  rcases List.mem_append.mp hv with hold | hhop
  · exact loadedItems_iff.mp hlist v hold
  · rw [List.mem_singleton.mp hhop]
    exact shipped_fixed.2.2.2.2.2.1

theorem shippedState_loaded {config : Route → Yaml} (h : ∀ route, (config route).Loaded) :
    (obj (shippedState config)).Loaded := by
  have hca : shippedCa.Loaded := shippedFoundation_value "ca_certificates"
    (List.mem_append_right _ (by simp [shippedEntities]))
  have htransport : shippedTransport.Loaded := shippedFoundation_value "plugins"
    (List.mem_append_right _ (by simp [shippedEntities]))
  refine ⟨shippedState_distinct config, trivial, ?_, shippedCertificates_loaded, hca, htransport, ?_,
    trivial⟩
  · exact ⟨List.pairwise_singleton .., ⟨trivial, trivial⟩, trivial⟩
  · exact ⟨shippedService_loaded .a (h .a), shippedService_loaded .b (h .b),
      shipped_fixed.2.2.2.1, trivial⟩

theorem shippedFoundation_accepted :
    validateFoundationState .thirdParty (.holds shippedFoundation shippedFoundation_loaded) =
      .ok () :=
  accepts_iff.mp (by decide +kernel)

theorem shippedEntities_kept (config : Route → Yaml) :
    checkFoundationEntities (entries (shippedState config)) (entries shippedFoundationEntries) =
      .ok () := by
  have kept {key : String} {v : Yaml} (h : (key, v) ∈ shippedEntities) (hplain : v.plain = true)
      (message : String) : require (same (Yaml.get (entries (shippedState config)) key)
        (Yaml.get (entries shippedFoundationEntries) key)) message = .ok () := by
    have hmem : (key, v) ∈ shippedFoundationEntries := List.mem_append_right _ h
    rw [shippedFoundation_get hmem,
      shippedState_get config (List.mem_append_left _ (List.mem_append_right _ h))]
    exact require_eq_ok.mpr (same_refl (shippedFoundation_value key hmem) hplain)
  have hfound : lookup (.str (text "certificates")) (entries shippedFoundationEntries) =
      some (.list shippedCertificates) :=
    lookup_of_mem shippedFoundation_distinct
      (List.mem_map.mpr ⟨("certificates", _), by simp [shippedFoundationEntries], rfl⟩) (by simp)
  unfold checkFoundationEntities
  refine bind_eq_ok.mpr ⟨(), kept (v := shippedCa) (by simp [shippedEntities]) rfl _, ?_⟩
  refine bind_eq_ok.mpr ⟨(), kept (v := shippedTransport) (by simp [shippedEntities]) rfl _, ?_⟩
  simp only [hfound]
  refine require_eq_ok.mpr ?_
  rw [shippedState_get config (v := .list (shippedCertificates ++ [backendHop]))
    (by simp [shippedState])]
  exact same_refl shippedCertificates_loaded rfl

/-- The validator takes the shipped state with whatever configurations pass the
openid-connect checks. -/
theorem shippedState_accepted {config : Route → Yaml} (hloaded : ∀ route, (config route).Loaded)
    (h : ∀ route, checkOidc route (config route) = .ok ()) :
    validateThirdPartyRuntimeState
      { compose := .holds shippedCompose shippedCompose_loaded
        state := .holds (obj (shippedState config)) (shippedState_loaded hloaded)
        foundation := .holds shippedFoundation shippedFoundation_loaded
        foundationAgain := .holds shippedFoundation shippedFoundation_loaded } =
      .ok (entries (shippedState config)) := by
  have hselected : agrees (entries (shippedState config)) [("_format_version", str "3.0"),
      ("_info", obj [("select_tags", strs ["fapi2-demo"])])] = true :=
    agrees_of_mem (shippedState_distinct config) (by simp [entries, shippedState])
      ⟨trivial, ⟨List.pairwise_singleton .., ⟨trivial, trivial⟩, trivial⟩, trivial⟩ rfl
  have hstatic : same staticService staticService = true := same_refl shipped_fixed.2.2.2.1 rfl
  have hflavor : checkCompose (.holds shippedCompose shippedCompose_loaded) = .ok () := by
    refine require_eq_ok.mpr ?_
    exact same_refl trivial rfl
  have hplaced : placeServices [] [obj (shippedService .a (config .a)),
      obj (shippedService .b (config .b))] =
      .ok [(.a, entries (shippedService .a (config .a))),
        (.b, entries (shippedService .b (config .b)))] := by
    refine bind_eq_ok.mpr ⟨_, shippedService_placed .a (config .a) (by simp), ?_⟩
    exact bind_eq_ok.mpr ⟨_, shippedService_placed .b (config .b) (by simp), rfl⟩
  unfold validateThirdPartyRuntimeState
  refine bind_eq_ok.mpr ⟨(), hflavor, ?_⟩
  refine bind_eq_ok.mpr ⟨(), rfl, ?_⟩
  refine bind_eq_ok.mpr ⟨(), shippedFoundation_accepted, ?_⟩
  refine bind_eq_ok.mpr ⟨_, rfl, ?_⟩
  refine bind_eq_ok.mpr ⟨_, rfl, ?_⟩
  refine bind_eq_ok.mpr ⟨(), require_eq_ok.mpr (keysAre_entries (shippedState_names config)), ?_⟩
  refine bind_eq_ok.mpr ⟨(), require_eq_ok.mpr hselected, ?_⟩
  refine bind_eq_ok.mpr ⟨(), shippedEntities_kept config, ?_⟩
  rw [shippedState_services]
  refine bind_eq_ok.mpr ⟨(), rfl, ?_⟩
  refine bind_eq_ok.mpr ⟨(), require_eq_ok.mpr hstatic, ?_⟩
  refine bind_eq_ok.mpr ⟨_, hplaced, ?_⟩
  refine bind_eq_ok.mpr ⟨(), shippedRoute_checked .a (h .a), ?_⟩
  exact bind_eq_ok.mpr ⟨(), shippedRoute_checked .b (h .b), rfl⟩

theorem shippedState_oidc (config : Route → Yaml) (route : Route) :
    oidcConfiguration (entries (shippedState config)) route = config route := by
  have hserved : serviceOf [obj (shippedService .a (config .a)),
      obj (shippedService .b (config .b)), staticService] route =
      some (entries (shippedService route (config route))) := by
    cases route <;> simp [serviceOf, obj, shippedService_route]
  have hplugin : named (shippedPlugins route (config route)) "openid-connect" =
      entries (shippedPlugin route "openid-connect" (config route)) :=
    shippedPlugins_named (by simp [shippedPlugins, obj]) (shippedPlugin_name ..)
  unfold oidcConfiguration
  rw [shippedState_services]
  simp only [hserved, shippedService_plugins, hplugin, shippedPlugin_config]

/-! ## Further options -/

/-- The reviewed configuration of a route with options beside it. -/
def withOptions (route : Route) (options : List (String × Yaml)) : Yaml :=
  obj (reviewedOidc route ++ options)

/-- Whatever options stand beside the reviewed ones, the checks pass. -/
theorem withOptions_checked {route : Route} {options : List (String × Yaml)}
    (h : (withOptions route options).Loaded) :
    checkOidc route (withOptions route options) = .ok () := by
  refine checkOidc_eq_ok.mpr ⟨_, rfl, agrees_of_mem h.1 ?_ (reviewed_loaded route).2 ?_⟩
  · simp only [entries, List.map_append]
    exact fun e he => List.mem_append_left _ he
  · cases route <;> rfl

/-- Options that stand beside the reviewed ones are the further ones. -/
theorem furtherOptions_withOptions {route : Route} {options : List (String × Yaml)}
    (h : (withOptions route options).Loaded) :
    furtherOptions route (withOptions route options) = entries options := by
  have happend : entries (reviewedOidc route ++ options) =
      entries (reviewedOidc route) ++ entries options := List.map_append
  have hkeys := h.1
  rw [happend] at hkeys
  obtain ⟨_, _, hapart⟩ := List.pairwise_append.mp hkeys
  have hoptions : (entries options).filter (fun e => !isReviewed route e.1) = entries options := by
    refine List.filter_eq_self.mpr fun e he => ?_
    rw [Bool.not_eq_true', Bool.eq_false_iff]
    intro hreviewed
    obtain ⟨f, hf, hsame⟩ := isReviewed_iff.mp hreviewed
    have hne := hapart _ (List.mem_map_of_mem hf) e he
    rw [Scalar.same_comm] at hne
    simp [hsame] at hne
  have hnone := reviewed_further route
  simp only [furtherOptions, obj] at hnone
  simp only [furtherOptions, withOptions, obj, happend, List.filter_append, hnone, hoptions,
    List.nil_append]

def upstreamHeader (header claim : String) : Yaml :=
  obj [("header", str header), ("path", strs ["https://fapi-demo.example.com/" ++ claim])]

/-- The options of the shipped state that the validator does not compare. -/
def shippedOptions : Route → List (String × Yaml)
  | .a => [("session_cookie_name", str "fapi_route_a_session"),
      ("session_secret", str "foundation-template:DECK_ROUTE_A_SESSION_SECRET"),
      ("cache_tokens_salt", str "foundation-template:DECK_ROUTE_A_CACHE_SALT"),
      ("upstream_headers", .list [upstreamHeader "X-Demo-Department" "department",
        upstreamHeader "X-Demo-Route" "route"])]
  | .b => [("session_cookie_name", str "fapi_route_b_session"),
      ("session_secret", str "foundation-template:DECK_ROUTE_B_SESSION_SECRET"),
      ("cache_tokens_salt", str "foundation-template:DECK_ROUTE_B_CACHE_SALT"),
      ("upstream_headers", .list [upstreamHeader "X-Demo-Department" "department",
        upstreamHeader "X-Demo-Route" "route"])]

def shippedConfig (route : Route) : Yaml := withOptions route (shippedOptions route)

/-- The same with an anonymous consumer on both routes. -/
def anonymousConfig (route : Route) : Yaml :=
  withOptions route
    (shippedOptions route ++ [("anonymous", str "c0ffee00-0000-4000-8000-000000000000")])

theorem anonymousConfig_loaded : ∀ route, (anonymousConfig route).Loaded := by decide +kernel

theorem shippedConfig_loaded : ∀ route, (shippedConfig route).Loaded := by decide +kernel

end KonnectFapi.Guarantees

import KonnectFapi.Source.Transport.Effects

/-!
# What an accepted configuration says

Source: kong/plugins/fapi-as-mtls-transport/handler.lua:236-351, 609-726 and 746-779.
The validator fixes every field but the evidence flag, so an accepted configuration
is that flag together with the three identities read from the files. Hash, signature
and registry depend on nothing else: not on the order of the routes, nor on how the
argument wraps the configuration, nor on what the runtime adds to it.
-/

namespace KonnectFapi.Source.Transport
open Lib Lib.Lua

/-- A table that spells out a manifest record and nothing more. -/
structure SpellsRoute (value : Value) (route : ManifestRoute) : Prop where
  table : value.isTable = true
  id : value.field "route_id" = .str route.routeId
  texts : ∀ field ∈ route.fields, value.fields.get (.str field.1) = .str field.2
  only : ∀ e ∈ value.fields, isRouteField route e.1 = true

/-- A table that spells out the configuration with the given evidence flag: its two
routes in either order, and any of the runtime's own fields. -/
structure Spells (config : Value) (evidence : Bool) : Prop where
  table : config.isTable = true
  texts : ∀ field ∈ expectedFields, config.fields.get (.str field.1) = .str field.2
  optional : isOptionalBool (config.field "evidence_correlation_enabled") = true
  flag : (config.field "evidence_correlation_enabled").isTrue = evidence
  only : ∀ e ∈ config.fields, isConfigField e.1 = true
  array : (config.field "routes").isTable = true ∧ (config.field "routes").border = 2
  routes : ∃ first second, (config.field "routes").fields.items = [first, second] ∧
    (SpellsRoute first routeA ∧ SpellsRoute second routeB ∨
      SpellsRoute first routeB ∧ SpellsRoute second routeA)

/-- The argument of `configure` for such a table, wrapped or not. -/
def Denotes (configs : Value) (evidence : Bool) : Prop :=
  ∃ config, unwrapPluginConfig configs = some config ∧ Spells config evidence

/-- The environment repeats the two origins. -/
def Bootstrapped (process : Process) : Prop :=
  process.bootstrapIssuer = some issuer ∧ process.bootstrapOrigin = some internalOrigin

/-- The two orders of the routes. -/
def InEitherOrder {α : Type} (a b : α) (l : List α) : Prop := l = [a, b] ∨ l = [b, a]

/-! ## Validation -/

theorem SpellsRoute.texts_all {value : Value} {route : ManifestRoute} (spells : SpellsRoute value route) :
    route.fields.all (fun (name, value') => (value.fields.get (.str name)).isStr value') = true :=
  List.all_eq_true.mpr fun field hfield => Value.isStr_iff.mpr (spells.texts field hfield)

theorem validateRoute_iff {value : Value} {route : ManifestRoute} :
    validateRoute value = some route ↔
      manifest route.routeId = some route ∧ SpellsRoute value route := by
  unfold validateRoute
  constructor
  · intro h
    split at h
    · cases h
    · rename_i table
      split at h
      · rename_i id hid
        split at h
        · cases h
        · rename_i expected known
          split at h
          · rename_i checks
            cases h
            rw [Bool.and_eq_true] at checks
            obtain ⟨-, same⟩ := manifest_eq_some known
            refine ⟨same ▸ known, ?_, same ▸ hid, fun field hfield => ?_, ?_⟩
            · simpa using table
            · exact Value.isStr_iff.mp (List.all_eq_true.mp checks.1 field hfield)
            · exact List.all_eq_true.mp checks.2
          · cases h
      · cases h
  · rintro ⟨known, spells⟩
    rw [spells.table, spells.id]
    simp only [Bool.not_true, Bool.false_eq_true, if_false, known]
    rw [if_pos (by rw [spells.texts_all, List.all_eq_true.mpr spells.only]; rfl)]

theorem manifest_routeA : manifest routeA.routeId = some routeA := by decide +kernel
theorem manifest_routeB : manifest routeB.routeId = some routeB := by decide +kernel

theorem validateRoute_known {value : Value} {route : ManifestRoute}
    (h : validateRoute value = some route) : route = routeA ∨ route = routeB :=
  (manifest_eq_some (validateRoute_iff.mp h).1).1

theorem validateRoutes_cons {value : Value} {rest : List Value} {routes result : List ManifestRoute}
    (h : validateRoutes (value :: rest) routes = some result) :
    ∃ expected, validateRoute value = some expected ∧ expected ∉ routes ∧
      validateRoutes rest (routes ++ [expected]) = some result := by
  unfold validateRoutes at h
  split at h
  · cases h
  · rename_i expected hexpected
    split at h
    · cases h
    · rename_i fresh
      exact ⟨expected, hexpected, fresh, h⟩

/-- The elements are the two manifest records, each once. -/
theorem validateRoutes_both {values : List Value} {routes : List ManifestRoute}
    (h : validateRoutes values [] = some routes) (a : routeA ∈ routes) (b : routeB ∈ routes) :
    InEitherOrder routeA routeB routes ∧
      ∃ first second, values = [first, second] ∧
        (SpellsRoute first routeA ∧ SpellsRoute second routeB ∨
          SpellsRoute first routeB ∧ SpellsRoute second routeA) := by
  have differ : routeA ≠ routeB := by decide +kernel
  match values, h with
  | [], h =>
    cases h
    cases a
  | [v], h =>
    obtain ⟨e, -, -, rest⟩ := validateRoutes_cons h
    cases rest
    rw [List.nil_append, List.mem_singleton] at a b
    exact absurd (a.trans b.symm) differ
  | first :: second :: more, h =>
    obtain ⟨e, he, -, h'⟩ := validateRoutes_cons h
    obtain ⟨e', he', fresh, h''⟩ := validateRoutes_cons h'
    rw [List.nil_append, List.mem_singleton] at fresh
    match more, h'' with
    | third :: rest, h'' =>
      -- a third element has no record left
      obtain ⟨e'', he'', fresh', -⟩ := validateRoutes_cons h''
      rcases validateRoute_known he with rfl | rfl <;>
        rcases validateRoute_known he' with rfl | rfl <;>
        rcases validateRoute_known he'' with rfl | rfl <;> simp at fresh fresh'
    | [], h'' =>
      cases h''
      have spells := (validateRoute_iff.mp he).2
      have spells' := (validateRoute_iff.mp he').2
      rcases validateRoute_known he with rfl | rfl <;> rcases validateRoute_known he' with rfl | rfl
      · exact absurd rfl fresh
      · exact ⟨Or.inl rfl, first, second, rfl, Or.inl ⟨spells, spells'⟩⟩
      · exact ⟨Or.inr rfl, first, second, rfl, Or.inr ⟨spells, spells'⟩⟩
      · exact absurd rfl fresh

theorem validateRoutes_spelled {first second : Value} {a b : ManifestRoute} (differ : b ≠ a)
    (ha : validateRoute first = some a) (hb : validateRoute second = some b) :
    validateRoutes [first, second] [] = some [a, b] := by
  unfold validateRoutes
  rw [ha]
  simp only [List.not_mem_nil, if_false, List.nil_append]
  unfold validateRoutes
  rw [hb]
  simp only [List.mem_singleton, differ, if_false]
  rfl

/-- Two elements that spell out the manifest records are accepted in either order. -/
theorem validateRoutes_either {first second : Value}
    (order : SpellsRoute first routeA ∧ SpellsRoute second routeB ∨
      SpellsRoute first routeB ∧ SpellsRoute second routeA) :
    ∃ routes, validateRoutes [first, second] [] = some routes ∧
      InEitherOrder routeA routeB routes := by
  rcases order with ⟨a, b⟩ | ⟨b, a⟩
  · exact ⟨_, validateRoutes_spelled (by decide +kernel) (validateRoute_iff.mpr ⟨manifest_routeA, a⟩)
      (validateRoute_iff.mpr ⟨manifest_routeB, b⟩), Or.inl rfl⟩
  · exact ⟨_, validateRoutes_spelled (by decide +kernel) (validateRoute_iff.mpr ⟨manifest_routeB, b⟩)
      (validateRoute_iff.mpr ⟨manifest_routeA, a⟩), Or.inr rfl⟩

/-- What the validator accepts spells out the configuration. -/
theorem validateConfig_some {process : Process} {config : Value} {routes : List ManifestRoute}
    (h : validateConfig process config = some routes) :
    Bootstrapped process ∧
      Spells config (config.field "evidence_correlation_enabled").isTrue ∧
      InEitherOrder routeA routeB routes := by
  unfold validateConfig at h
  split at h
  · cases h
  rename_i table
  split at h
  · cases h
  rename_i texts
  split at h
  · cases h
  rename_i optional
  split at h
  · cases h
  rename_i only
  split at h
  · cases h
  rename_i array
  split at h
  · cases h
  rename_i found hfound
  split at h
  · cases h
  rename_i both
  split at h
  · cases h
  rename_i bootstrap
  cases h
  simp only [not_or, not_not] at both bootstrap
  simp only [Bool.not_eq_true', Bool.not_eq_false] at table texts optional only
  rw [Bool.or_eq_true, not_or] at array
  obtain ⟨order, elements⟩ := validateRoutes_both hfound both.1 both.2
  refine ⟨bootstrap, ⟨table, fun field hfield => ?_, optional, rfl, ?_, ?_, elements⟩, order⟩
  · exact Value.isStr_iff.mp (List.all_eq_true.mp texts field hfield)
  · exact List.all_eq_true.mp only
  · exact ⟨by simpa using array.1, by simpa using array.2⟩

/-- It accepts every table that does. -/
theorem Spells.texts_all {config : Value} {evidence : Bool} (spells : Spells config evidence) :
    expectedFields.all (fun (name, value) => (config.fields.get (.str name)).isStr value) = true :=
  List.all_eq_true.mpr fun field hfield => Value.isStr_iff.mpr (spells.texts field hfield)

theorem validateConfig_spelled {process : Process} (bootstrap : Bootstrapped process)
    {config : Value} {evidence : Bool} (spells : Spells config evidence) :
    ∃ routes, validateConfig process config = some routes ∧ InEitherOrder routeA routeB routes := by
  have only := List.all_eq_true.mpr spells.only
  obtain ⟨first, second, items, order⟩ := spells.routes
  obtain ⟨routes, validated, either⟩ := validateRoutes_either order
  rw [← items] at validated
  have both : ¬ (routeA ∉ routes ∨ routeB ∉ routes) := by
    rcases either with rfl | rfl <;> simp
  refine ⟨routes, ?_, either⟩
  unfold validateConfig
  rw [validated, spells.table, spells.texts_all, spells.optional, only, spells.array.1, spells.array.2,
    bootstrap.1, bootstrap.2]
  simp only [Bool.not_true, Bool.false_eq_true, if_false, both, ne_eq, not_true_eq_false, or_self]
  rfl

/-! ## Hash and signature -/

def ManifestRoute.texts (route : ManifestRoute) : List Bytes :=
  [route.routeId, route.logicalRoute, route.clientId, route.certificateFile, route.keyFile]

def flagText (evidence : Bool) : Bytes := ascii (if evidence then "true" else "false")

/-- What the signature of a configuration hashes. -/
def signatureText (evidence : Bool) : Bytes :=
  join [0] (expectedFields.map Prod.snd ++ [flagText evidence,
    join [1] [join [0] routeB.texts, join [0] routeA.texts]])

/-- What its hash hashes, given the three fingerprints. -/
def hashText (evidence : Bool) (metadata a b : Bytes) : Bytes :=
  join [0] (expectedFields.map Prod.snd ++ [metadata, flagText evidence] ++
    (routeB.texts ++ [b]) ++ (routeA.texts ++ [a]))

theorem tostringOr_str (host : Host) (s : Bytes) : tostringOr host (.str s) = s := rfl

theorem routeSignature_spelled (host : Host) {value : Value} {route : ManifestRoute}
    (spells : SpellsRoute value route) : routeSignature host value = join [0] route.texts := by
  have field : ∀ name text, (ascii name, text) ∈ route.fields → value.field name = .str text :=
    fun name text h => spells.texts (ascii name, text) h
  unfold routeSignature
  simp only [List.map_cons, List.map_nil]
  rw [spells.id, field "logical_route" route.logicalRoute (by simp [ManifestRoute.fields]),
    field "client_id" route.clientId (by simp [ManifestRoute.fields]),
    field "certificate_file" route.certificateFile (by simp [ManifestRoute.fields]),
    field "key_file" route.keyFile (by simp [ManifestRoute.fields])]
  rfl

theorem evidenceText_spelled {config : Value} {evidence : Bool} (spells : Spells config evidence) :
    evidenceText config = flagText evidence := by
  unfold evidenceText flagText
  rw [spells.flag]

theorem configSignature_spelled (host : Host) {config : Value} {evidence : Bool}
    (spells : Spells config evidence) :
    configSignature host config = sha256 host (signatureText evidence) := by
  have texts : (["issuer", "internal_origin", "discovery_url", "jwks_url", "par_url", "token_url",
      "revocation_url", "metadata_certificate_file", "metadata_key_file"].map
        fun name => tostringOr host (config.field name)) = expectedFields.map Prod.snd := by
    have field : ∀ name text, (ascii name, text) ∈ expectedFields → config.field name = .str text :=
      fun name text h => spells.texts (ascii name, text) h
    simp only [List.map_cons, List.map_nil]
    rw [field "issuer" issuer (by simp [expectedFields]),
      field "internal_origin" internalOrigin (by simp [expectedFields]),
      field "discovery_url" discoveryInternal (by simp [expectedFields]),
      field "jwks_url" jwks (by simp [expectedFields]), field "par_url" par (by simp [expectedFields]),
      field "token_url" token (by simp [expectedFields]),
      field "revocation_url" revocation (by simp [expectedFields]),
      field "metadata_certificate_file" metadataCertificateFile (by simp [expectedFields]),
      field "metadata_key_file" metadataKeyFile (by simp [expectedFields])]
    rfl
  obtain ⟨first, second, items, order⟩ := spells.routes
  have tables : [first, second].all Value.isTable = true := by
    rcases order with ⟨a, b⟩ | ⟨b, a⟩ <;> simp [a.table, b.table]
  have sorted : ([first, second].map (routeSignature host)).insertionSort (· ≤ ·) =
      [join [0] routeB.texts, join [0] routeA.texts] := by
    have ascending : [join [0] routeA.texts, join [0] routeB.texts].insertionSort (· ≤ ·) =
        [join [0] routeB.texts, join [0] routeA.texts] := by decide +kernel
    have already : [join [0] routeB.texts, join [0] routeA.texts].insertionSort (· ≤ ·) =
        [join [0] routeB.texts, join [0] routeA.texts] := by decide +kernel
    simp only [List.map_cons, List.map_nil]
    rcases order with ⟨a, b⟩ | ⟨b, a⟩
    · rw [routeSignature_spelled host a, routeSignature_spelled host b, ascending]
    · rw [routeSignature_spelled host a, routeSignature_spelled host b, already]
  unfold configSignature
  dsimp only
  rw [items, tables, texts, sorted, evidenceText_spelled spells]
  rfl

/-! ## Files -/

/-- The identities the certificate and key files hold. -/
structure Material (host : Host) (env : Env) (metadata a b : Identity) : Prop where
  metadata : clientIdentity host env metadataCertificateFile metadataKeyFile = some metadata
  a : clientIdentity host env routeA.certificateFile routeA.keyFile = some a
  b : clientIdentity host env routeB.certificateFile routeB.keyFile = some b

theorem routeIdentities_pair (host : Host) (env : Env) {first second : ManifestRoute}
    {identities : List (Bytes × Identity)} :
    routeIdentities host env [first, second] = some identities ↔
      ∃ a b, clientIdentity host env first.certificateFile first.keyFile = some a ∧
        clientIdentity host env second.certificateFile second.keyFile = some b ∧
        identities = [(first.routeId, a), (second.routeId, b)] := by
  simp only [routeIdentities, Option.bind_eq_bind, Option.bind_eq_some_iff, Option.pure_def,
    Option.some.injEq]
  constructor
  · rintro ⟨a, ha, _, ⟨b, hb, _, rfl, rfl⟩, rfl⟩
    exact ⟨a, b, ha, hb, rfl⟩
  · rintro ⟨a, b, ha, hb, rfl⟩
    exact ⟨a, ha, _, ⟨b, hb, _, rfl, rfl⟩, rfl⟩

/-- The identities of the two routes, listed as the routes are. -/
inductive Listed (a b : Identity) : List ManifestRoute → List (Bytes × Identity) → Prop where
  | ab : Listed a b [routeA, routeB] [(routeA.routeId, a), (routeB.routeId, b)]
  | ba : Listed a b [routeB, routeA] [(routeB.routeId, b), (routeA.routeId, a)]

theorem routeIdentities_some {host : Host} {env : Env} {routes : List ManifestRoute}
    (order : InEitherOrder routeA routeB routes) {identities : List (Bytes × Identity)}
    (h : routeIdentities host env routes = some identities) :
    ∃ a b, clientIdentity host env routeA.certificateFile routeA.keyFile = some a ∧
      clientIdentity host env routeB.certificateFile routeB.keyFile = some b ∧
      Listed a b routes identities := by
  rcases order with rfl | rfl
  · obtain ⟨a, b, ha, hb, rfl⟩ := (routeIdentities_pair host env).mp h
    exact ⟨a, b, ha, hb, .ab⟩
  · obtain ⟨b, a, hb, ha, rfl⟩ := (routeIdentities_pair host env).mp h
    exact ⟨a, b, ha, hb, .ba⟩

theorem routeIdentities_listed {host : Host} {env : Env} {routes : List ManifestRoute}
    (order : InEitherOrder routeA routeB routes) {a b : Identity}
    (ha : clientIdentity host env routeA.certificateFile routeA.keyFile = some a)
    (hb : clientIdentity host env routeB.certificateFile routeB.keyFile = some b) :
    ∃ identities, routeIdentities host env routes = some identities ∧
      Listed a b routes identities := by
  rcases order with rfl | rfl
  · exact ⟨_, (routeIdentities_pair host env).mpr ⟨a, b, ha, hb, rfl⟩, .ab⟩
  · exact ⟨_, (routeIdentities_pair host env).mpr ⟨b, a, hb, ha, rfl⟩, .ba⟩

theorem Listed.order {a b : Identity} {routes : List ManifestRoute}
    {identities : List (Bytes × Identity)} (h : Listed a b routes identities) :
    InEitherOrder routeA routeB routes := by
  cases h with
  | ab => exact Or.inl rfl
  | ba => exact Or.inr rfl

theorem Listed.ordered {a b : Identity} {routes : List ManifestRoute}
    {identities : List (Bytes × Identity)} (h : Listed a b routes identities) :
    (orderedIds.filterMap fun id => routes.find? fun route => route.routeId = id) =
      [routeB, routeA] := by
  cases h <;> decide +kernel

theorem Listed.lookup {a b : Identity} {routes : List ManifestRoute}
    {identities : List (Bytes × Identity)} (h : Listed a b routes identities) :
    identities.lookup routeA.routeId = some a ∧ identities.lookup routeB.routeId = some b := by
  have apart : (routeA.routeId == routeB.routeId) = false ∧
      (routeB.routeId == routeA.routeId) = false := by decide +kernel
  cases h <;> simp [List.lookup_cons, apart.1, apart.2]

theorem canonicalConfigHash_listed (host : Host) {config : Value} {evidence : Bool}
    (spells : Spells config evidence) {a b : Identity} {routes : List ManifestRoute}
    {identities : List (Bytes × Identity)} (listed : Listed a b routes identities)
    (metadata : Identity) :
    canonicalConfigHash host config routes identities metadata =
      sha256 host (hashText evidence metadata.fingerprint a.fingerprint b.fingerprint) := by
  have certificate : configText config "metadata_certificate_file" = metadataCertificateFile := by
    unfold configText Value.field
    rw [show config.fields.get (.name "metadata_certificate_file") = .str metadataCertificateFile from
      spells.texts (ascii "metadata_certificate_file", metadataCertificateFile)
        (by simp [expectedFields])]
    rfl
  have key : configText config "metadata_key_file" = metadataKeyFile := by
    unfold configText Value.field
    rw [show config.fields.get (.name "metadata_key_file") = .str metadataKeyFile from
      spells.texts (ascii "metadata_key_file", metadataKeyFile) (by simp [expectedFields])]
    rfl
  unfold canonicalConfigHash hashText
  dsimp only
  rw [certificate, key, evidenceText_spelled spells, listed.ordered]
  simp only [List.flatMap_cons, List.flatMap_nil, listed.lookup.1, listed.lookup.2]
  rfl

/-! ## Loading -/

/-- What loaded material comes down to. -/
structure Loaded.Says (loaded : Loaded) (evidence : Bool) (metadata a b : Identity) : Prop where
  flag : loaded.registry.evidenceCorrelationEnabled = evidence
  metadata : loaded.registry.metadataIdentity = metadata
  listed : Listed a b loaded.routes loaded.identities

theorem loadConfig_some {host : Host} {process : Process} {env : Env} {configs : Value}
    {loaded : Loaded} (h : loadConfig host process env configs = some loaded) :
    Bootstrapped process ∧ ∃ evidence metadata a b, Material host env metadata a b ∧
      loaded.Says evidence metadata a b ∧
      sha256 host (signatureText evidence) = some loaded.signature ∧
      sha256 host (hashText evidence metadata.fingerprint a.fingerprint b.fingerprint) =
        some loaded.configHash := by
  simp only [loadConfig, loadSignature, Option.bind_eq_bind, Option.bind_eq_some_iff,
    Option.pure_def, Option.some.injEq] at h
  obtain ⟨⟨config, routes, signature⟩, ⟨_, -, _, hroutes, _, hsignature, triple⟩, metadata, hmetadata,
    identities, hidentities, hash, hhash, rfl⟩ := h
  cases triple
  obtain ⟨bootstrap, spells, order⟩ := validateConfig_some hroutes
  obtain ⟨a, b, ha, hb, listed⟩ := routeIdentities_some order hidentities
  rw [configSignature_spelled host spells] at hsignature
  rw [canonicalConfigHash_listed host spells listed] at hhash
  have certificate := spells.texts (ascii "metadata_certificate_file", metadataCertificateFile)
    (by simp [expectedFields])
  have key := spells.texts (ascii "metadata_key_file", metadataKeyFile) (by simp [expectedFields])
  unfold configText Value.field at hmetadata
  rw [certificate, key] at hmetadata
  exact ⟨bootstrap, _, metadata, a, b, ⟨hmetadata, ha, hb⟩, ⟨rfl, rfl, listed⟩, hsignature, hhash⟩

theorem loadConfig_spelled {host : Host} {process : Process} {env : Env} {configs : Value}
    {evidence : Bool} {metadata a b : Identity} {signature hash : Bytes}
    (bootstrap : Bootstrapped process) (denotes : Denotes configs evidence)
    (material : Material host env metadata a b)
    (signed : sha256 host (signatureText evidence) = some signature)
    (hashed : sha256 host (hashText evidence metadata.fingerprint a.fingerprint b.fingerprint) =
      some hash) :
    ∃ loaded, loadConfig host process env configs = some loaded ∧
      loaded.Says evidence metadata a b ∧ loaded.signature = signature ∧ loaded.configHash = hash := by
  obtain ⟨config, unwrapped, spells⟩ := denotes
  obtain ⟨routes, validated, order⟩ := validateConfig_spelled bootstrap spells
  obtain ⟨identities, found, listed⟩ := routeIdentities_listed order material.a material.b
  have certificate := spells.texts (ascii "metadata_certificate_file", metadataCertificateFile)
    (by simp [expectedFields])
  have key := spells.texts (ascii "metadata_key_file", metadataKeyFile) (by simp [expectedFields])
  have read : clientIdentity host env (configText config "metadata_certificate_file")
      (configText config "metadata_key_file") = some metadata := by
    unfold configText Value.field
    rw [certificate, key]
    exact material.metadata
  refine ⟨⟨config, routes, identities, metadata, hash, signature⟩, ?_, ⟨spells.flag, rfl, listed⟩,
    rfl, rfl⟩
  simp only [loadConfig, loadSignature, Option.bind_eq_bind, unwrapped, validated,
    configSignature_spelled host spells, signed, Option.bind_some, Option.pure_def, read, found,
    canonicalConfigHash_listed host spells listed, hashed]

/-- The registry of what was loaded has the two routes, in either order. -/
theorem Loaded.Says.routes {loaded : Loaded} {evidence : Bool} {metadata a b : Identity}
    (h : loaded.Says evidence metadata a b) :
    InEitherOrder (routeA.routeId, ({ routeA with toIdentity := a } : RouteIdentity))
      (routeB.routeId, ({ routeB with toIdentity := b } : RouteIdentity)) loaded.registry.routes := by
  have lookup := h.listed.lookup
  show InEitherOrder _ _ (mergeIdentities loaded.routes loaded.identities)
  unfold mergeIdentities
  rcases h.listed.order with order | order
  · rw [order]
    exact Or.inl (by simp [lookup.1, lookup.2])
  · rw [order]
    exact Or.inr (by simp [lookup.1, lookup.2])

/-- Where routes are looked up, their order is not seen. -/
theorem Loaded.Says.route_eq {loaded other : Loaded} {evidence : Bool} {metadata a b : Identity}
    (h : loaded.Says evidence metadata a b) (h' : other.Says evidence metadata a b) (id : Bytes) :
    loaded.registry.route id = other.registry.route id := by
  have apart : routeA.routeId ≠ routeB.routeId := by decide +kernel
  have swapped : ∀ x y : RouteIdentity, [(routeA.routeId, x), (routeB.routeId, y)].lookup id =
      [(routeB.routeId, y), (routeA.routeId, x)].lookup id := by
    intro x y
    by_cases isA : id = routeA.routeId
    · subst isA
      simp [List.lookup_cons, beq_eq_false_iff_ne.mpr apart]
    · simp [List.lookup_cons, beq_eq_false_iff_ne.mpr isA]
  unfold Registry.route
  rcases h.routes with left | left <;> rcases h'.routes with right | right <;> rw [left, right]
  · exact swapped _ _
  · exact (swapped _ _).symm

/-- Nor where they are exported. -/
theorem Loaded.Says.publicRoutes_eq {loaded : Loaded} {evidence : Bool} {metadata a b : Identity}
    (h : loaded.Says evidence metadata a b) {s : State} (held : s.registry = some loaded.registry) :
    publicRoutes s = [⟨routeA.routeId, routeA.logicalRoute, routeA.clientId⟩,
      ⟨routeB.routeId, routeB.logicalRoute, routeB.clientId⟩] := by
  have ab : [(⟨routeA.routeId, routeA.logicalRoute, routeA.clientId⟩ : PublicRoute),
      ⟨routeB.routeId, routeB.logicalRoute, routeB.clientId⟩].insertionSort
        (fun left right => left.logicalRoute ≤ right.logicalRoute) =
      [⟨routeA.routeId, routeA.logicalRoute, routeA.clientId⟩,
        ⟨routeB.routeId, routeB.logicalRoute, routeB.clientId⟩] := by decide +kernel
  have ba : [(⟨routeB.routeId, routeB.logicalRoute, routeB.clientId⟩ : PublicRoute),
      ⟨routeA.routeId, routeA.logicalRoute, routeA.clientId⟩].insertionSort
        (fun left right => left.logicalRoute ≤ right.logicalRoute) =
      [⟨routeA.routeId, routeA.logicalRoute, routeA.clientId⟩,
        ⟨routeB.routeId, routeB.logicalRoute, routeB.clientId⟩] := by decide +kernel
  unfold publicRoutes
  rw [held]
  dsimp only
  rcases h.routes with order | order
  · rw [order]
    exact ab
  · rw [order]
    exact ba

/-! ## The same files, later -/

/-- The certificate is within its validity. -/
def Unexpired (host : Host) (now : Nat) (identity : Identity) : Prop :=
  ∀ notBefore notAfter, host.getLifetime identity.certificate = some (notBefore, notAfter) →
    notBefore ≤ now ∧ (now : Rat) < notAfter

/-- A file that has not changed holds the same identity while its certificate is valid. -/
theorem clientIdentity_unchanged {host : Host} {env env' : Env} {certificate key : Bytes}
    {identity : Identity} (h : clientIdentity host env certificate key = some identity)
    (sameCertificate : env'.files certificate = env.files certificate)
    (sameKey : env'.files key = env.files key) (valid : Unexpired host env'.now identity) :
    clientIdentity host env' certificate key = some identity := by
  unfold clientIdentity at h ⊢
  rw [sameCertificate, sameKey]
  simp only [Option.bind_eq_bind, Option.bind_none, Option.bind_eq_some_iff,
    Option.ite_none_left_eq_some, Option.pure_def, Option.some.injEq] at h ⊢
  obtain ⟨certPem, readCertificate, keyPem, readKey, cert, hcert, privateKey, hkey, pair, lifetime,
    hlifetime, -, rest⟩ := h
  have within : ¬ (decide ((env'.now : Rat) < lifetime.1) || decide (lifetime.2 ≤ env'.now)) = true := by
    obtain ⟨_, _, _, _, _, _, _, _, _, _, rfl⟩ := rest
    rw [Bool.or_eq_true, decide_eq_true_eq, decide_eq_true_eq, not_or, Rat.not_lt, Rat.not_le]
    exact valid lifetime.1 lifetime.2 hlifetime
  exact ⟨certPem, readCertificate, keyPem, readKey, cert, hcert, privateKey, hkey, pair, lifetime,
    hlifetime, within, rest⟩

/-- The certificate and key files a configuration names. -/
def materialFiles : List Bytes :=
  [metadataCertificateFile, metadataKeyFile, routeA.certificateFile, routeA.keyFile,
    routeB.certificateFile, routeB.keyFile]

theorem Material.unchanged {host : Host} {env env' : Env} {metadata a b : Identity}
    (h : Material host env metadata a b)
    (same : ∀ path ∈ materialFiles, env'.files path = env.files path)
    (valid : ∀ identity ∈ [metadata, a, b], Unexpired host env'.now identity) :
    Material host env' metadata a b where
  metadata := clientIdentity_unchanged h.metadata (same _ (by simp [materialFiles]))
    (same _ (by simp [materialFiles])) (valid _ (by simp))
  a := clientIdentity_unchanged h.a (same _ (by simp [materialFiles]))
    (same _ (by simp [materialFiles])) (valid _ (by simp))
  b := clientIdentity_unchanged h.b (same _ (by simp [materialFiles]))
    (same _ (by simp [materialFiles])) (valid _ (by simp))

end KonnectFapi.Source.Transport

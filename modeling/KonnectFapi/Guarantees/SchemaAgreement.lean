import Mathlib.Data.List.Perm.Subperm
import KonnectFapi.Lib.Refusal
import KonnectFapi.Source.Deployment
import KonnectFapi.Source.RegisteredRoutes
import KonnectFapi.Source.Transport.Denotation
import KonnectFapi.Source.TransportSchema

/-!
# Schema and handler accept the same configurations

The manifest is written twice: `validate_routes` of the schema counts fields and
remembers ids, the route checks of `validate_config` look every field up and build
a map. Both accept exactly the tables that spell out the two records, and a record
whose other fields the schema accepts is one the worker serves.

Source: kong/plugins/fapi-as-mtls-transport/schema.lua:1-217, handler.lua:251-318
-/

namespace KonnectFapi.Guarantees

open KonnectFapi.Lib KonnectFapi.Lib.Lua
open KonnectFapi.Source

/-- The route checks of `validate_config`. -/
def routesAccepted (routes : Value) : Bool :=
  routes.isTable && routes.border == 2 &&
    match Transport.validateRoutes routes.fields.items [] with
    | none => false
    | some found => decide (Transport.routeA ∈ found ∧ Transport.routeB ∈ found)

/-- The records in the array are Lua tables: each has one value for each of its keys. -/
def RecordsKeyed (routes : Value) : Prop :=
  ∀ route ∈ routes.fields.items, (route.fields.map Prod.fst).Nodup

/-! ## One record -/

theorem expected_eq : TransportSchema.expected =
    [(Transport.routeA.routeId, Transport.routeA.fields),
      (Transport.routeB.routeId, Transport.routeB.fields)] := rfl

theorem lookup_expected (id : Bytes) :
    TransportSchema.expected.lookup id =
      (Transport.manifest id).map Transport.ManifestRoute.fields := by
  rw [expected_eq, Transport.manifest]
  by_cases a : id = Transport.routeA.routeId
  · subst a
    simp
  · rw [List.lookup_cons, beq_false_of_ne a, if_neg a]
    by_cases b : id = Transport.routeB.routeId
    · subst b
      simp
    · rw [List.lookup_cons, beq_false_of_ne b, if_neg b]
      rfl

/-- The keys of a route record. -/
def routeKeys : List Key := TransportSchema.routeFields.map .str

theorem isRouteField_iff {key : Key} :
    TransportSchema.isRouteField key = true ↔ key ∈ routeKeys := by
  cases key <;> simp [TransportSchema.isRouteField, routeKeys]

theorem routeFields_eq (route : Transport.ManifestRoute) :
    TransportSchema.routeFields = ascii "route_id" :: route.fields.map Prod.fst := rfl

theorem isManifestField_iff {route : Transport.ManifestRoute} {key : Key} :
    Transport.isRouteField route key = true ↔ key ∈ routeKeys := by
  cases key with
  | str name =>
    rw [Transport.isRouteField, Bool.or_eq_true, beq_iff_eq, List.lookup_isSome_iff]
    simp [routeKeys, routeFields_eq route]
  | num q => simp [Transport.isRouteField, routeKeys]
  | other id => simp [Transport.isRouteField, routeKeys]

/-- A table that spells out a record has the five fields and no other. -/
theorem length_of_spells {value : Value} {route : Transport.ManifestRoute}
    (keyed : (value.fields.map Prod.fst).Nodup) (spells : Transport.SpellsRoute value route) :
    value.fields.length = 5 := by
  have present : ∀ key, value.fields.get key ≠ .nil → key ∈ value.fields.map Prod.fst :=
    fun key h => List.mem_map.mpr ⟨_, Table.mem_of_get h, rfl⟩
  have all : routeKeys ⊆ value.fields.map Prod.fst := by
    intro key mem
    obtain ⟨name, named, rfl⟩ := List.mem_map.mp mem
    rw [routeFields_eq route] at named
    apply present
    rcases List.mem_cons.mp named with rfl | named
    · have id := spells.id
      unfold Value.field at id
      simp [id]
    · obtain ⟨field, hfield, rfl⟩ := List.mem_map.mp named
      simp [spells.texts field hfield]
  have only : value.fields.map Prod.fst ⊆ routeKeys := by
    intro key mem
    obtain ⟨e, he, rfl⟩ := List.mem_map.mp mem
    exact isManifestField_iff.mp (spells.only e he)
  have distinct : routeKeys.Nodup := by decide +kernel
  have upper := (List.subperm_of_subset keyed only).length_le
  have lower := (List.subperm_of_subset distinct all).length_le
  simp only [List.length_map] at upper lower
  exact Nat.le_antisymm upper lower

/-- Both take the same records; the schema remembers the id, the handler the record. -/
theorem validateRoute_iff {seen : List Bytes} {route : Value} {id : Bytes}
    (keyed : (route.fields.map Prod.fst).Nodup) :
    TransportSchema.validateRoute seen route = .ok id ↔
      ∃ expected, Transport.validateRoute route = some expected ∧ expected.routeId = id ∧
        id ∉ seen := by
  constructor
  · intro h
    unfold TransportSchema.validateRoute at h
    split at h
    · cases h
    rename_i table
    split at h
    case h_2 => cases h
    rename_i found hid
    split at h
    · cases h
    split at h
    · cases h
    rename_i fresh
    rw [lookup_expected] at h
    cases known : Transport.manifest found with
    | none =>
      rw [known] at h
      cases h
    | some expected =>
      simp only [known, Option.map_some] at h
      split at h
      · cases h
      rename_i texts
      split at h
      · cases h
      rename_i only
      split at h
      · cases h
      cases h
      simp only [Bool.not_eq_true', Bool.not_eq_false, List.all_eq_true] at table texts only
      obtain ⟨-, rfl⟩ := Transport.manifest_eq_some known
      refine ⟨expected, Transport.validateRoute_iff.mpr ⟨known, ⟨table, hid, ?_, ?_⟩⟩, rfl, fresh⟩
      · exact fun field mem => Value.isStr_iff.mp (texts field mem)
      · exact fun e mem => isManifestField_iff.mpr (isRouteField_iff.mp (only e mem))
  · rintro ⟨expected, validated, rfl, fresh⟩
    obtain ⟨known, spells⟩ := Transport.validateRoute_iff.mp validated
    have nonempty : expected.routeId ≠ [] := by
      rcases (Transport.manifest_eq_some known).1 with rfl | rfl <;> decide +kernel
    have only : route.fields.all (fun e => TransportSchema.isRouteField e.1) = true :=
      List.all_eq_true.mpr fun e mem =>
        isRouteField_iff.mpr (isManifestField_iff.mp (spells.only e mem))
    have count := length_of_spells keyed spells
    unfold TransportSchema.validateRoute
    simp only [spells.table, spells.id, nonempty, fresh, lookup_expected, known, Option.map_some,
      spells.texts_all, only, count, Bool.not_true, Bool.false_eq_true, if_false, ne_eq, not_true_eq_false]

/-! ## The array -/

/-- The ids the schema remembers for the records the handler keeps. -/
def idsOf (routes : List Transport.ManifestRoute) : List Bytes :=
  (routes.map Transport.ManifestRoute.routeId).reverse

theorem mem_idsOf {routes : List Transport.ManifestRoute} {id : Bytes} :
    id ∈ idsOf routes ↔ ∃ route ∈ routes, route.routeId = id := by
  simp [idsOf]

/-- The schema remembers one more id where the handler keeps one more record. -/
theorem idsOf_append (routes : List Transport.ManifestRoute) (route : Transport.ManifestRoute) :
    route.routeId :: idsOf routes = idsOf (routes ++ [route]) := by
  simp [idsOf]

/-- A record is remembered exactly when its id is. -/
theorem routeId_mem_idsOf {routes : List Transport.ManifestRoute} {route : Transport.ManifestRoute}
    (known : Transport.manifest route.routeId = some route)
    (all : ∀ other ∈ routes, Transport.manifest other.routeId = some other) :
    route.routeId ∈ idsOf routes ↔ route ∈ routes := by
  rw [mem_idsOf]
  constructor
  · rintro ⟨other, mem, same⟩
    have found := all other mem
    rw [same, known] at found
    cases found
    exact mem
  · exact fun mem => ⟨route, mem, rfl⟩

/-- The two loops go on together. -/
theorem seenRoutes_iff {values : List Value} {routes : List Transport.ManifestRoute}
    {seen : List Bytes} (keyed : ∀ v ∈ values, (v.fields.map Prod.fst).Nodup)
    (all : ∀ route ∈ routes, Transport.manifest route.routeId = some route) :
    TransportSchema.seenRoutes (idsOf routes) values = .ok seen ↔
      ∃ found, Transport.validateRoutes values routes = some found ∧ seen = idsOf found := by
  induction values generalizing routes with
  | nil => simp [TransportSchema.seenRoutes, Transport.validateRoutes, eq_comm]
  | cons value rest ih =>
    obtain ⟨here, later⟩ := List.forall_mem_cons.mp keyed
    rw [TransportSchema.seenRoutes, bind_eq_ok]
    simp only [validateRoute_iff here]
    have extended : ∀ expected, Transport.validateRoute value = some expected →
        ∀ route ∈ routes ++ [expected], Transport.manifest route.routeId = some route := by
      intro expected validated route mem
      rcases List.mem_append.mp mem with old | new
      · exact all route old
      · rw [List.mem_singleton.mp new]
        exact (Transport.validateRoute_iff.mp validated).1
    constructor
    · rintro ⟨id, ⟨expected, validated, rfl, unseen⟩, h⟩
      have known := (Transport.validateRoute_iff.mp validated).1
      rw [routeId_mem_idsOf known all] at unseen
      rw [idsOf_append, ih later (extended expected validated)] at h
      obtain ⟨found, accepted, rfl⟩ := h
      refine ⟨found, ?_, rfl⟩
      rw [Transport.validateRoutes, validated]
      simpa only [unseen, if_false] using accepted
    · rintro ⟨found, accepted, rfl⟩
      obtain ⟨expected, validated, fresh, accepted⟩ := Transport.validateRoutes_cons accepted
      have known := (Transport.validateRoute_iff.mp validated).1
      refine ⟨expected.routeId, ⟨expected, validated, rfl, ?_⟩, ?_⟩
      · rwa [routeId_mem_idsOf known all]
      · rw [idsOf_append, ih later (extended expected validated)]
        exact ⟨found, accepted, rfl⟩

/-- The schema takes exactly the arrays that pass the handler's route checks. -/
theorem validateRoutes_iff {routes : Value} (keyed : RecordsKeyed routes) :
    TransportSchema.validateRoutes routes = .ok () ↔ routesAccepted routes = true := by
  have loops (seen : List Bytes) : TransportSchema.seenRoutes (idsOf []) routes.fields.items =
      .ok seen ↔ _ := seenRoutes_iff keyed (by simp)
  have both {found : List Transport.ManifestRoute}
      (accepted : Transport.validateRoutes routes.fields.items [] = some found) :
      (TransportSchema.idA ∈ idsOf found ↔ Transport.routeA ∈ found) ∧
        (TransportSchema.idB ∈ idsOf found ↔ Transport.routeB ∈ found) := by
    have all := Transport.validateRoutes_manifest accepted (by simp)
    exact ⟨routeId_mem_idsOf Transport.manifest_routeA all,
      routeId_mem_idsOf Transport.manifest_routeB all⟩
  by_cases shape : routes.isTable = true ∧ routes.border = 2
  · obtain ⟨table, border⟩ := shape
    unfold TransportSchema.validateRoutes routesAccepted
    simp only [table, border, Bool.not_true, ne_eq, not_true_eq_false, decide_false, Bool.or_false,
      Bool.false_eq_true, if_false, beq_self_eq_true, Bool.and_self, Bool.true_and, bind_eq_ok]
    cases accepted : Transport.validateRoutes routes.fields.items [] with
    | none =>
      simp only [Bool.false_eq_true, iff_false]
      rintro ⟨seen, h, -⟩
      obtain ⟨found, h, -⟩ := (loops seen).mp h
      rw [accepted] at h
      cases h
    | some found =>
      have seen := (loops (idsOf found)).mpr ⟨found, accepted, rfl⟩
      rw [show idsOf [] = [] from rfl] at seen
      obtain ⟨sameA, sameB⟩ := both accepted
      simp only [seen, Except.ok.injEq, exists_eq_left', sameA, sameB, decide_eq_true_eq]
      by_cases a : Transport.routeA ∈ found <;> by_cases b : Transport.routeB ∈ found <;> simp [a, b]
  · constructor
    · intro h
      unfold TransportSchema.validateRoutes at h
      split at h
      · cases h
      · rename_i checks
        exact absurd (by simpa using checks) shape
    · intro h
      unfold routesAccepted at h
      simp only [Bool.and_eq_true, beq_iff_eq] at h
      exact absurd h.1 shape

/-- Which elements they are. -/
theorem routesAccepted_iff {routes : Value} :
    routesAccepted routes = true ↔
      (routes.isTable = true ∧ routes.border = 2) ∧ ∃ first second,
        routes.fields.items = [first, second] ∧
          (Transport.SpellsRoute first Transport.routeA ∧
              Transport.SpellsRoute second Transport.routeB ∨
            Transport.SpellsRoute first Transport.routeB ∧
              Transport.SpellsRoute second Transport.routeA) := by
  unfold routesAccepted
  rw [Bool.and_eq_true, Bool.and_eq_true, beq_iff_eq]
  apply and_congr_right'
  constructor
  · intro h
    cases accepted : Transport.validateRoutes routes.fields.items [] with
    | none =>
      rw [accepted] at h
      cases h
    | some found =>
      simp only [accepted, decide_eq_true_eq] at h
      exact (Transport.validateRoutes_both accepted h.1 h.2).2
  · rintro ⟨first, second, items, order⟩
    obtain ⟨found, accepted, either⟩ := Transport.validateRoutes_either order
    rw [items, accepted]
    rcases either with rfl | rfl <;> simp

/-! ## The record -/

theorem isDeclared_isConfigField {key : Key} (h : TransportSchema.isDeclared key = true) :
    Transport.isConfigField key = true := by
  cases key with
  | str name =>
    have names : (TransportSchema.oneOf.map Prod.fst ++ TransportSchema.otherFields).map ascii =
        Transport.expectedFields.map Prod.fst ++
          [ascii "routes", ascii "evidence_correlation_enabled"] := rfl
    rw [TransportSchema.isDeclared, names] at h
    rw [Transport.isConfigField]
    simp only [Bool.or_eq_true, List.contains_iff_mem, List.mem_append, List.mem_cons,
      List.not_mem_nil, or_false, List.lookup_isSome_iff, beq_iff_eq] at h ⊢
    rcases h with (text | routes | flag) | runtime
    · obtain ⟨field, mem, same⟩ := List.mem_map.mp text
      exact .inl (.inl (.inl ⟨field, mem, same.symm⟩))
    · exact .inl (.inl (.inr routes))
    · exact .inl (.inr flag)
    · exact .inr runtime
  | num q => cases h
  | other id => cases h

/-- Every `one_of` list has one value, the one the handler expects. -/
theorem expectedFields_eq : Transport.expectedFields =
    TransportSchema.oneOf.map fun field => (ascii field.1, ascii (field.2.headD "")) := by
  simp [Transport.expectedFields, TransportSchema.oneOf, Transport.issuer, Transport.internalOrigin,
    Transport.discoveryInternal, Transport.jwks, Transport.par, Transport.token,
    Transport.revocation, Transport.metadataCertificateFile, Transport.metadataKeyFile,
    ← ascii_append]

theorem oneOf_single : ∀ field ∈ TransportSchema.oneOf, field.2 = [field.2.headD ""] := by
  decide

/-- The `one_of` lists ask for the texts the handler compares with. -/
theorem texts_iff {config : Value} :
    (∀ field ∈ TransportSchema.oneOf, ∃ text ∈ field.2,
        config.field field.1 = .str (ascii text)) ↔
      ∀ field ∈ Transport.expectedFields, config.fields.get (.str field.1) = .str field.2 := by
  rw [expectedFields_eq, List.forall_mem_map]
  apply forall_congr'
  intro field
  apply forall_congr'
  intro listed
  rw [oneOf_single field listed]
  simp [Value.field]

/-- Schema and handler agree on the routes; and a record the schema accepts is one the
worker serves, whose routes the control plane takes. -/
theorem schema_handler_agree :
    (∀ routes : Value, RecordsKeyed routes →
      (TransportSchema.validateRoutes routes = .ok () ↔ routesAccepted routes = true)) ∧
    (∀ (process : Transport.Process) (config : Value), RecordsKeyed (config.field "routes") →
      Transport.Bootstrapped process → TransportSchema.FieldsAccepted config →
      TransportSchema.validateRoutes (config.field "routes") = .ok () →
      ∃ routes, Transport.validateConfig process config = some routes) ∧
    (∀ (process : Transport.Process) (config : Value) (routes : List Transport.ManifestRoute),
      RecordsKeyed (config.field "routes") →
      Transport.validateConfig process config = some routes →
      TransportSchema.customValidator config = .ok ()) := by
  refine ⟨fun routes keyed => validateRoutes_iff keyed, ?_, ?_⟩
  · intro process config keyed bootstrap fields accepted
    obtain ⟨array, elements⟩ := routesAccepted_iff.mp ((validateRoutes_iff keyed).mp accepted)
    have spells : Transport.Spells config (config.field "evidence_correlation_enabled").isTrue := by
      refine ⟨fields.table, ?_, ?_, rfl, ?_, array, elements⟩
      · exact texts_iff.mp fields.texts
      · rcases fields.flag with flag | ⟨b, flag⟩ <;> rw [flag] <;> rfl
      · exact fun e mem => isDeclared_isConfigField (fields.declared e mem)
    obtain ⟨routes, served, -⟩ := Transport.validateConfig_spelled bootstrap spells
    exact ⟨routes, served⟩
  · intro process config routes keyed served
    obtain ⟨-, spells, -⟩ := Transport.validateConfig_some served
    unfold TransportSchema.customValidator
    rw [spells.table]
    exact (validateRoutes_iff keyed).mpr (routesAccepted_iff.mpr ⟨spells.array, spells.routes⟩)

theorem deployed_spells : Transport.Spells Deployment.transportConfig false :=
  (Transport.validateConfig_some (Deployment.transportConfig_valid 0 41 (ascii "g"))).2.1

/-- The deployed configuration is one the schema accepts. -/
theorem deployed_fieldsAccepted : TransportSchema.FieldsAccepted Deployment.transportConfig := by
  have declared : Deployment.transportConfig.fields.all (fun e =>
      TransportSchema.isDeclared e.1) = true := by decide +kernel
  exact ⟨rfl, texts_iff.mpr deployed_spells.texts, .inr ⟨false, rfl⟩, List.all_eq_true.mp declared⟩

theorem deployed_recordsKeyed : RecordsKeyed (Deployment.transportConfig.field "routes") := by
  have keyed : (Deployment.transportConfig.field "routes").fields.items.all (fun route =>
      decide (route.fields.map Prod.fst).Nodup) = true := by decide +kernel
  exact fun route mem => of_decide_eq_true (List.all_eq_true.mp keyed route mem)

theorem schema_handler_agree_deployed :
    TransportSchema.validateRoutes (Deployment.transportConfig.field "routes") = .ok () ∧
      ∃ routes, Transport.validateConfig (Deployment.worker 0 41 (ascii "g"))
        Deployment.transportConfig = some routes := by
  obtain ⟨arrays, served, -⟩ := schema_handler_agree
  have accepted := (arrays (Deployment.transportConfig.field "routes") deployed_recordsKeyed).mpr
    (routesAccepted_iff.mpr ⟨deployed_spells.array, deployed_spells.routes⟩)
  exact ⟨accepted, served _ _ deployed_recordsKeyed ⟨rfl, rfl⟩ deployed_fieldsAccepted accepted⟩

end KonnectFapi.Guarantees

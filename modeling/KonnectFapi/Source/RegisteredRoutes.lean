import KonnectFapi.Source.WorkerEffects

/-!
# Registered routes are manifest routes

Source: kong/plugins/fapi-as-mtls-transport/handler.lua:282-306 and 696-726. A
registry only ever holds records the manifest spells out, under their own ids.
-/

namespace KonnectFapi.Source.Transport
open Lib Lib.Lua

/-- Every route of the registry is the manifest's record for its id. -/
def Registry.FromManifest (registry : Registry) : Prop :=
  ∀ id route, registry.route id = some route → manifest id = some route.toManifestRoute

theorem validateRoute_manifest {value : Value} {route : ManifestRoute}
    (h : validateRoute value = some route) : manifest route.routeId = some route := by
  unfold validateRoute at h
  split at h
  · cases h
  · split at h
    · split at h
      · cases h
      · rename_i id _ expected hid
        split at h
        · cases h
          rwa [(manifest_eq_some hid).2]
        · cases h
    · cases h

theorem validateRoutes_manifest {values : List Value} {routes result : List ManifestRoute}
    (h : validateRoutes values routes = some result)
    (before : ∀ route ∈ routes, manifest route.routeId = some route) :
    ∀ route ∈ result, manifest route.routeId = some route := by
  induction values generalizing routes with
  | nil =>
    cases h
    exact before
  | cons value rest ih =>
    unfold validateRoutes at h
    split at h
    · cases h
    · rename_i expected hexpected
      split at h
      · cases h
      · refine ih h fun route hroute => ?_
        rcases List.mem_append.mp hroute with old | new
        · exact before route old
        · rw [List.mem_singleton.mp new]
          exact validateRoute_manifest hexpected

theorem validateConfig_manifest {process : Process} {config : Value} {routes : List ManifestRoute}
    (h : validateConfig process config = some routes) :
    ∀ route ∈ routes, manifest route.routeId = some route := by
  unfold validateConfig at h
  split at h
  · cases h
  split at h
  · cases h
  split at h
  · cases h
  split at h
  · cases h
  split at h
  · cases h
  split at h
  · cases h
  · rename_i found hfound
    split at h
    · cases h
    · split at h
      · cases h
      · cases h
        exact validateRoutes_manifest hfound (by simp)

theorem loadConfig_manifest {host : Host} {process : Process} {env : Env} {configs : Value}
    {loaded : Loaded} (h : loadConfig host process env configs = some loaded) :
    ∀ route ∈ loaded.routes, manifest route.routeId = some route := by
  simp only [loadConfig, loadSignature, Option.bind_eq_bind, Option.bind_eq_some_iff,
    Option.pure_def, Option.some.injEq] at h
  obtain ⟨⟨config, routes, signature⟩, ⟨_, _, _, hroutes, _, _, triple⟩, _, _, _, _, _, _, rfl⟩ := h
  cases triple
  exact validateConfig_manifest hroutes

theorem mergeIdentities_manifest {routes : List ManifestRoute}
    (h : ∀ route ∈ routes, manifest route.routeId = some route)
    (identities : List (Bytes × Identity)) {entry : Bytes × RouteIdentity}
    (hentry : entry ∈ mergeIdentities routes identities) :
    manifest entry.1 = some entry.2.toManifestRoute := by
  obtain ⟨route, hroute, hmap⟩ := List.mem_filterMap.mp hentry
  obtain ⟨identity, -, rfl⟩ := Option.map_eq_some_iff.mp hmap
  exact h route hroute

theorem loaded_registry_manifest {host : Host} {process : Process} {env : Env} {configs : Value}
    {loaded : Loaded} (h : loadConfig host process env configs = some loaded) :
    loaded.registry.FromManifest := by
  intro id route hroute
  have mem : (id, route) ∈ mergeIdentities loaded.routes loaded.identities := by
    obtain ⟨before, after, split, -⟩ := List.lookup_eq_some_iff.mp hroute
    show (id, route) ∈ loaded.registry.routes
    rw [split]
    simp
  exact mergeIdentities_manifest (loadConfig_manifest h) loaded.identities mem

end KonnectFapi.Source.Transport

namespace KonnectFapi.Source.Worker
open Lib Lib.Lua Transport

/-- The registry of every reachable worker, if there is one, is made of manifest routes. -/
theorem registry_fromManifest_step (host : Host) (process : Process) (w : World) (i : Step)
    (h : ∀ registry, w.modules.transport.registry = some registry → registry.FromManifest) :
    ∀ registry, (step host process w i).1.modules.transport.registry = some registry →
      registry.FromManifest := by
  intro registry hregistry
  change (step host process w i).1.modules.transport.core.registry = some registry at hregistry
  have effect := step_transport host process w i
  generalize (step host process w i).1.modules.transport.core = after at effect hregistry
  cases effect with
  | configure env refreshEnv configs core effect guard =>
    rw [guard] at hregistry
    change core.registry = some registry at hregistry
    cases effect with
    | stillFailed failed core =>
      rw [core] at hregistry
      exact h registry hregistry
    | absent failed none core =>
      rw [core] at hregistry
      cases hregistry
    | latched failed core =>
      rw [core] at hregistry
      cases hregistry
    | accepted loaded ready epoch failed load same core =>
      rw [core] at hregistry
      cases epoch with
      | none => cases hregistry
      | some epoch =>
        cases hregistry
        exact loaded_registry_manifest load
  | initWorker env refreshEnv guard =>
    rw [guard] at hregistry
    obtain ⟨epoch, ready, -, core⟩ := initWorker_core host process env w.modules.transport
    rw [core] at hregistry
    refine h registry ?_
    split at hregistry <;> exact hregistry
  | other _ guard =>
    rw [guard] at hregistry
    exact h registry hregistry

theorem registry_fromManifest (host : Host) (process : Process) {w : World}
    (reach : Machine.Reachable (step host process) World.initial w) {registry : Registry}
    (h : w.modules.transport.registry = some registry) : registry.FromManifest := by
  refine reach.invariant (P := fun v => ∀ registry, v.modules.transport.registry = some registry →
    registry.FromManifest) (registry_fromManifest_step host process) ?_ registry h
  rintro _ ⟨⟩

end KonnectFapi.Source.Worker

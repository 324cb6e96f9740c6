import KonnectFapi.Source.Keycloak.Clients

/-!
# The managed key provider

Source: scripts/sync-keycloak-demo-data.py:239-375. One component, matched by name; an
update writes the managed config keys over those that stand there.
-/

namespace KonnectFapi.Source.Keycloak
open Lib Lib.Json Reconciler

variable {floats : FloatEquality} {supply : IdSupply Text}

/-- The payload every valid document comes to. -/
def managedPayload : Dict :=
  [(text "name", .str managedKeyProviderName), (text "providerId", .str managedKeyProviderId),
    (text "providerType", .str keyProviderType), (text "config", .obj managedKeyProviderConfig)]

theorem keyProviderAdminPayload_ok {desiredRealm : Json} {payload : Dict}
    (h : keyProviderAdminPayload floats desiredRealm = .ok payload) : payload = managedPayload := by
  unfold keyProviderAdminPayload at h
  dsimp only at h
  split at h
  · split at h
    · split at h
      · obtain ⟨found, -, h⟩ := bind_eq_ok.mp h
        split at h
        · obtain ⟨-, h⟩ := check_bind.mp h
          obtain ⟨-, h⟩ := check_bind.mp h
          exact (Except.ok.inj h).symm
        · cases h
      · cases h
    · cases h
  · cases h

theorem managedConfig_comparable (floats : FloatEquality) : Comparable floats (.obj managedKeyProviderConfig) := by
  have hnodup : (managedKeyProviderConfig.map Prod.fst).Nodup := by decide +kernel
  refine comparable_obj.mpr ⟨hnodup, fun m hm => ?_⟩
  obtain ⟨pair, -, rfl⟩ := List.mem_map.mp hm
  exact ⟨trivial, trivial⟩

theorem managedPayload_names :
    managedPayload.map Prod.fst = ["name", "providerId", "providerType", "config"].map text := rfl

theorem managedPayload_nodup : (managedPayload.map Prod.fst).Nodup := by decide +kernel

theorem lookup_managed {name : Text} {v : Json} (h : (name, v) ∈ managedPayload) :
    managedPayload.lookup name = some v := lookup_eq_some_of_mem managedPayload_nodup h

theorem managedPayload_name : textAt managedPayload "name" = some managedKeyProviderName :=
  textAt_eq_some.mpr (lookup_managed (by simp [managedPayload]))

theorem managedPayload_providerId : textAt managedPayload "providerId" = some managedKeyProviderId :=
  textAt_eq_some.mpr (lookup_managed (by simp [managedPayload]))

theorem managedPayload_providerType : textAt managedPayload "providerType" = some keyProviderType :=
  textAt_eq_some.mpr (lookup_managed (by simp [managedPayload]))

theorem managedPayload_config : dictAt managedPayload "config" = some managedKeyProviderConfig :=
  dictAt_eq_some.mpr (lookup_managed (by simp [managedPayload]))

theorem isManagedPayload_managed : isManagedPayload floats managedPayload = true := by
  have hnames : namesAre managedPayload ["name", "providerId", "providerType", "config"] = true := by
    decide +kernel
  have hconfig := dictAt_eq_some.mp managedPayload_config
  simp only [isManagedPayload, hasText, hnames, managedPayload_name, managedPayload_providerId,
    managedPayload_providerType, beq_self_eq_true, hconfig, Option.getD_some, Bool.and_true]
  exact equal_self _ (managedConfig_comparable floats)

theorem sent_managed (id : Text) : sent ((text "id", .str id) :: managedPayload) = managedPayload := by
  have hid : text "id" ∉ managedPayload.map Prod.fst := by decide +kernel
  rw [sent_cons_id, sent_eq_self hid]

/-! ## Reconciling the components -/

/-- The config keys of the script have its values. -/
def configSettled (floats : FloatEquality) (fields : Dict) : Bool :=
  managedKeyProviderConfig.all fun m =>
    equal floats ((((dictAt fields "config").getD []).lookup m.1).getD .null) m.2

def providerReconciler (floats : FloatEquality) : Reconciler (Option Text) Dict Dict where
  key payload := textAt payload "name"
  keyOf fields := textAt fields "name"
  settled _ fields := configSettled floats fields
  create payload := payload
  amend payload fields := Server.mergedComponent fields payload

theorem config_ne {name : String} (h : name ∈ ["name", "providerId", "providerType"]) :
    text name ≠ text "config" := by
  simp only [List.mem_cons, List.not_mem_nil, or_false] at h
  rcases h with rfl | rfl | rfl <;> decide +kernel

theorem lookup_merged_of_ne (fields : Dict) {name : String} {v : Json}
    (hname : name ∈ ["name", "providerId", "providerType"])
    (h : managedPayload.lookup (text name) = some v) :
    (Server.mergedComponent fields managedPayload).lookup (text name) = some v := by
  rw [Server.mergedComponent, lookup_put, if_neg (config_ne hname),
    lookup_amend managedPayload_nodup, h, Option.some_or]

theorem dictAt_merged (fields : Dict) :
    dictAt (Server.mergedComponent fields managedPayload) "config" =
      some (Json.amend ((dictAt fields "config").getD []) managedKeyProviderConfig) := by
  rw [dictAt_eq_some, Server.mergedComponent, lookup_put, if_pos rfl, managedPayload_config,
    Option.getD_some]

theorem configSettled_of_lookup {fields config : Dict} (h : dictAt fields "config" = some config)
    (inside : ∀ m ∈ managedKeyProviderConfig, config.lookup m.1 = some m.2) :
    configSettled floats fields = true := by
  refine List.all_eq_true.mpr fun m hm => ?_
  rw [h, Option.getD_some, inside m hm, Option.getD_some]
  exact equal_self _ ((comparable_obj.mp (managedConfig_comparable floats)).2 m hm)

theorem managedConfig_lookup {m : Text × Json} (h : m ∈ managedKeyProviderConfig) :
    managedKeyProviderConfig.lookup m.1 = some m.2 :=
  lookup_eq_some_of_mem (comparable_obj.mp (managedConfig_comparable
    ⟨fun _ _ => true, fun _ _ => true⟩)).1 h

theorem provider_sound (floats : FloatEquality) : (providerReconciler floats).Sound managedPayload where
  keyOf_create := rfl
  keyOf_amend fields _ := by
    refine Eq.trans ?_ managedPayload_name.symm
    exact textAt_eq_some.mpr (lookup_merged_of_ne fields (by simp) (textAt_eq_some.mp managedPayload_name))
  settled_create := by
    have h : configSettled floats managedPayload = true :=
      configSettled_of_lookup managedPayload_config fun _ => managedConfig_lookup
    exact h
  settled_amend fields _ := by
    refine configSettled_of_lookup (dictAt_merged fields) fun m hm => ?_
    rw [lookup_amend (by decide +kernel), managedConfig_lookup hm, Option.some_or]

/-! ## Planning -/

/-- What the planner requires of a component under the managed name. -/
structure ProviderFields (fields : Dict) : Prop where
  providerId : textAt fields "providerId" = some managedKeyProviderId
  providerType : textAt fields "providerType" = some keyProviderType
  config : ∃ config, dictAt fields "config" = some config ∧ isProviderConfig config = true

abbrev managedProviders (floats : FloatEquality) (components : Store Text Dict) :
    List (Text × Dict) :=
  (providerReconciler floats).found components (textAt managedPayload "name")

structure ProviderReady (floats : FloatEquality) (components : Store Text Dict) : Prop where
  single : (managedProviders floats components).length ≤ 1
  ids : ∀ e ∈ managedProviders floats components, e.1 ≠ []
  fields : ∀ e ∈ managedProviders floats components, ProviderFields e.2

/-- The action of a step. -/
def providerAction : Step Text Dict → ProviderAction
  | .create payload => .create payload
  | .keep id _ => .noop id
  | .update id payload => .update id payload

theorem namedLikeManaged_shown {message : Text} :
    ∀ {entries : List (Text × Dict)},
      (∀ e ∈ entries, textAt e.2 "name" = some managedKeyProviderName) →
      namedLikeManaged message (entries.map fun e => shown e.1 e.2) =
        .ok (entries.map fun e => (text "id", .str e.1) :: e.2)
  | [], _ => rfl
  | e :: rest, h => by
    obtain ⟨head, tail⟩ := List.forall_mem_cons.mp h
    have hname : textAt ((text "id", .str e.1) :: e.2) "name" = some managedKeyProviderName :=
      (textAt_shown e.1 e.2).trans head
    rw [List.map_cons, shown, namedLikeManaged, hname]
    refine bind_eq_ok.mpr ⟨_, namedLikeManaged_shown tail, ?_⟩
    rw [if_pos rfl]
    rfl

theorem componentsNamed_eq (floats : FloatEquality) (s : Server) :
    s.componentsNamed managedKeyProviderName =
      .arr ((managedProviders floats s.components).map fun e => shown e.1 e.2) := by
  rw [Server.componentsNamed, managedProviders, managedPayload_name, found]
  congr 2
  refine List.filter_congr fun e _ => ?_
  by_cases h : textAt e.2 "name" = some managedKeyProviderName <;> simp [h, providerReconciler]

theorem hasText_iff {mapping : Dict} {name : String} {value : Text} :
    hasText mapping name value = true ↔ textAt mapping name = some value := by
  rw [hasText, beq_iff_eq]

theorem shown_ne {name : String} (h : name ∈ ["providerId", "providerType", "config"]) :
    text name ≠ text "id" := by
  simp only [List.mem_cons, List.not_mem_nil, or_false] at h
  rcases h with rfl | rfl | rfl <;> decide +kernel

theorem configSettled_eq {fields config : Dict} (h : dictAt fields "config" = some config) :
    (managedKeyProviderConfig.all fun m => equal floats ((config.lookup m.1).getD .null) m.2) =
      configSettled floats fields := by
  rw [configSettled, h, Option.getD_some]

theorem planKeyProviderSync_ok {s : Server} {plan : ProviderAction} :
    planKeyProviderSync floats managedPayload (s.componentsNamed managedKeyProviderName) = .ok plan ↔
      ProviderReady floats s.components ∧
        plan = providerAction ((providerReconciler floats).planOne s.components managedPayload) := by
  have hnamed : ∀ e ∈ managedProviders floats s.components,
      textAt e.2 "name" = some managedKeyProviderName := by
    intro e he
    exact (mem_found.mp he).2.trans managedPayload_name
  have hkey : (providerReconciler floats).found s.components
      ((providerReconciler floats).key managedPayload) = managedProviders floats s.components := rfl
  unfold planKeyProviderSync
  rw [check_bind, componentsNamed_eq floats]
  dsimp only
  rw [namedLikeManaged_shown hnamed, planOne, hkey]
  simp only [isManagedPayload_managed, true_and]
  have start : ∀ next : List Dict → Outcome ProviderAction,
      ((Except.ok ((managedProviders floats s.components).map fun e => (text "id", Json.str e.1) :: e.2) :
        Outcome (List Dict)) >>= next) =
      next ((managedProviders floats s.components).map fun e => (text "id", .str e.1) :: e.2) :=
    fun _ => rfl
  rw [start]
  rcases hfound : managedProviders floats s.components with _ | ⟨⟨id, fields⟩, _ | ⟨e, rest⟩⟩
  · have ready : ProviderReady floats s.components :=
      ⟨by rw [hfound]; exact Nat.zero_le 1, by rw [hfound]; simp, by rw [hfound]; simp⟩
    simp [ready, providerAction, pure, Except.pure, eq_comm]
  · have hready : ProviderReady floats s.components ↔ id ≠ [] ∧ ProviderFields fields := by
      constructor
      · intro h
        have hmem : (id, fields) ∈ managedProviders floats s.components :=
          hfound ▸ List.mem_singleton_self _
        exact ⟨h.ids _ hmem, h.fields _ hmem⟩
      · rintro ⟨hid, hfields⟩
        exact ⟨by rw [hfound]; exact Nat.le_refl 1, by rw [hfound]; simpa using hid,
          by rw [hfound]; simpa using hfields⟩
    rw [hready, List.map_cons, List.map_nil]
    dsimp only
    rcases hfilled : filledAt ((text "id", .str id) :: fields) "id" with _ | current
    · have hempty : id = [] := by
        by_contra hne
        rw [filledAt_shown.mpr ⟨rfl, hne⟩] at hfilled
        cases hfilled
      simp [hempty]
    · obtain ⟨rfl, hne⟩ := filledAt_shown.mp hfilled
      dsimp only
      rw [check_bind, Bool.and_eq_true, hasText_iff, hasText_iff,
        textAt_congr (lookup_shown (shown_ne (by simp)) id fields),
        textAt_congr (lookup_shown (shown_ne (by simp)) id fields),
        dictAt_congr (lookup_shown (shown_ne (by simp)) id fields)]
      have hsettled : (providerReconciler floats).settled managedPayload fields =
          configSettled floats fields := rfl
      constructor
      · rintro ⟨⟨hproviderId, hproviderType⟩, h⟩
        split at h
        · rename_i config hconfig
          obtain ⟨hvalid, h⟩ := check_bind.mp h
          refine ⟨⟨hne, hproviderId, hproviderType, config, hconfig, hvalid⟩, ?_⟩
          rw [configSettled_eq hconfig] at h
          rw [hsettled]
          split at h
          · rename_i settled
            rw [if_pos settled]
            exact (Except.ok.inj h).symm
          · rename_i unsettled
            rw [if_neg unsettled]
            exact (Except.ok.inj h).symm
        · cases h
      · rintro ⟨⟨-, hproviderId, hproviderType, config, hconfig, hvalid⟩, rfl⟩
        refine ⟨⟨hproviderId, hproviderType⟩, ?_⟩
        rw [hconfig]
        refine check_bind.mpr ⟨hvalid, ?_⟩
        rw [configSettled_eq hconfig, hsettled]
        split <;> rfl
  · have hready : ¬ ProviderReady floats s.components := by
      intro h
      have hsingle := h.single
      rw [hfound, List.length_cons, List.length_cons] at hsingle
      omega
    simp [hready]

/-! ## Applying -/

/-- A component that was created, or updated, is one the planner takes. -/
theorem providerFields_merged {fields : Dict} (h : ProviderFields fields) :
    ProviderFields (Server.mergedComponent fields managedPayload) where
  providerId := textAt_eq_some.mpr
    (lookup_merged_of_ne fields (by simp) (textAt_eq_some.mp managedPayload_providerId))
  providerType := textAt_eq_some.mpr
    (lookup_merged_of_ne fields (by simp) (textAt_eq_some.mp managedPayload_providerType))
  config := by
    obtain ⟨config, hconfig, hvalid⟩ := h.config
    have hmanaged : isProviderConfig managedKeyProviderConfig = true := by decide +kernel
    refine ⟨_, dictAt_merged fields, ?_⟩
    rw [hconfig, Option.getD_some]
    unfold isProviderConfig at hvalid hmanaged ⊢
    rw [List.all_eq_true] at hvalid hmanaged ⊢
    exact forall_mem_amend (P := fun v => isTextList v = true) hvalid hmanaged

theorem providerFields_managed : ProviderFields managedPayload where
  providerId := managedPayload_providerId
  providerType := managedPayload_providerType
  config := ⟨_, managedPayload_config, by decide +kernel⟩

def Server.withComponents (s : Server) (components : Store Text Dict) : Server :=
  { s with components := components }

/-- The components after the plan made from them. -/
def reconciledComponents (floats : FloatEquality) (supply : IdSupply Text)
    (components : Store Text Dict) : Store Text Dict :=
  (providerReconciler floats).applyOne supply components
    ((providerReconciler floats).planOne components managedPayload)

theorem applyKeyProviderSync_ok (supply : IdSupply Text) {s : Server} (ready : ProviderReady floats s.components) :
    ∃ changed, applyKeyProviderSync floats supply
        (providerAction ((providerReconciler floats).planOne s.components managedPayload)) s =
      .ok (s.withComponents (reconciledComponents floats supply s.components), changed) := by
  have hsent : sent managedPayload = managedPayload := by
    rw [← sent_cons_id [], sent_managed]
  rw [reconciledComponents, planOne]
  rcases hfound : (providerReconciler floats).found s.components
      ((providerReconciler floats).key managedPayload) with _ | ⟨⟨id, fields⟩, rest⟩
  · refine ⟨true, check_bind.mpr ⟨isManagedPayload_managed, ?_⟩⟩
    rw [Server.postComponent, hsent]
    rfl
  · have hmem : (id, fields) ∈ (providerReconciler floats).found s.components
        ((providerReconciler floats).key managedPayload) := hfound ▸ List.mem_cons_self
    dsimp only
    split
    · exact ⟨false, rfl⟩
    · have hfind : s.components.find? id = some fields :=
        Store.find?_eq_some.mpr (mem_found.mp hmem).1
      have hid : (id != [] && isManagedPayload floats managedPayload) = true := by
        rw [isManagedPayload_managed, Bool.and_true, bne_iff_ne]
        exact ready.ids _ hmem
      refine ⟨true, check_bind.mpr ⟨hid, bind_eq_ok.mpr ⟨_, ?_, rfl⟩⟩⟩
      rw [Server.putComponent, hfind, sent_managed]
      rfl

/-- Planning again asks for nothing. -/
theorem provider_settles (filled : ∀ taken, supply.next taken ≠ []) {components : Store Text Dict}
    (ready : ProviderReady floats components) :
    ProviderReady floats (reconciledComponents floats supply components) ∧
      ∃ id, (providerReconciler floats).planOne (reconciledComponents floats supply components)
        managedPayload = .keep id managedPayload := by
  obtain ⟨⟨id, fields, hfound, hsettled, hfrom⟩, -⟩ := applyOne_fulfils supply
    (provider_sound floats) (rfl : (providerReconciler floats).found components _ = _)
    ready.single
  have hentry : id ≠ [] ∧ ProviderFields fields := by
    rcases hfrom with ⟨-, rfl, taken, rfl⟩ | ⟨old, hold, hfields⟩
    · exact ⟨filled taken, providerFields_managed⟩
    · have hmem : (id, old) ∈ (providerReconciler floats).found components
          ((providerReconciler floats).key managedPayload) := hold ▸ List.mem_singleton_self _
      refine ⟨ready.ids _ hmem, ?_⟩
      rcases hfields with rfl | rfl
      · exact ready.fields _ hmem
      · exact providerFields_merged (ready.fields _ hmem)
  have hmanaged : managedProviders floats (reconciledComponents floats supply components) =
      [(id, fields)] := hfound
  refine ⟨⟨?_, ?_, ?_⟩, id, planOne_keep hfound hsettled⟩
  · rw [hmanaged, List.length_singleton]
  · rw [hmanaged]
    simpa using hentry.1
  · rw [hmanaged]
    simpa using hentry.2

end KonnectFapi.Source.Keycloak

import KonnectFapi.Source.Keycloak.Prepared

/-!
# What a run leaves alone

Source: scripts/sync-keycloak-demo-data.py:186-236, 302-307, 395-406 and 462-560. A client,
a mapper, a component or a realm entry the document does not name stays; of those it names,
the members it does not name stay.
-/

namespace KonnectFapi.Source.Keycloak
open Lib Lib.Json Reconciler

variable {floats : FloatEquality} {supply : IdSupply Text}

/-! ## Clients -/

/-- A wanted client beside what is wanted of it. -/
structure ClientKept (wanted : WantedClient) (c c' : Client) : Prop where
  fields : ∀ name, name ∉ clientNamesOf → c'.fields.lookup name = c.fields.lookup name
  attributes : ∀ live, dictAt c.fields "attributes" = some live →
    ∃ live', dictAt c'.fields "attributes" = some live' ∧ ∀ name,
      (((dictAt wanted.payload "attributes").getD []).lookup name).isNone →
        live'.lookup name = live.lookup name
  mappers : ∀ id m, c.mappers.find? id = some m →
    (∀ p ∈ wanted.mappers, textAt m "name" ≠ some (nameOf p)) → c'.mappers.find? id = some m

theorem fieldsKept_amended {payload : Dict} (h : ClientPayload floats payload) (fields : Dict)
    {name : Text} (hname : name ∉ clientNamesOf) :
    (Json.amend fields (amendedPayload payload fields)).lookup name = fields.lookup name := by
  have hnames := amendedPayload_names h fields
  have habsent : (amendedPayload payload fields).lookup name = none := by
    rw [← Option.isNone_iff_eq_none, ← Option.isSome_eq_false_iff, ← Bool.not_eq_true,
      ← mem_names_iff, hnames]
    exact hname
  rw [lookup_amend (hnames ▸ clientNamesOf_nodup), habsent, Option.none_or]

theorem attributesKept_amended {payload : Dict} (h : ClientPayload floats payload)
    {fields live : Dict} (hlive : dictAt fields "attributes" = some live) :
    ∃ live', dictAt (Json.amend fields (amendedPayload payload fields)) "attributes" = some live' ∧
      ∀ name, (((dictAt payload "attributes").getD []).lookup name).isNone →
        live'.lookup name = live.lookup name := by
  obtain ⟨attributes, hattributes⟩ := h.attributes
  have hnodup : (attributes.map Prod.fst).Nodup :=
    (comparable_obj.mp (h.comparable.member (dictAt_eq_some.mp hattributes))).1
  refine ⟨Json.amend live attributes, ?_, fun name hname => ?_⟩
  · rw [dictAt_eq_some, lookup_amended h fields attributes_mem, amendedPayload, hlive]
    dsimp only
    rw [lookup_put, if_pos rfl, hattributes, Option.getD_some]
  · rw [hattributes, Option.getD_some, Option.isNone_iff_eq_none] at hname
    rw [lookup_amend hnodup, hname, Option.none_or]

/-- The mappers of other names are as they were. -/
theorem mappersKept {mappers : Store Text Dict} {payloads : List Dict}
    (h : MappersWanted floats mappers payloads) {id : Text} {m : Dict}
    (hm : mappers.find? id = some m) (hname : ∀ p ∈ payloads, textAt m "name" ≠ some (nameOf p)) :
    (reconciledMappers floats supply mappers payloads).find? id = some m := by
  refine (h.reconciled supply).2.kept id m hm fun k hk => ?_
  obtain ⟨p, hp, rfl⟩ := List.mem_map.mp hk
  exact hname p hp

/-- A client that was there is there, with what was not asked of it. -/
theorem clientKept {clients clients' : Store Text Client} {wanted : WantedClient}
    (planned : Planned floats clients wanted) (stands : Stands floats supply clients clients' wanted)
    {id : Text} {c : Client} (hc : clients.find? id = some c)
    (hkey : textAt c.fields "clientId" = some (clientIdOf wanted.payload)) :
    ∃ c', clients'.find? id = some c' ∧ ClientKept wanted c c' := by
  obtain ⟨id', a, hfound', -, hfrom⟩ := stands
  have hmem : (id, c) ∈ (clientReconciler floats).found clients ((clientReconciler floats).key wanted) :=
    mem_found.mpr ⟨Store.find?_eq_some.mp hc, hkey⟩
  have hmappers : ∀ mid m, c.mappers.find? mid = some m →
      (∀ p ∈ wanted.mappers, textAt m "name" ≠ some (nameOf p)) →
      (reconciledMappers floats supply c.mappers wanted.mappers).find? mid = some m := by
    intro mid m hm hname
    have hown : mappersUnder floats clients wanted = c.mappers := by
      unfold mappersUnder
      have hsingle := planned.ready.single
      rcases hfound : (clientReconciler floats).found clients
          ((clientReconciler floats).key wanted) with _ | ⟨e, rest⟩
      · rw [hfound] at hmem
        cases hmem
      · rw [hfound, List.length_cons] at hsingle
        obtain rfl : rest = [] := List.eq_nil_of_length_eq_zero (by omega)
        rw [hfound] at hmem
        obtain rfl := List.mem_singleton.mp hmem
        rfl
    exact mappersKept (hown ▸ planned.mappersWanted) hm hname
  rcases hfrom with ⟨hnone, -, -⟩ | ⟨old, hold, hamend⟩
  · rw [hnone] at hmem
    cases hmem
  · rw [hold] at hmem
    obtain ⟨rfl, rfl⟩ := Prod.mk.inj (List.mem_singleton.mp hmem)
    have hthere : clients'.find? id = some (withMappersOf floats supply wanted a) :=
      Store.find?_eq_some.mpr (mem_found.mp (hfound' ▸ List.mem_singleton_self _)).1
    refine ⟨_, hthere, ?_⟩
    rcases hamend with rfl | rfl
    · exact ⟨fun _ _ => rfl, fun live hlive => ⟨live, hlive, fun _ _ => rfl⟩, hmappers⟩
    · exact ⟨fun name hname => fieldsKept_amended planned.payload c.fields hname,
        fun live hlive => attributesKept_amended planned.payload hlive, hmappers⟩

/-! ## The key provider -/

/-- The managed component beside what is managed of it. -/
structure ComponentKept (fields fields' : Dict) : Prop where
  others : ∀ name, name ∉ managedPayload.map Prod.fst → fields'.lookup name = fields.lookup name
  config : ∀ config, dictAt fields "config" = some config →
    ∃ config', dictAt fields' "config" = some config' ∧ ∀ name,
      (managedKeyProviderConfig.lookup name).isNone → config'.lookup name = config.lookup name

theorem componentKept_merged (fields : Dict) :
    ComponentKept fields (Server.mergedComponent fields managedPayload) where
  others name hname := by
    have hne : name ≠ text "config" := by
      rintro rfl
      exact hname (List.mem_map_of_mem (mem_of_lookup_eq_some (dictAt_eq_some.mp managedPayload_config)))
    have habsent : managedPayload.lookup name = none := by
      rw [← Option.isNone_iff_eq_none, ← Option.isSome_eq_false_iff, ← Bool.not_eq_true,
        ← mem_names_iff]
      exact hname
    rw [Server.mergedComponent, lookup_put, if_neg hne, lookup_amend managedPayload_nodup, habsent,
      Option.none_or]
  config config hconfig := by
    refine ⟨_, dictAt_merged fields, fun name hname => ?_⟩
    rw [hconfig, Option.getD_some, lookup_amend (by decide +kernel),
      Option.isNone_iff_eq_none.mp hname, Option.none_or]

/-- A component that was there is there. -/
theorem componentKept {components : Store Text Dict} (ready : ProviderReady floats components)
    {id : Text} {fields : Dict} (h : components.find? id = some fields)
    (hname : textAt fields "name" = some managedKeyProviderName) :
    ∃ fields', (reconciledComponents floats supply components).find? id = some fields' ∧
      ComponentKept fields fields' := by
  obtain ⟨⟨id', fields', hfound', -, hfrom⟩, -⟩ := applyOne_fulfils supply
    (provider_sound floats) (rfl : (providerReconciler floats).found components _ = _)
    ready.single
  have hmem : (id, fields) ∈ (providerReconciler floats).found components
      ((providerReconciler floats).key managedPayload) :=
    mem_found.mpr ⟨Store.find?_eq_some.mp h, hname.trans managedPayload_name.symm⟩
  rcases hfrom with ⟨hnone, -, -⟩ | ⟨old, hold, hamend⟩
  · rw [hnone] at hmem
    cases hmem
  · rw [hold] at hmem
    obtain ⟨rfl, rfl⟩ := Prod.mk.inj (List.mem_singleton.mp hmem)
    have hthere : (reconciledComponents floats supply components).find? id = some fields' :=
      Store.find?_eq_some.mpr (mem_found.mp (hfound' ▸ List.mem_singleton_self _)).1
    refine ⟨fields', hthere, ?_⟩
    rcases hamend with rfl | rfl
    · exact ⟨fun _ _ => rfl, fun config hconfig => ⟨config, hconfig, fun _ _ => rfl⟩⟩
    · exact componentKept_merged fields

theorem componentsApart {components : Store Text Dict} (ready : ProviderReady floats components) :
    Apart (providerReconciler floats) components (reconciledComponents floats supply components)
      [textAt managedPayload "name"] :=
  (applyOne_fulfils supply (provider_sound floats)
    (rfl : (providerReconciler floats).found components _ = _) ready.single).2

/-! ## The realm -/

/-- The names of the desired entries of a group. -/
def desiredNames (desired : Dict) (field collection : String) : List Text :=
  (((dictAt desired field).bind fun group => listAt group collection).getD []).filterMap fun entry =>
    match entry with
    | .obj found => textAt found "name"
    | _ => none

/-- A group beside the entries that are desired of it. -/
structure GroupKept (collection : String) (names : List Text) (live live' : Dict) : Prop where
  others : ∀ name, name ≠ text collection → live'.lookup name = live.lookup name
  entries : ∀ items, listAt live collection = some items →
    ∃ items', listAt live' collection = some items' ∧ ∀ e, .obj e ∈ items →
      (∀ name ∈ names, textAt e "name" ≠ some name) → .obj e ∈ items'

theorem listAt_eq_some {mapping : Dict} {name : String} {items : List Json} :
    listAt mapping name = some items ↔ mapping.lookup (text name) = some (.arr items) := by
  unfold listAt
  split
  · rename_i hlookup
    simp [hlookup]
  · rename_i hlookup
    simp only [reduceCtorEq, false_iff]
    exact hlookup items

theorem listAt_of_getD {mapping : Dict} {name : String} {items : List Json}
    (h : (mapping.lookup (text name)).getD (.arr []) = .arr items) :
    listAt mapping name = some items ∨ items = [] := by
  rcases hlookup : mapping.lookup (text name) with _ | v
  · rw [hlookup] at h
    exact Or.inr (Json.arr.inj h).symm
  · rw [hlookup, Option.getD_some] at h
    exact Or.inl (listAt_eq_some.mpr (h ▸ hlookup))

/-- An entry of another name is in the merged list. -/
theorem Merging.kept {current desired : Json} {merged : List Dict}
    (h : Merging current desired merged) {e : Dict} (he : e ∈ h.entries)
    (hname : ∀ d ∈ h.wanted, textAt e "name" ≠ some d.1) : e ∈ merged := by
  obtain ⟨name, hown⟩ := Option.isSome_iff_exists.mp (h.named.named e he)
  have hnew : name ∉ h.wanted.map Prod.fst := by
    intro hmem
    obtain ⟨d, hd, rfl⟩ := List.mem_map.mp hmem
    exact hname d hd hown
  have hentry : entryNamed h.entries name = some e := by
    obtain ⟨other, hother⟩ : ∃ other, entryNamed h.entries name = some other := by
      refine Option.isSome_iff_exists.mp (List.find?_isSome.mpr ⟨e, he, ?_⟩)
      exact beq_iff_eq.mpr hown
    obtain ⟨hmem, hsame⟩ := entryNamed_some hother
    rw [hother, List.inj_on_of_nodup_map h.named.distinct hmem he (hsame.trans hown.symm)]
  exact (entryNamed_some ((h.all.others name hnew).trans hentry)).1

/-- A group as it was merged. -/
theorem groupKept_merged {current desired : Dict} {field collection : String} {label : Text}
    {group live : Dict} (hcurrent : Comparable floats (.obj current))
    (hdesired : Comparable floats (.obj desired))
    (h : mergedGroup current desired field collection label = .ok group)
    (hlive : dictAt current field = some live) :
    GroupKept collection (desiredNames desired field collection) live group := by
  have hempty : Comparable floats (.arr []) := trivial
  unfold mergedGroup at h
  rw [dictAt_eq_some.mp hlive, Option.getD_some] at h
  dsimp only at h
  split at h
  · rename_i desiredGroup hgroup
    obtain ⟨merged, hmerged, hresult⟩ := bind_eq_ok.mp h
    obtain rfl := Except.ok.inj hresult
    have hwanted : Comparable floats (.obj desiredGroup) :=
      hgroup ▸ comparable_getD hdesired _ trivial
    have hmembers : Comparable floats (.obj live) := hcurrent.member (dictAt_eq_some.mp hlive)
    obtain ⟨-, ⟨merging⟩⟩ := mergeNamedEntries_again (comparable_getD hmembers (text collection) hempty)
      (comparable_getD hwanted (text collection) hempty) hmerged
    refine ⟨fun name hname => ?_, fun items hitems => ?_⟩
    · rw [lookup_put, if_neg hname]
    · refine ⟨merged.map .obj, ?_, fun e he hname => ?_⟩
      · rw [listAt_eq_some, lookup_put, if_pos rfl]
      · have hitem : (live.lookup (text collection)).getD (.arr []) = .arr items := by
          rw [listAt_eq_some.mp hitems, Option.getD_some]
        rw [Json.arr.inj (hitem.symm.trans merging.current_eq)] at he
        obtain ⟨entry, hentry, heq⟩ := List.mem_map.mp he
        obtain rfl := Json.obj.inj heq
        refine List.mem_map_of_mem (merging.kept hentry fun d hd => hname d.1 ?_)
        -- A desired entry is read from the group of the document.
        obtain ⟨item, hitem, hreads⟩ := exists_of_mem_right merging.read hd
        have hdict : dictAt desired field = some desiredGroup := by
          rw [dictAt_eq_some]
          rcases hlookup : desired.lookup (text field) with _ | v
          · rw [hlookup] at hgroup
            cases hgroup
          · rw [hlookup, Option.getD_some] at hgroup
            rw [hgroup]
        have hlist : listAt desiredGroup collection = some merging.items ∨ merging.items = [] :=
          listAt_of_getD merging.desired_eq
        rcases hlist with hlist | hnone
        · rw [desiredNames, hdict, Option.bind_some, hlist, Option.getD_some]
          exact List.mem_filterMap.mpr ⟨item, hitem, by rw [hreads.object]; exact hreads.named⟩
        · rw [hnone] at hitem
          cases hitem
  · cases h

/-- A realm beside the fields, and the group entries, of the document. -/
structure RealmKept (desired current current' : Dict) : Prop where
  fields : ∀ name, name ∉ realmAdminFields.map text → current'.lookup name = current.lookup name
  policies : ∀ live, dictAt current "clientPolicies" = some live →
    ∃ live', dictAt current' "clientPolicies" = some live' ∧
      GroupKept "policies" (desiredNames desired "clientPolicies" "policies") live live'
  profiles : ∀ live, dictAt current "clientProfiles" = some live →
    ∃ live', dictAt current' "clientProfiles" = some live' ∧
      GroupKept "profiles" (desiredNames desired "clientProfiles" "profiles") live live'

theorem groupKept_refl (collection : String) (names : List Text) (live : Dict) :
    GroupKept collection names live live :=
  ⟨fun _ _ => rfl, fun items hitems => ⟨items, hitems, fun _ he _ => he⟩⟩

theorem groupKept {current desired payload : Dict} (hcurrent : Comparable floats (.obj current))
    (hdesired : Comparable floats (.obj desired)) (plan : RealmPlan floats current desired payload)
    {field collection : String} {label : Text} {group : Dict}
    (hmem : (text field, Json.obj group) ∈ realmFields desired plan.policies plan.profiles)
    (hgroup : mergedGroup current desired field collection label = .ok group) {live : Dict}
    (hlive : dictAt current field = some live) :
    ∃ live', dictAt (amend current payload) field = some live' ∧
      GroupKept collection (desiredNames desired field collection) live live' := by
  rcases realm_field plan hmem with ⟨-, hsame⟩ | hwritten
  · refine ⟨live, ?_, groupKept_refl ..⟩
    rw [dictAt_congr hsame, hlive]
  · exact ⟨group, dictAt_eq_some.mpr hwritten, groupKept_merged hcurrent hdesired hgroup hlive⟩

theorem realmKept {current desired payload : Dict} (hcurrent : Comparable floats (.obj current))
    (hdesired : Comparable floats (.obj desired)) (plan : RealmPlan floats current desired payload) :
    RealmKept desired current (amend current payload) where
  fields _ hname := realm_kept plan hname
  policies _ hlive := groupKept hcurrent hdesired plan (policies_mem ..) plan.mergedPolicies hlive
  profiles _ hlive := groupKept hcurrent hdesired plan (profiles_mem ..) plan.mergedProfiles hlive

end KonnectFapi.Source.Keycloak

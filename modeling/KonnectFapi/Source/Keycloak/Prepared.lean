import KonnectFapi.Source.Keycloak.Provider
import KonnectFapi.Source.Keycloak.Realm
import KonnectFapi.Source.Keycloak.Settled

/-!
# The plan of a whole run

Source: scripts/sync-keycloak-demo-data.py:593-622. When the script has a plan, what
carrying it out leaves, and that an idle plan sends nothing and passes the checks.
-/

namespace KonnectFapi.Source.Keycloak
open Lib Lib.Json Reconciler

variable {floats : FloatEquality} {supply : IdSupply Text}

theorem get?_comparable {desired : Json} {name : Text} {v : Json} (h : Comparable floats desired)
    (hget : desired.get? name = some v) : Comparable floats v := by
  cases desired with
  | obj found => exact h.member hget
  | _ => cases hget

theorem asks_planned {desired : Json} {wanted : WantedClient} {clients : Store Text Client}
    (hcomparable : Comparable floats desired) (asks : Asks desired wanted)
    (ready : ClientReady floats clients wanted) : Planned floats clients wanted := by
  obtain ⟨payload, mappers, hmappers, read⟩ := asks
  refine ⟨clientPayload_of_ok payload hcomparable, fun p hp => ?_, ready⟩
  obtain ⟨item, hitem, hread⟩ := exists_of_mem_right read hp
  refine mapperPayload_of_ok hread ?_
  unfold desiredMappers at hmappers
  split at hmappers
  · rename_i items hitems
    obtain rfl := Except.ok.inj hmappers
    exact comparable_arr.mp (get?_comparable hcomparable hitems) item hitem
  · cases hmappers

theorem clientsWanted_of_asks {desiredClients : Json} {wanted : List WantedClient}
    {clients : Store Text Client} (hcomparable : Comparable floats desiredClients)
    (asks : AsksAll desiredClients wanted) (ready : ∀ w ∈ wanted, ClientReady floats clients w) :
    ClientsWanted floats clients wanted := by
  obtain ⟨⟨desired, rfl, read⟩, inventory⟩ := asks
  refine ⟨fun w hw => ?_, ?_⟩
  · obtain ⟨item, hitem, hasks⟩ := exists_of_mem_right read hw
    exact asks_planned (comparable_arr.mp hcomparable item hitem) hasks (ready w hw)
  · have hkeys : wanted.map (clientReconciler floats).key =
        (wanted.map fun w => clientIdOf w.payload).map some := by
      rw [List.map_map]
      rfl
    rw [hkeys]
    exact (List.nodup_map_iff (Option.some_injective _)).mpr (nodup_of_inventory inventory)

/-! ## The plan of a run -/

/-- When the script has a plan, and which. -/
structure Prepared (floats : FloatEquality) (desired : Json) (s : Server) (plan : SyncPlan) where
  provider : keyProviderAdminPayload floats desired = .ok managedPayload
  realm : Dict
  realmObject : desired = .obj realm
  realmPlan : RealmPlan floats s.realm realm plan.realm
  clients : Json
  clientsThere : desiredClientsOf desired = .ok clients
  wanted : List WantedClient
  asks : AsksAll clients wanted
  ready : ∀ w ∈ wanted, ClientReady floats s.clients w
  clientPlan : plan.clients = wanted.map (plannedAction floats s.clients)
  providerReady : ProviderReady floats s.components
  providerPlan : plan.keyProvider =
    providerAction ((providerReconciler floats).planOne s.components managedPayload)

theorem realmAdminPayload_object {current : Dict} {desired : Json} {payload : Dict}
    (h : realmAdminPayload floats (.obj current) desired = .ok payload) :
    ∃ realm, desired = .obj realm := by
  cases desired with
  | obj realm => exact ⟨realm, rfl⟩
  | _ => cases h

theorem prepareSync_ok {desired : Json} {s : Server} {plan : SyncPlan} :
    prepareSync floats desired s = .ok plan ↔ Nonempty (Prepared floats desired s plan) := by
  unfold prepareSync
  constructor
  · intro h
    obtain ⟨payload, hpayload, h⟩ := bind_eq_ok.mp h
    obtain ⟨realm, hrealm, h⟩ := bind_eq_ok.mp h
    obtain ⟨clients, hclients, h⟩ := bind_eq_ok.mp h
    obtain ⟨clientPlan, hclientPlan, h⟩ := bind_eq_ok.mp h
    obtain ⟨providerPlan, hprovider, h⟩ := bind_eq_ok.mp h
    obtain rfl := Except.ok.inj h
    obtain rfl := keyProviderAdminPayload_ok hpayload
    obtain ⟨document, rfl⟩ := realmAdminPayload_object hrealm
    obtain ⟨realmPlan⟩ := realmAdminPayload_ok.mp hrealm
    obtain ⟨wanted, asks, ready, rfl⟩ := prepareClientSync_ok.mp hclientPlan
    obtain ⟨payload, hagain, hplan⟩ := bind_eq_ok.mp hprovider
    obtain rfl := keyProviderAdminPayload_ok hagain
    obtain ⟨providerReady, rfl⟩ := planKeyProviderSync_ok.mp hplan
    exact ⟨⟨hpayload, document, rfl, realmPlan, clients, hclients, wanted, asks, ready, rfl,
      providerReady, rfl⟩⟩
  · rintro ⟨⟨hpayload, document, rfl, realmPlan, clients, hclients, wanted, asks, ready, hclientPlan,
      providerReady, hproviderPlan⟩⟩
    refine bind_eq_ok.mpr ⟨_, hpayload, bind_eq_ok.mpr ⟨plan.realm, ?_, bind_eq_ok.mpr
      ⟨clients, hclients, bind_eq_ok.mpr ⟨plan.clients, ?_, bind_eq_ok.mpr ⟨plan.keyProvider, ?_, rfl⟩⟩⟩⟩⟩
    · exact realmAdminPayload_ok.mpr ⟨realmPlan⟩
    · exact prepareClientSync_ok.mpr ⟨wanted, asks, ready, hclientPlan⟩
    · exact bind_eq_ok.mpr ⟨_, hpayload, planKeyProviderSync_ok.mpr ⟨providerReady, hproviderPlan⟩⟩

/-- A plan that sends nothing. -/
structure IdlePlan (plan : SyncPlan) : Prop where
  realm : plan.realm = []
  clients : ∀ action ∈ plan.clients, Idle action
  keyProvider : ∃ componentId, plan.keyProvider = .noop componentId

theorem applySync_idle {plan : SyncPlan} {s : Server} (h : IdlePlan plan) :
    applySync floats supply plan s = .ok s := by
  obtain ⟨hrealm, hclients, componentId, hprovider⟩ := h
  obtain ⟨counts, hclientSync⟩ := applyClientSync_idle (s := s) supply hclients
  unfold applySync
  rw [hprovider, hrealm]
  exact bind_eq_ok.mpr ⟨_, rfl, bind_eq_ok.mpr ⟨_, hclientSync, rfl⟩⟩

/-- The checks at the end ask for an idle plan. -/
theorem verifySync_idle {desired : Json} {s : Server} {plan : SyncPlan}
    (hplan : prepareSync floats desired s = .ok plan) (idle : IdlePlan plan) :
    verifySync floats desired s = .ok () := by
  unfold prepareSync at hplan
  obtain ⟨payload, hpayload, h⟩ := bind_eq_ok.mp hplan
  obtain ⟨realm, hrealm, h⟩ := bind_eq_ok.mp h
  obtain ⟨clients, hclients, h⟩ := bind_eq_ok.mp h
  obtain ⟨clientPlan, hclientPlan, h⟩ := bind_eq_ok.mp h
  obtain ⟨providerPlan, hprovider, h⟩ := bind_eq_ok.mp h
  obtain rfl := Except.ok.inj h
  obtain ⟨hnone, hidle, componentId, hnoop⟩ := idle
  dsimp only at hnone hidle hnoop
  refine bind_eq_ok.mpr ⟨clients, hclients, bind_eq_ok.mpr ⟨(), ?_, bind_eq_ok.mpr ⟨(), ?_, ?_⟩⟩⟩
  · refine bind_eq_ok.mpr ⟨_, hclientPlan, check_eq_ok.mpr ?_⟩
    exact List.all_eq_true.mpr fun action haction => (hidle action haction).unchanged
  · refine bind_eq_ok.mpr ⟨_, hrealm, check_eq_ok.mpr ?_⟩
    rw [hnone]
    rfl
  · refine bind_eq_ok.mpr ⟨_, hprovider, check_eq_ok.mpr ?_⟩
    rw [hnoop]

/-! ## Carrying it out -/

theorem applyRealmSync_eq (payload : Dict) (s : Server) :
    (applyRealmSync payload s).1 = s.putRealm payload := by
  rcases payload with _ | ⟨m, rest⟩ <;> rfl

/-- What a run leaves of the server. -/
structure Reached (floats : FloatEquality) (supply : IdSupply Text) (s s' : Server)
    (payload : Dict) (wanted : List WantedClient) : Prop where
  components : s'.components = reconciledComponents floats supply s.components
  realm : s'.realm = amend s.realm payload
  clients : ∀ w ∈ wanted, Stands floats supply s.clients s'.clients w
  apart : Apart (clientReconciler floats) s.clients s'.clients (wanted.map (clientReconciler floats).key)

theorem applySync_ok (supply : IdSupply Text) (filled : ∀ taken, supply.next taken ≠ []) {desired : Json} {s : Server}
    {plan : SyncPlan} (prepared : Prepared floats desired s plan)
    (hwanted : ClientsWanted floats s.clients prepared.wanted) :
    ∃ s', applySync floats supply plan s = .ok s' ∧
      Reached floats supply s s' plan.realm prepared.wanted := by
  obtain ⟨changed, hprovider⟩ := applyKeyProviderSync_ok supply prepared.providerReady
  obtain ⟨clients', counts, hclients, stands, apart⟩ := applyClientSync_ok supply filled
    (s := s.withComponents (reconciledComponents floats supply s.components)) hwanted
  refine ⟨_, bind_eq_ok.mpr ⟨_, prepared.providerPlan ▸ hprovider, bind_eq_ok.mpr
    ⟨_, prepared.clientPlan ▸ hclients, rfl⟩⟩, ?_⟩
  rw [applyRealmSync_eq]
  exact ⟨rfl, rfl, stands, apart⟩

end KonnectFapi.Source.Keycloak

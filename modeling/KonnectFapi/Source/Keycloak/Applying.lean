import KonnectFapi.Source.Keycloak.ClientPlans

/-!
# Carrying out the client plan

Source: scripts/sync-keycloak-demo-data.py:462-531. The first loop creates and updates the
clients; the second sends the mappers, to the clients the first one left. The requests
answer, and what they leave is the reconciliation of the server that was planned for.
-/

namespace KonnectFapi.Source.Keycloak
open Lib Lib.Json Reconciler

variable {floats : FloatEquality} {supply : IdSupply Text}

/-- The plan of a wanted client was read from `live`, and still holds for its key. -/
structure Planned (floats : FloatEquality) (live : Store Text Client) (wanted : WantedClient) :
    Prop where
  payload : ClientPayload floats wanted.payload
  mappers : ∀ p ∈ wanted.mappers, MapperPayload floats p
  ready : ClientReady floats live wanted

def Server.withClients (s : Server) (clients : Store Text Client) : Server :=
  { s with clients := clients }

/-- One action of the first loop. -/
theorem applyClientAction_ok (filled : ∀ taken, supply.next taken ≠ []) {live : Store Text Client}
    {wanted : WantedClient} (planned : Planned floats live wanted) {t : Server}
    (reading : (clientReconciler floats).found t.clients ((clientReconciler floats).key wanted) =
      (clientReconciler floats).found live ((clientReconciler floats).key wanted)) :
    ∃ uuid c, applyClientAction supply (plannedAction floats live wanted) t =
        .ok (t.withClients ((clientReconciler floats).applyOne supply t.clients
          ((clientReconciler floats).planOne live wanted)), uuid) ∧
      (clientReconciler floats).found ((clientReconciler floats).applyOne supply t.clients
        ((clientReconciler floats).planOne live wanted)) ((clientReconciler floats).key wanted) =
          [(uuid, c)] := by
  have hpayload := planned.payload
  have hsound := client_sound wanted hpayload
  have hsingle := planned.ready.single
  rw [applyClientAction, plannedAction, plannedClient, planOne]
  rcases hfound : (clientReconciler floats).found live ((clientReconciler floats).key wanted) with
    _ | ⟨⟨id, c⟩, rest⟩
  · have hadded : (clientReconciler floats).found
        (t.clients.add supply ((clientReconciler floats).create wanted))
        ((clientReconciler floats).key wanted) =
        [(supply.next t.clients.ids, (clientReconciler floats).create wanted)] := by
      rw [found_add, reading, hfound, if_pos hsound.keyOf_create, List.nil_append]
    refine ⟨_, _, ?_, hadded⟩
    have hposted : t.postClient supply wanted.payload =
        t.withClients (t.clients.add supply ((clientReconciler floats).create wanted)) := by
      rw [Server.postClient, hpayload.sent]
      rfl
    have hread : (t.postClient supply wanted.payload).clientsWith (clientIdOf wanted.payload) =
        .arr [shown (supply.next t.clients.ids) wanted.payload] := by
      rw [clientsWith_eq floats, hposted]
      exact congrArg (fun found => Json.arr (found.map fun e => shown e.1 e.2.fields)) hadded
    have hid : filledAt ((text "id", .str (supply.next t.clients.ids)) :: wanted.payload) "id" =
        some (supply.next t.clients.ids) := filledAt_shown.mpr ⟨rfl, filled _⟩
    dsimp only
    rw [hread]
    simp only [shown, hid, hposted]
    rfl
  · have hrest : rest = [] := by
      rw [hfound, List.length_cons] at hsingle
      exact List.eq_nil_of_length_eq_zero (by omega)
    subst hrest
    rw [hfound] at reading
    obtain ⟨hmem, hkey⟩ := mem_found.mp (reading ▸ List.mem_singleton_self (id, c))
    dsimp only
    by_cases hsettled : (clientReconciler floats).settled wanted c = true
    · simp only [hsettled, if_true]
      exact ⟨id, c, rfl, reading⟩
    · simp only [hsettled]
      have hfind : t.clients.find? id = some c := Store.find?_eq_some.mpr hmem
      refine ⟨id, (clientReconciler floats).amend wanted c, ?_,
        found_modify_self reading (hsound.keyOf_amend c hkey)⟩
      have hput : t.putClient id (updateBody id wanted.payload ((text "id", .str id) :: c.fields)) =
          .ok (t.withClients (t.clients.modify id ((clientReconciler floats).amend wanted))) := by
        rw [Server.putClient, hfind, sent_updateBody hpayload]
        exact congrArg (fun clients => Except.ok (t.withClients clients))
          (Store.modify_congr hfind rfl)
      exact bind_eq_ok.mpr ⟨_, hput, rfl⟩

/-- The first loop: the reconciliation of the clients, and the id each wanted one has then. -/
theorem applyClientActions_ok (filled : ∀ taken, supply.next taken ≠ []) {live : Store Text Client} :
    ∀ {wanted : List WantedClient} {t : Server},
      (∀ w ∈ wanted, Planned floats live w) → (wanted.map (clientReconciler floats).key).Nodup →
      (∀ w ∈ wanted, (clientReconciler floats).found t.clients ((clientReconciler floats).key w) =
        (clientReconciler floats).found live ((clientReconciler floats).key w)) →
      ∃ uuids, applyClientActions supply (wanted.map (plannedAction floats live)) t =
          .ok (t.withClients ((clientReconciler floats).apply supply t.clients
            ((clientReconciler floats).plan live wanted)), uuids) ∧
        List.Forall₂ (fun w uuid => ∃ c, (clientReconciler floats).found
          ((clientReconciler floats).apply supply t.clients ((clientReconciler floats).plan live wanted))
          ((clientReconciler floats).key w) = [(uuid, c)]) wanted uuids
  | [], _, _, _, _ => ⟨[], rfl, .nil⟩
  | w :: rest, t, planned, nodup, reading => by
    obtain ⟨plannedHead, plannedRest⟩ := List.forall_mem_cons.mp planned
    obtain ⟨readingHead, readingRest⟩ := List.forall_mem_cons.mp reading
    obtain ⟨fresh, nodupRest⟩ := List.nodup_cons.mp nodup
    obtain ⟨uuid, c, hstep, hfound⟩ := applyClientAction_ok filled plannedHead readingHead
    have apart := (applyOne_fulfils supply (client_sound w plannedHead.payload)
      readingHead plannedHead.ready.single).2
    have readingNext : ∀ v ∈ rest, (clientReconciler floats).found
        ((clientReconciler floats).applyOne supply t.clients
          ((clientReconciler floats).planOne live w)) ((clientReconciler floats).key v) =
        (clientReconciler floats).found live ((clientReconciler floats).key v) := by
      intro v hv
      refine (apart.found _ fun h => fresh ?_).trans (readingRest v hv)
      exact List.mem_map.mpr ⟨v, hv, List.mem_singleton.mp h⟩
    obtain ⟨uuids, hrest, hfoundRest⟩ := applyClientActions_ok filled plannedRest nodupRest
      (t := t.withClients ((clientReconciler floats).applyOne supply t.clients
        ((clientReconciler floats).planOne live w))) readingNext
    have apartRest := (apply_fulfils_from supply
      (fun v hv => client_sound v (plannedRest v hv).payload) nodupRest readingNext
      fun v hv => (plannedRest v hv).ready.single).2
    refine ⟨uuid :: uuids, ?_, .cons ⟨c, (apartRest.found _ fresh).trans hfound⟩ hfoundRest⟩
    exact bind_eq_ok.mpr ⟨_, hstep, bind_eq_ok.mpr ⟨_, hrest, rfl⟩⟩

/-! ## The mappers -/

/-- A client with its mappers reconciled. -/
def withMappersOf (floats : FloatEquality) (supply : IdSupply Text) (wanted : WantedClient)
    (c : Client) : Client :=
  { c with
    mappers := (mapperReconciler floats).apply supply c.mappers
      ((mapperReconciler floats).plan c.mappers wanted.mappers) }

theorem applicable_of_planned {mappers : Store Text Dict} {payloads : List Dict}
    (h : ∀ p ∈ payloads, MapperPayload floats p) :
    ∀ step ∈ (mapperReconciler floats).plan mappers payloads, Applicable floats mappers step := by
  intro step hstep
  obtain ⟨payload, hmem, rfl⟩ := List.mem_map.mp hstep
  unfold planOne
  split
  · exact h payload hmem
  · rename_i id fields rest hfound
    split
    · trivial
    · refine ⟨?_, h payload hmem⟩
      have hin := (mem_found.mp (hfound ▸ List.mem_cons_self)).1
      rw [Store.find?_eq_some.mpr hin, Option.isSome_some]

/-- The mappers of one client. -/
theorem applyMapperPlan_reconciles {t : Server} {uuid : Text} {c : Client} {wanted : WantedClient}
    (hfind : t.clients.find? uuid = some c) (payloads : ∀ p ∈ wanted.mappers, MapperPayload floats p) :
    applyMapperPlan supply uuid
        (((mapperReconciler floats).plan c.mappers wanted.mappers).filterMap mapperAction) t =
      .ok (t.withClients (t.clients.modify uuid (withMappersOf floats supply wanted))) := by
  have hsame : t.withMappers uuid c.mappers = t := by
    rw [Server.withMappers, Store.modify_eq_self hfind rfl]
  have h : applyMapperPlan supply uuid
        (((mapperReconciler floats).plan c.mappers wanted.mappers).filterMap mapperAction)
        (t.withMappers uuid c.mappers) = .ok _ :=
    applyMapperPlan_ok hfind (applicable_of_planned payloads)
  rw [hsame] at h
  rw [h]
  exact congrArg (fun clients => Except.ok (t.withClients clients))
    (Store.modify_congr hfind rfl)

/-- The second loop. -/
theorem applyMapperPlans_ok (floats : FloatEquality) (supply : IdSupply Text)
    (live : Store Text Client) :
    ∀ {steps : List (Text × WantedClient)} {t : Server},
      (∀ step ∈ steps, ∀ p ∈ step.2.mappers, MapperPayload floats p) →
      (steps.map fun step => (clientReconciler floats).key step.2).Nodup →
      (∀ step ∈ steps, ∃ c, (clientReconciler floats).found t.clients
        ((clientReconciler floats).key step.2) = [(step.1, c)] ∧
          c.mappers = mappersUnder floats live step.2) →
      applyMapperPlans supply
          (steps.map fun step => (step.1, (plannedAction floats live step.2).mapperPlan)) t =
        .ok (t.withClients (modifyEach (withMappersOf floats supply) t.clients steps))
  | [], _, _, _, _ => rfl
  | (uuid, w) :: rest, t, payloads, nodup, there => by
    obtain ⟨payloadsHead, payloadsRest⟩ := List.forall_mem_cons.mp payloads
    obtain ⟨⟨c, hfound, hmappers⟩, thereRest⟩ := List.forall_mem_cons.mp there
    obtain ⟨fresh, nodupRest⟩ := List.nodup_cons.mp nodup
    obtain ⟨hmem, hkey⟩ := mem_found.mp (hfound ▸ List.mem_singleton_self (uuid, c))
    have hstep : applyMapperPlan supply uuid
          (((mapperReconciler floats).plan c.mappers w.mappers).filterMap mapperAction) t = .ok _ :=
      applyMapperPlan_reconciles (Store.find?_eq_some.mpr hmem) payloadsHead
    rw [hmappers] at hstep
    have apart : Apart (clientReconciler floats) t.clients
        (t.clients.modify uuid (withMappersOf floats supply w)) [(clientReconciler floats).key w] :=
      apart_modify hmem hkey hkey
    have hrest := applyMapperPlans_ok floats supply live
      (t := t.withClients (t.clients.modify uuid (withMappersOf floats supply w)))
      payloadsRest nodupRest fun step hstep => by
        obtain ⟨c, hc, hm⟩ := thereRest step hstep
        refine ⟨c, (apart.found _ fun h => fresh ?_).trans hc, hm⟩
        exact List.mem_map.mpr ⟨step, hstep, List.mem_singleton.mp h⟩
    exact bind_eq_ok.mpr ⟨_, hstep, hrest⟩

end KonnectFapi.Source.Keycloak

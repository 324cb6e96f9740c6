import KonnectFapi.Source.Keycloak.Mappers

/-!
# Planning and applying the clients

Source: scripts/sync-keycloak-demo-data.py:111-134, 378-531. Clients are matched by client
id; their attributes are compared, and written, name by name. The mappers of a client are
planned from what it had before anything was sent.
-/

namespace KonnectFapi.Source.Keycloak
open Lib Lib.Json

abbrev clientNamesOf : List Text := clientAdminFields.map text

theorem clientNamesOf_nodup : clientNamesOf.Nodup := by decide +kernel

theorem id_not_mem_clientNames : text "id" ∉ clientNamesOf := by decide +kernel

theorem attributes_mem : text "attributes" ∈ clientNamesOf := by decide +kernel

theorem clientId_mem : text "clientId" ∈ clientNamesOf := by decide +kernel

def clientIdOf (payload : Dict) : Text := (textAt payload "clientId").getD []

theorem dictAt_eq_some {mapping found : Dict} {name : String} :
    dictAt mapping name = some found ↔ mapping.lookup (text name) = some (.obj found) := by
  unfold dictAt
  split
  · rename_i hlookup
    simp [hlookup]
  · rename_i hlookup
    simp only [reduceCtorEq, false_iff]
    exact hlookup found

/-- What the planner sends for a client. -/
structure ClientPayload (floats : FloatEquality) (payload : Dict) : Prop where
  projected : project clientNamesOf payload = payload
  comparable : Comparable floats (.obj payload)
  named : textAt payload "clientId" = some (clientIdOf payload)
  attributes : ∃ attributes, dictAt payload "attributes" = some attributes

variable {floats : FloatEquality} {supply : IdSupply Text}

theorem clientPayload_of_ok {desired : Json} {payload : Dict}
    (h : clientAdminPayload desired = .ok payload) (comparable : Comparable floats desired) :
    ClientPayload floats payload := by
  unfold clientAdminPayload at h
  split at h
  · rename_i found
    obtain ⟨-, h⟩ := check_bind.mp h
    obtain ⟨filled, h⟩ := check_bind.mp h
    obtain ⟨dict, h⟩ := check_bind.mp h
    obtain ⟨-, h⟩ := check_bind.mp h
    obtain ⟨mappers, -, h⟩ := bind_eq_ok.mp h
    split at h
    · obtain ⟨-, h⟩ := check_bind.mp h
      cases h
      obtain ⟨clientId, hclientId⟩ := Option.isSome_iff_exists.mp filled
      obtain ⟨attributes, hattributes⟩ := Option.isSome_iff_exists.mp dict
      have hlookup := textAt_eq_some.mp (filledAt_eq_some.mp hclientId).1
      have hnamed : textAt (project clientNamesOf found) "clientId" = some clientId := by
        rw [textAt_eq_some, lookup_project clientId_mem, hlookup, Option.getD_some]
      refine ⟨project_project found, comparable_project clientNamesOf_nodup comparable, ?_,
        attributes, ?_⟩
      · rw [clientIdOf, hnamed, Option.getD_some]
      · rw [dictAt_eq_some, lookup_project attributes_mem, dictAt_eq_some.mp hattributes,
          Option.getD_some]
    · cases h
  · cases h

/-- The payload keeps the client id of the document. -/
theorem desiredId_of_ok {desired : Json} {payload : Dict}
    (h : clientAdminPayload desired = .ok payload) : desiredId desired = some (clientIdOf payload) := by
  unfold clientAdminPayload at h
  split at h
  · rename_i found
    obtain ⟨-, h⟩ := check_bind.mp h
    obtain ⟨filled, h⟩ := check_bind.mp h
    obtain ⟨-, h⟩ := check_bind.mp h
    obtain ⟨-, h⟩ := check_bind.mp h
    obtain ⟨mappers, -, h⟩ := bind_eq_ok.mp h
    split at h
    · obtain ⟨-, h⟩ := check_bind.mp h
      cases h
      obtain ⟨clientId, hclientId⟩ := Option.isSome_iff_exists.mp filled
      have hown := (filledAt_eq_some.mp hclientId).1
      have hnamed : textAt (project clientNamesOf found) "clientId" = some clientId := by
        rw [textAt_eq_some, lookup_project clientId_mem, textAt_eq_some.mp hown, Option.getD_some]
      rw [desiredId, clientIdOf, hnamed, Option.getD_some, hown]
    · cases h
  · cases h

namespace ClientPayload

theorem names {payload : Dict} (h : ClientPayload floats payload) :
    payload.map Prod.fst = clientNamesOf := by
  rw [← h.projected, names_project]

theorem sent {payload : Dict} (h : ClientPayload floats payload) : sent payload = payload :=
  sent_eq_self (h.names ▸ id_not_mem_clientNames)

end ClientPayload

/-! ## What an update writes -/

/-- The payload, over the attributes that stand there. -/
def amendedPayload (payload fields : Dict) : Dict :=
  match dictAt fields "attributes" with
  | some attributes =>
    put payload (text "attributes")
      (.obj (Json.amend attributes ((dictAt payload "attributes").getD [])))
  | none => payload

theorem amendedPayload_names {payload : Dict} (h : ClientPayload floats payload)
    (fields : Dict) : (amendedPayload payload fields).map Prod.fst = clientNamesOf := by
  unfold amendedPayload
  split
  · rw [names_put (h.names ▸ attributes_mem), h.names]
  · exact h.names

theorem attributes_ne_id : text "attributes" ≠ text "id" := by decide +kernel

theorem clientId_ne_id : text "clientId" ≠ text "id" := by decide +kernel

theorem clientId_ne_attributes : text "clientId" ≠ text "attributes" := by decide +kernel

/-- The body of an update, as the server takes it. -/
theorem sent_updateBody {payload : Dict} (h : ClientPayload floats payload)
    (clientUuid id : Text) (fields : Dict) :
    sent (updateBody clientUuid payload ((text "id", .str id) :: fields)) =
      amendedPayload payload fields := by
  have hdict : dictAt ((text "id", .str id) :: fields) "attributes" = dictAt fields "attributes" :=
    dictAt_congr (lookup_shown attributes_ne_id id fields)
  have hplain : sent (amendedPayload payload fields) = amendedPayload payload fields :=
    sent_eq_self (amendedPayload_names h fields ▸ id_not_mem_clientNames)
  rcases hattributes : dictAt fields "attributes" with _ | attributes
  · rw [updateBody, hdict, hattributes, amendedPayload, hattributes, sent_cons_id]
    exact h.sent
  · rw [amendedPayload, hattributes] at hplain
    rw [updateBody, hdict, hattributes, amendedPayload, hattributes]
    dsimp only
    rw [put_cons_of_ne attributes_ne_id.symm, sent_cons_id]
    exact hplain

theorem lookup_amendedPayload (payload fields : Dict) {name : Text}
    (hname : name ≠ text "attributes") :
    (amendedPayload payload fields).lookup name = payload.lookup name := by
  unfold amendedPayload
  split
  · rw [lookup_put, if_neg hname]
  · rfl

/-! ## Reconciling clients -/

/-- What is wanted of a client: its fields and its mappers. -/
structure WantedClient where
  payload : Dict
  mappers : List Dict

def clientReconciler (floats : FloatEquality) : Reconciler (Option Text) WantedClient Client where
  key wanted := some (clientIdOf wanted.payload)
  keyOf c := textAt c.fields "clientId"
  settled wanted c := clientAgrees floats wanted.payload c.fields
  create wanted := ⟨wanted.payload, .empty⟩
  amend wanted c :=
    { c with fields := Json.amend c.fields (amendedPayload wanted.payload c.fields) }

theorem clientAgrees_of_projected {payload fields : Dict} (h : ClientPayload floats payload)
    (hfields : project clientNamesOf fields = payload) : clientAgrees floats payload fields = true := by
  obtain ⟨attributes, hattributes⟩ := h.attributes
  have hput : put payload (text "attributes") (.obj attributes) = payload :=
    put_eq_self (h.names ▸ clientNamesOf_nodup) (dictAt_eq_some.mp hattributes)
  rw [clientAgrees]
  simp only [hfields, hattributes, hput, ite_self]
  exact equal_self _ h.comparable

theorem clientAgrees_of_attributes {payload fields attributes live : Dict}
    (h : ClientPayload floats payload) (hattributes : dictAt payload "attributes" = some attributes)
    (hlive : dictAt fields "attributes" = some live)
    (hall : ∀ m ∈ attributes, live.lookup m.1 = some m.2)
    (hothers : ∀ name ∈ clientNamesOf, name ≠ text "attributes" →
      fields.lookup name = payload.lookup name) :
    clientAgrees floats payload fields = true := by
  have hcomparable := comparable_obj.mp (h.comparable.member (dictAt_eq_some.mp hattributes))
  have hdict : dictAt (project clientNamesOf fields) "attributes" = some live := by
    rw [dictAt_eq_some, lookup_project attributes_mem, dictAt_eq_some.mp hlive, Option.getD_some]
  have hequal : (attributes.all fun m => equal floats ((live.lookup m.1).getD .null) m.2) = true := by
    refine List.all_eq_true.mpr fun m hm => ?_
    rw [hall m hm, Option.getD_some]
    exact equal_self _ (hcomparable.2 m hm)
  have hwritten : put (project clientNamesOf fields) (text "attributes") (.obj attributes) =
      payload := by
    rw [put_project attributes_mem, ← h.projected]
    refine project_congr fun name hname => ?_
    rw [lookup_put]
    split
    · rename_i heq
      rw [heq, dictAt_eq_some.mp hattributes]
    · rename_i hne
      exact hothers name hname hne
  rw [clientAgrees]
  simp only [hdict, hattributes, hequal, if_true, hwritten]
  exact equal_self _ h.comparable

theorem lookup_amended {payload : Dict} (h : ClientPayload floats payload) (fields : Dict)
    {name : Text} (hname : name ∈ clientNamesOf) :
    (Json.amend fields (amendedPayload payload fields)).lookup name =
      (amendedPayload payload fields).lookup name := by
  have hnames := amendedPayload_names h fields
  rw [lookup_amend (hnames ▸ clientNamesOf_nodup)]
  rw [← hnames, mem_names_iff] at hname
  obtain ⟨v, hv⟩ := Option.isSome_iff_exists.mp hname
  rw [hv, Option.some_or]

theorem clientAgrees_amended {payload : Dict} (h : ClientPayload floats payload)
    (fields : Dict) :
    clientAgrees floats payload (Json.amend fields (amendedPayload payload fields)) = true := by
  obtain ⟨attributes, hattributes⟩ := h.attributes
  have hnodup : (attributes.map Prod.fst).Nodup :=
    (comparable_obj.mp (h.comparable.member (dictAt_eq_some.mp hattributes))).1
  rcases hdict : dictAt fields "attributes" with _ | live
  · have hplain : amendedPayload payload fields = payload := by rw [amendedPayload, hdict]
    refine clientAgrees_of_projected h ?_
    rw [hplain, project_amend h.names clientNamesOf_nodup, h.projected]
  · have hwritten : dictAt (Json.amend fields (amendedPayload payload fields)) "attributes" =
        some (Json.amend live attributes) := by
      rw [dictAt_eq_some, lookup_amended h fields attributes_mem, amendedPayload, hdict]
      dsimp only
      rw [lookup_put, if_pos rfl, hattributes, Option.getD_some]
    refine clientAgrees_of_attributes h hattributes hwritten ?_ ?_
    · intro m hm
      rw [lookup_amend hnodup, lookup_eq_some_of_mem hnodup hm, Option.some_or]
    · intro name hname hne
      rw [lookup_amended h fields hname, lookup_amendedPayload payload fields hne]

theorem client_sound (wanted : WantedClient) (h : ClientPayload floats wanted.payload) :
    (clientReconciler floats).Sound wanted where
  keyOf_create := h.named
  keyOf_amend c _ := by
    show textAt (Json.amend c.fields (amendedPayload wanted.payload c.fields)) "clientId" =
      some (clientIdOf wanted.payload)
    refine (textAt_congr ?_).trans h.named
    rw [lookup_amended h c.fields clientId_mem,
      lookup_amendedPayload _ c.fields clientId_ne_attributes]
  settled_create := clientAgrees_of_projected h h.projected
  settled_amend c _ := clientAgrees_amended h c.fields

end KonnectFapi.Source.Keycloak

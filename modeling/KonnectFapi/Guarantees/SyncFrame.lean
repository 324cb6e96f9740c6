import KonnectFapi.Guarantees.SyncConvergence
import KonnectFapi.Source.Keycloak.Kept

/-!
# The synchronisation touches what it manages

Source: scripts/sync-keycloak-demo-data.py:1-61, 302-307, 395-406, 462-566. A run that ends
well has kept every client, mapper, component and realm entry the document does not name,
and of those it names every field, attribute and config key that is not managed; it deletes
nothing.
-/

namespace KonnectFapi.Guarantees
open Lib Lib.Json Lib.Reconciler Source.Keycloak

variable {floats : FloatEquality} {supply : IdSupply Text}

/-- The client id is one of the managed ones. -/
def Managed (c : Client) : Prop := ∃ name ∈ clientIds, textAt c.fields "clientId" = some (text name)

/-- A server beside a document that asks for some clients. -/
structure ServerKept (realm : Dict) (wanted : List WantedClient) (s s' : Server) : Prop where
  realm : RealmKept realm s.realm s'.realm
  others : ∀ id c, ¬ Managed c → (s'.clients.find? id = some c ↔ s.clients.find? id = some c)
  managed : ∀ w ∈ wanted, ∀ id c, s.clients.find? id = some c →
    textAt c.fields "clientId" = some (clientIdOf w.payload) →
    ∃ c', s'.clients.find? id = some c' ∧ ClientKept w c c'
  components : ∀ id f, textAt f "name" ≠ some managedKeyProviderName →
    (s'.components.find? id = some f ↔ s.components.find? id = some f)
  provider : ∀ id f, s.components.find? id = some f → textAt f "name" = some managedKeyProviderName →
    ∃ f', s'.components.find? id = some f' ∧ ComponentKept f f'

/-- Under a key that is not worked on, the records are the same ones. -/
theorem find?_apart {ι κ δ α : Type} [DecidableEq ι] [DecidableEq κ] {r : Reconciler κ δ α}
    {s s' : Store ι α} {keys : List κ} (apart : Apart r s s' keys) {a : α} (h : r.keyOf a ∉ keys)
    (id : ι) : s'.find? id = some a ↔ s.find? id = some a := by
  have hfound : ∀ t : Store ι α, t.find? id = some a ↔ (id, a) ∈ r.found t (r.keyOf a) := by
    intro t
    rw [Store.find?_eq_some, mem_found]
    exact (and_iff_left rfl).symm
  rw [hfound, hfound, apart.found _ h]

theorem managed_of_key {clients : Json} {wanted : List WantedClient} (asks : AsksAll clients wanted)
    {c : Client} (h : (clientReconciler floats).keyOf c ∈ wanted.map (clientReconciler floats).key) :
    Managed c := by
  obtain ⟨w, hw, hkey⟩ := List.mem_map.mp h
  have hmem : clientIdOf w.payload ∈ wanted.map fun w => clientIdOf w.payload :=
    List.mem_map_of_mem hw
  obtain ⟨name, hname, heq⟩ := List.mem_map.mp (clientId_mem_inventory asks.inventory hmem)
  exact ⟨name, hname, heq ▸ hkey.symm⟩

end KonnectFapi.Guarantees

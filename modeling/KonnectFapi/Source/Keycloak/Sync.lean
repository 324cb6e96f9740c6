import KonnectFapi.Lib.Store
import KonnectFapi.Source.Keycloak.Plans
import Mathlib.Algebra.GroupWithZero.Nat

/-!
# The realm synchronisation and the Admin API it talks to

Source: scripts/sync-keycloak-demo-data.py:315-376, 436-566 and 593-622. The server is a
model of the Admin API: a POST stores the given object under an id of the server's choice,
a PUT of the realm, a client or a mapper replaces the fields that are sent, a PUT of a
component merges its config. Ids in paths are written as they are.
-/

namespace KonnectFapi.Source.Keycloak
open Lib Lib.Json

structure Client where
  fields : Dict
  mappers : Store Text Dict

structure Server where
  realm : Dict
  clients : Store Text Client
  components : Store Text Dict

/-- An object as the API answers it. -/
def shown (id : Text) (fields : Dict) : Json := .obj ((text "id", .str id) :: fields)

/-- What a body says beside the id. -/
def sent (body : Dict) : Dict := body.filter fun m => m.1 != text "id"

namespace Server

def notFound {α : Type} : Outcome α := .error (.requestFailed 404)

def putRealm (s : Server) (body : Dict) : Server := { s with realm := amend s.realm body }

/-- `GET /clients?clientId=..`. -/
def clientsWith (s : Server) (clientId : Text) : Json :=
  .arr ((s.clients.entries.filter fun e => textAt e.2.fields "clientId" == some clientId).map
    fun e => shown e.1 e.2.fields)

def postClient (supply : IdSupply Text) (s : Server) (body : Dict) : Server :=
  { s with clients := s.clients.add supply ⟨sent body, .empty⟩ }

def putClient (s : Server) (id : Text) (body : Dict) : Outcome Server :=
  match s.clients.find? id with
  | some _ =>
    .ok { s with clients := s.clients.modify id fun c => { c with fields := amend c.fields (sent body) } }
  | none => notFound

/-- `GET /clients/{id}/protocol-mappers/models`. -/
def mappersOf (s : Server) (clientUuid : Text) : Outcome Json :=
  match s.clients.find? clientUuid with
  | some c => .ok (.arr (c.mappers.entries.map fun e => shown e.1 e.2))
  | none => notFound

def withMappers (s : Server) (clientUuid : Text) (mappers : Store Text Dict) : Server :=
  { s with clients := s.clients.modify clientUuid fun c => { c with mappers := mappers } }

/-- A request on the mappers of one client. -/
def onMappers (s : Server) (clientUuid : Text)
    (f : Store Text Dict → Outcome (Store Text Dict)) : Outcome Server :=
  match s.clients.find? clientUuid with
  | some c => do
    let mappers ← f c.mappers
    return s.withMappers clientUuid mappers
  | none => notFound

def postMapper (supply : IdSupply Text) (s : Server) (clientUuid : Text) (body : Dict) :
    Outcome Server := s.onMappers clientUuid fun mappers => .ok (mappers.add supply (sent body))

def putMapper (s : Server) (clientUuid id : Text) (body : Dict) : Outcome Server :=
  s.onMappers clientUuid fun mappers =>
    match mappers.find? id with
    | some _ => .ok (mappers.modify id fun fields => amend fields (sent body))
    | none => notFound

/-- `GET /components?name=..`. -/
def componentsNamed (s : Server) (name : Text) : Json :=
  .arr ((s.components.entries.filter fun e => textAt e.2 "name" == some name).map
    fun e => shown e.1 e.2)

def postComponent (supply : IdSupply Text) (s : Server) (body : Dict) : Server :=
  { s with components := s.components.add supply (sent body) }

/-- The fields that are sent, the config keys of the body written over the old ones. -/
def mergedComponent (fields body : Dict) : Dict :=
  put (amend fields body) (text "config")
    (.obj (amend ((dictAt fields "config").getD []) ((dictAt body "config").getD [])))

def putComponent (s : Server) (id : Text) (body : Dict) : Outcome Server :=
  match s.components.find? id with
  | some _ =>
    .ok { s with components := s.components.modify id fun fields => mergedComponent fields (sent body) }
  | none => notFound

end Server

section
variable (floats : FloatEquality) (supply : IdSupply Text)

/-! ## Key provider -/

def prepareKeyProviderSync (desiredRealm : Json) (s : Server) : Outcome ProviderAction := do
  let desiredPayload ← keyProviderAdminPayload floats desiredRealm
  planKeyProviderSync floats desiredPayload (s.componentsNamed managedKeyProviderName)

/-- The server afterwards, and whether something was sent. -/
def applyKeyProviderSync (plan : ProviderAction) (s : Server) : Outcome (Server × Bool) :=
  match plan with
  | .noop _ => .ok (s, false)
  | .create payload => do
    check (isManagedPayload floats payload)
      (text "Keycloak managed key provider create plan is malformed")
    return (s.postComponent supply payload, true)
  | .update componentId payload => do
    check (componentId != [] && isManagedPayload floats payload)
      (text "Keycloak managed key provider update plan is malformed")
    let s ← s.putComponent componentId ((text "id", .str componentId) :: payload)
    return (s, true)

def verifyKeyProviderSync (desiredRealm : Json) (s : Server) : Outcome Unit := do
  let plan ← prepareKeyProviderSync floats desiredRealm s
  check (plan matches .noop _)
    (text "Keycloak managed key provider configuration did not converge")

/-! ## Clients -/

/-- `desired["protocolMappers"]`, which the client planner has seen to be a list. -/
def desiredMappers (desired : Json) : Outcome (List Json) :=
  match desired.get? (text "protocolMappers") with
  | some (.arr mappers) => .ok mappers
  | _ => .error .raised

/-- The mappers a client has, none where it is still to be created. -/
def liveMappers (s : Server) (standing : Standing) : Outcome Json :=
  match standing with
  | .create => .ok (.arr [])
  | .noop clientUuid _ => s.mappersOf clientUuid
  | .update clientUuid _ => s.mappersOf clientUuid

def withMapperPlan (s : Server) (action : ClientAction) (desired : Json) : Outcome ClientAction := do
  let live ← liveMappers s action.standing
  let mappers ← desiredMappers desired
  let mapperPlan ← planMapperSync floats mappers live
  return { action with mapperPlan }

/-- The lookups only read, so their order is immaterial. -/
def prepareClientSync (desiredClients : Json) (s : Server) : Outcome (List ClientAction) := do
  let plan ← planClientSync floats desiredClients
    (clientIds.map fun id => (text id, s.clientsWith (text id)))
  let .arr desired := desiredClients | .error .raised
  (plan.zip desired).mapM fun (action, desired) => withMapperPlan floats s action desired

/-- The body of an update: the attributes that stand there are kept. -/
def updateBody (clientUuid : Text) (payload current : Dict) : Dict :=
  let body := (text "id", .str clientUuid) :: payload
  match dictAt current "attributes" with
  | some attributes =>
    put body (text "attributes") (.obj (amend attributes ((dictAt payload "attributes").getD [])))
  | none => body

/-- One pass of the first loop, with the id the client has from then on. -/
def applyClientAction (action : ClientAction) (s : Server) : Outcome (Server × Text) :=
  match action.standing with
  | .noop clientUuid _ => .ok (s, clientUuid)
  | .update clientUuid current => do
    let s ← s.putClient clientUuid (updateBody clientUuid action.payload current)
    return (s, clientUuid)
  | .create => do
    let s := s.postClient supply action.payload
    let .arr [created] := s.clientsWith action.clientId
      | refuse (text "Keycloak did not create exactly one client for " ++ action.clientId)
    let .obj created := created | .error .raised
    let some clientUuid := filledAt created "id"
      | refuse (text "Keycloak client ID is missing for " ++ action.clientId)
    return (s, clientUuid)

/-- The first loop; the ids are those of the actions, one by one. -/
def applyClientActions : List ClientAction → Server → Outcome (Server × List Text)
  | [], s => .ok (s, [])
  | action :: rest, s => do
    let (s, clientUuid) ← applyClientAction supply action s
    let (s, clientUuids) ← applyClientActions rest s
    return (s, clientUuid :: clientUuids)

def applyMapperAction (clientUuid : Text) (action : MapperAction) (s : Server) : Outcome Server :=
  match action with
  | .create payload => s.postMapper supply clientUuid payload
  | .update mapperId payload =>
    s.putMapper clientUuid mapperId ((text "id", .str mapperId) :: payload)

def applyMapperPlan (clientUuid : Text) : List MapperAction → Server → Outcome Server
  | [], s => .ok s
  | action :: rest, s => do
    let s ← applyMapperAction supply clientUuid action s
    applyMapperPlan clientUuid rest s

/-- The second loop. -/
def applyMapperPlans : List (Text × List MapperAction) → Server → Outcome Server
  | [], s => .ok s
  | (clientUuid, mapperPlan) :: rest, s => do
    let s ← applyMapperPlan supply clientUuid mapperPlan s
    applyMapperPlans rest s

def Standing.changes : Standing → Bool
  | .noop _ _ => false
  | _ => true

/-- The server afterwards, the clients changed and the mappers changed. Every action has its
own client id, so an id is looked up where its action stands. -/
def applyClientSync (plan : List ClientAction) (s : Server) : Outcome (Server × Nat × Nat) := do
  let (s, clientUuids) ← applyClientActions supply plan s
  let s ← applyMapperPlans supply (clientUuids.zip (plan.map (·.mapperPlan))) s
  return (s, plan.countP (·.standing.changes), (plan.map (·.mapperPlan.length)).sum)

def verifyClientSync (desiredClients : Json) (s : Server) : Outcome Unit := do
  let plan ← prepareClientSync floats desiredClients s
  check (plan.all fun action => !action.standing.changes && action.mapperPlan.isEmpty)
    (text "Keycloak client configuration did not converge")

/-! ## Realm -/

def prepareRealmSync (desiredRealm : Json) (s : Server) : Outcome Dict :=
  realmAdminPayload floats (.obj s.realm) desiredRealm

def applyRealmSync (payload : Dict) (s : Server) : Server × Bool :=
  if payload.isEmpty then (s, false) else (s.putRealm payload, true)

def verifyRealmSync (desiredRealm : Json) (s : Server) : Outcome Unit := do
  let remaining ← prepareRealmSync floats desiredRealm s
  check remaining.isEmpty (text "Keycloak realm configuration did not converge")

/-! ## The run -/

/-- `desired_realm["clients"]`. -/
def desiredClientsOf (desiredRealm : Json) : Outcome Json :=
  match desiredRealm with
  | .obj desired => subscript desired "clients"
  | _ => .error .raised

/-- What the script has planned before it sends anything that writes. -/
structure SyncPlan where
  realm : Dict
  clients : List ClientAction
  keyProvider : ProviderAction

def prepareSync (desiredRealm : Json) (s : Server) : Outcome SyncPlan := do
  let _ ← keyProviderAdminPayload floats desiredRealm
  let realm ← prepareRealmSync floats desiredRealm s
  let desiredClients ← desiredClientsOf desiredRealm
  let clients ← prepareClientSync floats desiredClients s
  let keyProvider ← prepareKeyProviderSync floats desiredRealm s
  return ⟨realm, clients, keyProvider⟩

def applySync (plan : SyncPlan) (s : Server) : Outcome Server := do
  let (s, _) ← applyKeyProviderSync floats supply plan.keyProvider s
  let (s, _) ← applyClientSync supply plan.clients s
  return (applyRealmSync plan.realm s).1

def verifySync (desiredRealm : Json) (s : Server) : Outcome Unit := do
  let desiredClients ← desiredClientsOf desiredRealm
  verifyClientSync floats desiredClients s
  verifyRealmSync floats desiredRealm s
  verifyKeyProviderSync floats desiredRealm s

/-- `main` up to the profile and the users. -/
def synchronise (desiredRealm : Json) (s : Server) : Outcome Server := do
  let plan ← prepareSync floats desiredRealm s
  let s ← applySync floats supply plan s
  verifySync floats desiredRealm s
  return s

end

end KonnectFapi.Source.Keycloak

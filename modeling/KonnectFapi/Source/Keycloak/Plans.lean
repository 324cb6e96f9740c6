import KonnectFapi.Lib.JsonEqual
import KonnectFapi.Lib.Refusal

/-!
# What the realm synchronisation plans

Source: scripts/sync-keycloak-demo-data.py:22-61, 111-312 and 378-433. The planners read
the desired realm document and what the Admin API answered; they send nothing. Equality of
floats is a parameter.
-/

namespace KonnectFapi.Source.Keycloak
open Lib Lib.Json

/-- What the script raises: its own message, a key it did not find, a failed request, or
something else of the language. -/
inductive Failure where
  | runtimeError (message : Text)
  | keyError (name : Text)
  | requestFailed (status : Nat)
  | raised
  deriving DecidableEq

abbrev Outcome := Except Failure

def refuse {α : Type} (message : Text) : Outcome α := .error (.runtimeError message)

/-- `if not holds: raise RuntimeError(message)`. -/
def check (holds : Bool) (message : Text) : Outcome Unit := if holds then .ok () else refuse message

/-- `mapping[name]`. -/
def subscript (mapping : Dict) (name : String) : Outcome Json :=
  match mapping.lookup (text name) with
  | some v => .ok v
  | none => .error (.keyError (text name))

/-- `mapping.get(name)` where it is a text. -/
def textAt (mapping : Dict) (name : String) : Option Text := (mapping.lookup (text name)).bind str?

/-- A text that is not empty. -/
def filledAt (mapping : Dict) (name : String) : Option Text :=
  match textAt mapping name with
  | some [] => none
  | other => other

def listAt (mapping : Dict) (name : String) : Option (List Json) :=
  match mapping.lookup (text name) with
  | some (.arr items) => some items
  | _ => none

def dictAt (mapping : Dict) (name : String) : Option Dict :=
  match mapping.lookup (text name) with
  | some (.obj found) => some found
  | _ => none

/-! ## Constants -/

def clientIds : List String :=
  ["third-party-fapi-mtls", "third-party-fapi-pkj-mtls", "api-gateway-introspection"]

def clientAdminFields : List String :=
  ["clientId", "name", "enabled", "protocol", "publicClient", "consentRequired",
    "fullScopeAllowed", "clientAuthenticatorType", "standardFlowEnabled", "implicitFlowEnabled",
    "directAccessGrantsEnabled", "serviceAccountsEnabled", "redirectUris", "webOrigins",
    "attributes"]

def mapperAdminFields : List String := ["name", "protocol", "protocolMapper", "config"]

/-- `REALM_ADMIN_FIELDS` without the two groups. -/
def realmPlainFields : List String :=
  ["realm", "enabled", "sslRequired", "defaultSignatureAlgorithm", "accessCodeLifespan",
    "revokeRefreshToken", "refreshTokenMaxReuse"]

def realmAdminFields : List String := realmPlainFields ++ ["clientPolicies", "clientProfiles"]

def keyProviderType : Text := text "org.keycloak.keys.KeyProvider"
def managedKeyProviderName : Text := text "fapi-demo-ps256-rsa-generated"
def managedKeyProviderId : Text := text "rsa-generated"

def managedKeyProviderConfig : Dict :=
  [("priority", "101"), ("enabled", "true"), ("active", "true"), ("keySize", "3072"),
    ("algorithm", "PS256")].map fun (name, value) => (text name, .arr [.str (text value)])

/-! ## Clients and mappers -/

/-- The names of the mapper list, or nothing where an entry has none. -/
def mapperNames (mappers : List Json) : Option (List Text) :=
  mappers.mapM fun mapper =>
    match mapper with
    | .obj found => filledAt found "name"
    | _ => none

def clientAdminPayload (desired : Json) : Outcome Dict := do
  let .obj found := desired | refuse (text "desired Keycloak client is malformed")
  check (found.all (fun m => (clientAdminFields ++ ["protocolMappers"]).any fun f => m.1 == text f) &&
      clientAdminFields.all fun f => (found.lookup (text f)).isSome)
    (text "desired Keycloak client fields are incomplete or unexpected")
  check (filledAt found "clientId").isSome (text "desired Keycloak client ID is empty")
  check (dictAt found "attributes").isSome (text "desired Keycloak client attributes are malformed")
  check ((listAt found "redirectUris").isSome && (listAt found "webOrigins").isSome)
    (text "desired Keycloak client URI lists are malformed")
  let mappers ← subscript found "protocolMappers"
  let .arr mappers := mappers | refuse (text "desired Keycloak protocol mappers are malformed")
  check (match mapperNames mappers with
      | some names => decide names.Nodup
      | none => false)
    (text "desired Keycloak protocol mapper names are duplicated or malformed")
  return project (clientAdminFields.map text) found

def mapperAdminPayload (desired : Json) : Outcome Dict := do
  let incomplete := text "desired Keycloak protocol mapper fields are incomplete or unexpected"
  let .obj found := desired | refuse incomplete
  check (namesAre found mapperAdminFields) incomplete
  check (["name", "protocol", "protocolMapper"].all fun f => (filledAt found f).isSome)
    (text "desired Keycloak protocol mapper identity is malformed")
  check (match dictAt found "config" with
      | some config => config.all fun m => m.2.str?.isSome
      | none => false)
    (text "desired Keycloak protocol mapper config is malformed")
  return project (mapperAdminFields.map text) found

inductive MapperAction where
  | create (payload : Dict)
  | update (mapperId : Text) (payload : Dict)

/-- The loop that fills `live_by_name`. -/
def indexMappers : List (Text × Dict) → List Json → Outcome (List (Text × Dict))
  | seen, [] => .ok seen
  | seen, mapper :: rest =>
    match mapper with
    | .obj found =>
      match textAt found "name" with
      | some name =>
        if (seen.lookup name).isSome then
          refuse (text "duplicate Keycloak protocol mapper names found")
        else indexMappers (seen ++ [(name, found)]) rest
      | none => refuse (text "Keycloak protocol mapper list is malformed")
    | _ => refuse (text "Keycloak protocol mapper list is malformed")

def nameOf (payload : Dict) : Text := (textAt payload "name").getD []

section
variable (floats : FloatEquality)

/-- One pass of the loop over the desired mappers. -/
def planMapper (liveByName : List (Text × Dict)) (desired : Dict) :
    Outcome (Option MapperAction) :=
  match liveByName.lookup (nameOf desired) with
  | none => .ok (some (.create desired))
  | some current =>
    match filledAt current "id" with
    | none =>
      refuse (text "Keycloak protocol mapper ID is missing for " ++ nameOf desired)
    | some currentId =>
      if equal floats (.obj (project (mapperAdminFields.map text) current)) (.obj desired) then .ok none
      else .ok (some (.update currentId desired))

def planMapperSync (desiredMappers : List Json) (liveMappers : Json) :
    Outcome (List MapperAction) := do
  let desiredPayloads ← desiredMappers.mapM mapperAdminPayload
  check (decide (desiredPayloads.map nameOf).Nodup)
    (text "desired Keycloak protocol mapper names are duplicated")
  let .arr live := liveMappers | refuse (text "Keycloak protocol mapper list is malformed")
  let liveByName ← indexMappers [] live
  let steps ← desiredPayloads.mapM (planMapper floats liveByName)
  return steps.reduceOption

/-- How a desired client stands towards what was found. -/
inductive Standing where
  | create
  | noop (clientUuid : Text) (current : Dict)
  | update (clientUuid : Text) (current : Dict)

structure ClientAction where
  clientId : Text
  payload : Dict
  standing : Standing
  mapperPlan : List MapperAction := []

/-- `current_payload == payload`, the attributes compared on the desired names only. -/
def clientAgrees (payload current : Dict) : Bool :=
  let currentPayload := project (clientAdminFields.map text) current
  let currentPayload :=
    match dictAt currentPayload "attributes", dictAt payload "attributes" with
    | some live, some desired =>
      if desired.all fun m => equal floats ((live.lookup m.1).getD .null) m.2 then
        put currentPayload (text "attributes") (.obj desired)
      else currentPayload
    | _, _ => currentPayload
  equal floats (.obj currentPayload) (.obj payload)

/-- One pass of the loop over the desired clients. -/
def planClient (matchesByClientId : Dict) (desired : Json) : Outcome ClientAction := do
  let payload ← clientAdminPayload desired
  let clientId := (textAt payload "clientId").getD []
  let some (.arr found) := matchesByClientId.lookup clientId
    | refuse (text "Keycloak client lookup is malformed for " ++ clientId)
  match found with
  | [] => return ⟨clientId, payload, .create, []⟩
  | [current] => do
    let inconsistent := text "Keycloak client lookup is inconsistent for " ++ clientId
    let .obj current := current | refuse inconsistent
    check (textAt current "clientId" == some clientId) inconsistent
    let some clientUuid := filledAt current "id"
      | refuse (text "Keycloak client ID is missing for " ++ clientId)
    if clientAgrees floats payload current then
      return ⟨clientId, payload, .noop clientUuid current, []⟩
    else return ⟨clientId, payload, .update clientUuid current, []⟩
  | _ => refuse (text "duplicate Keycloak clients found for " ++ clientId)

/-- The client id of a dictionary; what is no dictionary or has no text there has none. -/
def desiredId (client : Json) : Option Text :=
  match client with
  | .obj found => textAt found "clientId"
  | _ => none

/-- `set(desired_ids) == CLIENT_IDS`, and as many of them. -/
def matchesInventory (desiredIds : List Text) : Bool :=
  desiredIds.all (fun id => clientIds.any fun name => id == text name) &&
    clientIds.all (fun name => desiredIds.contains (text name)) &&
    desiredIds.length == clientIds.length

def planClientSync (desiredClients : Json) (matchesByClientId : Dict) :
    Outcome (List ClientAction) := do
  let .arr desired := desiredClients | refuse (text "desired Keycloak client list is malformed")
  let mismatch := text "desired Keycloak client inventory does not match WP2"
  let some desiredIds := desired.mapM desiredId | refuse mismatch
  check (matchesInventory desiredIds) mismatch
  desired.mapM (planClient floats matchesByClientId)

/-! ## The realm -/

/-- The checks of the entries that stand there, with their names. -/
def currentEntries (label : Text) : List Text → List Json → Outcome (List Dict)
  | _, [] => .ok []
  | seen, entry :: rest => do
    let malformed := text "Keycloak " ++ label ++ text " entry is malformed"
    let .obj found := entry | refuse malformed
    let some name := textAt found "name" | refuse malformed
    check (!seen.contains name) (text "duplicate Keycloak " ++ label ++ text " names found")
    let more ← currentEntries label (name :: seen) rest
    return found :: more

/-- `merged[positions[name]] = {**merged[positions[name]], **entry}`, or a new entry at the end. -/
def mergeEntry (merged : List Dict) (name : Text) (entry : Dict) : List Dict :=
  match merged.findIdx? fun found => textAt found "name" == some name with
  | some index => merged.modify index fun found => amend found entry
  | none => merged ++ [entry]

/-- The loop over the desired entries. -/
def mergeEntries (label : Text) : List Text → List Dict → List Json → Outcome (List Dict)
  | _, merged, [] => .ok merged
  | seen, merged, entry :: rest => do
    let malformed := text "desired Keycloak " ++ label ++ text " entry is malformed"
    let .obj found := entry | refuse malformed
    let some name := textAt found "name" | refuse malformed
    check (!seen.contains name) (text "duplicate desired Keycloak " ++ label ++ text " names found")
    mergeEntries label (name :: seen) (mergeEntry merged name found) rest

def mergeNamedEntries (current desired : Json) (label : Text) : Outcome (List Dict) := do
  let malformed := text "Keycloak " ++ label ++ text " list is malformed"
  let .arr current := current | refuse malformed
  let .arr desired := desired | refuse malformed
  let merged ← currentEntries label [] current
  mergeEntries label [] merged desired

/-- One pass of the loop over the two groups. -/
def mergedGroup (current desired : Dict) (field collection : String) (label : Text) :
    Outcome Dict := do
  let malformed := text "Keycloak " ++ label ++ text " configuration is malformed"
  let .obj liveGroup := (current.lookup (text field)).getD (.obj []) | refuse malformed
  let .obj desiredGroup := (desired.lookup (text field)).getD .null | refuse malformed
  let merged ← mergeNamedEntries ((liveGroup.lookup (text collection)).getD (.arr []))
    ((desiredGroup.lookup (text collection)).getD (.arr [])) label
  return put liveGroup (text collection) (.arr (merged.map .obj))

def realmAdminPayload (current desired : Json) : Outcome Dict := do
  let malformed := text "Keycloak realm representation is malformed"
  let .obj current := current | refuse malformed
  let .obj desired := desired | refuse malformed
  check (realmAdminFields.all fun f => (desired.lookup (text f)).isSome)
    (text "desired Keycloak realm fields are incomplete")
  let policies ← mergedGroup current desired "clientPolicies" "policies" (text "client policy")
  let profiles ← mergedGroup current desired "clientProfiles" "profiles" (text "client profile")
  let payload := project (realmPlainFields.map text) desired ++
    [(text "clientPolicies", .obj policies), (text "clientProfiles", .obj profiles)]
  return payload.filter fun m => !equal floats ((current.lookup m.1).getD .null) m.2

/-! ## The key provider -/

/-- `mapping.get(name) == value`. -/
def hasText (mapping : Dict) (name : String) (value : Text) : Bool :=
  textAt mapping name == some value

/-- The four fields of the managed provider with their values. -/
def isManagedPayload (payload : Dict) : Bool :=
  namesAre payload ["name", "providerId", "providerType", "config"] &&
    hasText payload "name" managedKeyProviderName &&
    hasText payload "providerId" managedKeyProviderId &&
    hasText payload "providerType" keyProviderType &&
    equal floats ((payload.lookup (text "config")).getD .null) (.obj managedKeyProviderConfig)

/-- The entries of a list named like the managed provider. -/
def namedLikeManaged (message : Text) : List Json → Outcome (List Dict)
  | [] => .ok []
  | component :: rest => do
    let .obj found := component | refuse message
    let some name := textAt found "name" | refuse message
    let more ← namedLikeManaged message rest
    return if name = managedKeyProviderName then found :: more else more

def keyProviderAdminPayload (desiredRealm : Json) : Outcome Dict := do
  let malformed := text "desired Keycloak key provider configuration is malformed"
  let .obj desired := desiredRealm | refuse malformed
  let some components := dictAt desired "components" | refuse malformed
  let some (.arr providers) := components.lookup keyProviderType | refuse malformed
  let found ← namedLikeManaged (text "desired Keycloak key provider entry is malformed") providers
  let [provider] := found
    | refuse (text "desired Keycloak managed key provider is missing or duplicated")
  check (namesAre provider ["name", "providerId", "config"])
    (text "desired Keycloak managed key provider fields are unexpected")
  check (hasText provider "providerId" managedKeyProviderId &&
      equal floats ((provider.lookup (text "config")).getD .null) (.obj managedKeyProviderConfig))
    (text "desired Keycloak managed key provider config is invalid")
  return [(text "name", .str managedKeyProviderName), (text "providerId", .str managedKeyProviderId),
    (text "providerType", .str keyProviderType), (text "config", .obj managedKeyProviderConfig)]

inductive ProviderAction where
  | create (payload : Dict)
  | noop (componentId : Text)
  | update (componentId : Text) (payload : Dict)

def isTextList : Json → Bool
  | .arr values => values.all fun v => v.str?.isSome
  | _ => false

/-- Every value is a list of texts. -/
def isProviderConfig (config : Dict) : Bool := config.all fun m => isTextList m.2

def planKeyProviderSync (desiredPayload : Dict) (liveComponents : Json) :
    Outcome ProviderAction := do
  check (isManagedPayload floats desiredPayload)
    (text "desired Keycloak managed key provider config is invalid")
  let malformed := text "Keycloak managed key provider lookup is malformed"
  let .arr live := liveComponents | refuse malformed
  let found ← namedLikeManaged malformed live
  match found with
  | [] => return .create desiredPayload
  | [current] => do
    let some componentId := filledAt current "id"
      | refuse (text "Keycloak managed key provider ID is missing")
    check (hasText current "providerId" managedKeyProviderId &&
        hasText current "providerType" keyProviderType)
      (text "Keycloak managed key provider name is occupied by another component")
    let badConfig := text "Keycloak managed key provider config is malformed"
    let some config := dictAt current "config" | refuse badConfig
    check (isProviderConfig config) badConfig
    if managedKeyProviderConfig.all fun m => equal floats ((config.lookup m.1).getD .null) m.2 then
      return .noop componentId
    else return .update componentId desiredPayload
  | _ => refuse (text "duplicate Keycloak managed key provider names found")

end

end KonnectFapi.Source.Keycloak

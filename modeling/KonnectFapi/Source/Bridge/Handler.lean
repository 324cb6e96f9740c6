import KonnectFapi.Source.Transport.Lifecycle

/-!
# The client-authentication bridge

Source: kong/plugins/fapi-client-auth-bridge/handler.lua. The discovery request
goes through the decorated HTTP client; its answer is an input here. The module
caches live beside the state table because both belong to one worker.
-/

namespace KonnectFapi.Source.Bridge
open Lib Lib.Lua Transport

def discovery : Bytes := discoveryInternal
def routeBKey : Bytes := ascii "/etc/kong/fapi/route-b-pkj.key"
def routeBCert : Bytes := routeB.certificateFile

inductive Delivery where
  | header | transportDelegate
  deriving DecidableEq, Repr

structure State where
  delegateReady : Bool
  delegateFailed : Bool
  configuredDelivery : Option Delivery
  configSignature : Option Bytes
  delegateConf : Option Value
  signerEpoch : Option Bytes
  /-- `discovery_cache`: key and expiry. -/
  discoveryCache : List (Bytes × Rat)
  /-- `cached_keys`. -/
  cachedKeys : List (Bytes × PKey)

def State.initial : State where
  delegateReady := false
  delegateFailed := false
  configuredDelivery := none
  configSignature := none
  delegateConf := none
  signerEpoch := none
  discoveryCache := []
  cachedKeys := []

/-- The answer to the discovery request. -/
structure DiscoveryResponse where
  status : Rat
  body : Bytes

/-- What an access phase sees besides files and clock: which assertion
parameters the client supplied, the discovery answer, `random.bytes(32, true)`
and `ngx.now()`. -/
structure AccessEnv where
  files : Bytes → Option Bytes
  time : Nat
  now : Rat
  suppliedByClient : Bool
  discovery : Option DiscoveryResponse
  random : Option Bytes

def base64url (host : Host) (value : Bytes) : Bytes :=
  (host.encodeBase64 value).map fun b => if b = 43 then 45 else if b = 47 then 95 else b

/-- `load_key(path, epoch)`: the key and the cache after the call. -/
def loadKey (host : Host) (files : Bytes → Option Bytes) (path : Bytes) (epoch : Option Bytes)
    (s : State) : State × Option PKey :=
  match epoch with
  | none => (s, none)
  | some epoch =>
    if epoch = [] then (s, none)
    else
      let cacheKey := epoch ++ [0] ++ path
      match s.cachedKeys.lookup cacheKey with
      | some key => (s, some key)
      | none =>
        match (readLimited (files path) 65536).bind host.pkeyNew with
        | none => (s, none)
        | some key => ({ s with cachedKeys := (cacheKey, key) :: s.cachedKeys }, some key)

def discoveryKey (conf : Value) (epoch : Bytes) : Bytes :=
  epoch ++ [0] ++ (conf.field "discovery_endpoint").str?.getD [] ++ [0] ++
    (conf.field "issuer").str?.getD []

def verifyDiscoveryIssuer (host : Host) (env : AccessEnv) (conf : Value) (epoch : Bytes)
    (s : State) : State × Bool :=
  let cacheKey := discoveryKey conf epoch
  if ((s.discoveryCache.lookup cacheKey).map fun cachedUntil => decide (env.now < cachedUntil)).getD
      false then (s, true)
  else
    match env.discovery with
    | none => (s, false)
    | some response =>
      if response.status ≠ 200 then (s, false)
      else
        match host.cjsonDecode response.body with
        | none => (s, false)
        | some metadata =>
          if metadata.isTable && (metadata.field "issuer").str? == (conf.field "issuer").str? &&
              (conf.field "issuer").str?.isSome then
            ({ s with discoveryCache :=
                (cacheKey, env.now + (conf.field "discovery_cache_ttl").num?.getD 0) ::
                  s.discoveryCache }, true)
          else (s, false)

def configSignature (host : Host) (conf : Value) : Bytes :=
  join [0] (["issuer", "discovery_endpoint", "client_id", "private_key_file",
    "tls_certificate_file", "key_id", "assertion_ttl", "discovery_timeout",
    "discovery_cache_ttl"].map fun name => tostringOr host (conf.field name))

def numberBetween (low high : Rat) (v : Value) : Bool :=
  match v.num? with
  | some q => decide (low ≤ q ∧ q ≤ high)
  | none => false

def validateDelegateConfig (conf : Value) : Bool :=
  conf.isTable && (conf.field "assertion_delivery").isStr (ascii "transport_delegate") &&
    (conf.field "issuer").isStr issuer && (conf.field "discovery_endpoint").isStr discovery &&
    (conf.field "client_id").isStr routeB.clientId &&
    (conf.field "private_key_file").isStr routeBKey &&
    (conf.field "tls_certificate_file").isStr routeBCert &&
    (match conf.field "key_id" with
      | .str keyId => keyId ≠ [] && keyId.length ≤ 128
      | _ => false) &&
    (conf.field "assertion_ttl").num? == some 60 &&
    numberBetween 100 10000 (conf.field "discovery_timeout") &&
    numberBetween 1 3600 (conf.field "discovery_cache_ttl")

def readOneConfig (configs : Value) : Option Value :=
  if !configs.isTable || configs.border ≠ 1 then none
  else
    let entry := configs.fields.get (.num 1)
    if !entry.isTable then none
    else if (entry.field "config").isTable then some (entry.field "config") else some entry

/-- Fields `copy_delegate_config` takes over besides the delivery. -/
def copiedFields : List String :=
  ["issuer", "discovery_endpoint", "client_id", "private_key_file", "tls_certificate_file",
    "key_id", "assertion_ttl", "discovery_timeout", "discovery_cache_ttl"]

def copyDelegateConfig (conf : Value) : Value :=
  .table 0 ((.name "assertion_delivery", .str (ascii "transport_delegate")) ::
    copiedFields.map fun name => (.name name, conf.field name))

/-- The claim set `create_assertion` encodes. -/
def assertionPayload (host : Host) (conf : Value) (now : Nat) (nonce : Bytes) : Value :=
  .table 0 [(.name "aud", conf.field "issuer"),
    (.name "exp", .num (now + (conf.field "assertion_ttl").num?.getD 60)),
    (.name "iat", .num now),
    (.name "iss", conf.field "client_id"),
    (.name "jti", .str (base64url host nonce)),
    (.name "sub", conf.field "client_id")]

def assertionHeader (conf : Value) : Value :=
  .table 0 [(.name "alg", .str (ascii "PS256")), (.name "kid", conf.field "key_id"),
    (.name "typ", .str (ascii "JWT"))]

/-- `create_assertion(conf, epoch)`. -/
def createAssertion (host : Host) (env : AccessEnv) (conf : Value) (epoch : Bytes) (s : State) :
    State × Option Bytes :=
  let (s, key) := loadKey host env.files ((conf.field "private_key_file").str?.getD []) (some epoch) s
  match key, env.random with
  | some key, some nonce =>
    if nonce.length ≠ 32 then (s, none)
    else
      match host.cjsonEncode (assertionHeader conf),
          host.cjsonEncode (assertionPayload host conf env.time nonce) with
      | some header, some payload =>
        let signingInput := base64url host header ++ ascii "." ++ base64url host payload
        match host.sign key signingInput with
        | some signature => (s, some (signingInput ++ ascii "." ++ base64url host signature))
        | none => (s, none)
      | _, _ => (s, none)
  | _, _ => (s, none)

/-- The pair of module states an operation of the bridge works on. -/
structure Modules where
  transport : Transport.State
  bridge : State

structure Outcome where
  modules : Modules
  effects : List FileEffect

/-- `transport.mark_bridge_status(ready, epoch)`. -/
def markStatus (process : Process) (env : Env) (ready : Bool) (epoch : Option Bytes) (m : Modules) :
    Outcome :=
  let (transport, effects) := markBridgeStatus process env ready epoch m.transport
  ⟨{ m with transport := transport }, effects⟩

/-- `refresh_transport_status`. -/
def refreshTransportStatus (host : Host) (process : Process) (env : Env) (m : Modules) : Outcome :=
  let epoch := currentRegistryEpoch m.transport
  let eligible := !m.bridge.delegateFailed && m.bridge.configuredDelivery == some .transportDelegate &&
    (m.bridge.delegateConf.map validateDelegateConfig).getD false && epoch.isSome &&
    routeManifestMatches m.transport routeB.routeId routeB.clientId (ascii "B") epoch &&
    routeCertificateMatches host env m.transport routeB.routeId routeBCert
  let (bridge, ready) :=
    if eligible then
      let (bridge, key) := loadKey host env.files routeBKey epoch m.bridge
      (bridge, key.isSome)
    else (m.bridge, false)
  let bridge := { bridge with
    delegateReady := ready
    signerEpoch := if ready then epoch else none }
  markStatus process env ready bridge.signerEpoch { m with bridge := bridge }

/-- The closure `register_delegate` stores, invoked: an assertion or nothing. -/
def signCallback (host : Host) (env : AccessEnv) (context : Context) (callback : Callback)
    (m : Modules) : State × Option Bytes :=
  let current := currentRegistryEpoch m.transport
  if current ≠ some callback.epoch ∨ context.registryEpoch ≠ current ∨ context.signerEpoch ≠ current ∨
      !routeIdentityMatches m.transport (some context) routeB.clientId (ascii "B") then
    (m.bridge, none)
  else createAssertion host env callback.conf callback.epoch m.bridge

/-- `register_delegate`: whether it registered, and the context it leaves. -/
def registerDelegate (host : Host) (process : Process) (env : Env) (conf : Value)
    (context : Option Context) (m : Modules) : Outcome × Option Context × Bool :=
  let outcome := refreshTransportStatus host process env m
  if !outcome.modules.bridge.delegateReady then (outcome, context, false)
  else
    match context, outcome.modules.bridge.signerEpoch with
    | some c, some epoch =>
      if c.registryEpoch ≠ some epoch ∨ c.logicalRoute ≠ some (ascii "B") ∨
          c.clientId ≠ some routeB.clientId ∨
          !routeIdentityMatches outcome.modules.transport context routeB.clientId (ascii "B") then
        (outcome, context, false)
      else
        (outcome, some { c with signerEpoch := some epoch, signAssertion := some ⟨epoch, conf⟩ }, true)
    | _, _ => (outcome, context, false)

def initWorker (host : Host) (process : Process) (loadedEnv env : Env) (m : Modules) : Outcome :=
  let (transport, effects) := markBridgeLoaded process loadedEnv m.transport
  let outcome := refreshTransportStatus host process env { m with transport := transport }
  ⟨outcome.modules, effects ++ outcome.effects⟩

/-- The latch five exits of the bridge share. -/
def latchDelegateFailed (process : Process) (env : Env) (m : Modules) : Outcome :=
  markStatus process env false none
    { m with bridge := { m.bridge with delegateFailed := true, delegateReady := false } }

/-- `conf and conf.assertion_delivery or "header"`; anything that is neither mode
is `none`. -/
def deliveryOf (conf : Option Value) : Option Delivery :=
  match conf with
  | none => some .header
  | some conf =>
    let delivery := conf.field "assertion_delivery"
    if !delivery.truthy || delivery.isStr (ascii "header") then some .header
    else if delivery.isStr (ascii "transport_delegate") then some .transportDelegate
    else none

/-- The successful end of `Bridge:configure`. -/
def acceptDelivery (host : Host) (process : Process) (loadedEnv env : Env) (delivery : Delivery)
    (m : Modules) : Outcome :=
  initWorker host process loadedEnv env
    { m with bridge := { m.bridge with configuredDelivery := some delivery } }

def configure (host : Host) (process : Process) (loadedEnv env : Env) (configs : Value)
    (m : Modules) : Outcome :=
  if initialConfigAbsent configs && m.bridge.configuredDelivery.isNone &&
      m.bridge.configSignature.isNone && !m.bridge.delegateFailed then
    let m := { m with bridge := { m.bridge with delegateReady := false } }
    let (transport, effects) := markBridgeLoaded process loadedEnv m.transport
    let outcome := markStatus process env false none { m with transport := transport }
    ⟨outcome.modules, effects ++ outcome.effects⟩
  else
    let conf := readOneConfig configs
    let delivery := deliveryOf conf
    if m.bridge.configuredDelivery.isSome && m.bridge.configuredDelivery != delivery then
      latchDelegateFailed process env m
    else
      match delivery, conf with
      | some .transportDelegate, some conf =>
        if !validateDelegateConfig conf then latchDelegateFailed process env m
        else
          let signature := configSignature host conf
          if m.bridge.configSignature.isSome && m.bridge.configSignature != some signature then
            latchDelegateFailed process env m
          else
            acceptDelivery host process loadedEnv env .transportDelegate
              { m with bridge := { m.bridge with
                configSignature := some signature
                delegateConf := some (copyDelegateConfig conf) } }
      | some .header, _ => acceptDelivery host process loadedEnv env .header m
      | _, _ => latchDelegateFailed process env m

/-- How an access phase ended. -/
inductive AccessEnd where
  | continue
  | exit (status : Nat)
  deriving DecidableEq

structure AccessOutcome where
  modules : Modules
  effects : List FileEffect
  context : Option Context
  ending : AccessEnd
  /-- The assertion written to the request headers in header mode. -/
  assertion : Option Bytes

/-- `certificate:find(needle, 1, true)`. -/
def contains (needle : Bytes) : Bytes → Bool
  | [] => needle.isEmpty
  | b :: rest => needle.isPrefixOf (b :: rest) || contains needle rest

/-- The header-delivery tail of `Bridge:access`. -/
def accessHeaderMode (host : Host) (env : AccessEnv) (conf : Value) (context : Option Context)
    (m : Modules) : AccessOutcome :=
  let certificate := readLimited (env.files ((conf.field "tls_certificate_file").str?.getD [])) 262144
  if !(certificate.map (contains (ascii "BEGIN CERTIFICATE"))).getD false then
    ⟨m, [], context, .exit 500, none⟩
  else
    let (bridge, valid) := verifyDiscoveryIssuer host env conf (ascii "header-mode") m.bridge
    if !valid then ⟨{ m with bridge := bridge }, [], context, .exit 500, none⟩
    else
      let (bridge, assertion) := createAssertion host env conf (ascii "header-mode") bridge
      match assertion with
      | none => ⟨{ m with bridge := bridge }, [], context, .exit 500, none⟩
      | some text => ⟨{ m with bridge := bridge }, [], context, .continue, some text⟩

def accessDelegateMode (host : Host) (process : Process) (env : Env) (accessEnv : AccessEnv)
    (conf : Value) (context : Option Context) (m : Modules) : AccessOutcome :=
  if m.bridge.delegateFailed || !validateDelegateConfig conf || m.bridge.configSignature.isNone ||
      some (configSignature host conf) != m.bridge.configSignature then
    let outcome := latchDelegateFailed process env m
    ⟨outcome.modules, outcome.effects, context, .exit 500, none⟩
  else
    let delegateConf := m.bridge.delegateConf.getD .nil
    let (outcome, context, registered) := registerDelegate host process env delegateConf context m
    if !registered then ⟨outcome.modules, outcome.effects, context, .exit 500, none⟩
    else
      let (bridge, valid) := verifyDiscoveryIssuer host accessEnv delegateConf
        (outcome.modules.bridge.signerEpoch.getD []) outcome.modules.bridge
      ⟨{ outcome.modules with bridge := bridge }, outcome.effects, context,
        if valid then .continue else .exit 500, none⟩

/-- `Bridge:access(conf)`. -/
def access (host : Host) (process : Process) (env : Env) (accessEnv : AccessEnv) (conf : Value)
    (context : Option Context) (m : Modules) : AccessOutcome :=
  if accessEnv.suppliedByClient then ⟨m, [], context, .exit 400, none⟩
  else if (conf.field "assertion_delivery").isStr (ascii "transport_delegate") then
    accessDelegateMode host process env accessEnv conf context m
  else accessHeaderMode host accessEnv conf context m

end KonnectFapi.Source.Bridge

import KonnectFapi.Source.Bridge.Signing

/-!
# The readiness the bridge derives

Source: kong/plugins/fapi-client-auth-bridge/handler.lua:208-230, with the cached key of
`load_key`. It is a function of the bridge's configuration, of what the transport
answers, and of two files.
-/

namespace KonnectFapi.Source.Bridge
open Lib Lib.Lua Transport

/-- Whether the key of the current epoch can be had. -/
def keyReady (host : Host) (env : Env) (m : Modules) : Bool :=
  match currentRegistryEpoch m.transport with
  | some epoch => (findKey host env.files routeBKey epoch m.bridge).isSome
  | none => false

/-- The conditions before the key is loaded. -/
def delegateEligible (host : Host) (env : Env) (m : Modules) : Bool :=
  let epoch := currentRegistryEpoch m.transport
  !m.bridge.delegateFailed && m.bridge.configuredDelivery == some .transportDelegate &&
    (m.bridge.delegateConf.map validateDelegateConfig).getD false && epoch.isSome &&
    routeManifestMatches m.transport routeB.routeId routeB.clientId (ascii "B") epoch &&
    routeCertificateMatches host env m.transport routeB.routeId routeBCert

/-- What `refresh_transport_status` would answer. -/
def derivedReady (host : Host) (env : Env) (m : Modules) : Bool :=
  delegateEligible host env m && keyReady host env m

theorem refreshTransportStatus_derived (host : Host) (process : Process) (env : Env) (m : Modules) :
    (refreshTransportStatus host process env m).modules.bridge.delegateReady =
      derivedReady host env m := by
  unfold refreshTransportStatus derivedReady keyReady
  dsimp only
  rw [markStatus_bridge]
  split
  · rename_i eligible
    rw [show delegateEligible host env m = true from eligible]
    cases epoch : currentRegistryEpoch m.transport with
    | none => simp [epoch] at eligible
    | some e =>
      dsimp only
      rw [loadKey_key]
      rfl
  · rename_i refused
    rw [show delegateEligible host env m = false from Bool.eq_false_of_not_eq_true refused]
    rfl

/-- The parts of the two states a derivation reads. -/
structure SameBasis (m m' : Modules) : Prop where
  failed : m'.bridge.delegateFailed = m.bridge.delegateFailed
  delivery : m'.bridge.configuredDelivery = m.bridge.configuredDelivery
  conf : m'.bridge.delegateConf = m.bridge.delegateConf
  registryReady : m'.transport.registryReady = m.transport.registryReady
  transportFailed : m'.transport.failed = m.transport.failed
  epoch : m'.transport.registryEpoch = m.transport.registryEpoch
  route : ∀ id, (m'.transport.registry.bind fun registry => registry.route id) =
    m.transport.registry.bind fun registry => registry.route id

theorem SameBasis.current {m m' : Modules} (h : SameBasis m m') :
    currentRegistryEpoch m'.transport = currentRegistryEpoch m.transport := by
  unfold currentRegistryEpoch
  rw [h.registryReady, h.transportFailed, h.epoch]

theorem SameBasis.eligible {m m' : Modules} (h : SameBasis m m') (host : Host) {env env' : Env}
    (certificate : env'.files routeBCert = env.files routeBCert) :
    delegateEligible host env' m' = delegateEligible host env m := by
  unfold delegateEligible routeManifestMatches routeCertificateMatches
  dsimp only
  rw [h.current, h.failed, h.delivery, h.conf, h.registryReady, h.transportFailed, h.epoch,
    h.route routeB.routeId, certificate]

/-- Equal bases, equal files and a key that is found as before: the same answer. -/
theorem SameBasis.derived {m m' : Modules} (h : SameBasis m m') (host : Host) {env env' : Env}
    (certificate : env'.files routeBCert = env.files routeBCert)
    (key : ∀ epoch, currentRegistryEpoch m.transport = some epoch →
      (findKey host env'.files routeBKey epoch m'.bridge).isSome =
        (findKey host env.files routeBKey epoch m.bridge).isSome) :
    derivedReady host env' m' = derivedReady host env m := by
  unfold derivedReady keyReady
  rw [h.eligible host certificate, h.current]
  cases epoch : currentRegistryEpoch m.transport with
  | none => rfl
  | some e =>
    dsimp only
    rw [key e epoch]

theorem findKey_files (host : Host) {files files' : Bytes → Option Bytes} {path : Bytes}
    (same : files' path = files path) (epoch : Bytes) (s : State) :
    findKey host files' path epoch s = findKey host files path epoch s := by
  unfold findKey
  rw [same]

/-- Loading a key does not change whether one is found, unless it is the same entry read
from another file. -/
theorem findKey_loaded (host : Host) {files files' : Bytes → Option Bytes} {path path' epoch epoch' : Bytes}
    (same : epoch' ++ [0] ++ path' = epoch ++ [0] ++ path → files' path' = files path) (s : State) :
    (findKey host files path epoch (loadKey host files' path' (some epoch') s).1).isSome =
      (findKey host files path epoch s).isSome := by
  unfold loadKey
  dsimp only
  split
  · rfl
  · split
    · rfl
    · rename_i uncached
      split
      · rfl
      · rename_i key found
        unfold findKey
        split
        · rfl
        · by_cases entry : epoch' ++ [0] ++ path' = epoch ++ [0] ++ path
          · rw [same entry] at found
            rw [entry] at uncached ⊢
            simp only [List.lookup_cons_self, uncached, found, Option.isSome_some]
          · have other : (epoch ++ [0] ++ path == epoch' ++ [0] ++ path') = false :=
              beq_eq_false_iff_ne.mpr (Ne.symm entry)
            simp only [List.lookup_cons, other]

/-- What the bridge says of the delegate is what it would derive. -/
def Derived (host : Host) (env : Env) (m : Modules) : Prop :=
  m.bridge.delegateReady = derivedReady host env m

/-- The two files a derivation reads. -/
structure SameDelegateFiles (files files' : Bytes → Option Bytes) : Prop where
  certificate : files' routeBCert = files routeBCert
  key : files' routeBKey = files routeBKey

theorem derivedReady_failed (host : Host) (env : Env) {m : Modules}
    (h : m.bridge.delegateFailed = true) : derivedReady host env m = false := by
  unfold derivedReady delegateEligible
  simp [h]

theorem latchDelegateFailed_derived (host : Host) (process : Process) (env env' : Env) (m : Modules) :
    Derived host env (latchDelegateFailed process env' m).modules :=
  (derivedReady_failed host env rfl).symm

theorem refreshTransportStatus_basis (host : Host) (process : Process) (env : Env) (m : Modules) :
    SameBasis m (refreshTransportStatus host process env m).modules := by
  have core : (refreshTransportStatus host process env m).modules.transport.core =
      { m.transport.core with
        bridgeLoaded := true
        delegateReady := (refreshTransportStatus host process env m).modules.transport.delegateReady } := by
    unfold refreshTransportStatus
    dsimp only
    rw [markStatus_core]
    exact congrArg (fun c : Core => { m.transport.core with
      bridgeLoaded := true, delegateReady := c.delegateReady }) (markStatus_core process env _ _ _).symm
  have cache : ∀ s, (loadKey host env.files routeBKey (currentRegistryEpoch m.transport) s).1 =
      { s with cachedKeys :=
        (loadKey host env.files routeBKey (currentRegistryEpoch m.transport) s).1.cachedKeys } :=
    fun s => loadKey_cache host env.files routeBKey _ s
  have bridge : (refreshTransportStatus host process env m).modules.bridge.delegateFailed =
        m.bridge.delegateFailed ∧
      (refreshTransportStatus host process env m).modules.bridge.configuredDelivery =
        m.bridge.configuredDelivery ∧
      (refreshTransportStatus host process env m).modules.bridge.delegateConf =
        m.bridge.delegateConf := by
    unfold refreshTransportStatus
    dsimp only
    rw [markStatus_bridge]
    split
    · dsimp only
      rw [cache]
      exact ⟨rfl, rfl, rfl⟩
    · exact ⟨rfl, rfl, rfl⟩
  exact ⟨bridge.1, bridge.2.1, bridge.2.2, congrArg Core.registryReady core, congrArg Core.failed core,
    congrArg Core.registryEpoch core, fun id => by rw [show
      (refreshTransportStatus host process env m).modules.transport.registry = m.transport.registry from
        congrArg Core.registry core]⟩

/-- A refresh that sees the same two files leaves the flag it derives. -/
theorem refreshTransportStatus_settles (host : Host) (process : Process) {env env' : Env}
    (same : SameDelegateFiles env.files env'.files) (m : Modules) :
    Derived host env (refreshTransportStatus host process env' m).modules := by
  unfold Derived
  rw [refreshTransportStatus_derived]
  refine ((refreshTransportStatus_basis host process env' m).derived host same.certificate.symm
    fun epoch current => ?_).symm
  rw [← findKey_files host same.key]
  unfold refreshTransportStatus
  dsimp only
  rw [markStatus_bridge]
  split
  · rw [current]
    exact findKey_loaded host (fun _ => rfl) m.bridge
  · rfl

theorem Derived.of_basis {host : Host} {env : Env} {m m' : Modules} (h : Derived host env m)
    (basis : SameBasis m m') (flag : m'.bridge.delegateReady = m.bridge.delegateReady)
    (key : ∀ epoch, currentRegistryEpoch m.transport = some epoch →
      (findKey host env.files routeBKey epoch m'.bridge).isSome =
        (findKey host env.files routeBKey epoch m.bridge).isSome) : Derived host env m' := by
  unfold Derived
  rw [basis.derived host rfl key, flag]
  exact h

/-- Of the bridge only its caches differ. -/
theorem SameBasis.of_caches (m : Modules) {bridge : State}
    (same : bridge = { m.bridge with
      cachedKeys := bridge.cachedKeys, discoveryCache := bridge.discoveryCache }) :
    SameBasis m { m with bridge := bridge } := by
  have failed := congrArg State.delegateFailed same
  have delivery := congrArg State.configuredDelivery same
  have conf := congrArg State.delegateConf same
  exact ⟨failed, delivery, conf, rfl, rfl, rfl, fun _ => rfl⟩

theorem configure_derived (host : Host) (process : Process) {env env' : Env} (loadedEnv : Env)
    (same : SameDelegateFiles env.files env'.files) (configs : Value) (m : Modules) :
    Derived host env (configure host process loadedEnv env' configs m).modules := by
  unfold configure
  dsimp only
  split
  · rename_i absent
    simp only [Bool.and_eq_true, Option.isNone_iff_eq_none] at absent
    unfold Derived derivedReady delegateEligible
    rw [markStatus_bridge]
    dsimp only
    rw [absent.1.1.2]
    simp
  · split
    · exact latchDelegateFailed_derived host process env env' m
    · split
      · split
        · exact latchDelegateFailed_derived host process env env' m
        · split
          · exact latchDelegateFailed_derived host process env env' m
          · exact refreshTransportStatus_settles host process same _
      · exact refreshTransportStatus_settles host process same _
      · exact latchDelegateFailed_derived host process env env' m

/-- An epoch that is a digest text is not the word that stands for one in header mode. -/
theorem headerMode_apart {host : Host} {value epoch path path' : Bytes}
    (digest : sha256 host value = some epoch) :
    ascii "header-mode" ++ [0] ++ path' ≠ epoch ++ [0] ++ path := by
  intro equal
  have length := sha256_length digest
  have zero : (0 : Byte) ∈ epoch := by
    have at11 := congrArg (fun bs : Bytes => bs[11]?) equal
    simp only [List.append_assoc] at at11
    rw [List.getElem?_append_left (by omega : 11 < epoch.length)] at at11
    have left : (ascii "header-mode" ++ ([0] ++ path'))[11]? = some 0 := rfl
    rw [left] at at11
    exact List.mem_of_getElem? at11.symm
  unfold sha256 at digest
  split at digest
  · split at digest
    · cases digest
      exact zero_not_mem_hex _ zero
    · cases digest
  · cases digest

theorem verifyDiscoveryIssuer_derived {host : Host} {env : Env} {m : Modules} (h : Derived host env m)
    (accessEnv : AccessEnv) (conf : Value) (epoch : Bytes) :
    Derived host env
      { m with bridge := (verifyDiscoveryIssuer host accessEnv conf epoch m.bridge).1 } := by
  have cache := verifyDiscoveryIssuer_cache host accessEnv conf epoch m.bridge
  generalize (verifyDiscoveryIssuer host accessEnv conf epoch m.bridge).1 = bridge at cache ⊢
  have flag := congrArg State.delegateReady cache
  refine h.of_basis (SameBasis.of_caches m (cache.trans ?_)) flag fun _ _ => ?_
  · rw [cache]
  · rw [cache]
    rfl

/-- Signing under an epoch whose key cannot be mistaken for another one. -/
theorem createAssertion_derived {host : Host} {env : Env} {m : Modules} (h : Derived host env m)
    (accessEnv : AccessEnv) (conf : Value) (epoch' : Bytes)
    (apart : ∀ epoch, currentRegistryEpoch m.transport = some epoch →
      epoch' ++ [0] ++ (conf.field "private_key_file").str?.getD [] = epoch ++ [0] ++ routeBKey →
        accessEnv.files ((conf.field "private_key_file").str?.getD []) = env.files routeBKey) :
    Derived host env { m with bridge := (createAssertion host accessEnv conf epoch' m.bridge).1 } := by
  have cache := createAssertion_cache host accessEnv conf epoch' m.bridge
  have loaded : (createAssertion host accessEnv conf epoch' m.bridge).1 =
      (loadKey host accessEnv.files ((conf.field "private_key_file").str?.getD []) (some epoch')
        m.bridge).1 := by
    unfold createAssertion
    dsimp only
    split
    · split
      · rfl
      · split
        · split <;> rfl
        · rfl
    · rfl
  have flag := congrArg State.delegateReady cache
  refine h.of_basis (SameBasis.of_caches m (cache.trans ?_)) flag fun epoch current => ?_
  · rw [cache]
  · dsimp only
    rw [loaded]
    exact findKey_loaded host (apart epoch current) m.bridge

theorem access_derived (host : Host) (process : Process) {env env' : Env} {accessEnv : AccessEnv}
    (same : SameDelegateFiles env.files env'.files) (conf : Value) (context : Option Context)
    {m : Modules} (h : Derived host env m)
    (digest : ∀ epoch, currentRegistryEpoch m.transport = some epoch →
      ∃ value, sha256 host value = some epoch) :
    Derived host env (access host process env' accessEnv conf context m).modules := by
  unfold access
  split
  · exact h
  · split
    · unfold accessDelegateMode
      dsimp only
      split
      · exact latchDelegateFailed_derived host process env env' m
      · have refreshed := refreshTransportStatus_settles host process same m
        rw [← registerDelegate_outcome host process env' (m.bridge.delegateConf.getD .nil) context m]
          at refreshed
        split
        · exact refreshed
        · exact verifyDiscoveryIssuer_derived refreshed accessEnv _ _
    · unfold accessHeaderMode
      dsimp only
      split
      · exact h
      · have discovered := verifyDiscoveryIssuer_derived h accessEnv conf (ascii "header-mode")
        split
        · exact discovered
        · have signed := createAssertion_derived discovered accessEnv conf (ascii "header-mode")
            fun epoch current equal => absurd equal (headerMode_apart (digest epoch current).choose_spec)
          split <;> exact signed

theorem signCallback_derived {host : Host} {env : Env} {m : Modules} (h : Derived host env m)
    {accessEnv : AccessEnv} (same : SameDelegateFiles env.files accessEnv.files) (context : Context)
    (callback : Callback) :
    Derived host env { m with bridge := (signCallback host accessEnv context callback m).1 } := by
  unfold signCallback
  dsimp only
  split
  · exact h
  · rename_i valid
    simp only [not_or, not_not] at valid
    refine createAssertion_derived h accessEnv callback.conf callback.epoch fun epoch current equal => ?_
    obtain rfl : callback.epoch = epoch := Option.some.inj (valid.1.symm.trans current)
    rw [List.append_cancel_left equal]
    exact same.key

end KonnectFapi.Source.Bridge

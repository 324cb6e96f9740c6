import KonnectFapi.Source.Bridge.Effects

/-!
# When the bridge signs, and what its latch holds

Source: kong/plugins/fapi-client-auth-bridge/handler.lua:97-206, 245-262 and 338-390.
The conditions below are read off the inputs and the state an operation starts
from; the latch is followed through every operation that could clear it.
-/

namespace KonnectFapi.Source.Bridge
open Lib Lib.Lua Transport

/-! ## The key -/

/-- The key `load_key` answers: the cached one, else the one the file holds now. -/
def findKey (host : Host) (files : Bytes → Option Bytes) (path epoch : Bytes) (s : State) :
    Option PKey :=
  if epoch = [] then none
  else
    match s.cachedKeys.lookup (epoch ++ [0] ++ path) with
    | some key => some key
    | none => (readLimited (files path) 65536).bind host.pkeyNew

theorem loadKey_key (host : Host) (files : Bytes → Option Bytes) (path epoch : Bytes) (s : State) :
    (loadKey host files path (some epoch) s).2 = findKey host files path epoch s := by
  unfold loadKey findKey
  dsimp only
  split
  · rfl
  · cases s.cachedKeys.lookup (epoch ++ [0] ++ path) with
    | some key => rfl
    | none => cases (readLimited (files path) 65536).bind host.pkeyNew <;> rfl

/-- Only the key cache grows. -/
theorem loadKey_cache (host : Host) (files : Bytes → Option Bytes) (path : Bytes)
    (epoch : Option Bytes) (s : State) :
    (loadKey host files path epoch s).1 =
      { s with cachedKeys := (loadKey host files path epoch s).1.cachedKeys } := by
  unfold loadKey
  split
  · rfl
  · split
    · rfl
    · dsimp only
      split
      · rfl
      · split <;> rfl

/-! ## Signing -/

/-- Everything `create_assertion` needs to hand out an assertion. -/
structure CanSign (host : Host) (env : AccessEnv) (conf : Value) (epoch : Bytes) (s : State) :
    Prop where
  material : ∃ key nonce header payload signature,
    findKey host env.files ((conf.field "private_key_file").str?.getD []) epoch s = some key ∧
    env.random = some nonce ∧ nonce.length = 32 ∧
    host.cjsonEncode (assertionHeader conf) = some header ∧
    host.cjsonEncode (assertionPayload host conf env.time nonce) = some payload ∧
    host.sign key (base64url host header ++ ascii "." ++ base64url host payload) = some signature

theorem createAssertion_isSome (host : Host) (env : AccessEnv) (conf : Value) (epoch : Bytes)
    (s : State) :
    (createAssertion host env conf epoch s).2.isSome = true ↔ CanSign host env conf epoch s := by
  have key := loadKey_key host env.files ((conf.field "private_key_file").str?.getD []) epoch s
  unfold createAssertion
  generalize loadKey host env.files ((conf.field "private_key_file").str?.getD []) (some epoch) s =
    loaded at key ⊢
  obtain ⟨s', found⟩ := loaded
  dsimp only at key ⊢
  subst key
  constructor
  · intro signs
    split at signs
    · rename_i key nonce hkey hnonce
      split at signs
      · cases signs
      · rename_i len
        split at signs
        · rename_i header payload hheader hpayload
          split at signs
          · rename_i signature hsignature
            exact ⟨key, nonce, header, payload, signature, hkey, hnonce, not_not.mp len, hheader,
              hpayload, hsignature⟩
          · cases signs
        · cases signs
    · cases signs
  · rintro ⟨key, nonce, header, payload, signature, hkey, hnonce, len, hheader, hpayload, hsignature⟩
    simp only [hkey, hnonce, len, ne_eq, not_true_eq_false, if_false, hheader, hpayload, hsignature,
      Option.isSome_some]

theorem createAssertion_cache (host : Host) (env : AccessEnv) (conf : Value) (epoch : Bytes)
    (s : State) :
    (createAssertion host env conf epoch s).1 =
      { s with cachedKeys := (createAssertion host env conf epoch s).1.cachedKeys } := by
  have cache := loadKey_cache host env.files ((conf.field "private_key_file").str?.getD [])
    (some epoch) s
  unfold createAssertion
  generalize loadKey host env.files ((conf.field "private_key_file").str?.getD []) (some epoch) s =
    loaded at cache ⊢
  obtain ⟨s', found⟩ := loaded
  dsimp only at cache ⊢
  split
  · split
    · exact cache
    · split
      · split <;> exact cache
      · exact cache
  · exact cache

/-! ## Discovery -/

/-- The issuer was confirmed before and the confirmation has not expired, or the
answer to the discovery request names it. -/
def DiscoveryConfirms (host : Host) (env : AccessEnv) (conf : Value) (epoch : Bytes) (s : State) :
    Prop :=
  (∃ cachedUntil, s.discoveryCache.lookup (discoveryKey conf epoch) = some cachedUntil ∧
    env.now < cachedUntil) ∨
  ∃ response metadata issuer, env.discovery = some response ∧ response.status = 200 ∧
    host.cjsonDecode response.body = some metadata ∧ metadata.isTable = true ∧
    metadata.field "issuer" = .str issuer ∧ conf.field "issuer" = .str issuer

theorem cached_iff (s : State) (env : AccessEnv) (key : Bytes) :
    ((s.discoveryCache.lookup key).map fun cachedUntil => decide (env.now < cachedUntil)).getD
        false = true ↔
      ∃ cachedUntil, s.discoveryCache.lookup key = some cachedUntil ∧ env.now < cachedUntil := by
  cases s.discoveryCache.lookup key <;> simp

theorem sameIssuer_iff (metadata conf : Value) :
    ((metadata.field "issuer").str? == (conf.field "issuer").str? &&
        (conf.field "issuer").str?.isSome) = true ↔
      ∃ issuer, metadata.field "issuer" = .str issuer ∧ conf.field "issuer" = .str issuer := by
  simp only [Bool.and_eq_true, beq_iff_eq, Option.isSome_iff_exists]
  constructor
  · rintro ⟨same, issuer, configured⟩
    exact ⟨issuer, Value.str?_eq_some.mp (same.trans configured), Value.str?_eq_some.mp configured⟩
  · rintro ⟨issuer, answered, configured⟩
    rw [answered, configured]
    exact ⟨rfl, issuer, rfl⟩

theorem verifyDiscoveryIssuer_iff (host : Host) (env : AccessEnv) (conf : Value) (epoch : Bytes)
    (s : State) :
    (verifyDiscoveryIssuer host env conf epoch s).2 = true ↔
      DiscoveryConfirms host env conf epoch s := by
  unfold verifyDiscoveryIssuer DiscoveryConfirms
  dsimp only
  split
  · rename_i cached
    exact ⟨fun _ => Or.inl ((cached_iff s env _).mp cached), fun _ => rfl⟩
  · rename_i uncached
    rw [cached_iff] at uncached
    constructor
    · intro confirmed
      split at confirmed
      · cases confirmed
      · rename_i response answered
        split at confirmed
        · cases confirmed
        · rename_i ok
          split at confirmed
          · cases confirmed
          · rename_i metadata decoded
            split at confirmed
            · rename_i named
              rw [Bool.and_assoc, Bool.and_eq_true, sameIssuer_iff] at named
              obtain ⟨table, issuer, answeredIssuer, configured⟩ := named
              exact Or.inr ⟨response, metadata, issuer, answered, not_not.mp ok, decoded, table,
                answeredIssuer, configured⟩
            · cases confirmed
    · rintro (cached | ⟨response, metadata, issuer, answered, ok, decoded, table, named, configured⟩)
      · exact absurd cached uncached
      · have same := (sameIssuer_iff metadata conf).mpr ⟨issuer, named, configured⟩
        simp only [answered, ok, ne_eq, not_true_eq_false, if_false, decoded, table, Bool.and_assoc,
          same, Bool.and_self, if_true]

/-- Only the discovery cache grows. -/
theorem verifyDiscoveryIssuer_cache (host : Host) (env : AccessEnv) (conf : Value) (epoch : Bytes)
    (s : State) :
    (verifyDiscoveryIssuer host env conf epoch s).1 =
      { s with discoveryCache := (verifyDiscoveryIssuer host env conf epoch s).1.discoveryCache } := by
  unfold verifyDiscoveryIssuer
  dsimp only
  split
  · rfl
  · split
    · rfl
    · split
      · rfl
      · split
        · rfl
        · split <;> rfl

/-! ## The two ways to an assertion -/

/-- `certificate:find("BEGIN CERTIFICATE", 1, true)` on the configured file. -/
def certificatePresent (env : AccessEnv) (conf : Value) : Bool :=
  ((readLimited (env.files ((conf.field "tls_certificate_file").str?.getD [])) 262144).map
    (contains (ascii "BEGIN CERTIFICATE"))).getD false

/-- An access phase that signs on the spot. -/
structure HeaderSigns (host : Host) (env : AccessEnv) (conf : Value) (s : State) : Prop where
  unsupplied : env.suppliedByClient = false
  header : (conf.field "assertion_delivery").isStr (ascii "transport_delegate") = false
  certificate : certificatePresent env conf = true
  discovery : DiscoveryConfirms host env conf (ascii "header-mode") s
  signing : CanSign host env conf (ascii "header-mode") s

/-- The discovery check leaves the keys alone. -/
theorem CanSign.after_discovery {host : Host} {env : AccessEnv} {conf : Value} {epoch : Bytes}
    {s : State} (other : Bytes) :
    CanSign host env conf epoch (verifyDiscoveryIssuer host env conf other s).1 ↔
      CanSign host env conf epoch s := by
  rw [verifyDiscoveryIssuer_cache]
  exact ⟨fun ⟨material⟩ => ⟨material⟩, fun ⟨material⟩ => ⟨material⟩⟩

theorem accessDelegateMode_assertion (host : Host) (process : Process) (env : Env)
    (accessEnv : AccessEnv) (conf : Value) (context : Option Context) (m : Modules) :
    (accessDelegateMode host process env accessEnv conf context m).assertion = none := by
  unfold accessDelegateMode
  dsimp only
  split
  · rfl
  · split <;> rfl

theorem accessHeaderMode_assertion (host : Host) (env : AccessEnv) (conf : Value)
    (context : Option Context) (m : Modules) :
    (accessHeaderMode host env conf context m).assertion.isSome = true ↔
      certificatePresent env conf = true ∧
        DiscoveryConfirms host env conf (ascii "header-mode") m.bridge ∧
        CanSign host env conf (ascii "header-mode") m.bridge := by
  rw [← verifyDiscoveryIssuer_iff, ← CanSign.after_discovery (ascii "header-mode"),
    ← createAssertion_isSome]
  unfold accessHeaderMode certificatePresent
  dsimp only
  split
  · rename_i absent
    simp only [Bool.not_eq_true'] at absent
    simp [absent]
  · rename_i present
    simp only [Bool.not_eq_true', Bool.not_eq_false] at present
    split
    · rename_i unconfirmed
      simp only [Bool.not_eq_true'] at unconfirmed
      simp [unconfirmed]
    · rename_i confirmed
      simp only [Bool.not_eq_true', Bool.not_eq_false] at confirmed
      split
      · rename_i unsigned
        simp [unsigned]
      · rename_i text signed
        simp [present, confirmed, signed]

theorem access_assertion (host : Host) (process : Process) (env : Env) (accessEnv : AccessEnv)
    (conf : Value) (context : Option Context) (m : Modules) :
    (access host process env accessEnv conf context m).assertion.isSome = true ↔
      HeaderSigns host accessEnv conf m.bridge := by
  unfold access
  split
  · rename_i supplied
    refine ⟨fun h => (by cases h), fun h => ?_⟩
    rw [h.unsupplied] at supplied
    cases supplied
  · rename_i unsupplied
    split
    · rename_i delegate
      rw [accessDelegateMode_assertion]
      refine ⟨fun h => (by cases h), fun h => ?_⟩
      rw [h.header] at delegate
      cases delegate
    · rename_i header
      rw [accessHeaderMode_assertion]
      exact ⟨fun ⟨a, b, c⟩ => ⟨by simpa using unsupplied, by simpa using header, a, b, c⟩,
        fun h => ⟨h.certificate, h.discovery, h.signing⟩⟩

/-- A stored closure whose transport-side facts still hold and whose key is there. -/
structure CallbackSigns (host : Host) (env : AccessEnv) (context : Context) (callback : Callback)
    (m : Modules) : Prop where
  current : currentRegistryEpoch m.transport = some callback.epoch
  contextEpoch : context.registryEpoch = some callback.epoch
  signerEpoch : context.signerEpoch = some callback.epoch
  identity : routeIdentityMatches m.transport (some context) routeB.clientId (ascii "B") = true
  signing : CanSign host env callback.conf callback.epoch m.bridge

theorem signCallback_isSome (host : Host) (env : AccessEnv) (context : Context) (callback : Callback)
    (m : Modules) :
    (signCallback host env context callback m).2.isSome = true ↔
      CallbackSigns host env context callback m := by
  unfold signCallback
  dsimp only
  split
  · rename_i stale
    refine ⟨fun h => (by cases h), fun h => ?_⟩
    rcases stale with current | contextEpoch | signerEpoch | identity
    · exact absurd h.current current
    · exact absurd (h.contextEpoch.trans h.current.symm) contextEpoch
    · exact absurd (h.signerEpoch.trans h.current.symm) signerEpoch
    · rw [h.identity] at identity
      cases identity
  · rename_i valid
    simp only [ne_eq, Bool.not_eq_true', not_or, not_not, Bool.not_eq_false] at valid
    obtain ⟨current, contextEpoch, signerEpoch, identity⟩ := valid
    rw [createAssertion_isSome]
    exact ⟨fun signing => ⟨current, contextEpoch.trans current, signerEpoch.trans current, identity,
      signing⟩, fun h => h.signing⟩

/-! ## The latch -/

/-- What a latched bridge holds on to. -/
structure Latched (s : State) : Prop where
  failed : s.delegateFailed = true
  delivery : s.configuredDelivery = some .transportDelegate

theorem loadKey_latched (host : Host) (files : Bytes → Option Bytes) (path : Bytes)
    (epoch : Option Bytes) {s : State} (h : Latched s) :
    Latched (loadKey host files path epoch s).1 := by
  rw [loadKey_cache]
  exact ⟨h.failed, h.delivery⟩

theorem createAssertion_latched (host : Host) (env : AccessEnv) (conf : Value) (epoch : Bytes)
    {s : State} (h : Latched s) : Latched (createAssertion host env conf epoch s).1 := by
  rw [createAssertion_cache]
  exact ⟨h.failed, h.delivery⟩

theorem verifyDiscoveryIssuer_latched (host : Host) (env : AccessEnv) (conf : Value) (epoch : Bytes)
    {s : State} (h : Latched s) : Latched (verifyDiscoveryIssuer host env conf epoch s).1 := by
  rw [verifyDiscoveryIssuer_cache]
  exact ⟨h.failed, h.delivery⟩

/-- A latched bridge is never reported ready. -/
theorem refreshTransportStatus_latched (host : Host) (process : Process) (env : Env) {m : Modules}
    (h : Latched m.bridge) :
    (refreshTransportStatus host process env m).modules.bridge =
      { m.bridge with delegateReady := false, signerEpoch := none } := by
  unfold refreshTransportStatus
  simp [h.failed]

theorem initWorker_latched (host : Host) (process : Process) (loadedEnv env : Env) {m : Modules}
    (h : Latched m.bridge) : Latched (initWorker host process loadedEnv env m).modules.bridge := by
  unfold initWorker
  dsimp only
  rw [refreshTransportStatus_latched host process env (by exact h)]
  exact ⟨h.failed, h.delivery⟩

theorem latchDelegateFailed_latched (process : Process) (env : Env) {m : Modules}
    (delivery : m.bridge.configuredDelivery = some .transportDelegate) :
    Latched (latchDelegateFailed process env m).modules.bridge :=
  ⟨rfl, delivery⟩

theorem configure_latched (host : Host) (process : Process) (loadedEnv env : Env) (configs : Value)
    {m : Modules} (h : Latched m.bridge) :
    Latched (configure host process loadedEnv env configs m).modules.bridge := by
  unfold configure
  dsimp only
  split
  · rename_i absent
    simp [h.failed] at absent
  · split
    · exact latchDelegateFailed_latched process env h.delivery
    · rename_i same
      split
      · split
        · exact latchDelegateFailed_latched process env h.delivery
        · split
          · exact latchDelegateFailed_latched process env h.delivery
          · exact initWorker_latched host process loadedEnv env ⟨h.failed, rfl⟩
      · rename_i header
        rw [header, h.delivery] at same
        exact absurd rfl same
      · exact latchDelegateFailed_latched process env h.delivery

theorem access_latched (host : Host) (process : Process) (env : Env) (accessEnv : AccessEnv)
    (conf : Value) (context : Option Context) {m : Modules} (h : Latched m.bridge) :
    Latched (access host process env accessEnv conf context m).modules.bridge := by
  unfold access
  split
  · exact h
  · split
    · unfold accessDelegateMode
      simp only [h.failed, Bool.true_or, if_true]
      exact latchDelegateFailed_latched process env h.delivery
    · unfold accessHeaderMode
      dsimp only
      split
      · exact h
      · have discovered := verifyDiscoveryIssuer_latched host accessEnv conf (ascii "header-mode") h
        split
        · exact discovered
        · have signed := createAssertion_latched host accessEnv conf (ascii "header-mode") discovered
          split <;> exact signed

/-- A latched bridge registers no signer. -/
theorem access_context_of_latched (host : Host) (process : Process) (env : Env)
    (accessEnv : AccessEnv) (conf : Value) (context : Option Context) {m : Modules}
    (h : Latched m.bridge) :
    (access host process env accessEnv conf context m).context = context := by
  unfold access
  split
  · rfl
  · split
    · unfold accessDelegateMode
      simp only [h.failed, Bool.true_or, if_true]
    · unfold accessHeaderMode
      dsimp only
      split
      · rfl
      · split
        · rfl
        · split <;> rfl

end KonnectFapi.Source.Bridge

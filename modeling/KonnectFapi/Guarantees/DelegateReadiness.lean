import KonnectFapi.Source.Bridge.Signing
import KonnectFapi.Source.Deployment
import KonnectFapi.Source.WorkerEffects

/-!
# One delegate readiness in two modules

Source: kong/plugins/fapi-client-auth-bridge/handler.lua:208-365,
kong/plugins/fapi-as-mtls-transport/handler.lua:579-744 and 1489-1503. Every operation
ends by deriving both flags from the other module's state, by clearing both, or by
touching neither; the one that clears a single flag runs on a failed worker only.
-/

namespace KonnectFapi.Source.Bridge
open Lib Lib.Lua Transport

/-- Bridge and transport tell the same about the delegate. -/
structure Agreement (m : Modules) : Prop where
  flags : m.bridge.delegateReady = m.transport.delegateReady
  ready : m.transport.delegateReady = true → m.transport.registryReady = true ∧
    m.transport.failed = false ∧ m.bridge.signerEpoch.isSome = true ∧
    m.bridge.signerEpoch = m.transport.registryEpoch

/-- The same, said of the fields readiness is decided by. -/
theorem Agreement.of_core {m : Modules} {c : Core} (core : m.transport.core = c)
    (flags : m.bridge.delegateReady = c.delegateReady)
    (ready : c.delegateReady = true → c.registryReady = true ∧ c.failed = false ∧
      m.bridge.signerEpoch.isSome = true ∧ m.bridge.signerEpoch = c.registryEpoch) :
    Agreement m := by
  subst core
  exact ⟨flags, ready⟩

/-- Two flags that are both down agree. -/
theorem Agreement.of_down {m : Modules} (bridge : m.bridge.delegateReady = false)
    (transport : m.transport.core.delegateReady = false) : Agreement m where
  flags := bridge.trans transport.symm
  ready := fun up => absurd (up.symm.trans transport) (by decide)

theorem delegateReadiness_iff {s : Transport.State} {ready : Bool} {epoch : Option Bytes} :
    delegateReadiness s ready epoch = true ↔ ready = true ∧ s.registryReady = true ∧
      s.failed = false ∧ epoch.isSome = true ∧ epoch = s.registryEpoch := by
  unfold delegateReadiness
  simp only [Bool.and_eq_true, Bool.not_eq_true', beq_iff_eq]
  exact ⟨fun ⟨⟨⟨⟨a, b⟩, c⟩, d⟩, e⟩ => ⟨a, c, b, d, e⟩, fun ⟨a, c, b, d, e⟩ => ⟨⟨⟨⟨a, b⟩, c⟩, d⟩, e⟩⟩

/-- An epoch that is current is the registry's, of a worker that is ready. -/
theorem currentRegistryEpoch_some {s : Transport.State} {epoch : Bytes}
    (h : currentRegistryEpoch s = some epoch) :
    s.registryReady = true ∧ s.failed = false ∧ s.registryEpoch = some epoch := by
  unfold currentRegistryEpoch at h
  split at h
  · rename_i ready
    simp only [Bool.and_eq_true, Bool.not_eq_true'] at ready
    exact ⟨ready.1, ready.2, h⟩
  · cases h

theorem latchDelegateFailed_agreement (process : Process) (env : Env) (m : Modules) :
    Agreement (latchDelegateFailed process env m).modules := by
  refine Agreement.of_down rfl ?_
  unfold latchDelegateFailed
  rw [markStatus_core]
  rfl

theorem refreshTransportStatus_agreement (host : Host) (process : Process) (env : Env)
    (m : Modules) : Agreement (refreshTransportStatus host process env m).modules := by
  unfold refreshTransportStatus
  dsimp only
  split
  · rename_i eligible
    generalize loadKey host env.files routeBKey (currentRegistryEpoch m.transport) m.bridge = loaded
    obtain ⟨bridge, key⟩ := loaded
    dsimp only
    cases key with
    | none =>
      refine Agreement.of_down rfl ?_
      rw [markStatus_core]
      rfl
    | some key =>
      simp only [Bool.and_eq_true] at eligible
      obtain ⟨epoch, current⟩ := Option.isSome_iff_exists.mp eligible.1.1.2
      obtain ⟨registryReady, failed, registryEpoch⟩ := currentRegistryEpoch_some current
      have recorded : delegateReadiness m.transport true (some epoch) = true :=
        delegateReadiness_iff.mpr ⟨rfl, registryReady, failed, rfl, registryEpoch.symm⟩
      refine Agreement.of_core (markStatus_core process env _ _ _) ?_ fun _ => ?_
      · rw [current]
        exact recorded.symm
      · refine ⟨registryReady, failed, ?_⟩
        rw [current]
        exact ⟨rfl, registryEpoch.symm⟩
  · refine Agreement.of_down rfl ?_
    rw [markStatus_core]
    rfl

theorem initWorker_agreement (host : Host) (process : Process) (loadedEnv env : Env) (m : Modules) :
    Agreement (initWorker host process loadedEnv env m).modules :=
  refreshTransportStatus_agreement host process env _

theorem configure_agreement (host : Host) (process : Process) (loadedEnv env : Env)
    (configs : Value) (m : Modules) :
    Agreement (configure host process loadedEnv env configs m).modules := by
  unfold configure
  dsimp only
  split
  · -- no configuration yet: both flags are cleared
    refine Agreement.of_down rfl ?_
    rw [markStatus_core]
    rfl
  · split
    · exact latchDelegateFailed_agreement process env m
    · split
      · split
        · exact latchDelegateFailed_agreement process env m
        · split
          · exact latchDelegateFailed_agreement process env m
          · exact initWorker_agreement host process loadedEnv env _
      · exact initWorker_agreement host process loadedEnv env _
      · exact latchDelegateFailed_agreement process env m

/-- The discovery cache and the key cache are not part of the agreement. -/
theorem Agreement.of_bridge {m : Modules} (h : Agreement m) {bridge : State}
    (flag : bridge.delegateReady = m.bridge.delegateReady)
    (epoch : bridge.signerEpoch = m.bridge.signerEpoch) : Agreement { m with bridge := bridge } where
  flags := flag.trans h.flags
  ready up := by
    dsimp only
    rw [epoch]
    exact h.ready up

theorem verifyDiscoveryIssuer_agreement (host : Host) (env : AccessEnv) (conf : Value)
    (epoch : Bytes) {m : Modules} (h : Agreement m) :
    Agreement { m with bridge := (verifyDiscoveryIssuer host env conf epoch m.bridge).1 } := by
  have cache := verifyDiscoveryIssuer_cache host env conf epoch m.bridge
  refine h.of_bridge ?_ ?_
  · rw [cache]
  · rw [cache]

theorem createAssertion_agreement (host : Host) (env : AccessEnv) (conf : Value) (epoch : Bytes)
    {m : Modules} (h : Agreement m) :
    Agreement { m with bridge := (createAssertion host env conf epoch m.bridge).1 } := by
  have cache := createAssertion_cache host env conf epoch m.bridge
  refine h.of_bridge ?_ ?_
  · rw [cache]
  · rw [cache]

theorem access_agreement (host : Host) (process : Process) (env : Env) (accessEnv : AccessEnv)
    (conf : Value) (context : Option Context) {m : Modules} (h : Agreement m) :
    Agreement (access host process env accessEnv conf context m).modules := by
  unfold access
  split
  · exact h
  · split
    · unfold accessDelegateMode
      dsimp only
      split
      · exact latchDelegateFailed_agreement process env m
      · have refreshed := refreshTransportStatus_agreement host process env m
        rw [← registerDelegate_outcome host process env (m.bridge.delegateConf.getD .nil) context m]
          at refreshed
        split
        · exact refreshed
        · exact verifyDiscoveryIssuer_agreement host accessEnv _ _ refreshed
    · unfold accessHeaderMode
      dsimp only
      split
      · exact h
      · have discovered := verifyDiscoveryIssuer_agreement host accessEnv conf (ascii "header-mode") h
        split
        · exact discovered
        · have signed := createAssertion_agreement host accessEnv conf (ascii "header-mode") discovered
          split <;> exact signed

theorem signCallback_agreement (host : Host) (env : AccessEnv) (context : Context)
    (callback : Callback) {m : Modules} (h : Agreement m) :
    Agreement { m with bridge := (signCallback host env context callback m).1 } := by
  unfold signCallback
  dsimp only
  split
  · exact h
  · exact createAssertion_agreement host env callback.conf callback.epoch h

end KonnectFapi.Source.Bridge

namespace KonnectFapi.Guarantees
open Lib Lib.Lua Source.Transport Source.Worker
open Source.Bridge (Agreement)

/-- A configuration that does not notify the bridge finds the worker failed. -/
theorem configure_silent {host : Host} {process : Process} {env : Env} {configs : Value} {s : State}
    (h : (configure host process env configs s).refresh = false) : s.failed = true := by
  have identity := ensureWorkerIdentity_core process false s
  unfold configure at h
  generalize ensureWorkerIdentity process false s = t at identity h
  have failedEq : t.failed = s.failed := congrArg Core.failed identity
  have accepted : ∀ loaded : Loaded, (acceptConfig host process env loaded.config loaded.routes
      loaded.identities loaded.metadata loaded.configHash loaded.signature t).refresh = true := by
    intro loaded
    unfold acceptConfig
    dsimp only
    split <;> rfl
  dsimp only at h
  split at h
  · rename_i failed
    exact failedEq ▸ failed
  · split at h
    · cases h
    · split at h
      · cases h
      · rename_i loaded _
        split at h
        · cases h
        · split at h
          · cases h
          · rw [accepted loaded] at h
            cases h

/-- A failed worker that agrees has both flags down. -/
theorem agreement_failed {m : Source.Bridge.Modules} (h : Agreement m)
    (failed : m.transport.failed = true) : m.transport.delegateReady = false := by
  cases up : m.transport.delegateReady with
  | false => rfl
  | true => exact absurd ((h.ready up).2.1.symm.trans failed) (by decide)

theorem configure_agreement (host : Host) (process : Process) (env refreshEnv : Env)
    (configs : Value) {m : Source.Bridge.Modules} (h : Agreement m) :
    Agreement (refreshAfter host process refreshEnv m.bridge
      (configure host process env configs m.transport)).modules := by
  unfold refreshAfter
  split
  · exact Source.Bridge.refreshTransportStatus_agreement host process refreshEnv _
  · rename_i silent
    have failed := configure_silent (Bool.eq_false_of_not_eq_true silent)
    have bridge : m.bridge.delegateReady = false := h.flags.trans (agreement_failed h failed)
    refine Agreement.of_down bridge ?_
    dsimp only
    cases configure_effect host process env configs m.transport with
    | stillFailed _ core => rw [core]
    | absent notFailed | latched notFailed | accepted _ _ _ notFailed =>
      exact absurd (failed.symm.trans notFailed) (by decide)

/-- A report of the bridge made on its own, outside of its operations. -/
def isReport : Step → Bool
  | .markBridgeStatus .. => true
  | _ => false

theorem step_agreement (host : Host) (process : Process) (w : World) (i : Step)
    (h : Agreement w.modules) (operation : isReport i = false) :
    Agreement (step host process w i).1.modules := by
  cases i with
  | configure env refreshEnv configs =>
    exact configure_agreement host process env refreshEnv configs h
  | initWorker env refreshEnv =>
    exact Source.Bridge.refreshTransportStatus_agreement host process refreshEnv _
  | markBridgeLoaded env =>
    have core := markBridgeLoaded_core process env w.modules.transport
    exact Agreement.of_core core h.flags h.ready
  | markBridgeStatus env ready epoch => cases operation
  | bridgeConfigure loadedEnv env configs =>
    exact Source.Bridge.configure_agreement host process loadedEnv env configs w.modules
  | bridgeInitWorker loadedEnv env =>
    exact Source.Bridge.initWorker_agreement host process loadedEnv env w.modules
  | bridgeAccess r env accessEnv conf =>
    exact Source.Bridge.access_agreement host process env accessEnv conf _ h
  | refreshTransportStatus env =>
    exact Source.Bridge.refreshTransportStatus_agreement host process env w.modules
  | access r env sharedTable routeId => exact h
  | begin r env self uri options =>
    show Agreement (beginStep host w r env self uri options).1.modules
    rw [beginStep_modules]
    exact h
  | signerReturns r call now result =>
    show Agreement (signerStep host w r call now result).1.modules
    rw [signerStep_modules]
    exact h
  | networkReturns r call result =>
    show Agreement (networkStep w r call result).1.modules
    rw [networkStep_modules]
    exact h
  | callback r i accessEnv =>
    show Agreement (callbackStep host w r i accessEnv).1.modules
    unfold callbackStep
    split
    · split
      · exact Source.Bridge.signCallback_agreement host accessEnv _ _ h
      · exact h
    · exact h

theorem agreement_of_run (host : Host) (process : Process) {operations : List Step}
    (topLevel : ∀ i ∈ operations, isReport i = false) :
    Agreement (run host process World.initial operations).1.modules :=
  Machine.run_invariant_of_meets (P := fun w : World => Agreement w.modules)
    (fun w i h operation => step_agreement host process w i h operation) World.initial operations
    (Machine.RunMeets.of_inputs World.initial fun i hi _ => topLevel i hi)
    (Agreement.of_down rfl rfl)

/-- After every operation the two modules agree, whatever the configurations, the files and
the answers of the libraries. -/
theorem delegate_readiness_agrees (host : Host) (process : Process) {operations : List Step}
    (topLevel : ∀ i ∈ operations, isReport i = false) :
    let m := (run host process World.initial operations).1.modules
    m.bridge.delegateReady = m.transport.delegateReady ∧
      (m.transport.delegateReady = true → m.transport.registryReady = true ∧
        m.transport.failed = false ∧ m.bridge.signerEpoch.isSome = true ∧
        m.bridge.signerEpoch = m.transport.registryEpoch) := by
  have agreement := agreement_of_run host process topLevel
  exact ⟨agreement.flags, agreement.ready⟩

open Source.Deployment in
/-- The deployed worker ends with both flags up. -/
theorem delegate_readiness_started :
    let m := (run libraries process World.initial started).1.modules
    m.bridge.delegateReady = true ∧ m.transport.delegateReady = true := by
  have up : (run libraries process World.initial started).1.modules.bridge.delegateReady = true := by
    decide +kernel
  have agreed := @delegate_readiness_agrees libraries process started (by decide)
  exact ⟨up, agreed.1.symm.trans up⟩

end KonnectFapi.Guarantees

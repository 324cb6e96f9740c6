import KonnectFapi.Source.Transport.Lifecycle

/-!
# What each operation does to the worker state

Status exports touch the worker identity and the export flag only. `Core` is the
rest of the state; every operation is described by its effect on it, and the
descriptions are read off the handler branch by branch.
-/

namespace KonnectFapi.Source.Transport
open Lib Lib.Lua

/-- The fields readiness decisions are taken from. -/
structure Core where
  wrapperReady : Bool
  registryReady : Bool
  bridgeLoaded : Bool
  delegateReady : Bool
  failed : Bool
  registry : Option Registry
  configHash : Option Bytes
  configSource : Option Bytes
  registryEpoch : Option Bytes
  workerInitialized : Bool
  httpWrapped : Bool

def State.core (s : State) : Core where
  wrapperReady := s.wrapperReady
  registryReady := s.registryReady
  bridgeLoaded := s.bridgeLoaded
  delegateReady := s.delegateReady
  failed := s.failed
  registry := s.registry
  configHash := s.configHash
  configSource := s.configSource
  registryEpoch := s.registryEpoch
  workerInitialized := s.workerInitialized
  httpWrapped := s.httpWrapped

/-- The state every refusing exit of `configure` leaves. -/
def Core.latched (c : Core) : Core :=
  { c with failed := true, registryReady := false, delegateReady := false, registry := none }

/-! ## Identity and status exports -/

@[simp] theorem ensureWorkerIdentity_core (process : Process) (force : Bool) (s : State) :
    (ensureWorkerIdentity process force s).core = s.core := by
  unfold ensureWorkerIdentity
  split
  · rfl
  · cases process.statusDir with
    | none => rfl
    | some dir =>
      dsimp only
      split
      · rfl
      · split <;> rfl

/-- Once a worker has an identity, only a forced refresh changes it. -/
theorem ensureWorkerIdentity_of_set (process : Process) {s : State} (h : s.workerId.isSome = true) :
    ensureWorkerIdentity process false s = s := by
  simp [ensureWorkerIdentity, h]

theorem ensureWorkerIdentity_isSome (process : Process) (force : Bool) (s : State) :
    (ensureWorkerIdentity process force s).workerId.isSome = true := by
  unfold ensureWorkerIdentity
  split
  · rename_i h
    simp only [Bool.and_eq_true] at h
    exact h.1
  · cases process.statusDir with
    | none => rfl
    | some dir =>
      dsimp only
      split
      · rfl
      · split <;> rfl

@[simp] theorem writeStatus_core (process : Process) (env : Env) (s : State) :
    (writeStatus process env s).1.core = s.core := by
  have identity := ensureWorkerIdentity_core process false s
  unfold writeStatus
  generalize ensureWorkerIdentity process false s = t at identity ⊢
  dsimp only
  split
  · exact identity
  · split
    · exact identity
    · split <;> exact identity

@[simp] theorem statusSnapshot_core (process : Process) (s : State) :
    (statusSnapshot process s).1.core = s.core := ensureWorkerIdentity_core process false s

@[simp] theorem markBridgeLoaded_core (process : Process) (env : Env) (s : State) :
    (markBridgeLoaded process env s).1.core = { s.core with bridgeLoaded := true } := by
  unfold markBridgeLoaded
  dsimp only
  split
  · rw [writeStatus_core]
    rfl
  · rfl

/-- What `mark_bridge_status` records as delegate readiness. -/
def delegateReadiness (s : State) (ready : Bool) (epoch : Option Bytes) : Bool :=
  ready && !s.failed && s.registryReady && epoch.isSome && epoch == s.registryEpoch

@[simp] theorem markBridgeStatus_core (process : Process) (env : Env) (ready : Bool)
    (epoch : Option Bytes) (s : State) :
    (markBridgeStatus process env ready epoch s).1.core =
      { s.core with bridgeLoaded := true, delegateReady := delegateReadiness s ready epoch } := by
  unfold markBridgeStatus
  dsimp only
  split
  · rw [writeStatus_core]
    rfl
  · rfl

/-! ## configure and init_worker -/

@[simp] theorem latchFailed_core (process : Process) (env : Env) (s : State) :
    (latchFailed process env s).state.core = s.core.latched := by
  unfold latchFailed
  dsimp only
  rw [writeStatus_core]
  rfl

@[simp] theorem refreshRegistryEpoch_core (host : Host) (s : State) :
    (refreshRegistryEpoch host s).core =
      { s.core with registryEpoch := (refreshRegistryEpoch host s).registryEpoch } := by
  unfold refreshRegistryEpoch
  split <;> rfl

/-- The registry an accepted configuration installs. -/
def Loaded.registry (loaded : Loaded) : Registry where
  evidenceCorrelationEnabled := (loaded.config.field "evidence_correlation_enabled").isTrue
  metadataIdentity := loaded.metadata
  routes := mergeIdentities loaded.routes loaded.identities

/-- The core after a configuration has passed every check: with an epoch the
registry is installed, without one the worker latches. -/
def Core.accepted (c : Core) (loaded : Loaded) (ready : Bool) : Option Bytes → Core
  | some epoch =>
    { c with
      configHash := some loaded.configHash
      configSource := some loaded.signature
      registryEpoch := some epoch
      registry := some loaded.registry
      registryReady := ready
      delegateReady := false }
  | none =>
    { c with
      configHash := some loaded.configHash
      configSource := some loaded.signature
      registryEpoch := none }.latched

theorem acceptConfig_core (host : Host) (process : Process) (env : Env) (loaded : Loaded)
    (s : State) :
    ∃ ready epoch,
      (acceptConfig host process env loaded.config loaded.routes loaded.identities loaded.metadata
        loaded.configHash loaded.signature s).state.core = s.core.accepted loaded ready epoch := by
  unfold acceptConfig refreshRegistryEpoch
  dsimp only
  split
  · rename_i hepoch
    refine ⟨false, none, ?_⟩
    rw [latchFailed_core]
    simp only [Core.accepted, Core.latched, State.core]
    rw [hepoch]
  · rename_i epoch hepoch
    refine ⟨s.statusConfigValid != some false, some epoch, ?_⟩
    simp only [writeStatus_core]
    simp only [Core.accepted, State.core, hepoch, Loaded.registry]

/-- The four ways through `configure`. -/
inductive ConfigureEffect (host : Host) (process : Process) (env : Env) (configs : Value)
    (before : State) (after : Core) : Prop where
  | stillFailed (failed : before.failed = true)
      (core : after = { before.core with registryReady := false, delegateReady := false })
  | absent (failed : before.failed = false) (hash : before.configHash = none)
      (core : after =
        { before.core with registry := none, registryReady := false, delegateReady := false })
  | latched (failed : before.failed = false) (core : after = before.core.latched)
  | accepted (loaded : Loaded) (ready : Bool) (epoch : Option Bytes)
      (failed : before.failed = false) (load : loadConfig host process env configs = some loaded)
      (hash : before.configHash = none ∨ before.configHash = some loaded.configHash)
      (core : after = before.core.accepted loaded ready epoch)

theorem configure_effect (host : Host) (process : Process) (env : Env) (configs : Value)
    (s : State) :
    ConfigureEffect host process env configs s
      (configure host process env configs s).state.core := by
  have identity := ensureWorkerIdentity_core process false s
  unfold configure
  generalize ensureWorkerIdentity process false s = t at identity ⊢
  have failedEq : t.failed = s.failed := congrArg Core.failed identity
  have hashEq : t.configHash = s.configHash := congrArg Core.configHash identity
  dsimp only
  split
  · rename_i hfailed
    refine .stillFailed (failedEq ▸ hfailed) ?_
    simp only [writeStatus_core, ← identity]
    rfl
  · rename_i hfailed
    have notFailed : s.failed = false := by
      rw [← failedEq]
      simpa using hfailed
    split
    · rename_i habsent
      simp only [Bool.and_eq_true, Option.isNone_iff_eq_none] at habsent
      refine .absent notFailed (hashEq ▸ habsent.2) ?_
      simp only [writeStatus_core, ← identity]
      rfl
    · split
      · exact .latched notFailed (by rw [latchFailed_core, identity])
      · rename_i loaded hload
        split
        · exact .latched notFailed (by rw [latchFailed_core, identity])
        · split
          · exact .latched notFailed (by rw [latchFailed_core, identity])
          · rename_i hhash
            obtain ⟨ready, epoch, core⟩ := acceptConfig_core host process env loaded t
            refine .accepted loaded ready epoch notFailed hload ?_ (by rw [core, identity])
            rw [← hashEq]
            cases hc : t.configHash with
            | none => exact Or.inl rfl
            | some hash =>
              simp only [hc, Option.isSome_some, Bool.true_and, bne_iff_ne, ne_eq,
                Decidable.not_not] at hhash
              exact Or.inr hhash

/-- The wrapper is installed the first time; any later attempt latches. -/
theorem installOrFail_core (env : Env) (s : State) :
    (installOrFail env s).core =
      if env.httpUsable = true ∧ s.httpWrapped = false then
        { s.core with wrapperReady := true, httpWrapped := true }
      else { s.core with failed := true, registryReady := false } := by
  unfold installOrFail installWrapper
  cases husable : env.httpUsable <;> cases hwrapped : s.httpWrapped <;> simp [State.core, hwrapped]

/-- What `init_worker` does: the readiness it restores is that of a configured
worker that has not failed. -/
theorem initWorker_core (host : Host) (process : Process) (env : Env) (s : State) :
    ∃ epoch ready,
      (ready = true → (s.registry.isSome = true ∧ s.failed = false) ∨
        (s.registry = none ∧ s.registryReady = true)) ∧
      (initWorker host process env s).state.core =
        if env.httpUsable = true ∧ s.httpWrapped = false then
          { s.core with
            workerInitialized := true
            registryEpoch := epoch
            registryReady := ready
            wrapperReady := true
            httpWrapped := true }
        else
          { s.core with
            workerInitialized := true
            registryEpoch := epoch
            registryReady := false
            failed := true } := by
  have identity := ensureWorkerIdentity_core process true s
  unfold initWorker
  generalize ensureWorkerIdentity process true s = t at identity ⊢
  dsimp only
  have refreshed := refreshRegistryEpoch_core host { t with workerInitialized := true }
  generalize refreshRegistryEpoch host { t with workerInitialized := true } = u at refreshed ⊢
  have core : u.core = { s.core with workerInitialized := true, registryEpoch := u.registryEpoch } := by
    rw [refreshed, ← identity]
    rfl
  have registryEq : u.registry = s.registry := congrArg Core.registry core
  have failedEq : u.failed = s.failed := congrArg Core.failed core
  have wrappedEq : u.httpWrapped = s.httpWrapped := congrArg Core.httpWrapped core
  have readyEq : u.registryReady = s.registryReady := congrArg Core.registryReady core
  refine ⟨u.registryEpoch, (restoreReady u).registryReady, ?_, ?_⟩
  · intro h
    unfold restoreReady at h
    dsimp only at h
    split at h
    · rename_i hregistry
      simp only [Bool.and_eq_true, Bool.not_eq_true'] at h
      exact Or.inl ⟨registryEq ▸ hregistry, failedEq ▸ h.2⟩
    · rename_i hregistry
      refine Or.inr ⟨?_, readyEq ▸ h⟩
      rw [← registryEq]
      simpa using hregistry
  · have restored : (restoreReady u).core =
        { u.core with registryReady := (restoreReady u).registryReady } := rfl
    rw [writeStatus_core, installOrFail_core, restored, core]
    have wrapped : (restoreReady u).httpWrapped = s.httpWrapped := wrappedEq
    rw [wrapped]

end KonnectFapi.Source.Transport

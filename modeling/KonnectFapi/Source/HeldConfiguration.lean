import KonnectFapi.Source.Transport.Denotation
import KonnectFapi.Source.Transport.Identified
import KonnectFapi.Source.WorkerEffects

/-!
# The configuration a worker holds

Source: kong/plugins/fapi-as-mtls-transport/handler.lua:609-744 and 1489-1503. A live
worker with a registry holds what its last `configure` loaded, under the epoch of its
own process; until the next `configure` nothing changes that but a failure.
-/

namespace KonnectFapi.Source.Transport
open Lib Lib.Lua

/-- The epoch a process has under a configuration. -/
def epochOf (host : Host) (process : Process) (configHash : Bytes) : Option Bytes :=
  sha256 host (join [0] [decimal (process.workerId.getD 0), decimal (process.workerPid.getD 0),
    ownGeneration process, configHash])

theorem Identified.epoch {process : Process} {s : State} (h : Identified process s) (host : Host)
    {configHash : Bytes} (hash : s.configHash = some configHash) :
    refreshRegistryEpoch host s = { s with registryEpoch := epochOf host process configHash } := by
  unfold refreshRegistryEpoch epochOf numberOr
  rw [hash, h.workerId, h.pid, h.generation]
  rfl

/-- The bridge is loaded, and what is known of the process is true. -/
structure Known (process : Process) (s : State) : Prop where
  who : Anonymous s ∨ Identified process s
  bridgeLoaded : s.bridgeLoaded = true

/-- A live worker under a loaded configuration. -/
structure Holding (host : Host) (process : Process) (loaded : Loaded) (s : State) : Prop where
  identified : Identified process s
  bridgeLoaded : s.bridgeLoaded = true
  live : s.failed = false
  registry : s.registry = some loaded.registry
  hash : s.configHash = some loaded.configHash
  source : s.configSource = some loaded.signature
  ready : s.registryReady = ownConfigValid process
  epoch : s.registryEpoch = epochOf host process loaded.configHash
  dated : s.registryEpoch.isSome = true

theorem Identified.of_writeStatus {process : Process} {s : State} (h : Identified process s)
    (env : Env) : Identified process (Transport.writeStatus process env s).1 := by
  obtain ⟨failed, same⟩ := h.writeStatus env
  rw [same]
  exact h.congr rfl

theorem Known.of_writeStatus {process : Process} {s : State} (h : Known process s) (env : Env) :
    Known process (Transport.writeStatus process env s).1 := by
  have core := writeStatus_core process env s
  refine ⟨?_, (congrArg Core.bridgeLoaded core).trans h.bridgeLoaded⟩
  rcases h.who with anonymous | identified
  · have looked : Transport.writeStatus process env s =
        Transport.writeStatus process env (ensureWorkerIdentity process false s) := by
      unfold Transport.writeStatus
      rw [ensureWorkerIdentity_of_set process (ensureWorkerIdentity_isSome process false s)]
    rw [looked]
    exact Or.inr ((identified_of_ensure (Or.inl anonymous)).of_writeStatus env)
  · exact Or.inr (identified.of_writeStatus env)

theorem Holding.of_writeStatus {host : Host} {process : Process} {loaded : Loaded} {s : State}
    (h : Holding host process loaded s) (env : Env) :
    Holding host process loaded (Transport.writeStatus process env s).1 := by
  have identified := h.identified.of_writeStatus env
  obtain ⟨failed, same⟩ := h.identified.writeStatus env
  rw [same] at identified ⊢
  exact ⟨identified, h.bridgeLoaded, h.live, h.registry, h.hash, h.source, h.ready, h.epoch, h.dated⟩

/-! ## Reports of the bridge -/

theorem Known.of_ready {process : Process} {s : State} (h : Known process s) (ready : Bool) :
    Known process { s with bridgeLoaded := true, delegateReady := ready } where
  who := h.who.imp (fun a => ⟨a.workerId, a.dir⟩) fun i => i.congr rfl
  bridgeLoaded := rfl

theorem Holding.of_ready {host : Host} {process : Process} {loaded : Loaded} {s : State}
    (h : Holding host process loaded s) (ready : Bool) :
    Holding host process loaded { s with bridgeLoaded := true, delegateReady := ready } :=
  ⟨h.identified.congr rfl, rfl, h.live, h.registry, h.hash, h.source, h.ready, h.epoch, h.dated⟩

/-- A report writes the two flags, and then perhaps a status. -/
theorem kept_of_flags {process : Process} {P : State → Prop}
    (flags : ∀ s ready, P s → P { s with bridgeLoaded := true, delegateReady := ready })
    (status : ∀ env s, P s → P (writeStatus process env s).1) :
    Bridge.KeptByReports process P where
  loaded env s h := by
    unfold markBridgeLoaded
    dsimp only
    split
    · exact status env _ (flags s s.delegateReady h)
    · exact flags s s.delegateReady h
  status env ready epoch s h := by
    unfold markBridgeStatus
    dsimp only
    split
    · exact status env _ (flags s _ h)
    · exact flags s _ h

theorem known_kept (process : Process) : Bridge.KeptByReports process (Known process) :=
  kept_of_flags (fun _ ready h => h.of_ready ready) fun env _ h => h.of_writeStatus env

theorem holding_kept (host : Host) (process : Process) (loaded : Loaded) :
    Bridge.KeptByReports process (Holding host process loaded) :=
  kept_of_flags (fun _ ready h => h.of_ready ready) fun env _ h => h.of_writeStatus env

/-! ## configure and init_worker -/

theorem latchFailed_known {process : Process} {s : State} (h : Known process s) (env : Env) :
    Known process (latchFailed process env s).state := by
  unfold latchFailed
  refine Known.of_writeStatus ?_ env
  exact ⟨h.who.imp (fun a => ⟨a.workerId, a.dir⟩) fun i => i.congr rfl, h.bridgeLoaded⟩

theorem Known.ensure {process : Process} {s : State} (h : Known process s) (force : Bool) :
    Identified process (ensureWorkerIdentity process force s) ∧
      (ensureWorkerIdentity process force s).bridgeLoaded = true :=
  ⟨identified_of_ensure h.who,
    (congrArg Core.bridgeLoaded (ensureWorkerIdentity_core process force s)).trans h.bridgeLoaded⟩

/-- An identified worker that accepts a configuration holds it, or has no epoch and latches. -/
theorem acceptConfig_holding (host : Host) {process : Process} (env : Env) (loaded : Loaded)
    {s : State} (identified : Identified process s) (bridgeLoaded : s.bridgeLoaded = true)
    (live : s.failed = false) :
    let after := (acceptConfig host process env loaded.config loaded.routes loaded.identities
      loaded.metadata loaded.configHash loaded.signature s).state
    Known process after ∧ (after.failed = true ∨ Holding host process loaded after) := by
  have named : Identified process { s with
      configHash := some loaded.configHash
      configSource := some loaded.signature
      startupGeneration := some (s.startupGeneration.getD (ascii "offline-test")) } :=
    identified.congr (by simp [State.who, identified.generation])
  have dated := named.epoch host rfl
  unfold acceptConfig
  dsimp only
  rw [dated]
  dsimp only
  cases fresh : epochOf host process loaded.configHash with
  | none =>
    have known : Known process { s with
        configHash := some loaded.configHash
        configSource := some loaded.signature
        registryEpoch := none
        startupGeneration := some (s.startupGeneration.getD (ascii "offline-test")) } :=
      ⟨Or.inr (named.congr rfl), bridgeLoaded⟩
    refine ⟨latchFailed_known known env, Or.inl ?_⟩
    exact congrArg Core.failed (latchFailed_core process env _)
  | some epoch =>
    have holding : Holding host process loaded { s with
        configHash := some loaded.configHash
        configSource := some loaded.signature
        registryEpoch := some epoch
        startupGeneration := some (s.startupGeneration.getD (ascii "offline-test"))
        registry := some loaded.registry
        registryReady := s.statusConfigValid != some false
        delegateReady := false } := by
      refine ⟨named.congr rfl, bridgeLoaded, live, rfl, rfl, rfl, ?_, fresh.symm, rfl⟩
      dsimp only
      rw [identified.valid]
      cases ownConfigValid process <;> rfl
    have exported := holding.of_writeStatus env
    exact ⟨⟨Or.inr exported.identified, exported.bridgeLoaded⟩, Or.inr exported⟩

theorem configure_known (host : Host) {process : Process} (env : Env) (configs : Value) {s : State}
    (h : Known process s) : Known process (configure host process env configs s).state := by
  obtain ⟨identified, bridgeLoaded⟩ := h.ensure false
  unfold configure
  generalize ensureWorkerIdentity process false s = t at identified bridgeLoaded ⊢
  have known : ∀ {u : State}, u.who = t.who → u.bridgeLoaded = t.bridgeLoaded → Known process u :=
    fun same loaded => ⟨Or.inr (identified.congr same), loaded.trans bridgeLoaded⟩
  dsimp only
  split
  · refine Known.of_writeStatus ?_ env
    exact known rfl rfl
  · rename_i live
    split
    · refine Known.of_writeStatus ?_ env
      exact known rfl rfl
    · split
      · exact latchFailed_known (known rfl rfl) env
      · split
        · exact latchFailed_known (known rfl rfl) env
        · split
          · exact latchFailed_known (known rfl rfl) env
          · exact (acceptConfig_holding host env _ identified bridgeLoaded
              (Bool.eq_false_of_not_eq_true live)).1

/-- Without a failure, `init_worker` leaves what the worker holds. -/
theorem initWorker_holding (host : Host) {process : Process} (env : Env) {loaded : Loaded}
    {s : State} (h : Holding host process loaded s) :
    (initWorker host process env s).state.failed = true ∨
      Holding host process loaded (initWorker host process env s).state := by
  have named : Identified process { s with workerInitialized := true } := h.identified.congr rfl
  have same : restoreReady (refreshRegistryEpoch host { s with workerInitialized := true }) =
      { s with workerInitialized := true } := by
    rw [named.epoch host h.hash, ← h.epoch]
    unfold restoreReady
    have ready : (s.statusConfigValid != some false && !s.failed) = s.registryReady := by
      rw [h.identified.valid, h.live, h.ready]
      cases ownConfigValid process <;> rfl
    simp [h.registry, ready]
  have holding : Holding host process loaded { s with workerInitialized := true } :=
    ⟨named, h.bridgeLoaded, h.live, h.registry, h.hash, h.source, h.ready, h.epoch, h.dated⟩
  unfold initWorker
  rw [h.identified.ensure]
  dsimp only
  rw [same]
  unfold installOrFail installWrapper
  dsimp only
  cases env.httpUsable with
  | false => exact Or.inl (congrArg Core.failed (writeStatus_core process env _))
  | true =>
    cases s.httpWrapped with
    | true => exact Or.inl (congrArg Core.failed (writeStatus_core process env _))
    | false =>
      refine Or.inr (Holding.of_writeStatus ?_ env)
      exact ⟨named.congr rfl, h.bridgeLoaded, h.live, h.registry, h.hash, h.source, h.ready, h.epoch,
        h.dated⟩

theorem installOrFail_who (env : Env) (s : State) : (installOrFail env s).who = s.who := by
  unfold installOrFail installWrapper
  cases env.httpUsable with
  | false => rfl
  | true => cases s.httpWrapped <;> rfl

theorem initWorker_known (host : Host) {process : Process} (env : Env) {s : State}
    (h : Known process s) : Known process (initWorker host process env s).state := by
  obtain ⟨identified, bridgeLoaded⟩ := h.ensure true
  obtain ⟨epoch, ready, -, core⟩ := initWorker_core host process env s
  have refreshed : ∀ t : State, (refreshRegistryEpoch host t).who = t.who := by
    intro t
    unfold refreshRegistryEpoch
    split <;> rfl
  refine ⟨Or.inr ?_, ?_⟩
  · unfold initWorker
    dsimp only
    refine Identified.of_writeStatus (identified.congr ?_) env
    rw [installOrFail_who]
    exact refreshed _
  · refine (congrArg Core.bridgeLoaded core).trans ?_
    split <;> exact h.bridgeLoaded

/-- Failed, without a registry, or under the configuration loaded from these files. -/
def Settled (host : Host) (process : Process) (env : Env) (configs : Value) (s : State) : Prop :=
  s.failed = true ∨ (s.registry = none ∧ s.registryReady = false) ∨
    ∃ loaded, loadConfig host process env configs = some loaded ∧ Holding host process loaded s

theorem configure_settled (host : Host) {process : Process} (env : Env) (configs : Value) {s : State}
    (h : Known process s) :
    Settled host process env configs (configure host process env configs s).state := by
  obtain ⟨identified, bridgeLoaded⟩ := h.ensure false
  unfold configure
  generalize ensureWorkerIdentity process false s = t at identified bridgeLoaded ⊢
  have latched : ∀ u : State, (latchFailed process env u).state.failed = true := fun u =>
    congrArg Core.failed (latchFailed_core process env u)
  dsimp only
  split
  · rename_i failed
    refine Or.inl ((congrArg Core.failed (writeStatus_core process env _)).trans ?_)
    exact failed
  · rename_i live
    split
    · have core := writeStatus_core process env
        { t with registry := none, registryReady := false, delegateReady := false }
      exact Or.inr (Or.inl ⟨congrArg Core.registry core, congrArg Core.registryReady core⟩)
    · split
      · exact Or.inl (latched t)
      · rename_i loaded load
        split
        · exact Or.inl (latched t)
        · split
          · exact Or.inl (latched t)
          · have accepted := (acceptConfig_holding host env loaded identified bridgeLoaded
              (Bool.eq_false_of_not_eq_true live)).2
            exact accepted.imp id fun holding => Or.inr ⟨loaded, load, holding⟩

/-- The bridge's reports change neither failure nor registry. -/
theorem settled_kept (host : Host) (process : Process) (env : Env) (configs : Value) :
    Bridge.KeptByReports process (Settled host process env configs) := by
  refine kept_of_flags (fun s ready h => ?_) fun env' s h => ?_
  · exact h.imp id (Or.imp id fun ⟨loaded, load, holding⟩ => ⟨loaded, load, holding.of_ready ready⟩)
  · have core := writeStatus_core process env' s
    exact h.imp (congrArg Core.failed core).trans
      (Or.imp (fun ⟨bare, unready⟩ => ⟨(congrArg Core.registry core).trans bare,
          (congrArg Core.registryReady core).trans unready⟩)
        fun ⟨loaded, load, holding⟩ => ⟨loaded, load, holding.of_writeStatus env'⟩)

theorem initWorker_settled (host : Host) {process : Process} {env : Env} {configs : Value}
    (initEnv : Env) {s : State} (h : Settled host process env configs s) :
    Settled host process env configs (initWorker host process initEnv s).state := by
  obtain ⟨epoch, ready, restored, core⟩ := initWorker_core host process initEnv s
  rcases h with failed | ⟨bare, unready⟩ | ⟨loaded, load, holding⟩
  · refine Or.inl ((congrArg Core.failed core).trans ?_)
    split
    · exact failed
    · rfl
  · have notReady : ready = false := by
      refine Bool.eq_false_of_not_eq_true fun up => ?_
      rcases restored up with ⟨held, -⟩ | ⟨-, was⟩
      · rw [bare] at held
        cases held
      · exact absurd (was.symm.trans unready) (by decide)
    refine Or.inr (Or.inl ⟨(congrArg Core.registry core).trans ?_,
      (congrArg Core.registryReady core).trans ?_⟩)
    · split <;> exact bare
    · split
      · exact notReady
      · rfl
  · exact (initWorker_holding host initEnv holding).imp id fun held => Or.inr ⟨loaded, load, held⟩

/-! ## The same configuration again -/

/-- Loading what is already held replaces the registry by one read the same, takes the
delegate flag down until the bridge answers, and leaves everything else. -/
theorem configure_again (host : Host) {process : Process} {env : Env} {configs : Value}
    {loaded again : Loaded} {s : State} (h : Holding host process loaded s)
    (load : loadConfig host process env configs = some again)
    (hash : again.configHash = loaded.configHash) (signature : again.signature = loaded.signature)
    (exports : env.firstExport = true) (clear : s.statusExportFailed = false) :
    let outcome := configure host process env configs s
    outcome.state = { s with registry := some again.registry, delegateReady := false } ∧
      outcome.refresh = true ∧
      (s.registryReady = true → .removeMarker ∉ outcome.effects) := by
  have accepted : acceptConfig host process env again.config again.routes again.identities
      again.metadata again.configHash again.signature s =
      ⟨(writeStatus process env { s with registry := some again.registry, delegateReady := false }).1,
        (writeStatus process env { s with registry := some again.registry, delegateReady := false }).2,
        true⟩ := by
    have generation : some (s.startupGeneration.getD (ascii "offline-test")) = s.startupGeneration := by
      rw [h.identified.generation]
      rfl
    have ready : (s.statusConfigValid != some false) = s.registryReady := by
      rw [h.identified.valid, h.ready]
      cases ownConfigValid process <;> rfl
    obtain ⟨epoch, dated⟩ := Option.isSome_iff_exists.mp h.dated
    have fresh : refreshRegistryEpoch host { s with
        configHash := some again.configHash
        configSource := some again.signature
        startupGeneration := some (s.startupGeneration.getD (ascii "offline-test")) } = s := by
      rw [generation, hash, signature, ← h.hash, ← h.source, h.identified.epoch host h.hash, ← h.epoch]
    unfold acceptConfig
    dsimp only
    rw [fresh, dated]
    dsimp only
    rw [ready]
    rfl
  have named : Identified process { s with registry := some again.registry, delegateReady := false } :=
    h.identified.congr rfl
  have outcome : configure host process env configs s =
      acceptConfig host process env again.config again.routes again.identities again.metadata
        again.configHash again.signature s := by
    unfold configure
    rw [h.identified.ensure, load]
    dsimp only
    rw [h.live, h.source, h.hash, signature, hash]
    simp
  dsimp only
  rw [outcome, accepted]
  exact ⟨named.writeStatus_exported exports clear, rfl,
    fun ready => named.writeStatus_keeps exports ready h.live⟩

/-- A report of an identified worker whose export succeeds changes the two flags only. -/
theorem markBridgeStatus_exported {process : Process} {s : State} (identified : Identified process s)
    {env : Env} (exports : env.firstExport = true) (clear : s.statusExportFailed = false)
    (ready : Bool) (epoch : Option Bytes) :
    (markBridgeStatus process env ready epoch s).1 =
      { s with bridgeLoaded := true, delegateReady := delegateReadiness s ready epoch } := by
  have named : Identified process
      { s with bridgeLoaded := true, delegateReady := delegateReadiness s ready epoch } :=
    identified.congr rfl
  unfold markBridgeStatus
  dsimp only
  split
  · exact named.writeStatus_exported exports clear
  · rfl

/-- A report of a ready delegate keeps the marker. -/
theorem markBridgeStatus_keeps {process : Process} {s : State} (identified : Identified process s)
    {env : Env} (exports : env.firstExport = true) {ready : Bool} {epoch : Option Bytes}
    (up : delegateReadiness s ready epoch = true) :
    .removeMarker ∉ (markBridgeStatus process env ready epoch s).2 := by
  have named : Identified process
      { s with bridgeLoaded := true, delegateReady := delegateReadiness s ready epoch } :=
    identified.congr rfl
  have facts := up
  unfold delegateReadiness at facts
  simp only [Bool.and_eq_true, Bool.not_eq_true'] at facts
  have written := named.writeStatus_keeps exports facts.1.1.2 facts.1.1.1.2
  unfold markBridgeStatus
  rw [show (ready && !s.failed && s.registryReady && epoch.isSome && epoch == s.registryEpoch) = true
    from up]
  rw [up] at written
  dsimp only
  split
  · simpa using written
  · exact List.not_mem_nil

end KonnectFapi.Source.Transport

namespace KonnectFapi.Source.Worker
open Lib Lib.Lua Transport

/-- Every reachable worker knows its process. -/
theorem step_known (host : Host) (process : Process) (w : World) (i : Step)
    (h : Known process w.modules.transport) :
    Known process (step host process w i).1.modules.transport := by
  have reported : ∀ env outcome, Known process outcome.state →
      Known process (refreshAfter host process env w.modules.bridge outcome).modules.transport := by
    intro env outcome known
    unfold refreshAfter
    split
    · exact (known_kept process).refreshTransportStatus host env known
    · exact known
  cases i with
  | configure env refreshEnv configs => exact reported refreshEnv _ (configure_known host env configs h)
  | initWorker env refreshEnv => exact reported refreshEnv _ (initWorker_known host env h)
  | markBridgeLoaded | markBridgeStatus | bridgeConfigure | bridgeInitWorker | bridgeAccess |
    refreshTransportStatus | access | begin | signerReturns | networkReturns | callback =>
    exact step_kept host process (known_kept process) w rfl h

/-- A `configure` step. -/
def Step.configures : Step → Bool
  | .configure .. => true
  | _ => false

theorem step_settled (host : Host) (process : Process) (env : Env) (configs : Value) (w : World)
    {i : Step} (other : i.configures = false)
    (h : Settled host process env configs w.modules.transport) :
    Settled host process env configs (step host process w i).1.modules.transport := by
  cases i with
  | configure => cases other
  | initWorker initEnv refreshEnv =>
    exact (settled_kept host process env configs).refreshTransportStatus host refreshEnv
      (initWorker_settled host initEnv h)
  | markBridgeLoaded | markBridgeStatus | bridgeConfigure | bridgeInitWorker | bridgeAccess |
    refreshTransportStatus | access | begin | signerReturns | networkReturns | callback =>
    exact step_kept host process (settled_kept host process env configs) w rfl h

theorem known_of_run (host : Host) (process : Process) (inputs : List Step) :
    Known process (run host process World.initial inputs).1.modules.transport :=
  Machine.run_invariant (P := fun v : World => Known process v.modules.transport)
    (fun v i h => step_known host process v i h) World.initial inputs ⟨Or.inl ⟨rfl, rfl⟩, rfl⟩

theorem step_configure_settled (host : Host) {process : Process} (env refreshEnv : Env)
    (configs : Value) {w : World} (known : Known process w.modules.transport) :
    Settled host process env configs
      (step host process w (.configure env refreshEnv configs)).1.modules.transport := by
  show Settled host process env configs (refreshAfter host process refreshEnv _ _).modules.transport
  have settled := configure_settled host env configs known
  unfold refreshAfter
  split
  · exact (settled_kept host process env configs).refreshTransportStatus host refreshEnv settled
  · exact settled

/-- A worker that is live and has a registry holds what its last `configure` loaded. -/
theorem holding_of_run (host : Host) (process : Process) {first later : List Step}
    {env refreshEnv : Env} {configs : Value} (last : ∀ i ∈ later, i.configures = false)
    {w : World}
    (reached : (run host process World.initial
      (first ++ .configure env refreshEnv configs :: later)).1 = w)
    (live : w.modules.transport.failed = false) (held : w.modules.transport.registry.isSome = true) :
    ∃ loaded, loadConfig host process env configs = some loaded ∧
      Holding host process loaded w.modules.transport := by
  have split := congrArg Prod.fst (Machine.run_append (step host process) World.initial first
    (.configure env refreshEnv configs :: later))
  rw [Machine.run_cons] at split
  have settled := Machine.run_invariant_of_meets
    (P := fun v : World => Settled host process env configs v.modules.transport)
    (fun v i h other => step_settled host process env configs v other h) _ later
    (Machine.RunMeets.of_inputs _ fun i hi _ => last i hi)
    (step_configure_settled host env refreshEnv configs (known_of_run host process first))
  rw [show _ = w from split.symm.trans reached] at settled
  rcases settled with failed | ⟨bare, -⟩ | loaded
  · exact absurd (failed.symm.trans live) (by decide)
  · rw [bare] at held
    cases held
  · exact loaded

end KonnectFapi.Source.Worker

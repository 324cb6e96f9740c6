import KonnectFapi.Guarantees.DelegateReadiness
import KonnectFapi.Source.Bridge.Derived
import KonnectFapi.Source.HeldConfiguration

/-!
# Configuring again

Source: kong/plugins/fapi-as-mtls-transport/handler.lua:320-402, 609-806,
kong/plugins/fapi-client-auth-bridge/handler.lua:208-230. `configure` clears the delegate
flag and replaces the registry; with the configuration a worker already holds and with
unchanged files, the two calls back and forth restore what was cleared.
-/

namespace KonnectFapi.Guarantees
open Lib Lib.Lua Source.Transport Source.Worker
open Source.Bridge (Agreement Derived SameBasis SameDelegateFiles)

/-- The files a step looks at. -/
def fileViews : Step → List (Bytes → Option Bytes)
  | .configure env refreshEnv _ => [env.files, refreshEnv.files]
  | .initWorker env refreshEnv => [env.files, refreshEnv.files]
  | .markBridgeLoaded env => [env.files]
  | .markBridgeStatus env _ _ => [env.files]
  | .bridgeConfigure loadedEnv env _ => [loadedEnv.files, env.files]
  | .bridgeInitWorker loadedEnv env => [loadedEnv.files, env.files]
  | .bridgeAccess _ env accessEnv _ => [env.files, accessEnv.files]
  | .refreshTransportStatus env => [env.files]
  | .access _ env _ _ => [env.files]
  | .callback _ _ accessEnv => [accessEnv.files]
  | _ => []

/-- The step sees the certificate and key files as they are in `files`. -/
def SeesUnchanged (files : Bytes → Option Bytes) (i : Step) : Prop :=
  ∀ view ∈ fileViews i, ∀ path ∈ Source.Bridge.routeBKey :: materialFiles, view path = files path

theorem SeesUnchanged.delegate {files : Bytes → Option Bytes} {i : Step} (h : SeesUnchanged files i)
    {view : Bytes → Option Bytes} (seen : view ∈ fileViews i) : SameDelegateFiles files view where
  certificate := h view seen _ (by simp [materialFiles, Source.Bridge.routeBCert])
  key := h view seen _ (by simp)

/-! ## The flag is settled -/

/-- A current epoch of a settled worker is a digest. -/
theorem settled_digest {host : Host} {process : Process} {env : Env} {configs : Value} {s : State}
    (h : Settled host process env configs s) {epoch : Bytes}
    (current : currentRegistryEpoch s = some epoch) : ∃ value, sha256 host value = some epoch := by
  obtain ⟨ready, live, dated⟩ := Source.Bridge.currentRegistryEpoch_some current
  rcases h with failed | ⟨-, unready⟩ | ⟨loaded, -, holding⟩
  · exact absurd (failed.symm.trans live) (by decide)
  · exact absurd (ready.symm.trans unready) (by decide)
  · exact ⟨_, holding.epoch.symm.trans dated⟩

theorem step_derived (host : Host) (process : Process) {loadEnv env : Env} {configs : Value}
    {w : World} {i : Step} (settled : Settled host process loadEnv configs w.modules.transport)
    (other : i.configures = false) (operation : isReport i = false)
    (unchanged : SeesUnchanged env.files i) (h : Derived host env w.modules) :
    Derived host env (step host process w i).1.modules := by
  cases i with
  | configure => cases other
  | markBridgeStatus => cases operation
  | initWorker initEnv refreshEnv =>
    exact Source.Bridge.refreshTransportStatus_settles host process
      (unchanged.delegate (by simp [fileViews])) _
  | markBridgeLoaded loadedEnv =>
    have core := markBridgeLoaded_core process loadedEnv w.modules.transport
    refine h.of_basis ⟨rfl, rfl, rfl, congrArg Core.registryReady core, congrArg Core.failed core,
      congrArg Core.registryEpoch core, fun id => ?_⟩ rfl fun _ _ => rfl
    exact congrArg (fun c : Core => c.registry.bind fun registry => registry.route id) core
  | bridgeConfigure loadedEnv env' configs =>
    exact Source.Bridge.configure_derived host process loadedEnv
      (unchanged.delegate (by simp [fileViews])) configs w.modules
  | bridgeInitWorker loadedEnv env' =>
    exact Source.Bridge.refreshTransportStatus_settles host process
      (unchanged.delegate (by simp [fileViews])) _
  | bridgeAccess r env' accessEnv conf =>
    exact Source.Bridge.access_derived host process (unchanged.delegate (by simp [fileViews])) conf _ h
      fun epoch current => settled_digest settled current
  | refreshTransportStatus env' =>
    exact Source.Bridge.refreshTransportStatus_settles host process
      (unchanged.delegate (by simp [fileViews])) _
  | access r env' sharedTable routeId => exact h
  | begin r env' self uri options =>
    show Derived host env (beginStep host w r env' self uri options).1.modules
    rw [beginStep_modules]
    exact h
  | signerReturns r call now result =>
    show Derived host env (signerStep host w r call now result).1.modules
    rw [signerStep_modules]
    exact h
  | networkReturns r call result =>
    show Derived host env (networkStep w r call result).1.modules
    rw [networkStep_modules]
    exact h
  | callback r j accessEnv =>
    show Derived host env (callbackStep host w r j accessEnv).1.modules
    unfold callbackStep
    split
    · split
      · exact Source.Bridge.signCallback_derived h (unchanged.delegate (by simp [fileViews])) _ _
      · exact h
    · exact h

/-- Nothing is derived for a failed worker. -/
theorem derivedReady_of_failed (host : Host) (env : Env) {m : Source.Bridge.Modules}
    (failed : m.transport.failed = true) : Source.Bridge.derivedReady host env m = false := by
  have none : currentRegistryEpoch m.transport = none := by
    unfold currentRegistryEpoch
    rw [failed]
    simp
  unfold Source.Bridge.derivedReady Source.Bridge.keyReady
  rw [none, Bool.and_false]

theorem configure_derived (host : Host) (process : Process) {env configEnv refreshEnv : Env}
    (same : SameDelegateFiles env.files refreshEnv.files) (configs : Value)
    {m : Source.Bridge.Modules} (h : Agreement m) :
    Derived host env (refreshAfter host process refreshEnv m.bridge
      (configure host process configEnv configs m.transport)).modules := by
  have agreed := configure_agreement host process configEnv refreshEnv configs h
  unfold refreshAfter at agreed ⊢
  split
  · exact Source.Bridge.refreshTransportStatus_settles host process same _
  · rename_i silent
    rw [if_neg silent] at agreed
    have failed : (configure host process configEnv configs m.transport).state.failed = true := by
      have was := configure_silent (Bool.eq_false_of_not_eq_true silent)
      have effect := configure_effect host process configEnv configs m.transport
      cases effect with
      | stillFailed _ core => exact (congrArg Core.failed core).trans was
      | absent live | latched live | accepted _ _ _ live =>
        exact absurd (was.symm.trans live) (by decide)
    exact (agreed.flags.trans (agreement_failed agreed failed)).trans
      (derivedReady_of_failed host env failed).symm

/-- A run whose files have not changed since its last `configure` ends with the flag it
would derive. -/
theorem derived_of_run (host : Host) (process : Process) {first later : List Step}
    {env loadEnv refreshEnv : Env} {configs : Value}
    (operations : ∀ i ∈ first ++ .configure loadEnv refreshEnv configs :: later, isReport i = false)
    (last : ∀ i ∈ later, i.configures = false)
    (unchanged : ∀ i ∈ Step.configure loadEnv refreshEnv configs :: later, SeesUnchanged env.files i) :
    Derived host env (run host process World.initial
      (first ++ .configure loadEnv refreshEnv configs :: later)).1.modules := by
  have agreed := agreement_of_run host process
    fun i (hi : i ∈ first) => operations i (List.mem_append_left _ hi)
  have known : Known process (run host process World.initial first).1.modules.transport :=
    known_of_run host process first
  have split := congrArg Prod.fst (Machine.run_append (step host process) World.initial first
    (.configure loadEnv refreshEnv configs :: later))
  rw [Machine.run_cons] at split
  rw [show (run host process World.initial (first ++ .configure loadEnv refreshEnv configs :: later)).1 = _
    from split]
  have seen : SameDelegateFiles env.files refreshEnv.files :=
    (unchanged _ List.mem_cons_self).delegate (by simp [fileViews])
  have start := @configure_derived host process env loadEnv refreshEnv seen configs _ agreed
  have settled := step_configure_settled host loadEnv refreshEnv configs known
  have meets : ∀ v, Machine.RunMeets (step host process) (fun _ i => i ∈ later) v later := fun v =>
    Machine.RunMeets.of_inputs v fun i hi _ => hi
  refine (Machine.run_invariant_of_meets
    (P := fun v : World => Settled host process loadEnv configs v.modules.transport ∧
      Derived host env v.modules) (fun v i h inside => ?_) _ later (meets _) ⟨settled, start⟩).2
  have operation := operations i (List.mem_append_right _ (List.mem_cons_of_mem _ inside))
  exact ⟨step_settled host process loadEnv configs v (last i inside) h.1,
    step_derived host process h.1 (last i inside) operation
      (unchanged i (List.mem_cons_of_mem _ inside)) h.2⟩

/-! ## Nothing is seen of it -/

/-- A step nobody can tell from doing nothing. -/
structure Invisible (process : Process) (w after : World) (events : List Event) : Prop where
  hash : after.modules.transport.configHash = w.modules.transport.configHash
  epoch : after.modules.transport.registryEpoch = w.modules.transport.registryEpoch
  wrapper : after.modules.transport.wrapperReady = w.modules.transport.wrapperReady
  identities : ∀ id, (after.modules.transport.registry.bind fun registry => registry.route id) =
    w.modules.transport.registry.bind fun registry => registry.route id
  snapshot : (statusSnapshot process after.modules.transport).2 =
    (statusSnapshot process w.modules.transport).2
  marker : w.modules.transport.delegateReady = true → .file .removeMarker ∉ events
  contexts : ∀ context identity, contextIsValid w.modules.transport context = some identity →
    contextIsValid after.modules.transport context = some identity

theorem contextIsValid_congr {s t : State} (ready : t.registryReady = s.registryReady)
    (failed : t.failed = s.failed) (epoch : t.registryEpoch = s.registryEpoch)
    {registry again : Registry} (held : s.registry = some registry) (held' : t.registry = some again)
    (route : ∀ id, again.route id = registry.route id) (context : Option Context) :
    contextIsValid t context = contextIsValid s context := by
  unfold contextIsValid
  rw [held, held', ready, failed, epoch]
  have same : again.route = registry.route := funext route
  cases context with
  | none => rfl
  | some c =>
    dsimp only
    rw [same]

/-- The worker after the configuration it holds has been loaded again: its registry reads the
same, and its delegate flag is the one the bridge derives. -/
theorem reconfigured_state (host : Host) {process : Process} {env refreshEnv : Env} {configs : Value}
    {loaded again : Loaded} {m : Source.Bridge.Modules}
    (h : Holding host process loaded m.transport) (load : loadConfig host process env configs = some again)
    (hash : again.configHash = loaded.configHash) (signature : again.signature = loaded.signature)
    (route : ∀ id, again.registry.route id = loaded.registry.route id)
    (exports : env.firstExport = true ∧ refreshEnv.firstExport = true)
    (clear : m.transport.statusExportFailed = false) (agreed : Agreement m)
    (derived : Derived host refreshEnv m) :
    let outcome := refreshAfter host process refreshEnv m.bridge
      (configure host process env configs m.transport)
    outcome.modules.transport = { m.transport with registry := some again.registry } ∧
      (m.transport.delegateReady = true → .removeMarker ∉ outcome.effects) := by
  obtain ⟨state, refreshes, quiet⟩ := configure_again host h load hash signature exports.1 clear
  have basis : SameBasis m ⟨(configure host process env configs m.transport).state, m.bridge⟩ := by
    rw [state]
    refine ⟨rfl, rfl, rfl, rfl, rfl, rfl, fun id => ?_⟩
    rw [h.registry]
    exact route id
  have flags := (Source.Bridge.refreshTransportStatus_agreement host process refreshEnv
    ⟨(configure host process env configs m.transport).state, m.bridge⟩).flags
  rw [Source.Bridge.refreshTransportStatus_derived, basis.derived host rfl fun _ _ => rfl, ← derived,
    agreed.flags] at flags
  have identified : Identified process (configure host process env configs m.transport).state := by
    rw [state]
    exact h.identified.congr rfl
  have clear' : (configure host process env configs m.transport).state.statusExportFailed = false := by
    rw [state]
    exact clear
  unfold refreshAfter
  rw [if_pos refreshes]
  dsimp only
  have reported : ∃ ready epoch, Source.Bridge.refreshTransportStatus host process refreshEnv
      ⟨(configure host process env configs m.transport).state, m.bridge⟩ =
      ⟨⟨(markBridgeStatus process refreshEnv ready epoch
          (configure host process env configs m.transport).state).1,
        (Source.Bridge.refreshTransportStatus host process refreshEnv
          ⟨(configure host process env configs m.transport).state, m.bridge⟩).modules.bridge⟩,
        (markBridgeStatus process refreshEnv ready epoch
          (configure host process env configs m.transport).state).2⟩ := ⟨_, _, rfl⟩
  obtain ⟨ready, epoch, reported⟩ := reported
  rw [reported] at flags ⊢
  dsimp only at flags ⊢
  have flagged := markBridgeStatus_exported identified exports.2 clear' ready epoch
  rw [flagged] at flags ⊢
  dsimp only at flags
  constructor
  · rw [← flags, state, ← h.bridgeLoaded]
  · intro up
    rw [up] at flags
    rw [List.mem_append, not_or]
    exact ⟨quiet (agreed.ready up).1, markBridgeStatus_keeps identified exports.2 flags.symm⟩

theorem invisible_of_registry {host : Host} {process : Process} {loaded again : Loaded} {w : World}
    {outcome : Source.Bridge.Outcome} (h : Holding host process loaded w.modules.transport)
    (state : outcome.modules.transport = { w.modules.transport with registry := some again.registry })
    {evidence : Bool} {metadata a b : Identity} (content : loaded.Says evidence metadata a b)
    (content' : again.Says evidence metadata a b)
    (quiet : w.modules.transport.delegateReady = true → .removeMarker ∉ outcome.effects) :
    Invisible process w (applyModules w outcome).1 (applyModules w outcome).2 := by
  have route : ∀ id, again.registry.route id = loaded.registry.route id := fun id =>
    content'.route_eq content id
  have exported : snapshot outcome.modules.transport = snapshot w.modules.transport := by
    have routes : publicRoutes outcome.modules.transport = publicRoutes w.modules.transport := by
      rw [content'.publicRoutes_eq (s := outcome.modules.transport) (by rw [state]),
        content.publicRoutes_eq h.registry]
    unfold snapshot
    rw [routes, state]
  have hash := congrArg State.configHash state
  have epoch := congrArg State.registryEpoch state
  have wrapper := congrArg State.wrapperReady state
  have same : ∀ context, contextIsValid outcome.modules.transport context =
      contextIsValid w.modules.transport context := by
    have ready := congrArg State.registryReady state
    have failed := congrArg State.failed state
    have registry := congrArg State.registry state
    exact contextIsValid_congr ready failed epoch h.registry registry route
  refine ⟨hash, epoch, wrapper, fun id => ?_, ?_, fun up removed => ?_, fun context identity valid => ?_⟩
  · show (outcome.modules.transport.registry.bind _) = _
    rw [state, h.registry]
    exact route id
  · have identified : Identified process outcome.modules.transport := by
      rw [state]
      exact h.identified.congr rfl
    show snapshot (ensureWorkerIdentity process false outcome.modules.transport) =
      snapshot (ensureWorkerIdentity process false w.modules.transport)
    rw [identified.ensure, h.identified.ensure, exported]
  · obtain ⟨effect, inside, same⟩ := List.mem_map.mp removed
    cases same
    exact quiet up inside
  · exact (same context).trans valid

/-- After any run, a worker that is live and registered sees nothing of being given the
configuration it holds once more, in whatever form, as long as the files its last `configure`
read have not changed and their certificates are valid. -/
theorem reconfiguration_invisible (host : Host) (process : Process) {first later : List Step}
    {loadEnv loadRefresh : Env} {loadConfigs : Value}
    (operations : ∀ i ∈ first ++ .configure loadEnv loadRefresh loadConfigs :: later, isReport i = false)
    (last : ∀ i ∈ later, i.configures = false) {w : World}
    (reached : (run host process World.initial
      (first ++ .configure loadEnv loadRefresh loadConfigs :: later)).1 = w)
    (live : w.modules.transport.failed = false) {registry : Registry}
    (held : w.modules.transport.registry = some registry)
    (exported : w.modules.transport.statusExportFailed = false) {env refreshEnv : Env}
    (exports : env.firstExport = true ∧ refreshEnv.firstExport = true) {configs : Value}
    (denotes : Denotes configs registry.evidenceCorrelationEnabled)
    (unchanged : ∀ i ∈ Step.configure loadEnv loadRefresh loadConfigs ::
      Step.configure env refreshEnv configs :: later, SeesUnchanged refreshEnv.files i)
    (valid : ∀ identity ∈ registry.metadataIdentity :: registry.routes.map (·.2.toIdentity),
      Unexpired host env.now identity) :
    Invisible process w (step host process w (.configure env refreshEnv configs)).1
      (step host process w (.configure env refreshEnv configs)).2 := by
  obtain ⟨loaded, load, holding⟩ :=
    holding_of_run host process last reached live (by rw [held]; rfl)
  cases held.symm.trans holding.registry
  obtain ⟨bootstrap, evidence, metadata, a, b, material, content, signed, hashed⟩ := loadConfig_some load
  have files : ∀ path ∈ materialFiles, env.files path = loadEnv.files path := by
    intro path hpath
    have then' := unchanged _ List.mem_cons_self loadEnv.files (by simp [fileViews]) path
      (List.mem_cons_of_mem _ hpath)
    have now := unchanged _ (List.mem_cons_of_mem _ List.mem_cons_self) env.files
      (by simp [fileViews]) path (List.mem_cons_of_mem _ hpath)
    exact now.trans then'.symm
  have unexpired : ∀ identity ∈ [metadata, a, b], Unexpired host env.now identity := by
    intro identity hidentity
    refine valid identity ?_
    rw [content.metadata]
    rcases content.routes with order | order <;> rw [order] <;> simpa [or_comm, or_left_comm] using hidentity
  rw [content.flag] at denotes
  obtain ⟨again, load', content', signature, hash⟩ := loadConfig_spelled bootstrap denotes
    (material.unchanged files unexpired) signed hashed
  have derived : Derived host refreshEnv w.modules := by
    rw [← reached]
    refine derived_of_run host process operations last fun i hi => unchanged i ?_
    rcases List.mem_cons.mp hi with rfl | hi
    · exact List.mem_cons_self
    · exact List.mem_cons_of_mem _ (List.mem_cons_of_mem _ hi)
  have agreed : Agreement w.modules := by
    rw [← reached]
    exact agreement_of_run host process operations
  obtain ⟨state, quiet⟩ := reconfigured_state host holding load' hash signature
    (fun id => content'.route_eq content id) exports exported agreed derived
  exact invisible_of_registry holding state content content' quiet

/-! ## The deployed worker, reconfigured -/

open Source.Deployment in
/-- The deployed configuration unwrapped, with its routes swapped and a field of the runtime. -/
def respelled : Value :=
  .table 1 [(.num 1, .table 0 ((transportConfig.fields.erase (.name "routes")) ++
    [(.name "routes", .table 2 [(.num 1, routeEntry routeB), (.num 2, routeEntry routeA)]),
      (.name "__plugin_id", .str (ascii "p-1"))]))]

theorem respelled_denotes : Denotes respelled false := by
  have unwrapped : unwrapPluginConfig respelled =
      some (respelled.fields.get (.num 1)) := rfl
  have validated : validateConfig Source.Deployment.process (respelled.fields.get (.num 1)) =
      some [routeB, routeA] := by decide +kernel
  have spells := (validateConfig_some validated).2.1
  exact ⟨_, unwrapped, spells⟩

open Source.Deployment in
theorem started_holds :
    let s := (run libraries process World.initial started).1.modules.transport
    s.failed = false ∧ s.statusExportFailed = false ∧ s.delegateReady = true ∧
      s.registry.map Registry.evidenceCorrelationEnabled = some false := by
  decide +kernel

open Source.Deployment in
theorem deployed_unexpired (identity : Identity) : Unexpired libraries env.now identity := by
  have within : (0 : Rat) ≤ env.now ∧ (env.now : Rat) < 4102444800 := by decide +kernel
  intro notBefore notAfter lifetime
  have bounds := Prod.mk.inj (Option.some.inj lifetime)
  rw [← bounds.1, ← bounds.2]
  exact within

open Source.Deployment in
theorem reconfiguration_invisible_respelled :
    let w := (run libraries process World.initial started).1
    w.modules.transport.delegateReady = true ∧
      Invisible process w (step libraries process w (.configure env env respelled)).1
        (step libraries process w (.configure env env respelled)).2 := by
  obtain ⟨live, exported, up, flag⟩ := started_holds
  obtain ⟨registry, held, disabled⟩ := Option.map_eq_some_iff.mp flag
  have spelled : Denotes respelled registry.evidenceCorrelationEnabled := by
    rw [disabled]
    exact respelled_denotes
  have shape : started = [] ++ .configure env env (configured transportConfig) ::
      [.initWorker env env,
        .bridgeConfigure env env (configured (bridgeConfig "transport_delegate" (ascii "kid")))] := rfl
  have reached := congrArg (fun steps => (run libraries process World.initial steps).1) shape.symm
  refine ⟨up, reconfiguration_invisible libraries process (by decide) (by decide) reached live held
    exported ⟨rfl, rfl⟩ spelled ?_ fun identity _ => deployed_unexpired identity⟩
  intro i hi view hview path _
  have everywhere : view = env.files := by
    simp only [List.mem_cons, List.not_mem_nil, or_false] at hi
    rcases hi with rfl | rfl | rfl | rfl <;> simpa [fileViews] using hview
  rw [everywhere]

end KonnectFapi.Guarantees

import KonnectFapi.Source.Deployment
import KonnectFapi.Source.WorkerEffects

/-!
# The failure latch

Source: kong/plugins/fapi-as-mtls-transport/handler.lua:609-744 and 1489-1542.
Nothing ever clears `failed`, and everything that could reach the authorization
server reads it; a configuration once accepted stays the only one.
-/

namespace KonnectFapi.Guarantees
open Lib Lib.Lua Source.Transport Source.Worker

/-! ## One step -/

theorem failed_stays_failed (host : Host) (process : Process) (w : World) (i : Step)
    (h : w.modules.transport.failed = true) :
    (step host process w i).1.modules.transport.failed = true := by
  have hcore : w.modules.transport.core.failed = true := h
  show (step host process w i).1.modules.transport.core.failed = true
  have effect := step_transport host process w i
  generalize (step host process w i).1.modules.transport.core = after at effect
  cases effect with
  | configure env refreshEnv configs core effect guard =>
    rw [guard]
    show core.failed = true
    cases effect with
    | stillFailed failed core => rw [core]; exact h
    | absent failed => rw [h] at failed; cases failed
    | latched failed => rw [h] at failed; cases failed
    | accepted loaded ready epoch failed => rw [h] at failed; cases failed
  | initWorker env refreshEnv guard =>
    rw [guard]
    obtain ⟨epoch, ready, -, core⟩ := initWorker_core host process env w.modules.transport
    rw [core]
    split
    · exact hcore
    · rfl
  | other _ guard =>
    rw [guard]
    exact hcore

/-- A configuration that passed is never replaced. -/
theorem configHash_stays (host : Host) (process : Process) (w : World) (i : Step) {hash : Bytes}
    (h : w.modules.transport.configHash = some hash) :
    (step host process w i).1.modules.transport.configHash = some hash := by
  have hcore : w.modules.transport.core.configHash = some hash := h
  show (step host process w i).1.modules.transport.core.configHash = some hash
  have effect := step_transport host process w i
  generalize (step host process w i).1.modules.transport.core = after at effect
  cases effect with
  | configure env refreshEnv configs core effect guard =>
    rw [guard]
    show core.configHash = some hash
    cases effect with
    | stillFailed failed core => rw [core]; exact h
    | absent failed none => rw [h] at none; cases none
    | latched failed core => rw [core]; exact h
    | accepted loaded ready epoch failed load same core =>
      have loadedHash : loaded.configHash = hash := by
        rcases same with none | some
        · rw [h] at none
          cases none
        · rw [h] at some
          exact (Option.some.inj some).symm
      rw [core, ← loadedHash]
      cases epoch <;> rfl
  | initWorker env refreshEnv guard =>
    rw [guard]
    obtain ⟨epoch, ready, -, core⟩ := initWorker_core host process env w.modules.transport
    rw [core]
    split <;> exact hcore
  | other _ guard =>
    rw [guard]
    exact hcore

/-- A later configuration reproduces the accepted hash or latches the worker. -/
theorem configure_reproduces_or_latches (host : Host) (process : Process) (env refreshEnv : Env)
    (configs : Value) (w : World) {hash : Bytes}
    (h : w.modules.transport.configHash = some hash) :
    (step host process w (.configure env refreshEnv configs)).1.modules.transport.failed = true ∨
      ∃ loaded, loadConfig host process env configs = some loaded ∧ loaded.configHash = hash := by
  have guard := refreshAfter_guard host process refreshEnv w.modules.bridge
    (Source.Transport.configure host process env configs w.modules.transport)
  have effect := configure_effect host process env configs w.modules.transport
  show (refreshAfter host process refreshEnv w.modules.bridge
    (Source.Transport.configure host process env configs w.modules.transport)).modules.transport.core.failed
      = true ∨ _
  rw [guard]
  generalize (Source.Transport.configure host process env configs
    w.modules.transport).state.core = core at effect
  show core.failed = true ∨ _
  cases effect with
  | stillFailed failed core => rw [core]; exact Or.inl failed
  | absent failed none => rw [h] at none; cases none
  | latched failed core => rw [core]; exact Or.inl rfl
  | accepted loaded ready epoch failed load same core =>
    rcases same with none | some
    · rw [h] at none
      cases none
    · rw [h] at some
      exact Or.inr ⟨loaded, load, (Option.some.inj some).symm⟩

/-! ## A latched worker is closed -/

theorem beginCall_of_failed (host : Host) (s : State) (env : CallEnv) (context : Option Context)
    (self uri options : Value) {method : Bytes} {endpoint : Endpoint} (failed : s.failed = true)
    (hmethod : methodFor options.fields = some method)
    (hendpoint : classify uri method = some endpoint) :
    (beginCall host s env context self uri options).2 = .rejected := by
  unfold beginCall admitCall
  simp [hmethod, hendpoint, failed]

theorem access_of_failed (host : Host) (env : Env) (s : State) (sharedTable : Bool)
    (routeId : Option Bytes) (failed : s.failed = true)
    (reserved : (routeId.bind manifest).isSome = true) :
    access host env s sharedTable routeId = ⟨none, true⟩ := by
  obtain ⟨expected, hexpected⟩ := Option.isSome_iff_exists.mp reserved
  unfold access
  simp only [hexpected, failed]
  cases sharedTable with
  | false => rfl
  | true =>
    simp only [Bool.not_true, Bool.false_eq_true, if_false, Bool.or_true, Bool.true_or, if_true]
    split <;> rfl

/-- What a latched worker answers, whatever it is asked. -/
structure ClosedDown (host : Host) (process : Process) (w : World) : Prop where
  registryNotReady : (statusSnapshot process w.modules.transport).2.registryReady = false
  delegateNotReady : (statusSnapshot process w.modules.transport).2.delegateReady = false
  noEpoch : currentRegistryEpoch w.modules.transport = none
  refused : ∀ (r : Nat) (env : CallEnv) (self uri options : Value) (method : Bytes)
    (endpoint : Endpoint), w.modules.transport.httpWrapped = true →
    methodFor options.fields = some method → classify uri method = some endpoint →
    let next := step host process w (.begin r env self uri options)
    next.2 = [.rejected r (w.requests r).shared] ∧
      ∀ later, (((run host process next.1 later).1.requests r).calls[(w.requests r).calls.length]? =
        some ⟨(w.requests r).shared, .finished⟩)
  exited : ∀ (r : Nat) (env : Env) (sharedTable : Bool) (routeId : Option Bytes),
    (routeId.bind manifest).isSome = true →
    let next := step host process w (.access r env sharedTable routeId)
    next.2 = [.exited r 503] ∧ (next.1.requests r).shared = none

theorem closedDown_of_failed (host : Host) (process : Process) (w : World)
    (failed : w.modules.transport.failed = true) : ClosedDown host process w where
  registryNotReady := by
    have core := statusSnapshot_core process w.modules.transport
    have stays : (ensureWorkerIdentity process false w.modules.transport).failed = true :=
      (congrArg Core.failed core).trans failed
    simp [statusSnapshot, snapshot, stays]
  delegateNotReady := by
    have core := statusSnapshot_core process w.modules.transport
    have stays : (ensureWorkerIdentity process false w.modules.transport).failed = true :=
      (congrArg Core.failed core).trans failed
    simp [statusSnapshot, snapshot, stays]
  noEpoch := by simp [currentRegistryEpoch, failed]
  refused := by
    intro r env self uri options method endpoint wrapped hmethod hendpoint
    have rejected := beginCall_of_failed host w.modules.transport env
      ((w.requests r).context? (w.requests r).shared) self uri options failed hmethod hendpoint
    show (beginStep host w r env self uri options).2 = _ ∧ _
    unfold beginStep
    simp only [wrapped, if_true, Request.begin, rejected, Begun.event, true_and]
    intro later
    refine Machine.run_invariant (P := fun v => (v.requests r).calls[(w.requests r).calls.length]? =
      some ⟨(w.requests r).shared, .finished⟩) (fun v i h => finished_stays host process v i r _ _ h)
      _ later ?_
    show (((beginStep host w r env self uri options).1.requests r).calls[_]?) = _
    unfold beginStep
    simp [wrapped, Request.begin, rejected, Begun.stage]
  exited := by
    intro r env sharedTable routeId reserved
    show (accessStep host w r env sharedTable routeId).2 = _ ∧
      ((accessStep host w r env sharedTable routeId).1.requests r).shared = none
    unfold accessStep
    simp only [access_of_failed host env w.modules.transport sharedTable routeId failed reserved,
      if_true, World.setRequest_self, Request.accessed, and_self]

/-! ## Every run -/

/-- Once failed, a worker is closed in every later state; once a configuration has
been accepted, its hash is the only one the worker ever holds. -/
theorem failure_latch (host : Host) (process : Process) (before after : List Step) :
    let w := (run host process World.initial before).1
    let later := (run host process w after).1
    (w.modules.transport.failed = true → ClosedDown host process later) ∧
      ∀ hash, w.modules.transport.configHash = some hash →
        later.modules.transport.configHash = some hash ∧
          ∀ env refreshEnv configs,
            (step host process later
                (.configure env refreshEnv configs)).1.modules.transport.failed = true ∨
              ∃ loaded, loadConfig host process env configs = some loaded ∧
                loaded.configHash = hash := by
  intro w later
  refine ⟨fun failed => ?_, fun hash accepted => ?_⟩
  · exact closedDown_of_failed host process later
      (Machine.run_invariant (fun v i h => failed_stays_failed host process v i h) w after failed)
  · have kept : later.modules.transport.configHash = some hash :=
      Machine.run_invariant (P := fun v => v.modules.transport.configHash = some hash)
        (fun v i h => configHash_stays host process v i h) w after accepted
    exact ⟨kept, fun env refreshEnv configs =>
      configure_reproduces_or_latches host process env refreshEnv configs later kept⟩

open Source.Deployment in
/-- The deployed configuration arrives at a worker whose HTTP module is not usable. -/
theorem failure_latch_unusable_client :
    ClosedDown libraries process (run libraries process (run libraries process World.initial
      [.initWorker { env with httpUsable := false } env]).1
      [.configure env env (configured transportConfig)]).1 :=
  (failure_latch libraries process [.initWorker { env with httpUsable := false } env]
    [.configure env env (configured transportConfig)]).1 (by decide +kernel)

end KonnectFapi.Guarantees

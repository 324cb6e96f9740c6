import KonnectFapi.Source.Transport.GuardEffects
import KonnectFapi.Source.WorkerEffects

/-!
# What a step does to the contexts of a request

A context keeps what it was created with. Request calls write its ledger and its
evidence; the bridge's access phase may put a signer into it; nothing else does.
-/

namespace KonnectFapi.Source.Transport
open Lib Lib.Lua

/-- A context without the ledger and the evidence collected in it. -/
def Context.binding (context : Context) : Context :=
  { context.ledger with sentOperations := [], operationDigests := [] }

theorem SameLedger.binding {before after : Option Context} (h : SameLedger before after) :
    after.map Context.binding = before.map Context.binding := by
  have read : ∀ c : Context, c.binding = c.ledger.binding := fun _ => rfl
  have both := congrArg (Option.map Context.binding) h
  simpa only [Option.map_map, Function.comp_def, ← read] using both

theorem beginCall_binding (host : Host) (s : State) (env : CallEnv) (context : Option Context)
    (client uri options : Value) :
    (beginCall host s env context client uri options).1.map Context.binding =
      context.map Context.binding := by
  have effect := beginCall_effect host s env context client uri options
  generalize beginCall host s env context client uri options = result at effect ⊢
  cases effect with
  | passthrough => rfl
  | rejected after same => exact same.binding
  | raised after same => exact same.binding
  | metadata identity pending after admitted bare same => exact same.binding
  | post identity pending c post after begun found admitted posted carries clientId same =>
    rw [found]
    exact same.binding

/-- The table a fresh context starts as: the route's identity under the current epoch. -/
def freshContext (s : State) (routeId : Bytes) (route : RouteIdentity) : Context where
  ready := true
  registryEpoch := s.registryEpoch
  logicalRoute := some route.logicalRoute
  clientId := some route.clientId
  trustedRouteIdentity := some routeId
  certificateFingerprint := some route.fingerprint

/-- A stored context is that of the registered route the router resolved. -/
theorem access_stored {host : Host} {env : Env} {s : State} {sharedTable : Bool}
    {routeId : Option Bytes} {context : Context}
    (h : (access host env s sharedTable routeId).shared = some context) :
    ∃ id registry route, routeId = some id ∧ s.registry = some registry ∧
      registry.route id = some route ∧ s.registryReady = true ∧ s.failed = false ∧
      context = freshContext s id route := by
  unfold access at h
  dsimp only at h
  split at h
  · cases h
  split at h
  · cases h
  split at h
  · cases h
  rename_i route found
  split at h
  · cases h
  rename_i ready
  simp only [Bool.or_eq_true, Bool.not_eq_true', not_or, Bool.not_eq_false, Bool.not_eq_true]
    at ready
  obtain ⟨id, hid, lookup⟩ := Option.bind_eq_some_iff.mp found
  obtain ⟨registry, hregistry, hroute⟩ := Option.bind_eq_some_iff.mp lookup
  subst hid
  exact ⟨id, registry, route, rfl, hregistry, hroute, ready.1.1.1.1, ready.1.1.1.2,
    (Option.some.inj h).symm⟩

end KonnectFapi.Source.Transport

namespace KonnectFapi.Source.Bridge
open Lib Lib.Lua Transport

/-- The context `register_delegate` leaves when it succeeds. -/
def withSigner (c : Context) (epoch : Bytes) (conf : Value) : Context :=
  { c with signerEpoch := some epoch, signAssertion := some ⟨epoch, conf⟩ }

theorem registerDelegate_context (host : Host) (process : Process) (env : Env) (conf : Value)
    (context : Option Context) (m : Modules) :
    (registerDelegate host process env conf context m).2.1 = context ∨
      ∃ c epoch, context = some c ∧
        (registerDelegate host process env conf context m).2.1 = some (withSigner c epoch conf) := by
  unfold registerDelegate
  dsimp only
  split
  · exact Or.inl rfl
  · split
    · split
      · exact Or.inl rfl
      · exact Or.inr ⟨_, _, rfl, rfl⟩
    · exact Or.inl rfl

/-- An access phase leaves the context alone or registers a signer in it, and
registers none once the bridge has failed. -/
theorem access_context (host : Host) (process : Process) (env : Env) (accessEnv : AccessEnv)
    (conf : Value) (context : Option Context) (m : Modules) :
    (access host process env accessEnv conf context m).context = context ∨
      (m.bridge.delegateFailed = false ∧ ∃ c epoch signerConf, context = some c ∧
        (access host process env accessEnv conf context m).context =
          some (withSigner c epoch signerConf)) := by
  unfold access
  split
  · exact Or.inl rfl
  · split
    · unfold accessDelegateMode
      dsimp only
      split
      · exact Or.inl rfl
      · rename_i live
        simp only [Bool.or_eq_true, not_or, Bool.not_eq_true] at live
        rcases registerDelegate_context host process env (m.bridge.delegateConf.getD .nil) context m
          with same | ⟨c, epoch, found, registered⟩
        · left
          split <;> exact same
        · right
          refine ⟨live.1.1.1, c, epoch, m.bridge.delegateConf.getD .nil, found, ?_⟩
          split <;> exact registered
    · unfold accessHeaderMode
      dsimp only
      split
      · exact Or.inl rfl
      · split
        · exact Or.inl rfl
        · split <;> exact Or.inl rfl

end KonnectFapi.Source.Bridge

namespace KonnectFapi.Source.Worker
open Lib Lib.Lua Transport

theorem set_self_of_getElem? {α : Type*} {l : List α} {i : Nat} {a : α} (h : l[i]? = some a) :
    l.set i a = l := by
  obtain ⟨hi, rfl⟩ := List.getElem?_eq_some_iff.mp h
  exact List.set_getElem_self hi

/-- A write that keeps what `f` reads of the table written to keeps what it reads of all. -/
theorem writeContext_map {α : Type*} (f : Context → α) (q : Request) (reference : Option Nat)
    (after : Option Context) (same : after.map f = (q.context? reference).map f) :
    (q.writeContext reference after).contexts.map f = q.contexts.map f := by
  cases reference with
  | none => rfl
  | some i =>
    cases after with
    | none => rfl
    | some c =>
      show (q.contexts.set i c).map f = _
      rw [List.map_set]
      refine set_self_of_getElem? ?_
      rw [List.getElem?_map]
      exact same.symm

theorem writeContext_length (q : Request) (reference : Option Nat) (after : Option Context) :
    (q.writeContext reference after).contexts.length = q.contexts.length := by
  unfold Request.writeContext
  split
  · exact List.length_set
  · rfl

theorem context?_eq_some {q : Request} {reference : Option Nat} {c : Context}
    (h : q.context? reference = some c) : ∃ i, reference = some i ∧ q.contexts[i]? = some c :=
  Option.bind_eq_some_iff.mp h

/-- The effect of a step on the contexts of one request, up to ledgers and evidence. -/
inductive ContextsEffect (host : Host) (w : World) (r : Nat) : List Context → Step → Prop where
  | kept (i : Step) :
      ContextsEffect host w r ((w.requests r).contexts.map Context.binding) i
  | created (env : Env) (sharedTable : Bool) (routeId : Option Bytes) (context : Context)
      (stored : (Transport.access host env w.modules.transport sharedTable routeId).shared =
        some context) :
      ContextsEffect host w r
        ((w.requests r).contexts.map Context.binding ++ [context.binding])
        (.access r env sharedTable routeId)
  | registered (env : Env) (accessEnv : Bridge.AccessEnv) (conf : Value) (j : Nat) (c : Context)
      (epoch : Bytes) (signerConf : Value) (live : w.modules.bridge.delegateFailed = false)
      (was : (w.requests r).contexts[j]? = some c) :
      ContextsEffect host w r
        (((w.requests r).contexts.set j (Bridge.withSigner c epoch signerConf)).map Context.binding)
        (.bridgeAccess r env accessEnv conf)

theorem step_contexts (host : Host) (process : Process) (w : World) (i : Step) (r : Nat) :
    ContextsEffect host w r
      (((step host process w i).1.requests r).contexts.map Context.binding) i := by
  cases i with
  | configure | initWorker | markBridgeLoaded | markBridgeStatus | bridgeConfigure |
    bridgeInitWorker | refreshTransportStatus => exact .kept _
  | bridgeAccess q env accessEnv conf =>
    show ContextsEffect host w r
      (((bridgeAccessStep host process w q env accessEnv conf).1.requests r).contexts.map
        Context.binding) _
    unfold bridgeAccessStep
    by_cases h : r = q
    · subst h
      simp only [World.setRequest_self]
      rcases Bridge.access_context host process env accessEnv conf
        ((w.requests r).context? (w.requests r).shared) w.modules
        with same | ⟨live, c, epoch, signerConf, found, registered⟩
      · rw [writeContext_map Context.binding _ _ _ (by rw [same])]
        exact .kept _
      · obtain ⟨j, hj, was⟩ := context?_eq_some found
        rw [registered, hj]
        exact .registered env accessEnv conf j c epoch signerConf live was
    · simp only [World.setRequest_of_ne _ _ h]
      exact .kept _
  | access q env sharedTable routeId =>
    show ContextsEffect host w r
      (((accessStep host w q env sharedTable routeId).1.requests r).contexts.map Context.binding) _
    unfold accessStep
    by_cases h : r = q
    · subst h
      simp only [World.setRequest_self, Request.accessed]
      split
      · rename_i context stored
        rw [List.map_append]
        exact .created env sharedTable routeId context stored
      · exact .kept _
    · simp only [World.setRequest_of_ne _ _ h]
      exact .kept _
  | begin q env self uri options =>
    show ContextsEffect host w r
      (((beginStep host w q env self uri options).1.requests r).contexts.map Context.binding) _
    unfold beginStep
    split
    · by_cases h : r = q
      · subst h
        simp only [World.setRequest_self, Request.begin]
        rw [writeContext_map Context.binding _ _ _ (beginCall_binding host w.modules.transport env
          _ self uri options)]
        exact .kept _
      · simp only [World.setRequest_of_ne _ _ h]
        exact .kept _
    · exact .kept _
  | signerReturns q call now result =>
    show ContextsEffect host w r
      (((signerStep host w q call now result).1.requests r).contexts.map Context.binding) _
    unfold signerStep
    split
    · by_cases h : r = q
      · subst h
        simp only [World.setRequest_self, Request.advance]
        rw [writeContext_map Context.binding _ _ _ (afterSigner_effect host now _ _ result).1.binding]
        exact .kept _
      · simp only [World.setRequest_of_ne _ _ h]
        exact .kept _
    · exact .kept _
  | networkReturns q call result =>
    show ContextsEffect host w r
      (((networkStep w q call result).1.requests r).contexts.map Context.binding) _
    unfold networkStep
    split
    · by_cases h : r = q
      · subst h
        simp only [World.setRequest_self, Request.advance]
        rw [writeContext_map Context.binding _ _ _ (afterNetwork_effect _ _ result).binding]
        exact .kept _
      · simp only [World.setRequest_of_ne _ _ h]
        exact .kept _
    · exact .kept _
  | callback q j accessEnv =>
    show ContextsEffect host w r
      (((callbackStep host w q j accessEnv).1.requests r).contexts.map Context.binding) _
    unfold callbackStep
    split
    · split <;> exact .kept _
    · exact .kept _

end KonnectFapi.Source.Worker

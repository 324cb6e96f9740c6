import KonnectFapi.Guarantees.CredentialPost
import KonnectFapi.Source.Deployment
import KonnectFapi.Source.WorkerContexts

/-!
# Concurrent requests

Source: kong/plugins/fapi-as-mtls-transport/handler.lua:781-806, 1312-1454 and
1509-1542. Requests of one worker share its module tables and nothing else: a request
sees of the others' calls only what they do to those tables, which is nothing.
-/

namespace KonnectFapi.Guarantees
open Lib Lib.Lua Source.Transport Source.Worker

/-! ## Calls and what they show -/

/-- A step of the transport's access phase or of a request call. -/
def isCall : Step → Bool
  | .access .. | .begin .. | .signerReturns .. | .networkReturns .. => true
  | _ => false

/-- A call step of request `r`. -/
def ofRequest (r : Nat) : Step → Bool
  | .access q .. => q == r
  | .begin q .. => q == r
  | .signerReturns q .. => q == r
  | .networkReturns q .. => q == r
  | _ => false

/-- An outcome of request `r`. -/
def shownOn (r : Nat) : Event → Bool
  | .file _ => false
  | .exited q _ => q == r
  | .rejected q _ => q == r
  | .raised q => q == r
  | .passedThrough q _ _ => q == r
  | .signerCalled q _ _ => q == r
  | .signerFailed q _ _ => q == r
  | .sent q _ _ => q == r
  | .answered q _ _ => q == r
  | .assertion q _ => q == r

theorem begun_shown (r q : Nat) (reference : Option Nat) (begun : Begun) :
    shownOn r (Begun.event q reference begun) = (q == r) := by
  cases begun <;> rfl

/-- What request `r` reads and writes: the module tables and its own. -/
def requestView (r : Nat) (w : World) : Source.Bridge.Modules × Request := (w.modules, w.requests r)

theorem setRequest_view (w : World) (r : Nat) (request : Request) :
    requestView r (w.setRequest r request) = (w.modules, request) := by
  simp [requestView]

theorem setRequest_view_of_ne (w : World) (request : Request) {r q : Nat} (h : r ≠ q) :
    requestView r (w.setRequest q request) = requestView r w := by
  simp [requestView, World.setRequest_of_ne _ _ h]

section
variable (host : Host) (process : Process)

/-- A call step of `r` is determined by what `r` sees. -/
theorem own_call_congruent (r : Nat) {i : Step} (own : ofRequest r i = true) {v w : World}
    (same : requestView r v = requestView r w) :
    requestView r (step host process v i).1 = requestView r (step host process w i).1 ∧
      (step host process v i).2 = (step host process w i).2 := by
  obtain ⟨modules, request⟩ := Prod.mk.inj same
  cases i with
  | access q env sharedTable routeId =>
    obtain rfl : q = r := by simpa [ofRequest] using own
    show requestView q (accessStep host v q env sharedTable routeId).1 =
        requestView q (accessStep host w q env sharedTable routeId).1 ∧
      (accessStep host v q env sharedTable routeId).2 =
        (accessStep host w q env sharedTable routeId).2
    unfold accessStep
    simp only [setRequest_view, modules, request, and_self]
  | begin q env client uri options =>
    obtain rfl : q = r := by simpa [ofRequest] using own
    show requestView q (beginStep host v q env client uri options).1 =
        requestView q (beginStep host w q env client uri options).1 ∧
      (beginStep host v q env client uri options).2 = (beginStep host w q env client uri options).2
    unfold beginStep
    rw [modules, request]
    split
    · simp only [setRequest_view, modules, and_self]
    · exact ⟨same, rfl⟩
  | signerReturns q call now result =>
    obtain rfl : q = r := by simpa [ofRequest] using own
    show requestView q (signerStep host v q call now result).1 =
        requestView q (signerStep host w q call now result).1 ∧
      (signerStep host v q call now result).2 = (signerStep host w q call now result).2
    unfold signerStep
    rw [request]
    split
    · simp only [setRequest_view, modules, and_self]
    · exact ⟨same, rfl⟩
  | networkReturns q call result =>
    obtain rfl : q = r := by simpa [ofRequest] using own
    show requestView q (networkStep v q call result).1 =
        requestView q (networkStep w q call result).1 ∧
      (networkStep v q call result).2 = (networkStep w q call result).2
    unfold networkStep
    rw [request]
    split
    · simp only [setRequest_view, modules, and_self]
    · exact ⟨same, rfl⟩
  | configure | initWorker | markBridgeLoaded | markBridgeStatus | bridgeConfigure |
    bridgeInitWorker | refreshTransportStatus | bridgeAccess | callback => cases own

/-- A call step of another request neither moves what `r` sees nor shows on `r`. -/
theorem foreign_call_unseen (r : Nat) {i : Step} (isOne : isCall i = true)
    (foreign : ofRequest r i = false) (w : World) :
    requestView r (step host process w i).1 = requestView r w ∧
      (step host process w i).2.filter (shownOn r) = [] := by
  cases i with
  | access q env sharedTable routeId =>
    have other : ¬ q = r := by simpa [ofRequest] using foreign
    show requestView r (accessStep host w q env sharedTable routeId).1 = _ ∧
      (accessStep host w q env sharedTable routeId).2.filter _ = _
    unfold accessStep
    refine ⟨setRequest_view_of_ne w _ (Ne.symm other), ?_⟩
    dsimp only
    split <;> simp [shownOn, other]
  | begin q env client uri options =>
    have other : ¬ q = r := by simpa [ofRequest] using foreign
    show requestView r (beginStep host w q env client uri options).1 = _ ∧
      (beginStep host w q env client uri options).2.filter _ = _
    unfold beginStep
    split
    · exact ⟨setRequest_view_of_ne w _ (Ne.symm other), by simp [begun_shown, other]⟩
    · exact ⟨rfl, rfl⟩
  | signerReturns q call now result =>
    have other : ¬ q = r := by simpa [ofRequest] using foreign
    show requestView r (signerStep host w q call now result).1 = _ ∧
      (signerStep host w q call now result).2.filter _ = _
    unfold signerStep
    split
    · exact ⟨setRequest_view_of_ne w _ (Ne.symm other), by simp [begun_shown, other]⟩
    · exact ⟨rfl, rfl⟩
  | networkReturns q call result =>
    have other : ¬ q = r := by simpa [ofRequest] using foreign
    show requestView r (networkStep w q call result).1 = _ ∧
      (networkStep w q call result).2.filter _ = _
    unfold networkStep
    split
    · exact ⟨setRequest_view_of_ne w _ (Ne.symm other), by simp [shownOn, other]⟩
    · exact ⟨rfl, rfl⟩
  | configure | initWorker | markBridgeLoaded | markBridgeStatus | bridgeConfigure |
    bridgeInitWorker | refreshTransportStatus | bridgeAccess | callback => cases isOne

/-- Everything a call step of `r` shows, it shows on `r`. -/
theorem own_call_shown (r : Nat) {i : Step} (own : ofRequest r i = true) (w : World) :
    ∀ e ∈ (step host process w i).2, shownOn r e = true := by
  cases i with
  | access q env sharedTable routeId =>
    show ∀ e ∈ (accessStep host w q env sharedTable routeId).2, _
    have own : (q == r) = true := own
    unfold accessStep
    dsimp only
    split <;> simp [shownOn, beq_iff_eq.mp own]
  | begin q env client uri options =>
    show ∀ e ∈ (beginStep host w q env client uri options).2, _
    have own : (q == r) = true := own
    unfold beginStep
    split <;> simp [begun_shown, beq_iff_eq.mp own]
  | signerReturns q call now result =>
    show ∀ e ∈ (signerStep host w q call now result).2, _
    have own : (q == r) = true := own
    unfold signerStep
    split <;> simp [begun_shown, beq_iff_eq.mp own]
  | networkReturns q call result =>
    show ∀ e ∈ (networkStep w q call result).2, _
    have own : (q == r) = true := own
    unfold networkStep
    split <;> simp [shownOn, beq_iff_eq.mp own]
  | configure | initWorker | markBridgeLoaded | markBridgeStatus | bridgeConfigure |
    bridgeInitWorker | refreshTransportStatus | bridgeAccess | callback => cases own

theorem call_modules {i : Step} (isOne : isCall i = true) (w : World) :
    (step host process w i).1.modules = w.modules := by
  cases i with
  | access => rfl
  | begin q env client uri options => exact beginStep_modules host w q env client uri options
  | signerReturns q call now result => exact signerStep_modules host w q call now result
  | networkReturns q call result => exact networkStep_modules w q call result
  | configure | initWorker | markBridgeLoaded | markBridgeStatus | bridgeConfigure |
    bridgeInitWorker | refreshTransportStatus | bridgeAccess | callback => cases isOne

end

/-! ## The route a request's credentials are sent for -/

/-- The routes the contexts of `r` are created for, in the order of the contexts. -/
def resolvedRoutes (host : Host) (s : State) (r : Nat) (inputs : List Step) : List Bytes :=
  inputs.filterMap fun
    | .access q env sharedTable routeId =>
      if q = r ∧ (access host env s sharedTable routeId).shared.isSome then routeId else none
    | _ => none

/-- A credential POST carries certificate and key of the route its context was
created for. -/
def UsesRoute (s : State) (routes : List Bytes) (reference : Option Nat) (pending : Pending) : Prop :=
  pending.endpoint.mappedUri ∈ credentialUrls → ∃ k id registry identity, reference = some k ∧
    routes[k]? = some id ∧ s.registry = some registry ∧ registry.route id = some identity ∧
    TlsFixed pending.params identity.toIdentity

/-- Contexts and waiting calls of a request against the routes resolved for it. -/
structure RouteBound (s : State) (routes : List Bytes) (q : Request) : Prop where
  contexts : q.contexts.map Context.trustedRouteIdentity = routes.map some
  waiting : ∀ call ∈ q.calls, ∀ pending, call.stage = .awaitSigner pending →
    UsesRoute s routes call.context pending

theorem UsesRoute.append {s : State} {routes : List Bytes} {reference : Option Nat}
    {pending : Pending} (h : UsesRoute s routes reference pending) (more : List Bytes) :
    UsesRoute s (routes ++ more) reference pending := by
  intro credential
  obtain ⟨k, id, registry, identity, hreference, hk, rest⟩ := h credential
  refine ⟨k, id, registry, identity, hreference, ?_, rest⟩
  rw [List.getElem?_append_left (List.getElem?_eq_some_iff.mp hk).1]
  exact hk

/-- A call that does no more than complete the form keeps its route. -/
theorem UsesRoute.signed {s : State} {routes : List Bytes} {reference : Option Nat}
    {pending : Pending} (h : UsesRoute s routes reference pending) (observation : Observation)
    (body assertion kind : Bytes) :
    UsesRoute s routes reference { pending with
      params := signedParams pending.params body assertion kind
      observation := observation } := by
  intro credential
  obtain ⟨k, id, registry, identity, hreference, hk, hregistry, hroute, tls⟩ := h credential
  exact ⟨k, id, registry, identity, hreference, hk, hregistry, hroute,
    (tls.set (by decide) _).set (by decide) _⟩

theorem usesRoute_of_admitted {host : Host} {s : State} {env : CallEnv} {client uri : Value}
    {options : Table} {selected : Selected} {pending : Pending} {q : Request} {routes : List Bytes}
    (bound : RouteBound s routes q)
    (admitted : Admitted host s env (q.context? q.shared) client uri options selected pending) :
    UsesRoute s routes q.shared pending := by
  cases selected with
  | metadata identity => exact fun credential => absurd credential (metadata_not_credential admitted)
  | route identity =>
    intro credential
    obtain ⟨method, admission⟩ := admitted.admitted
    obtain ⟨registry', params, id, -, hparams, hpending⟩ := admitted.prepared
    obtain ⟨epoch, -, written⟩ := (setMtlsOptions_prepared hparams).written
    obtain ⟨c, found, valid⟩ := contextIsValid_checked (admitCall_admitted admission).identity.2
    obtain ⟨k, hk, hc⟩ := context?_eq_some found
    obtain ⟨registry, routeId, hregistry, trusted, hroute⟩ := valid.registered
    have read := congrArg (fun trusted => trusted[k]?) bound.contexts
    simp only [List.getElem?_map, hc, Option.map_some, trusted] at read
    obtain ⟨id', hid, same⟩ := Option.map_eq_some_iff.mp read.symm
    cases same
    refine ⟨k, routeId, registry, identity, hk, hid, hregistry, hroute, ?_⟩
    rw [hpending, written]
    exact ((tlsOptions_fixed ..).erase (by decide)).erase (by decide)

theorem resolvedRoutes_cons (host : Host) (s : State) (r : Nat) (i : Step) (rest : List Step) :
    resolvedRoutes host s r (i :: rest) =
      resolvedRoutes host s r [i] ++ resolvedRoutes host s r rest :=
  List.filterMap_append (l := [i])

/-- What a step of a request leaves bound, and what it sends. -/
structure BoundStep (s : State) (routes : List Bytes) (r : Nat) (q : Request)
    (emitted : List Event) : Prop where
  bound : RouteBound s routes q
  sent : ∀ reference pending, .sent r reference pending ∈ emitted →
    UsesRoute s routes reference pending

theorem BoundStep.write {s : State} {routes : List Bytes} {r : Nat} {q : Request}
    (h : RouteBound s routes q) (reference : Option Nat) {after : Option Context} {begun : Begun}
    {calls : List Call}
    (same : after.map Context.binding = (q.context? reference).map Context.binding)
    (uses : ∀ pending, begun = .sending pending ∨ begun = .awaitSigner pending →
      UsesRoute s routes reference pending)
    (known : ∀ call ∈ calls, call ∈ q.calls ∨ call = ⟨reference, Begun.stage begun⟩) :
    BoundStep s routes r { q.writeContext reference after with calls := calls }
      [Begun.event r reference begun] where
  bound := by
    refine ⟨?_, fun call hcall pending waiting => ?_⟩
    · show (q.writeContext reference after).contexts.map Context.trustedRouteIdentity = _
      rw [writeContext_map Context.trustedRouteIdentity]
      · exact h.contexts
      · have read : ∀ c : Context, c.trustedRouteIdentity = c.binding.trustedRouteIdentity :=
          fun _ => rfl
        have both := congrArg (Option.map Context.trustedRouteIdentity) same
        simpa only [Option.map_map, Function.comp_def, ← read] using both
    · rcases known call hcall with old | rfl
      · exact h.waiting call old pending waiting
      · refine uses pending (Or.inr ?_)
        cases begun with
        | awaitSigner pending' =>
          cases waiting
          rfl
        | rejected | signerFailed | passthrough | sending | raised => cases waiting
  sent := by
    intro reference' pending shown
    rw [List.mem_singleton] at shown
    cases begun with
    | sending pending' =>
      obtain ⟨-, rfl, rfl⟩ := Event.sent.inj shown
      exact uses _ (Or.inl rfl)
    | rejected | signerFailed | passthrough | awaitSigner | raised => cases shown

theorem BoundStep.unseen {s : State} {routes : List Bytes} {r : Nat} {q : Request}
    {emitted : List Event} (h : RouteBound s routes q)
    (silent : ∀ reference pending, .sent r reference pending ∉ emitted) :
    BoundStep s routes r q emitted where
  bound := h
  sent reference pending shown := absurd shown (silent reference pending)

theorem not_sent_elsewhere {r q : Nat} (h : r ≠ q) (reference : Option Nat) (begun : Begun)
    (reference' : Option Nat) (pending : Pending) :
    .sent r reference' pending ∉ [Begun.event q reference begun] := by
  intro shown
  rw [List.mem_singleton] at shown
  cases begun with
  | sending => exact h (Event.sent.inj shown).1
  | rejected | signerFailed | passthrough | awaitSigner | raised => cases shown

/-- The first stretch of a call. -/
theorem bound_begin (host : Host) (w : World) (routes : List Bytes) (r : Nat) (env : CallEnv)
    (client uri options : Value) (h : RouteBound w.modules.transport routes (w.requests r)) :
    BoundStep w.modules.transport routes r
      ((w.requests r).begin host w.modules.transport env client uri options).1
      [Begun.event r (w.requests r).shared
        ((w.requests r).begin host w.modules.transport env client uri options).2] := by
  have binding := beginCall_binding host w.modules.transport env
    ((w.requests r).context? (w.requests r).shared) client uri options
  have effect := beginCall_effect host w.modules.transport env
    ((w.requests r).context? (w.requests r).shared) client uri options
  unfold Request.begin
  generalize beginCall host w.modules.transport env
    ((w.requests r).context? (w.requests r).shared) client uri options = result at effect binding ⊢
  obtain ⟨after, begun⟩ := result
  refine BoundStep.write h (w.requests r).shared binding ?_ ?_
  · intro pending goesOn
    cases effect with
    | passthrough | rejected | raised => rcases goesOn with h | h <;> cases h
    | metadata identity pending' after admitted =>
      rcases goesOn with h' | h'
      · cases h'
        exact usesRoute_of_admitted h admitted
      · cases h'
    | post identity pending' c post after begun found admitted posted carries clientId same launched =>
      have uses := usesRoute_of_admitted h admitted
      cases launched with
      | sending slot =>
        rcases goesOn with h' | h'
        · cases h'
          exact uses
        · cases h'
      | awaitSigner slot =>
        rcases goesOn with h' | h'
        · cases h'
        · cases h'
          exact uses
      | signerFailed | raised => rcases goesOn with h' | h' <;> cases h'
  · intro call hcall
    rw [Request.writeContext_calls, Request.writeContext_shared, List.mem_append,
      List.mem_singleton] at hcall
    exact hcall

/-- The stretch after the signer. -/
theorem bound_signer (host : Host) (s : State) (routes : List Bytes) (r : Nat) {q : Request}
    {k : Nat} {reference : Option Nat} {pending : Pending} (now : Nat) (result : SignerResult)
    (h : RouteBound s routes q) (found : q.calls[k]? = some ⟨reference, .awaitSigner pending⟩) :
    let ended := afterSigner host now (q.context? reference) pending result
    BoundStep s routes r (q.advance k reference ended.1 (Begun.stage ended.2))
      [Begun.event r reference ended.2] := by
  intro ended
  obtain ⟨same, effect⟩ := afterSigner_effect host now (q.context? reference) pending result
  have uses := h.waiting _ (List.mem_of_getElem? found) pending rfl
  refine BoundStep.write h reference same.binding ?_ ?_
  · intro next goesOn
    show UsesRoute s routes reference next
    have goesOn : ended.2 = .sending next ∨ ended.2 = .awaitSigner next := goesOn
    change SignerEffect host now pending result ended.2 at effect
    generalize ended.2 = begun at effect goesOn
    cases effect with
    | failed => rcases goesOn with h' | h' <;> cases h'
    | signed post assertion kind summary observation =>
      rcases goesOn with h' | h'
      · cases h'
        exact uses.signed observation post.body assertion kind
      · cases h'
  · intro call hcall
    rw [Request.writeContext_calls] at hcall
    exact List.mem_or_eq_of_mem_set hcall

theorem bound_access (host : Host) (w : World) (routes : List Bytes) (r : Nat) (env : Env)
    (sharedTable : Bool) (routeId : Option Bytes)
    (h : RouteBound w.modules.transport routes (w.requests r)) :
    RouteBound w.modules.transport
      (routes ++ resolvedRoutes host w.modules.transport r [.access r env sharedTable routeId])
      ((w.requests r).accessed (access host env w.modules.transport sharedTable routeId)) := by
  unfold Request.accessed
  cases hshared : (access host env w.modules.transport sharedTable routeId).shared with
  | none =>
    have resolved : resolvedRoutes host w.modules.transport r [.access r env sharedTable routeId] =
        [] := by simp [resolvedRoutes, hshared]
    rw [resolved, List.append_nil]
    exact ⟨h.contexts, h.waiting⟩
  | some context =>
    obtain ⟨id, registry, route, rfl, -, -, -, -, rfl⟩ := access_stored hshared
    have resolved : resolvedRoutes host w.modules.transport r [.access r env sharedTable (some id)] =
        [id] := by simp [resolvedRoutes, hshared]
    rw [resolved]
    refine ⟨?_, fun call hcall pending waiting => (h.waiting call hcall pending waiting).append _⟩
    simp only [List.map_append, h.contexts]
    rfl

theorem bound_step (host : Host) (process : Process) (w : World) (routes : List Bytes) (r : Nat)
    {i : Step} (isOne : isCall i = true)
    (h : RouteBound w.modules.transport routes (w.requests r)) :
    BoundStep w.modules.transport (routes ++ resolvedRoutes host w.modules.transport r [i]) r
      ((step host process w i).1.requests r) (step host process w i).2 := by
  cases i with
  | access q env sharedTable routeId =>
    show BoundStep _ _ r ((accessStep host w q env sharedTable routeId).1.requests r)
      (accessStep host w q env sharedTable routeId).2
    unfold accessStep
    refine .unseen ?_ ?_
    · by_cases hq : r = q
      · subst hq
        rw [World.setRequest_self]
        exact bound_access host w routes r env sharedTable routeId h
      · have resolved : resolvedRoutes host w.modules.transport r
            [.access q env sharedTable routeId] = [] := by simp [resolvedRoutes, Ne.symm hq]
        rw [resolved, List.append_nil, World.setRequest_of_ne _ _ hq]
        exact h
    · intro reference pending shown
      dsimp only at shown
      split at shown
      · cases List.mem_singleton.mp shown
      · cases shown
  | begin q env client uri options =>
    show BoundStep _ (routes ++ []) r ((beginStep host w q env client uri options).1.requests r)
      (beginStep host w q env client uri options).2
    rw [List.append_nil]
    unfold beginStep
    split
    · by_cases hq : r = q
      · subst hq
        simp only [World.setRequest_self]
        exact bound_begin host w routes r env client uri options h
      · simp only [World.setRequest_of_ne _ _ hq]
        exact .unseen h (not_sent_elsewhere hq _ _)
    · exact .unseen h (by simp)
  | signerReturns q call now result =>
    show BoundStep _ (routes ++ []) r ((signerStep host w q call now result).1.requests r)
      (signerStep host w q call now result).2
    rw [List.append_nil]
    unfold signerStep
    split
    · rename_i found
      by_cases hq : r = q
      · subst hq
        simp only [World.setRequest_self]
        exact bound_signer host w.modules.transport routes r now result h found
      · simp only [World.setRequest_of_ne _ _ hq]
        exact .unseen h (not_sent_elsewhere hq _ _)
    · exact .unseen h (by simp)
  | networkReturns q call result =>
    show BoundStep _ (routes ++ []) r ((networkStep w q call result).1.requests r)
      (networkStep w q call result).2
    rw [List.append_nil]
    unfold networkStep
    split
    · rename_i reference pending found
      refine .unseen ?_ (by simp)
      by_cases hq : r = q
      · subst hq
        simp only [World.setRequest_self]
        have written : BoundStep w.modules.transport routes r
            { (w.requests r).writeContext reference
                (afterNetwork ((w.requests r).context? reference) pending result).1 with
              calls := (w.requests r).calls.set call ⟨reference, .finished⟩ }
            [Begun.event r reference .rejected] :=
          .write h reference
            (afterNetwork_effect ((w.requests r).context? reference) pending result).binding
            (by rintro _ (h' | h') <;> cases h') (fun _ hcall => List.mem_or_eq_of_mem_set hcall)
        have bound := written.bound
        rw [← Request.writeContext_calls (w.requests r) reference] at bound
        exact bound
      · simp only [World.setRequest_of_ne _ _ hq]
        exact h
    · exact .unseen h (by simp)
  | configure | initWorker | markBridgeLoaded | markBridgeStatus | bridgeConfigure |
    bridgeInitWorker | refreshTransportStatus | bridgeAccess | callback => cases isOne

theorem sent_uses_route (host : Host) (process : Process) (w : World) (routes : List Bytes) (r : Nat)
    (inputs : List Step) (calls : ∀ i ∈ inputs, isCall i = true)
    (h : RouteBound w.modules.transport routes (w.requests r)) :
    ∀ reference pending, .sent r reference pending ∈ (run host process w inputs).2 →
      UsesRoute w.modules.transport (routes ++ resolvedRoutes host w.modules.transport r inputs)
        reference pending := by
  induction inputs generalizing w routes with
  | nil => rintro _ _ ⟨⟩
  | cons i rest ih =>
    intro reference pending shown
    have isOne := calls i List.mem_cons_self
    have now := bound_step host process w routes r isOne h
    rw [resolvedRoutes_cons, ← List.append_assoc]
    rcases List.mem_append.mp shown with first | later
    · exact (now.sent reference pending first).append _
    · have same := call_modules host process isOne w
      have next := ih (step host process w i).1
        (routes ++ resolvedRoutes host w.modules.transport r [i])
        (fun j hj => calls j (List.mem_cons_of_mem i hj)) (by rw [same]; exact now.bound)
        reference pending later
      rwa [same] at next

/-! ## Two requests -/

/-- Request `r` among others, against the run in which only its own calls are made. -/
structure Independent (host : Host) (process : Process) (w : World) (r : Nat)
    (inputs : List Step) : Prop where
  modules : (run host process w inputs).1.modules = w.modules
  request : (run host process w inputs).1.requests r =
    (run host process w (inputs.filter (ofRequest r))).1.requests r
  outcomes : (run host process w inputs).2.filter (shownOn r) =
    (run host process w (inputs.filter (ofRequest r))).2
  routes : w.requests r = {} →
    ∀ reference pending, .sent r reference pending ∈ (run host process w inputs).2 →
      UsesRoute w.modules.transport (resolvedRoutes host w.modules.transport r inputs) reference
        pending

open Source.Deployment in
/-- A Route A request and a Route B request, interleaved. -/
def twoRequests : List Step :=
  [.access 0 env true (some routeA.routeId), .access 1 env true (some routeB.routeId),
    .begin 0 callEnv .nil (.str par) (formPost "client_id=third-party-fapi-mtls"),
    .begin 1 callEnv .nil (.str token)
      (formPost "client_id=third-party-fapi-pkj-mtls&grant_type=refresh_token"),
    .networkReturns 0 0 .failed, .signerReturns 1 0 1700000000 .raised]

end KonnectFapi.Guarantees

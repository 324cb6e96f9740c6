import KonnectFapi.Guarantees.ConcurrentRequests
import KonnectFapi.Lib.Ledger
import KonnectFapi.Source.Transport.GuardRecords

/-!
# Observations tell what was sent

Source: kong/plugins/fapi-as-mtls-transport/handler.lua:1075-1099, 1307-1454. The
calls of a request are followed by the last event each has shown before an answer;
a context's observations are the first of those that were rejected or went on.
-/

namespace KonnectFapi.Guarantees
open Lib Lib.Lua Lib.Ledger Source.Transport Source.Worker

/-! ## What a run shows of each call -/

/-- Whether a call on the `i`-th context is owed an entry, and whether the underlying
`request_uri` was invoked for it. -/
def recordedOn (i : Nat) : Event → Option Bool
  | .rejected _ (some j) => if j = i then some false else none
  | .signerCalled _ (some j) _ => if j = i then some false else none
  | .signerFailed _ (some j) _ => if j = i then some false else none
  | .sent _ (some j) _ => if j = i then some true else none
  | _ => none

/-- The calls of request `r` after one more step, by the last event each has shown. -/
def shownBy (r : Nat) (calls : List Event) : Step → List Event → List Event
  | .begin q .., emitted => if q = r then calls ++ emitted else calls
  | .signerReturns q k .., [event] => if q = r then calls.set k event else calls
  | _, _ => calls

/-- The calls of request `r` after a run, in the order they were made. -/
def callEvents (host : Host) (process : Process) (r : Nat) (w : World) (calls : List Event) :
    List Step → List Event
  | [] => calls
  | i :: rest =>
    callEvents host process r (step host process w i).1
      (shownBy r calls i (step host process w i).2) rest

/-- The calls request `r` makes are made while entries are kept. -/
def CorrelatedCall (r : Nat) (w : World) : Step → Prop
  | .begin q .. => q = r → Correlated w.modules.transport
  | _ => True

theorem recordedOn_event (i r : Nat) (reference : Option Nat) (begun : Begun) :
    recordedOn i (Begun.event r reference begun) =
      if reference = some i then begun.recorded else none := by
  cases reference with
  | none => cases begun <;> simp [Begun.event, recordedOn]
  | some j =>
    by_cases same : j = i
    · subst same
      cases begun <;> simp [Begun.event, recordedOn, Begun.recorded]
    · cases begun <;> simp [Begun.event, recordedOn, same]

/-! ## Calls against the entries they were given -/

/-- The place among the entries of context `i` the `k`-th call was given. -/
def slotOf (calls : List Event) (i k : Nat) : Option Nat :=
  freeSlot maxObservations ((calls.take k).filterMap (recordedOn i)).length

/-- A call that waits knows its place, and its entry tells what it has done so far. -/
structure WaitsRecorded (r : Nat) (calls : List Event) (k : Nat) (reference : Option Nat)
    (begun : Begun) (pending : Pending) (invoked : Bool) : Prop where
  shown : calls[k]? = some (Begun.event r reference begun)
  recorded : begun.recorded = some invoked
  tells : Tells pending.observation invoked
  slot : ∀ i, reference = some i → pending.slot = slotOf calls i k

/-- The observations of request `r` against its calls. -/
structure Records (r : Nat) (q : Request) (calls : List Event) : Prop where
  length : calls.length = q.calls.length
  shared : ∀ i, q.shared = some i → i < q.contexts.length
  known : ∀ i, q.contexts.length ≤ i → calls.filterMap (recordedOn i) = []
  logged : ∀ i log, (q.contexts.map Context.observations)[i]? = some log →
    Logged Tells maxObservations log (calls.filterMap (recordedOn i))
  signing : ∀ k reference pending, q.calls[k]? = some ⟨reference, .awaitSigner pending⟩ →
    WaitsRecorded r calls k reference (.awaitSigner pending) pending false
  sending : ∀ k reference pending, q.calls[k]? = some ⟨reference, .awaitNetwork pending⟩ →
    WaitsRecorded r calls k reference (.sending pending) pending true

/-- Writing through a reference rewrites the log of that context. -/
theorem writeContext_modify (q : Request) (i : Nat) (after : Option Context)
    (g : List Observation → List Observation)
    (effect : after.map Context.observations =
      (q.context? (some i)).map fun c => g c.observations) :
    (q.writeContext (some i) after).contexts.map Context.observations =
      (q.contexts.map Context.observations).modify i g := by
  apply List.ext_getElem?
  intro j
  have read : q.context? (some i) = q.contexts[i]? := rfl
  rw [read] at effect
  cases after with
  | none =>
    have absent : q.contexts[i]? = none := by simpa using effect.symm
    show (q.contexts.map Context.observations)[j]? = _
    rw [List.getElem?_modify]
    by_cases same : i = j
    · subst same
      simp [absent]
    · simp [same]
  | some c =>
    show ((q.contexts.set i c).map Context.observations)[j]? = _
    obtain ⟨c', found, log⟩ := Option.map_eq_some_iff.mp effect.symm
    rw [List.getElem?_modify, List.getElem?_map, List.getElem?_set]
    obtain ⟨inside, rfl⟩ := List.getElem?_eq_some_iff.mp found
    by_cases same : i = j
    · subst same
      simp [inside, log]
    · simp [same]

theorem WaitsRecorded.append {r k : Nat} {calls : List Event} {reference : Option Nat}
    {begun : Begun} {pending : Pending} {invoked : Bool}
    (h : WaitsRecorded r calls k reference begun pending invoked) (event : Event) :
    WaitsRecorded r (calls ++ [event]) k reference begun pending invoked := by
  have inside := (List.getElem?_eq_some_iff.mp h.shown).1
  refine ⟨by rw [List.getElem?_append_left inside, h.shown], h.recorded, h.tells, ?_⟩
  intro i isI
  rw [slotOf, List.take_append_of_le_length (Nat.le_of_lt inside)]
  exact h.slot i isI

/-- Another call that goes on moves no place. -/
theorem WaitsRecorded.set {r k m : Nat} {calls : List Event} {reference reference' : Option Nat}
    {begun now : Begun} {pending pending' : Pending} {invoked invoked' : Bool} {next : Begun}
    (h : WaitsRecorded r calls k reference begun pending invoked) (other : m ≠ k)
    (waits : WaitsRecorded r calls m reference' now pending' invoked')
    (recorded : next.recorded.isSome = true) :
    WaitsRecorded r (calls.set m (Begun.event r reference' next)) k reference begun pending
      invoked := by
  refine ⟨by rw [List.getElem?_set_ne other, h.shown], h.recorded, h.tells, ?_⟩
  intro i isI
  rw [slotOf, length_filterMap_take_set waits.shown ?_]
  · exact h.slot i isI
  · rw [recordedOn_event, recordedOn_event]
    split
    · rw [waits.recorded, recorded]
      rfl
    · rfl

/-! ## The first stretch -/

theorem Records.begin {r : Nat} {q : Request} {calls : List Event} (h : Records r q calls)
    {host : Host} {s : State} (enabled : Correlated s) (env : CallEnv)
    (client uri options : Value) :
    Records r (q.begin host s env client uri options).1
      (calls ++ [Begun.event r q.shared (q.begin host s env client uri options).2]) := by
  have effect : RecordsBegun (q.context? q.shared)
      (beginCall host s env (q.context? q.shared) client uri options).1
      (beginCall host s env (q.context? q.shared) client uri options).2 := beginCall_records enabled ..
  unfold Request.begin
  generalize beginCall host s env (q.context? q.shared) client uri options = result at effect
  obtain ⟨after, begun⟩ := result
  dsimp only at effect ⊢
  simp only [Request.writeContext_calls, Request.writeContext_shared]
  -- what the stretch does to the log of its context
  obtain ⟨g, logs, keeps⟩ : ∃ g : List Observation → List Observation,
      after.map Context.observations = (q.context? q.shared).map (fun c => g c.observations) ∧
      ∀ log facts, Logged Tells maxObservations log facts →
        Logged Tells maxObservations (g log) (facts ++ begun.recorded.toList) := by
    cases recorded : begun.recorded with
    | none => exact ⟨id, effect.silent recorded, fun log facts h => by simpa using h⟩
    | some invoked =>
      obtain ⟨entry, tells, noted⟩ := effect.noted invoked recorded
      exact ⟨fun log => record maxObservations log entry, noted, fun log facts h => h.record tells⟩
  -- a call that goes on has the place that was free
  have started : ∀ pending invoked, begun.pending? = some pending →
      begun.recorded = some invoked →
      WaitsRecorded r (calls ++ [Begun.event r q.shared begun]) q.calls.length q.shared begun pending
        invoked := by
    intro pending invoked isPending recorded
    obtain ⟨tells, slot⟩ := effect.going pending isPending invoked recorded
    refine ⟨by rw [← h.length, List.getElem?_concat_length], recorded, tells, fun i isI => ?_⟩
    have inside := h.shared i isI
    have log := h.logged i _ (by rw [List.getElem?_map, List.getElem?_eq_getElem inside]; rfl)
    rw [slotOf, ← h.length, List.take_left' rfl, ← log.freeSlot]
    exact slot q.contexts[i] (by rw [isI]; exact List.getElem?_eq_getElem inside)
  refine ⟨by simp [h.length], ?_, ?_, ?_, ?_, ?_⟩
  · intro i isI
    show i < (q.writeContext q.shared after).contexts.length
    rw [writeContext_length]
    exact h.shared i isI
  · intro i hi
    have hi : (q.writeContext q.shared after).contexts.length ≤ i := hi
    rw [writeContext_length] at hi
    have elsewhere : q.shared ≠ some i := fun isI => by
      have := h.shared i isI
      omega
    rw [filterMap_append_one, recordedOn_event, if_neg elsewhere, h.known i hi]
    rfl
  · intro j log found
    have found : ((q.writeContext q.shared after).contexts.map Context.observations)[j]? =
      some log := found
    rw [filterMap_append_one, recordedOn_event]
    cases isI : q.shared with
    | none =>
      rw [isI] at found
      rw [if_neg (by simp)]
      simpa using h.logged j log found
    | some i =>
      rw [isI] at found logs
      rw [writeContext_modify q i after g logs, List.getElem?_modify] at found
      obtain ⟨before, was, rfl⟩ := Option.map_eq_some_iff.mp found
      by_cases same : i = j
      · subst same
        simpa using keeps before _ (h.logged i before was)
      · simpa [same] using h.logged j before was
  · intro k reference pending found
    rcases getElem?_concat_eq_some found with old | ⟨rfl, new⟩
    · exact (h.signing k reference pending old).append _
    · cases begun with
      | awaitSigner => cases new; exact started _ _ rfl rfl
      | sending | rejected | signerFailed | passthrough | raised => cases new
  · intro k reference pending found
    rcases getElem?_concat_eq_some found with old | ⟨rfl, new⟩
    · exact (h.sending k reference pending old).append _
    · cases begun with
      | sending => cases new; exact started _ _ rfl rfl
      | awaitSigner | rejected | signerFailed | passthrough | raised => cases new

/-! ## The later stretches -/

/-- A waiting call that goes on to `next`, its entry rewritten in its place. -/
theorem Records.advance {r : Nat} {q : Request} {calls : List Event} (h : Records r q calls)
    {k : Nat} {reference : Option Nat} {was : Stage} (found : q.calls[k]? = some ⟨reference, was⟩)
    {now next : Begun} {pending : Pending} {invoked invoked' : Bool}
    (waits : WaitsRecorded r calls k reference now pending invoked)
    (recorded : next.recorded = some invoked') {entry : Observation} (tells : Tells entry invoked')
    {after : Option Context}
    (rewritten : after.map Context.observations =
      (q.context? reference).map fun c => rewrite c.observations pending.slot entry)
    {stage : Stage} (asked : ∀ p, stage ≠ .awaitSigner p)
    (going : ∀ p, stage = .awaitNetwork p →
      next = .sending p ∧ Tells p.observation true ∧ p.slot = pending.slot) :
    Records r (q.advance k reference after stage)
      (calls.set k (Begun.event r reference next)) := by
  have inside := (List.getElem?_eq_some_iff.mp waits.shown).1
  have isCalls : (q.advance k reference after stage).calls = q.calls.set k ⟨reference, stage⟩ := by
    show (q.writeContext reference after).calls.set k _ = _
    rw [Request.writeContext_calls]
  have isContexts : (q.advance k reference after stage).contexts =
      (q.writeContext reference after).contexts := rfl
  have both : next.recorded.isSome = true := by rw [recorded]; rfl
  -- the events before and after on a context of another call
  have elsewhere : ∀ i, reference ≠ some i →
      (calls.set k (Begun.event r reference next)).filterMap (recordedOn i) =
        calls.filterMap (recordedOn i) := by
    intro i other
    refine filterMap_set_of_eq waits.shown ?_
    rw [recordedOn_event, recordedOn_event, if_neg other, if_neg other]
  have here : ∀ i, reference = some i →
      (calls.set k (Begun.event r reference next)).filterMap (recordedOn i) =
        (calls.filterMap (recordedOn i)).set ((calls.take k).filterMap (recordedOn i)).length
          invoked' := by
    intro i isI
    refine filterMap_set_of_some (x := invoked) waits.shown ?_ ?_
    · rw [recordedOn_event, if_pos isI, waits.recorded]
    · rw [recordedOn_event, if_pos isI, recorded]
  refine ⟨by rw [isCalls, List.length_set, List.length_set, h.length], ?_, ?_, ?_, ?_, ?_⟩
  · intro i isI
    rw [isContexts, writeContext_length]
    have isI : (q.writeContext reference after).shared = some i := isI
    exact h.shared i (by simpa using isI)
  · intro i outside
    rw [isContexts, writeContext_length] at outside
    have none := h.known i outside
    rw [elsewhere i ?_, none]
    rintro isI
    have : recordedOn i (Begun.event r reference now) = Option.none :=
      List.filterMap_eq_nil_iff.mp none _ (List.mem_of_getElem? waits.shown)
    rw [recordedOn_event, if_pos isI, waits.recorded] at this
    cases this
  · intro j log hlog
    rw [isContexts] at hlog
    cases isI : reference with
    | none =>
      rw [← isI, elsewhere j (by simp [isI])]
      rw [isI] at hlog
      exact h.logged j log hlog
    | some i =>
      rw [isI] at hlog rewritten
      rw [writeContext_modify q i after (fun log => rewrite log pending.slot entry) rewritten,
        List.getElem?_modify] at hlog
      obtain ⟨before, hbefore, rfl⟩ := Option.map_eq_some_iff.mp hlog
      rw [← isI]
      by_cases same : i = j
      · subst same
        rw [here i isI, if_pos rfl, waits.slot i isI]
        exact (h.logged i before hbefore).rewrite tells
      · rw [elsewhere j (by simpa [isI] using same), if_neg same]
        exact h.logged j before hbefore
  · intro m reference' p hm
    rw [isCalls] at hm
    by_cases same : k = m
    · subst same
      rw [List.getElem?_set_self (List.getElem?_eq_some_iff.mp found).1] at hm
      cases hm
      exact absurd rfl (asked p)
    · rw [List.getElem?_set_ne same] at hm
      exact (h.signing m reference' p hm).set same waits both
  · intro m reference' p hm
    rw [isCalls] at hm
    by_cases same : k = m
    · subst same
      rw [List.getElem?_set_self (List.getElem?_eq_some_iff.mp found).1] at hm
      cases hm
      obtain ⟨rfl, tells', slot⟩ := going p rfl
      refine ⟨List.getElem?_set_self inside, rfl, tells', fun i isI => ?_⟩
      rw [slot, waits.slot i isI, slotOf, slotOf, List.take_set_of_le (Nat.le_refl k)]
    · rw [List.getElem?_set_ne same] at hm
      exact (h.sending m reference' p hm).set same waits both

theorem Records.signer {r : Nat} {q : Request} {calls : List Event} (h : Records r q calls)
    (host : Host) (now : Nat) (result : SignerResult) {k : Nat} {reference : Option Nat}
    {pending : Pending} (found : q.calls[k]? = some ⟨reference, .awaitSigner pending⟩) :
    let ended := afterSigner host now (q.context? reference) pending result
    Records r (q.advance k reference ended.1 (Begun.stage ended.2))
      (calls.set k (Begun.event r reference ended.2)) := by
  intro ended
  have waits := h.signing k reference pending found
  have resumed := afterSigner_records host now (q.context? reference) waits.tells result
  obtain ⟨entry, invoked, recorded, tells, rewritten⟩ := resumed.rewritten
  have going := resumed.going
  refine h.advance found waits recorded tells rewritten ?_ ?_
  · intro p isStage
    cases isEnded : ended.2 with
    | awaitSigner p' =>
      obtain ⟨same, -⟩ := going p' (by show ended.2.pending? = _; rw [isEnded]; rfl)
      rw [show (afterSigner host now (q.context? reference) pending result).2 = _ from isEnded] at same
      cases same
    | sending | rejected | signerFailed | passthrough | raised =>
      rw [isEnded] at isStage
      cases isStage
  · intro p isStage
    refine going p ?_
    show ended.2.pending? = _
    cases isEnded : ended.2 with
    | sending p' =>
      rw [isEnded] at isStage
      cases isStage
      rfl
    | awaitSigner | rejected | signerFailed | passthrough | raised =>
      rw [isEnded] at isStage
      cases isStage

theorem Records.network {r : Nat} {q : Request} {calls : List Event} (h : Records r q calls)
    (result : NetworkResult) {k : Nat} {reference : Option Nat} {pending : Pending}
    (found : q.calls[k]? = some ⟨reference, .awaitNetwork pending⟩) :
    Records r
      (q.advance k reference (afterNetwork (q.context? reference) pending result).1 .finished)
      calls := by
  have waits := h.sending k reference pending found
  obtain ⟨entry, tells, rewritten⟩ :=
    afterNetwork_records (q.context? reference) waits.tells result
  rw [← set_self_of_getElem? waits.shown]
  exact h.advance found waits waits.recorded tells rewritten (by rintro _ ⟨⟩) (by rintro _ ⟨⟩)

/-! ## The other steps -/

/-- A request whose observations and calls stay. -/
theorem Records.kept {r : Nat} {q q' : Request} {calls : List Event} (h : Records r q calls)
    (same : q'.contexts.map Context.observations = q.contexts.map Context.observations)
    (isCalls : q'.calls = q.calls) (isShared : q'.shared = q.shared) : Records r q' calls := by
  have length : q'.contexts.length = q.contexts.length := by
    simpa using congrArg List.length same
  exact {
    length := by rw [isCalls, h.length]
    shared := fun i isI => length ▸ h.shared i (isShared ▸ isI)
    known := fun i hi => h.known i (length ▸ hi)
    logged := by rw [same]; exact h.logged
    signing := by rw [isCalls]; exact h.signing
    sending := by rw [isCalls]; exact h.sending }

/-- A fresh context has no entries, and no call was made on it. -/
theorem Records.access {r : Nat} {q : Request} {calls : List Event} (h : Records r q calls)
    (host : Host) (env : Env) (s : State) (sharedTable : Bool) (routeId : Option Bytes) :
    Records r (q.accessed (Source.Transport.access host env s sharedTable routeId)) calls := by
  unfold Request.accessed
  split
  · rename_i context stored
    obtain ⟨id, registry, route, -, -, -, -, -, fresh⟩ := access_stored stored
    have empty : context.observations = [] := by rw [fresh]; rfl
    refine ⟨h.length, ?_, ?_, ?_, h.signing, h.sending⟩
    · rintro _ ⟨⟩
      simp
    · intro i hi
      simp only [List.length_append, List.length_singleton] at hi
      exact h.known i (by omega)
    · intro i log found
      rw [List.map_append] at found
      rcases getElem?_concat_eq_some found with old | ⟨rfl, rfl⟩
      · exact h.logged i log old
      · rw [List.length_map, h.known _ (Nat.le_refl _), empty]
        exact .nil
  · exact ⟨h.length, by rintro _ ⟨⟩, h.known, h.logged, h.signing, h.sending⟩

theorem records_step (host : Host) (process : Process) (r : Nat) (w : World) (i : Step)
    (enabled : CorrelatedCall r w i) {calls : List Event} (h : Records r (w.requests r) calls) :
    Records r ((step host process w i).1.requests r)
      (shownBy r calls i (step host process w i).2) := by
  cases i with
  | configure | initWorker | markBridgeLoaded | markBridgeStatus | bridgeConfigure |
    bridgeInitWorker | refreshTransportStatus => exact h
  | bridgeAccess q env accessEnv conf =>
    show Records r ((bridgeAccessStep host process w q env accessEnv conf).1.requests r) calls
    unfold bridgeAccessStep
    by_cases same : r = q
    · subst same
      simp only [World.setRequest_self]
      refine h.kept (writeContext_map Context.observations _ _ _ ?_) (Request.writeContext_calls ..)
        (Request.writeContext_shared ..)
      rcases Source.Bridge.access_context host process env accessEnv conf
        ((w.requests r).context? (w.requests r).shared) w.modules
        with kept | ⟨-, c, epoch, signerConf, found, registered⟩
      · rw [kept]
      · rw [registered, found]
        rfl
    · simp only [World.setRequest_of_ne _ _ same]
      exact h
  | access q env sharedTable routeId =>
    show Records r ((accessStep host w q env sharedTable routeId).1.requests r) calls
    unfold accessStep
    by_cases same : r = q
    · subst same
      simp only [World.setRequest_self]
      exact h.access host env w.modules.transport sharedTable routeId
    · simp only [World.setRequest_of_ne _ _ same]
      exact h
  | begin q env client uri options =>
    show Records r ((beginStep host w q env client uri options).1.requests r)
      (if q = r then calls ++ (beginStep host w q env client uri options).2 else calls)
    unfold beginStep
    by_cases same : r = q
    · subst same
      rw [if_pos rfl]
      split
      · simp only [World.setRequest_self]
        exact h.begin (enabled rfl) env client uri options
      · rw [List.append_nil]
        exact h
    · rw [if_neg (Ne.symm same)]
      split
      · simp only [World.setRequest_of_ne _ _ same]
        exact h
      · exact h
  | signerReturns q k now result =>
    show Records r ((signerStep host w q k now result).1.requests r)
      (shownBy r calls (.signerReturns q k now result) (signerStep host w q k now result).2)
    unfold signerStep
    split
    · rename_i reference pending found
      by_cases same : r = q
      · subst same
        simp only [World.setRequest_self, shownBy, if_true]
        exact h.signer host now result found
      · simp only [World.setRequest_of_ne _ _ same, shownBy, if_neg (Ne.symm same)]
        exact h
    · exact h
  | networkReturns q k result =>
    show Records r ((networkStep w q k result).1.requests r) calls
    unfold networkStep
    split
    · rename_i reference pending found
      by_cases same : r = q
      · subst same
        simp only [World.setRequest_self]
        exact h.network result found
      · simp only [World.setRequest_of_ne _ _ same]
        exact h
    · exact h
  | callback q j accessEnv =>
    show Records r ((callbackStep host w q j accessEnv).1.requests r) calls
    unfold callbackStep
    split
    · split <;> exact h
    · exact h

theorem records_run (host : Host) (process : Process) (r : Nat) (w : World) (inputs : List Step)
    (enabled : Machine.RunMeets (step host process) (CorrelatedCall r) w inputs)
    {calls : List Event} (h : Records r (w.requests r) calls) :
    Records r ((run host process w inputs).1.requests r)
      (callEvents host process r w calls inputs) := by
  induction inputs generalizing w calls with
  | nil => exact h
  | cons i rest ih => exact ih _ enabled.2 (records_step host process r w i enabled.1 h)

/-- Every context of request `r` keeps one entry for each of its first 32 calls that were
rejected or went on, in call order, and each tells whether `request_uri` was invoked. -/
def ObservationsTruthful (host : Host) (process : Process) (w : World) (r : Nat)
    (inputs : List Step) : Prop :=
  ∀ (i : Nat) (c : Context), ((run host process w inputs).1.requests r).contexts[i]? = some c →
    c.observations.length ≤ 32 ∧
    Logged Tells maxObservations c.observations
      ((callEvents host process r w [] inputs).filterMap (recordedOn i))

/-- Whatever the calls of a request do, and however they are interleaved, its
observations tell the truth about what was sent. -/
theorem observations_truthful (host : Host) (process : Process) (w : World) (r : Nat)
    (fresh : w.requests r = {}) (inputs : List Step)
    (enabled : Machine.RunMeets (step host process) (CorrelatedCall r) w inputs) :
    ObservationsTruthful host process w r inputs := by
  have start : Records r (w.requests r) [] := by
    rw [fresh]
    exact ⟨rfl, by rintro _ ⟨⟩, fun _ _ => rfl, by simp, by simp, by simp⟩
  intro i c found
  have log := (records_run host process r w inputs enabled start).logged i c.observations
    (by rw [List.getElem?_map, found]; rfl)
  exact ⟨log.length_le, log⟩

/-- The calls themselves leave the registry as it is. -/
theorem correlated_calls {host : Host} {process : Process} {r : Nat} {w : World}
    {inputs : List Step} (enabled : Correlated w.modules.transport)
    (calls : ∀ i ∈ inputs, isCall i = true) :
    Machine.RunMeets (step host process) (CorrelatedCall r) w inputs := by
  induction inputs generalizing w with
  | nil => trivial
  | cons i rest ih =>
    refine ⟨?_, ih ?_ fun j hj => calls j (List.mem_cons_of_mem i hj)⟩
    · cases i with
      | begin => exact fun _ => enabled
      | configure | initWorker | markBridgeLoaded | markBridgeStatus | bridgeConfigure |
        bridgeInitWorker | bridgeAccess | refreshTransportStatus | access | signerReturns |
        networkReturns | callback => trivial
    · rw [call_modules host process (calls i List.mem_cons_self) w]
      exact enabled

open Source.Deployment in
/-- The offline worker, with entries kept. -/
def correlatedWorld : World :=
  let w := (run libraries offline World.initial started).1
  { w with modules := { w.modules with transport := { w.modules.transport with
      registry := w.modules.transport.registry.map fun registry =>
        { registry with evidenceCorrelationEnabled := true } } } }

theorem correlatedWorld_enabled : Correlated correlatedWorld.modules.transport := by
  have ready : (run Source.Deployment.libraries Source.Deployment.offline World.initial
      Source.Deployment.started).1.modules.transport.registry.isSome = true := by decide +kernel
  obtain ⟨registry, found⟩ := Option.isSome_iff_exists.mp ready
  refine ⟨{ registry with evidenceCorrelationEnabled := true }, ?_, rfl⟩
  simp only [correlatedWorld, found, Option.map_some]

open Source.Deployment in
/-- Route A posts its PAR form, which fails on the network, and posts it again. -/
def correlatedPosts : List Step :=
  [.access 0 env true (some routeA.routeId),
    .begin 0 { callEnv with random := some (List.replicate 16 7) } .nil (.str par)
      (formPost "client_id=third-party-fapi-mtls"),
    .networkReturns 0 0 .failed,
    .begin 0 callEnv .nil (.str par) (formPost "client_id=third-party-fapi-mtls")]

theorem observations_truthful_posts :
    ObservationsTruthful Source.Deployment.libraries Source.Deployment.offline correlatedWorld 0
      correlatedPosts := by
  have fresh : correlatedWorld.requests 0 = {} := rfl
  exact observations_truthful _ _ correlatedWorld 0 fresh correlatedPosts
    (correlated_calls correlatedWorld_enabled (by decide))

end KonnectFapi.Guarantees

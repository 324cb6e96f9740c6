import KonnectFapi.Source.Bridge.Signing
import KonnectFapi.Source.Deployment
import KonnectFapi.Source.WorkerContexts

/-!
# The bridge's failure latch

Source: kong/plugins/fapi-client-auth-bridge/handler.lua:232-390. The latch is final,
and a latched bridge registers no further signer. It does not reach the two places
that sign: the header branch of the access phase and the closures registered before.
-/

namespace KonnectFapi.Guarantees
open Lib Lib.Lua Source.Transport Source.Worker

/-- The event of an assertion handed out. -/
def isAssertion : Event → Bool
  | .assertion _ _ => true
  | _ => false

/-- A step on which the bridge signs, by its inputs and the state it is taken from. -/
def Signs (host : Host) (w : World) : Step → Prop
  | .bridgeAccess _ _ accessEnv conf => Source.Bridge.HeaderSigns host accessEnv conf w.modules.bridge
  | .callback r i accessEnv => ∃ context callback, (w.requests r).contexts[i]? = some context ∧
      context.signAssertion = some callback ∧
      Source.Bridge.CallbackSigns host accessEnv context callback w.modules
  | _ => False

theorem no_assertion_in_effects (effects : List FileEffect) :
    ∀ e ∈ effects.map Event.file, isAssertion e = false := by
  intro e he
  obtain ⟨effect, -, rfl⟩ := List.mem_map.mp he
  rfl

theorem no_assertion_in_ending (r : Nat) (ending : Source.Bridge.AccessEnd) :
    ∀ e ∈ (match ending with
      | .continue => []
      | .exit status => [Event.exited r status]), isAssertion e = false := by
  intro e he
  split at he
  · cases he
  · rw [List.mem_singleton.mp he]
    rfl

theorem bridgeAccess_silent (host : Host) (process : Process) (w : World) (r : Nat) (env : Env)
    (accessEnv : Source.Bridge.AccessEnv) (conf : Value) :
    (∀ e ∈ (bridgeAccessStep host process w r env accessEnv conf).2, isAssertion e = false) ↔
      ¬ Source.Bridge.HeaderSigns host accessEnv conf w.modules.bridge := by
  rw [← Source.Bridge.access_assertion host process env accessEnv conf
    ((w.requests r).context? (w.requests r).shared) w.modules]
  unfold bridgeAccessStep
  dsimp only
  generalize Source.Bridge.access host process env accessEnv conf
    ((w.requests r).context? (w.requests r).shared) w.modules = outcome
  rw [List.forall_mem_append, List.forall_mem_append,
    and_iff_right ⟨no_assertion_in_effects _, no_assertion_in_ending r _⟩]
  cases outcome.assertion <;> simp [isAssertion]

theorem callback_silent (host : Host) (w : World) (r i : Nat)
    (accessEnv : Source.Bridge.AccessEnv) :
    (∀ e ∈ (callbackStep host w r i accessEnv).2, isAssertion e = false) ↔
      ¬ ∃ context callback, (w.requests r).contexts[i]? = some context ∧
        context.signAssertion = some callback ∧
        Source.Bridge.CallbackSigns host accessEnv context callback w.modules := by
  unfold callbackStep
  split
  · rename_i context found
    split
    · rename_i callback stored
      have signs := Source.Bridge.signCallback_isSome host accessEnv context callback w.modules
      dsimp only
      generalize Source.Bridge.signCallback host accessEnv context callback w.modules = signed at signs
      obtain ⟨bridge, text⟩ := signed
      have only : (∃ context callback, (w.requests r).contexts[i]? = some context ∧
          context.signAssertion = some callback ∧
          Source.Bridge.CallbackSigns host accessEnv context callback w.modules) ↔
            Source.Bridge.CallbackSigns host accessEnv context callback w.modules := by
        constructor
        · rintro ⟨c, cb, hc, hcb, h⟩
          cases found.symm.trans hc
          cases stored.symm.trans hcb
          exact h
        · exact fun h => ⟨context, callback, found, stored, h⟩
      rw [only, ← signs]
      cases text <;> simp [isAssertion]
    · rename_i absent
      refine iff_of_true (by simp) ?_
      rintro ⟨c, cb, hc, hcb, -⟩
      cases found.symm.trans hc
      rw [absent] at hcb
      cases hcb
  · rename_i absent
    refine iff_of_true (by simp) ?_
    rintro ⟨c, cb, hc, -⟩
    rw [absent] at hc
    cases hc

theorem begun_silent (r : Nat) (context : Option Nat) (begun : Begun) :
    isAssertion (Begun.event r context begun) = false := by
  cases begun <;> rfl

/-- A step hands out no assertion exactly when the bridge does not sign on it. -/
theorem step_silent (host : Host) (process : Process) (w : World) (i : Step) :
    (∀ e ∈ (step host process w i).2, isAssertion e = false) ↔ ¬ Signs host w i := by
  cases i with
  | configure | initWorker | markBridgeLoaded | markBridgeStatus | bridgeConfigure |
    bridgeInitWorker | refreshTransportStatus =>
    exact iff_of_true (no_assertion_in_effects _) not_false
  | bridgeAccess r env accessEnv conf => exact bridgeAccess_silent host process w r env accessEnv conf
  | callback r i accessEnv => exact callback_silent host w r i accessEnv
  | access r env sharedTable routeId =>
    refine iff_of_true ?_ not_false
    show ∀ e ∈ (accessStep host w r env sharedTable routeId).2, _
    unfold accessStep
    dsimp only
    split <;> simp [isAssertion]
  | begin r env self uri options =>
    refine iff_of_true ?_ not_false
    show ∀ e ∈ (beginStep host w r env self uri options).2, _
    unfold beginStep
    split <;> simp [begun_silent]
  | signerReturns r call now result =>
    refine iff_of_true ?_ not_false
    show ∀ e ∈ (signerStep host w r call now result).2, _
    unfold signerStep
    split <;> simp [begun_silent]
  | networkReturns r call result =>
    refine iff_of_true ?_ not_false
    show ∀ e ∈ (networkStep w r call result).2, _
    unfold networkStep
    split <;> simp [isAssertion]

/-! ## The latch over a run -/

theorem latched_step (host : Host) (process : Process) (w : World) (i : Step)
    (h : Source.Bridge.Latched w.modules.bridge) :
    Source.Bridge.Latched (step host process w i).1.modules.bridge := by
  have refreshed : ∀ (env : Env) (m : Source.Bridge.Modules), Source.Bridge.Latched m.bridge →
      Source.Bridge.Latched
        (Source.Bridge.refreshTransportStatus host process env m).modules.bridge := by
    intro env m hm
    rw [Source.Bridge.refreshTransportStatus_latched host process env hm]
    exact ⟨hm.failed, hm.delivery⟩
  have refreshAfter : ∀ (env : Env) (outcome : Outcome), Source.Bridge.Latched
      (refreshAfter host process env w.modules.bridge outcome).modules.bridge := by
    intro env outcome
    unfold Source.Worker.refreshAfter
    split
    · exact refreshed env _ h
    · exact h
  cases i with
  | configure env refreshEnv configs => exact refreshAfter refreshEnv _
  | initWorker env refreshEnv => exact refreshAfter refreshEnv _
  | markBridgeLoaded env => exact h
  | markBridgeStatus env ready epoch => exact h
  | bridgeConfigure loadedEnv env configs =>
    exact Source.Bridge.configure_latched host process loadedEnv env configs h
  | bridgeInitWorker loadedEnv env =>
    exact Source.Bridge.initWorker_latched host process loadedEnv env h
  | bridgeAccess r env accessEnv conf =>
    exact Source.Bridge.access_latched host process env accessEnv conf _ h
  | refreshTransportStatus env => exact refreshed env _ h
  | access r env sharedTable routeId => exact h
  | begin r env self uri options =>
    show Source.Bridge.Latched (beginStep host w r env self uri options).1.modules.bridge
    rw [beginStep_modules]
    exact h
  | signerReturns r call now result =>
    show Source.Bridge.Latched (signerStep host w r call now result).1.modules.bridge
    rw [signerStep_modules]
    exact h
  | networkReturns r call result =>
    show Source.Bridge.Latched (networkStep w r call result).1.modules.bridge
    rw [networkStep_modules]
    exact h
  | callback r i accessEnv =>
    show Source.Bridge.Latched (callbackStep host w r i accessEnv).1.modules.bridge
    unfold callbackStep
    split
    · split
      · dsimp only
        unfold Source.Bridge.signCallback
        dsimp only
        split
        · exact h
        · exact Source.Bridge.createAssertion_latched host accessEnv _ _ h
      · exact h
    · exact h

/-- The signer a context carries is one it carried in `w` already. -/
def NoNewSigner (w later : World) : Prop :=
  ∀ (r i : Nat) (c : Context), (later.requests r).contexts[i]? = some c → c.signAssertion.isSome = true →
    ∃ before, (w.requests r).contexts[i]? = some before ∧ before.signAssertion = c.signAssertion

theorem signers_of_bindings {contexts after : List Context} {j : Nat} {c : Context}
    (same : after.map Context.binding = contexts.map Context.binding) (hc : after[j]? = some c) :
    ∃ before, contexts[j]? = some before ∧ before.signAssertion = c.signAssertion := by
  have read := congrArg (fun bindings => bindings[j]?) same
  simp only [List.getElem?_map, hc, Option.map_some] at read
  obtain ⟨before, hbefore, binding⟩ := Option.map_eq_some_iff.mp read.symm
  refine ⟨before, hbefore, ?_⟩
  show before.binding.signAssertion = c.binding.signAssertion
  rw [binding]

theorem noNewSigner_step (host : Host) (process : Process) (w v : World) (i : Step)
    (h : Source.Bridge.Latched v.modules.bridge) (old : NoNewSigner w v) :
    NoNewSigner w (step host process v i).1 := by
  intro r j c hc signer
  have effect := step_contexts host process v i r
  generalize hbindings : ((step host process v i).1.requests r).contexts.map Context.binding =
    bindings at effect
  cases effect with
  | kept =>
    obtain ⟨before, hbefore, same⟩ := signers_of_bindings hbindings hc
    obtain ⟨first, hfirst, same'⟩ := old r j before hbefore (same ▸ signer)
    exact ⟨first, hfirst, same'.trans same⟩
  | created env sharedTable routeId context stored =>
    rw [← List.map_singleton, ← List.map_append] at hbindings
    obtain ⟨before, hbefore, same⟩ := signers_of_bindings hbindings hc
    rw [List.getElem?_append] at hbefore
    split at hbefore
    · obtain ⟨first, hfirst, same'⟩ := old r j before hbefore (same ▸ signer)
      exact ⟨first, hfirst, same'.trans same⟩
    · -- a context starts without a signer
      obtain ⟨id, registry, route, -, -, -, -, -, fresh⟩ := access_stored stored
      rw [List.mem_singleton.mp (List.mem_of_getElem? hbefore), fresh] at same
      rw [← same] at signer
      cases signer
  | registered env accessEnv conf k context epoch signerConf live =>
    rw [h.failed] at live
    cases live

/-- Once the bridge of a delegate worker has latched, the latch stays, no context gains
a signer, and the bridge hands out assertions on exactly the header-mode access phases
that pass their own checks and the invocations of closures registered before whose
transport-side facts still hold. -/
theorem signing_latch (host : Host) (process : Process) (before after : List Step)
    (latched : Source.Bridge.Latched
      (run host process World.initial before).1.modules.bridge) :
    let w := (run host process World.initial before).1
    let later := run host process w after
    Source.Bridge.Latched later.1.modules.bridge ∧ NoNewSigner w later.1 ∧
      ((∀ e ∈ later.2, isAssertion e = false) ↔
        Machine.RunMeets (step host process) (fun v i => ¬ Signs host v i) w after) := by
  intro w later
  have kept : Source.Bridge.Latched later.1.modules.bridge ∧ NoNewSigner w later.1 :=
    Machine.run_invariant
      (P := fun v : World => Source.Bridge.Latched v.modules.bridge ∧ NoNewSigner w v)
      (fun v i h => ⟨latched_step host process v i h.1, noNewSigner_step host process w v i h.1 h.2⟩)
      w after ⟨latched, fun r i c hc _ => ⟨c, hc, rfl⟩⟩
  refine ⟨kept.1, kept.2, ?_⟩
  rw [Machine.forall_run_outputs]
  exact Machine.RunMeets.congr (fun v i => step_silent host process v i) w after

/-! ## A configuration that turns to header delivery -/

open Source.Deployment in
/-- The deployed bridge, then the same configuration with its delivery changed. -/
def deliveryChanged : List Step :=
  [.bridgeConfigure env env (configured (bridgeConfig "transport_delegate" (ascii "kid"))),
    .bridgeConfigure env env (configured (bridgeConfig "header" (ascii "kid")))]

def discoveryBody : Bytes := ascii "\x7b\"issuer\":\"" ++ issuer ++ ascii "\"\x7d"

def signingAccess : Source.Bridge.AccessEnv where
  files := Source.Deployment.files
  time := 1700000000
  now := 1700000000
  suppliedByClient := false
  discovery := some ⟨200, discoveryBody⟩
  random := some (List.replicate 32 7)

/-- The access phase of the changed configuration. -/
def accessChanged : Step :=
  .bridgeAccess 0 Source.Deployment.env signingAccess
    (Source.Deployment.bridgeConfig "header" (ascii "kid"))

def quoted (text : Bytes) : Bytes := [34] ++ text ++ [34]

/-- `cjson.encode` of a table of plain strings and whole numbers. -/
def encodeFlat (v : Value) : Option Bytes := do
  let members ← v.fields.mapM fun
    | (.str name, .str text) => some (quoted name ++ [58] ++ quoted text)
    | (.str name, .num q) => some (quoted name ++ [58] ++ decimal q.num.toNat)
    | _ => none
  return ascii "\x7b" ++ join [44] members ++ ascii "\x7d"

/-- Libraries that also read the discovery document and sign. -/
def signingHost : Host :=
  { Source.Deployment.libraries with
    cjsonDecode := fun text =>
      if text = discoveryBody then some (.table 0 [(.name "issuer", .str issuer)]) else none
    cjsonEncode := encodeFlat
    sign := fun _ _ => some (List.replicate 384 0) }

theorem deliveryChanged_latches : Source.Bridge.Latched (run signingHost
    Source.Deployment.process World.initial deliveryChanged).1.modules.bridge :=
  ⟨by decide +kernel, by decide +kernel⟩

theorem signing_latch_delivery_changed :
    let w := (run signingHost Source.Deployment.process World.initial deliveryChanged).1
    let later := run signingHost Source.Deployment.process w [accessChanged]
    Source.Bridge.Latched later.1.modules.bridge ∧ NoNewSigner w later.1 ∧
      ((∀ e ∈ later.2, isAssertion e = false) ↔
        Machine.RunMeets (step signingHost Source.Deployment.process)
          (fun v i => ¬ Signs signingHost v i) w [accessChanged]) :=
  signing_latch signingHost Source.Deployment.process deliveryChanged [accessChanged]
    deliveryChanged_latches

/-- After the latch, the configuration that caused it still gets its assertions. -/
theorem latched_bridge_signs :
    ¬ ∀ (host : Host) (process : Process) (before after : List Step),
      Source.Bridge.Latched (run host process World.initial before).1.modules.bridge →
        ∀ e ∈ (run host process (run host process World.initial before).1 after).2,
          isAssertion e = false := by
  intro claimed
  have silent := claimed signingHost Source.Deployment.process deliveryChanged [accessChanged]
    deliveryChanged_latches
  have signed : (run signingHost Source.Deployment.process
      (run signingHost Source.Deployment.process World.initial deliveryChanged).1
      [accessChanged]).2.any isAssertion = true := by decide +kernel
  obtain ⟨e, he, is⟩ := List.any_eq_true.mp signed
  rw [silent e he] at is
  cases is

end KonnectFapi.Guarantees

import KonnectFapi.Source.Bridge.Effects
import KonnectFapi.Source.Worker

/-!
# What a step does to the module states

Request steps leave the transport state alone; module steps are described by the
operation they run, followed by what the bridge reports.
-/

namespace KonnectFapi.Source.Worker
open Lib Lib.Lua Transport

@[simp] theorem World.setRequest_modules (w : World) (r : Nat) (request : Request) :
    (w.setRequest r request).modules = w.modules := rfl

@[simp] theorem World.setRequest_self (w : World) (r : Nat) (request : Request) :
    (w.setRequest r request).requests r = request := Function.update_self ..

theorem World.setRequest_of_ne (w : World) (request : Request) {r q : Nat} (h : r ≠ q) :
    (w.setRequest q request).requests r = w.requests r := Function.update_of_ne h ..

@[simp] theorem Request.writeContext_calls (request : Request) (reference : Option Nat)
    (context : Option Context) : (request.writeContext reference context).calls = request.calls := by
  unfold Request.writeContext
  split <;> rfl

@[simp] theorem Request.writeContext_shared (request : Request) (reference : Option Nat)
    (context : Option Context) :
    (request.writeContext reference context).shared = request.shared := by
  unfold Request.writeContext
  split <;> rfl

@[simp] theorem Request.accessed_calls (request : Request) (result : AccessResult) :
    (request.accessed result).calls = request.calls := by
  unfold Request.accessed
  split <;> rfl

theorem refreshAfter_guard (host : Host) (process : Process) (env : Env) (bridge : Bridge.State)
    (outcome : Transport.Outcome) :
    outcome.state.core.GuardUnchanged
      (refreshAfter host process env bridge outcome).modules.transport.core := by
  unfold refreshAfter
  split
  · exact Bridge.refreshTransportStatus_guard host process env _
  · rfl

section
variable (host : Host) (process : Process)

theorem beginStep_modules (w : World) (r : Nat) (env : CallEnv) (self uri options : Value) :
    (beginStep host w r env self uri options).1.modules = w.modules := by
  unfold beginStep
  split <;> rfl

theorem signerStep_modules (w : World) (r call now : Nat) (result : SignerResult) :
    (signerStep host w r call now result).1.modules = w.modules := by
  unfold signerStep
  split <;> rfl

theorem networkStep_modules (w : World) (r call : Nat) (result : NetworkResult) :
    (networkStep w r call result).1.modules = w.modules := by
  unfold networkStep
  split <;> rfl

/-- Invoking a stored closure can change the bridge's key cache only. -/
theorem callbackStep_transport (w : World) (r i : Nat) (accessEnv : Bridge.AccessEnv) :
    (callbackStep host w r i accessEnv).1.modules.transport = w.modules.transport := by
  unfold callbackStep
  split
  · split <;> rfl
  · rfl

/-- The steps that act on the transport otherwise than by the bridge's reports. -/
def Step.setsUp : Step → Bool
  | .configure .. => true
  | .initWorker .. => true
  | _ => false

theorem step_kept {P : Transport.State → Prop} (kept : Bridge.KeptByReports process P) (w : World)
    {i : Step} (reports : i.setsUp = false) (h : P w.modules.transport) :
    P (step host process w i).1.modules.transport := by
  cases i with
  | configure | initWorker => cases reports
  | markBridgeLoaded env => exact kept.loaded env _ h
  | markBridgeStatus env ready epoch => exact kept.markStatus env ready epoch h
  | bridgeConfigure loadedEnv env configs => exact kept.configure host loadedEnv env configs h
  | bridgeInitWorker loadedEnv env => exact kept.initWorker host loadedEnv env h
  | bridgeAccess r env accessEnv conf => exact kept.access host env accessEnv conf _ h
  | refreshTransportStatus env => exact kept.refreshTransportStatus host env h
  | access r env sharedTable routeId => exact h
  | begin r env self uri options =>
    show P (beginStep host w r env self uri options).1.modules.transport
    rw [beginStep_modules]
    exact h
  | signerReturns r call now result =>
    show P (signerStep host w r call now result).1.modules.transport
    rw [signerStep_modules]
    exact h
  | networkReturns r call result =>
    show P (networkStep w r call result).1.modules.transport
    rw [networkStep_modules]
    exact h
  | callback r i accessEnv =>
    show P (callbackStep host w r i accessEnv).1.modules.transport
    rw [callbackStep_transport]
    exact h

/-- The effect of a step on what the guard decides by. -/
inductive TransportEffect (w : World) (after : Core) : Step → Prop where
  | configure (env refreshEnv : Env) (configs : Value) (core : Core)
      (effect : ConfigureEffect host process env configs w.modules.transport core)
      (guard : core.GuardUnchanged after) : TransportEffect w after (.configure env refreshEnv configs)
  | initWorker (env refreshEnv : Env)
      (guard : (Transport.initWorker host process env w.modules.transport).state.core.GuardUnchanged
        after) : TransportEffect w after (.initWorker env refreshEnv)
  | other (i : Step) (guard : w.modules.transport.core.GuardUnchanged after) :
      TransportEffect w after i

theorem step_transport (w : World) (i : Step) :
    TransportEffect host process w (step host process w i).1.modules.transport.core i := by
  cases i with
  | configure env refreshEnv configs =>
    exact .configure env refreshEnv configs _
      (configure_effect host process env configs w.modules.transport)
      (refreshAfter_guard host process refreshEnv w.modules.bridge _)
  | initWorker env refreshEnv =>
    exact .initWorker env refreshEnv (refreshAfter_guard host process refreshEnv w.modules.bridge _)
  | markBridgeLoaded | markBridgeStatus | bridgeConfigure | bridgeInitWorker | bridgeAccess |
    refreshTransportStatus | access | begin | signerReturns | networkReturns | callback =>
    exact .other _ (step_kept host process (Bridge.guardKept process _) w rfl rfl)

/-- The effect of a step on the calls of one request. -/
inductive CallsEffect (before : List Call) : List Call → Prop where
  | unchanged : CallsEffect before before
  | started (call : Call) : CallsEffect before (before ++ [call])
  | advanced (k : Nat) (call next : Call) (was : before[k]? = some call)
      (running : call.stage ≠ .finished) : CallsEffect before (before.set k next)

theorem step_calls (w : World) (i : Step) (r : Nat) :
    CallsEffect (w.requests r).calls ((step host process w i).1.requests r).calls := by
  cases i with
  | configure | initWorker | markBridgeLoaded | markBridgeStatus | bridgeConfigure |
    bridgeInitWorker | refreshTransportStatus => exact .unchanged
  | bridgeAccess q env accessEnv conf =>
    show CallsEffect _ ((bridgeAccessStep host process w q env accessEnv conf).1.requests r).calls
    unfold bridgeAccessStep
    by_cases h : r = q
    · subst h
      simp only [World.setRequest_self, Request.writeContext_calls]
      exact .unchanged
    · simp only [World.setRequest_of_ne _ _ h]
      exact .unchanged
  | access q env sharedTable routeId =>
    show CallsEffect _ ((accessStep host w q env sharedTable routeId).1.requests r).calls
    unfold accessStep
    by_cases h : r = q
    · subst h
      simp only [World.setRequest_self, Request.accessed_calls]
      exact .unchanged
    · simp only [World.setRequest_of_ne _ _ h]
      exact .unchanged
  | begin q env self uri options =>
    show CallsEffect _ ((beginStep host w q env self uri options).1.requests r).calls
    unfold beginStep
    split
    · by_cases h : r = q
      · subst h
        simp only [World.setRequest_self, Request.begin, Request.writeContext_calls]
        exact .started _
      · simp only [World.setRequest_of_ne _ _ h]
        exact .unchanged
    · exact .unchanged
  | signerReturns q call now result =>
    show CallsEffect _ ((signerStep host w q call now result).1.requests r).calls
    unfold signerStep
    split
    · rename_i hcall
      by_cases h : r = q
      · subst h
        simp only [World.setRequest_self, Request.advance, Request.writeContext_calls]
        exact .advanced _ _ _ hcall (by simp)
      · simp only [World.setRequest_of_ne _ _ h]
        exact .unchanged
    · exact .unchanged
  | networkReturns q call result =>
    show CallsEffect _ ((networkStep w q call result).1.requests r).calls
    unfold networkStep
    split
    · rename_i hcall
      by_cases h : r = q
      · subst h
        simp only [World.setRequest_self, Request.advance, Request.writeContext_calls]
        exact .advanced _ _ _ hcall (by simp)
      · simp only [World.setRequest_of_ne _ _ h]
        exact .unchanged
    · exact .unchanged
  | callback q i accessEnv =>
    show CallsEffect _ ((callbackStep host w q i accessEnv).1.requests r).calls
    unfold callbackStep
    split
    · split <;> exact .unchanged
    · exact .unchanged

/-- A finished call takes no further step. -/
theorem finished_stays (w : World) (i : Step) (r k : Nat) (reference : Option Nat)
    (h : (w.requests r).calls[k]? = some ⟨reference, .finished⟩) :
    ((step host process w i).1.requests r).calls[k]? = some ⟨reference, .finished⟩ := by
  have effect := step_calls host process w i r
  generalize ((step host process w i).1.requests r).calls = after at effect
  cases effect with
  | unchanged => exact h
  | started call =>
    rw [List.getElem?_append_left (List.getElem?_eq_some_iff.mp h).1]
    exact h
  | advanced k' call next was running =>
    by_cases hk : k' = k
    · subst hk
      rw [h] at was
      cases was
      exact absurd rfl running
    · rw [List.getElem?_set_ne hk]
      exact h

end

end KonnectFapi.Source.Worker

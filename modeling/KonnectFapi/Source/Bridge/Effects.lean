import KonnectFapi.Source.Bridge.Handler
import KonnectFapi.Source.Transport.Effects

/-!
# What the bridge does to the transport

The bridge reaches the transport through `mark_bridge_loaded` and
`mark_bridge_status` only, so whatever the guard decides by is out of its hands.
-/

namespace KonnectFapi.Source.Transport

/-- Only what the bridge reports about itself may differ. -/
def Core.GuardUnchanged (before after : Core) : Prop :=
  after = { before with bridgeLoaded := after.bridgeLoaded, delegateReady := after.delegateReady }

theorem Core.GuardUnchanged.refl (c : Core) : c.GuardUnchanged c := rfl

theorem Core.GuardUnchanged.trans {a b c : Core} (hab : a.GuardUnchanged b)
    (hbc : b.GuardUnchanged c) : a.GuardUnchanged c := by
  unfold Core.GuardUnchanged at *
  rw [hbc, hab]

end KonnectFapi.Source.Transport

namespace KonnectFapi.Source.Bridge
open Lib Lib.Lua Transport

@[simp] theorem markStatus_core (process : Process) (env : Env) (ready : Bool)
    (epoch : Option Bytes) (m : Modules) :
    (markStatus process env ready epoch m).modules.transport.core =
      { m.transport.core with
        bridgeLoaded := true
        delegateReady := delegateReadiness m.transport ready epoch } :=
  markBridgeStatus_core process env ready epoch m.transport

@[simp] theorem markStatus_bridge (process : Process) (env : Env) (ready : Bool)
    (epoch : Option Bytes) (m : Modules) :
    (markStatus process env ready epoch m).modules.bridge = m.bridge := rfl

/-- What holds of the transport whenever the bridge reports to it. -/
structure KeptByReports (process : Process) (P : Transport.State → Prop) : Prop where
  loaded : ∀ env s, P s → P (markBridgeLoaded process env s).1
  status : ∀ env ready epoch s, P s → P (markBridgeStatus process env ready epoch s).1

section
variable {process : Process} {P : Transport.State → Prop}

theorem KeptByReports.markStatus (kept : KeptByReports process P) (env : Env) (ready : Bool)
    (epoch : Option Bytes) {m : Modules} (h : P m.transport) :
    P (Bridge.markStatus process env ready epoch m).modules.transport :=
  kept.status env ready epoch _ h

theorem KeptByReports.refreshTransportStatus (kept : KeptByReports process P) (host : Host)
    (env : Env) {m : Modules} (h : P m.transport) :
    P (Bridge.refreshTransportStatus host process env m).modules.transport :=
  kept.status env _ _ _ h

theorem KeptByReports.initWorker (kept : KeptByReports process P) (host : Host)
    (loadedEnv env : Env) {m : Modules} (h : P m.transport) :
    P (Bridge.initWorker host process loadedEnv env m).modules.transport :=
  kept.refreshTransportStatus host env (kept.loaded loadedEnv _ h)

theorem KeptByReports.latchDelegateFailed (kept : KeptByReports process P) (env : Env)
    {m : Modules} (h : P m.transport) :
    P (Bridge.latchDelegateFailed process env m).modules.transport :=
  kept.status env _ _ _ h

theorem KeptByReports.configure (kept : KeptByReports process P) (host : Host)
    (loadedEnv env : Env) (configs : Value) {m : Modules} (h : P m.transport) :
    P (Bridge.configure host process loadedEnv env configs m).modules.transport := by
  unfold Bridge.configure
  dsimp only
  split
  · exact kept.status env _ _ _ (kept.loaded loadedEnv _ h)
  · split
    · exact kept.latchDelegateFailed env h
    · split
      · split
        · exact kept.latchDelegateFailed env h
        · split
          · exact kept.latchDelegateFailed env h
          · exact kept.initWorker host loadedEnv env h
      · exact kept.initWorker host loadedEnv env h
      · exact kept.latchDelegateFailed env h

end

theorem guardKept (process : Process) (c : Core) :
    KeptByReports process fun s => c.GuardUnchanged s.core where
  loaded env s h := h.trans (by rw [markBridgeLoaded_core]; rfl)
  status env ready epoch s h := h.trans (by rw [markBridgeStatus_core]; rfl)

theorem refreshTransportStatus_guard (host : Host) (process : Process) (env : Env) (m : Modules) :
    m.transport.core.GuardUnchanged
      (refreshTransportStatus host process env m).modules.transport.core :=
  (guardKept process _).refreshTransportStatus host env rfl

/-- `register_delegate` changes the module states as the refresh it starts with. -/
theorem registerDelegate_outcome (host : Host) (process : Process) (env : Env) (conf : Value)
    (context : Option Context) (m : Modules) :
    (registerDelegate host process env conf context m).1 =
      refreshTransportStatus host process env m := by
  unfold registerDelegate
  dsimp only
  split
  · rfl
  · split
    · split <;> rfl
    · rfl

/-- Registering a signer changes neither the ledger nor whom the context is for. -/
theorem registerDelegate_account (host : Host) (process : Process) (env : Env) (conf : Value)
    (context : Option Context) (m : Modules) :
    (registerDelegate host process env conf context m).2.1.map Context.account =
      context.map Context.account := by
  unfold registerDelegate
  dsimp only
  split
  · rfl
  · split
    · split <;> rfl
    · rfl

theorem access_account (host : Host) (process : Process) (env : Env) (accessEnv : AccessEnv)
    (conf : Value) (context : Option Context) (m : Modules) :
    (access host process env accessEnv conf context m).context.map Context.account =
      context.map Context.account := by
  unfold access
  split
  · rfl
  · split
    · unfold accessDelegateMode
      dsimp only
      split
      · rfl
      · split <;> exact registerDelegate_account host process env _ context m
    · unfold accessHeaderMode
      dsimp only
      split
      · rfl
      · split
        · rfl
        · split <;> rfl

theorem KeptByReports.access {process : Process} {P : Transport.State → Prop}
    (kept : KeptByReports process P) (host : Host) (env : Env) (accessEnv : AccessEnv)
    (conf : Value) (context : Option Context) {m : Modules} (h : P m.transport) :
    P (Bridge.access host process env accessEnv conf context m).modules.transport := by
  unfold Bridge.access
  split
  · exact h
  · split
    · unfold accessDelegateMode
      dsimp only
      split
      · exact kept.latchDelegateFailed env h
      · split
        · rw [registerDelegate_outcome]
          exact kept.refreshTransportStatus host env h
        · dsimp only
          rw [registerDelegate_outcome]
          exact kept.refreshTransportStatus host env h
    · unfold accessHeaderMode
      dsimp only
      split
      · exact h
      · split
        · exact h
        · split <;> exact h

end KonnectFapi.Source.Bridge

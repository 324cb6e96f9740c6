import KonnectFapi.Source.Readiness.Reporting

/-!
# What a step of a worker does to its files

Every operation that can take a flag back ends in a report of the bridge, and a report
either says ready or removes the marker.
-/

namespace KonnectFapi.Source.Transport
open Lib Lib.Lua

def FileEffect.SaysReady (x : FileEffect) : Prop :=
  ∃ status : StatusSnapshot, x = .writeStatus status ∧ status.Ready

def FileEffect.IsRemoval (x : FileEffect) : Prop := x = .removeMarker

/-- The effects of a step, and the state it leaves. -/
structure Tracks (s s' : State) (e : List FileEffect) : Prop where
  stays : Stays s s'
  told : ∀ status, .writeStatus status ∈ e →
    Exporting s' ∧ status.workerId = s'.workerId ∧ status.pid = s'.pid
  lost : Exporting s → (snapshot s).Ready → .removeMarker ∈ e ∨ (snapshot s').Ready
  ready : Since (fun _ x => x.SaysReady) FileEffect.IsRemoval e → (snapshot s').Ready
  last : Exporting s' → s'.statusExportFailed = false → (s' = s ∧ e = []) ∨
    Since (fun _ x => x = .writeStatus (snapshot s')) FileEffect.IsStatus e

theorem Tracks.refl (s : State) : Tracks s s [] where
  stays := .refl s
  told status h := absurd h List.not_mem_nil
  lost _ ready := Or.inr ready
  ready h := by
    obtain ⟨x, hx, -⟩ := h.exists_mem
    cases hx
  last _ _ := Or.inl ⟨rfl, rfl⟩

theorem Exported.toldReady {s s' : State} {e : List FileEffect} (h : Exported s s' e)
    (ready : Since (fun _ x => x.SaysReady) FileEffect.IsRemoval e) :
    Exporting s' ∧ (snapshot s').Ready := by
  obtain ⟨x, hx, status, rfl, hready⟩ := ready.exists_mem
  obtain ⟨rfl, on⟩ := h.told hx
  exact ⟨on, hready⟩

/-- One `write_status`. -/
theorem Tracks.of_exported {s s' t : State} {e : List FileEffect} (exported : Exported t s' e)
    (stays : Stays s s')
    (lost : Exporting s → (snapshot s).Ready → .removeMarker ∈ e ∨ (snapshot s').Ready) :
    Tracks s s' e where
  stays := stays
  told status h := by
    obtain ⟨rfl, on⟩ := exported.told h
    exact ⟨on, rfl, rfl⟩
  lost := lost
  ready h := (exported.toldReady h).2
  last on clear := Or.inr (exported.last on clear)

/-- One `write_status`, followed by a report that settles what is left. -/
theorem Tracks.reported {s s₁ s₂ t₁ t₂ : State} {e₁ e₂ : List FileEffect}
    (first : Exported t₁ s₁ e₁) (stays₁ : Stays s s₁) (second : Exported t₂ s₂ e₂)
    (stays₂ : Stays s₁ s₂)
    (settles : Exporting s₁ → s₁.wrapperReady = true → .removeMarker ∈ e₂ ∨ (snapshot s₂).Ready) :
    Tracks s s₂ (e₁ ++ e₂) where
  stays := stays₁.trans stays₂
  told status h := by
    rcases List.mem_append.mp h with h | h
    · obtain ⟨rfl, on⟩ := first.told h
      obtain ⟨on', sameId, samePid⟩ := stays₂.exporting on
      exact ⟨on', sameId.symm, samePid.symm⟩
    · obtain ⟨rfl, on⟩ := second.told h
      exact ⟨on, rfl, rfl⟩
  lost on ready := by
    rcases settles (stays₁.exporting on).1 (stays₁.wrapper ready.wrapper) with removed | up
    · exact Or.inl (List.mem_append_right _ removed)
    · exact Or.inr up
  ready h := by
    rcases Since.append_iff.mp h with h | ⟨h, kept⟩
    · exact (second.toldReady h).2
    · obtain ⟨on, up⟩ := first.toldReady h
      exact (settles on up.wrapper).resolve_left fun removed => kept _ removed rfl
  last on clear := Or.inr (Since.append_iff.mpr (Or.inl (second.last on clear)))

/-- A report says ready or removes the marker. -/
theorem markBridgeStatus_settles {process : Process} (env : Env) {ready : Bool} {epoch : Option Bytes}
    {s : State} (h : Known process s) (on : Exporting s) (wrapper : s.wrapperReady = true) :
    .removeMarker ∈ (markBridgeStatus process env ready epoch s).2 ∨
      (snapshot (markBridgeStatus process env ready epoch s).1).Ready := by
  cases up : delegateReadiness s ready epoch with
  | false => exact Or.inl (markBridgeStatus_withdraws env on up)
  | true =>
    obtain ⟨t, exported⟩ := markBridgeStatus_exports env ready epoch h
    have stays := ((stays_kept process s).status env ready epoch s ⟨h, .refl s⟩).2
    have core := markBridgeStatus_core process env ready epoch s
    rcases exported.withdrawn (stays.exporting on).1 with removed | ⟨live, registry, clear⟩
    · exact Or.inl removed
    · have bridge : (markBridgeStatus process env ready epoch s).1.bridgeLoaded = true :=
        congrArg Core.bridgeLoaded core
      have delegate : (markBridgeStatus process env ready epoch s).1.delegateReady = true :=
        (congrArg Core.delegateReady core).trans up
      refine Or.inr ⟨stays.wrapper wrapper, ?_, bridge, ?_⟩
      · simp only [snapshot, live, registry, clear, Bool.not_false, Bool.and_true]
      · simp only [snapshot, live, delegate, clear, Bool.not_false, Bool.and_true]

/-- Any operation that a report follows. -/
theorem tracks_of_report {process : Process} (env : Env) (ready : Bool) (epoch : Option Bytes)
    {s s₁ t : State} {e : List FileEffect} (first : Exported t s₁ e) (stays : Stays s s₁)
    (known : Known process s₁) :
    Tracks s (markBridgeStatus process env ready epoch s₁).1
      (e ++ (markBridgeStatus process env ready epoch s₁).2) := by
  obtain ⟨t₂, second⟩ := markBridgeStatus_exports env ready epoch known
  have stays₂ := ((stays_kept process s₁).status env ready epoch _ ⟨known, .refl _⟩).2
  apply Tracks.reported first stays second stays₂
  intro on wrapper
  exact markBridgeStatus_settles env known on wrapper

end KonnectFapi.Source.Transport

namespace KonnectFapi.Source.Bridge
open Lib Lib.Lua Transport

variable {process : Process} {m : Modules}

theorem markStatus_tracks (env : Env) (ready : Bool) (epoch : Option Bytes)
    (h : Known process m.transport) :
    Tracks m.transport (markStatus process env ready epoch m).modules.transport
      (markStatus process env ready epoch m).effects := by
  obtain ⟨t, exported⟩ := markBridgeStatus_exports env ready epoch h
  have stays := ((stays_kept process m.transport).status env ready epoch _ ⟨h, .refl _⟩).2
  apply Tracks.of_exported exported stays
  intro on up
  exact markBridgeStatus_settles env h on up.wrapper

theorem refreshTransportStatus_tracks (host : Host) (env : Env) (h : Known process m.transport) :
    Tracks m.transport (refreshTransportStatus host process env m).modules.transport
      (refreshTransportStatus host process env m).effects :=
  markStatus_tracks env _ _ h

theorem latchDelegateFailed_tracks (env : Env) (h : Known process m.transport) :
    Tracks m.transport (latchDelegateFailed process env m).modules.transport
      (latchDelegateFailed process env m).effects :=
  markStatus_tracks env _ _ h

/-- `mark_bridge_loaded`, followed by a report. -/
theorem loaded_tracks (loadedEnv env : Env) (ready : Bool) (epoch : Option Bytes)
    (h : Known process m.transport) :
    Tracks m.transport
      (markBridgeStatus process env ready epoch (markBridgeLoaded process loadedEnv m.transport).1).1
      ((markBridgeLoaded process loadedEnv m.transport).2 ++
        (markBridgeStatus process env ready epoch
          (markBridgeLoaded process loadedEnv m.transport).1).2) := by
  obtain ⟨t, first⟩ := markBridgeLoaded_exports loadedEnv h
  obtain ⟨known, stays⟩ := (stays_kept process m.transport).loaded loadedEnv _ ⟨h, .refl _⟩
  exact tracks_of_report env ready epoch first stays known

theorem initWorker_tracks (host : Host) (loadedEnv env : Env) (h : Known process m.transport) :
    Tracks m.transport (initWorker host process loadedEnv env m).modules.transport
      (initWorker host process loadedEnv env m).effects :=
  loaded_tracks loadedEnv env _ _ h

theorem configure_tracks (host : Host) (loadedEnv env : Env) (configs : Value)
    (h : Known process m.transport) :
    Tracks m.transport (configure host process loadedEnv env configs m).modules.transport
      (configure host process loadedEnv env configs m).effects := by
  unfold configure
  dsimp only
  split
  · exact loaded_tracks loadedEnv env false none h
  · split
    · exact latchDelegateFailed_tracks env h
    · split
      · split
        · exact latchDelegateFailed_tracks env h
        · split
          · exact latchDelegateFailed_tracks env h
          · exact loaded_tracks loadedEnv env _ _ h
      · exact loaded_tracks loadedEnv env _ _ h
      · exact latchDelegateFailed_tracks env h

theorem access_tracks (host : Host) (env : Env) (accessEnv : AccessEnv) (conf : Value)
    (context : Option Context) (h : Known process m.transport) :
    Tracks m.transport (access host process env accessEnv conf context m).modules.transport
      (access host process env accessEnv conf context m).effects := by
  unfold access
  split
  · exact .refl _
  · split
    · unfold accessDelegateMode
      dsimp only
      split
      · exact latchDelegateFailed_tracks env h
      · split
        · rw [registerDelegate_outcome]
          exact refreshTransportStatus_tracks host env h
        · dsimp only
          rw [registerDelegate_outcome]
          exact refreshTransportStatus_tracks host env h
    · unfold accessHeaderMode
      dsimp only
      split
      · exact .refl _
      · split
        · exact .refl _
        · split <;> exact .refl _

end KonnectFapi.Source.Bridge

namespace KonnectFapi.Source.Worker
open Lib Lib.Lua Transport

def Event.file? : Event → Option FileEffect
  | .file effect => some effect
  | _ => none

/-- The effects on files among the events. -/
def filesOf (events : List Event) : List FileEffect := events.filterMap Event.file?

theorem filesOf_map (effects : List FileEffect) : filesOf (effects.map Event.file) = effects := by
  induction effects with
  | nil => rfl
  | cons x rest ih => exact congrArg (x :: ·) ih

theorem filesOf_append (first second : List Event) :
    filesOf (first ++ second) = filesOf first ++ filesOf second := List.filterMap_append

section
variable (host : Host) {process : Process}

/-- Only a failed worker is configured without a refresh. -/
theorem failed_of_no_refresh {env : Env} {configs : Value} {s : State}
    (h : (Transport.configure host process env configs s).refresh = false) : s.failed = true := by
  have same : (ensureWorkerIdentity process false s).failed = s.failed :=
    congrArg Core.failed (ensureWorkerIdentity_core process false s)
  unfold Transport.configure at h
  dsimp only at h
  split at h
  · rename_i failed
    exact same.symm.trans failed
  · split at h
    · cases h
    · split at h
      · cases h
      · split at h
        · cases h
        · split at h
          · cases h
          · unfold acceptConfig at h
            dsimp only at h
            split at h <;> cases h

theorem refreshAfter_tracks {s t : State} {refreshEnv : Env} {bridge : Bridge.State}
    {outcome : Transport.Outcome} (exported : Exported t outcome.state outcome.effects)
    (stays : Stays s outcome.state) (known : Known process outcome.state)
    (refreshed : outcome.refresh = false → s.failed = true) :
    Tracks s (refreshAfter host process refreshEnv bridge outcome).modules.transport
      (refreshAfter host process refreshEnv bridge outcome).effects := by
  unfold refreshAfter
  split
  · exact tracks_of_report refreshEnv _ _ exported stays known
  · rename_i skipped
    apply Tracks.of_exported exported stays
    intro on up
    have down := up.registry
    simp [snapshot, refreshed (Bool.eq_false_of_not_eq_true skipped)] at down

/-- Every step of a worker that knows its process. -/
theorem step_tracks {w : World} (i : Step) (h : Known process w.modules.transport) :
    Tracks w.modules.transport (step host process w i).1.modules.transport
      (filesOf (step host process w i).2) := by
  have module_ : ∀ outcome : Bridge.Outcome,
      Tracks w.modules.transport outcome.modules.transport outcome.effects →
      Tracks w.modules.transport (applyModules w outcome).1.modules.transport
        (filesOf (applyModules w outcome).2) := by
    intro outcome tracks
    unfold applyModules
    rw [filesOf_map]
    exact tracks
  cases i with
  | configure env refreshEnv configs =>
    obtain ⟨t, -, exported⟩ := configure_exports env host configs h
    apply module_
    exact refreshAfter_tracks host exported (configure_stays host env configs h)
      (configure_known host env configs h) (failed_of_no_refresh host)
  | initWorker env refreshEnv =>
    obtain ⟨t, -, exported⟩ := initWorker_exports env host h
    apply module_
    apply refreshAfter_tracks host exported (initWorker_stays host env h) (initWorker_known host env h)
    intro skipped
    cases skipped
  | markBridgeLoaded env =>
    obtain ⟨t, exported⟩ := markBridgeLoaded_exports env h
    have stays := ((stays_kept process _).loaded env _ ⟨h, .refl _⟩).2
    have core := markBridgeLoaded_core process env w.modules.transport
    apply module_ ⟨⟨_, w.modules.bridge⟩, _⟩
    apply Tracks.of_exported exported stays
    intro on up
    rcases exported.withdrawn (stays.exporting on).1 with removed | ⟨live, registry, clear⟩
    · exact Or.inl removed
    · have delegate := up.delegate
      simp only [snapshot, Bool.and_eq_true] at delegate
      refine Or.inr ⟨stays.wrapper up.wrapper, ?_, congrArg Core.bridgeLoaded core, ?_⟩
      · simp only [snapshot, live, registry, clear, Bool.not_false, Bool.and_true]
      · have same := (congrArg Core.delegateReady core).trans delegate.1.1
        simp only [snapshot, live, clear, Bool.not_false, Bool.and_true]
        exact same
  | markBridgeStatus env ready epoch => exact module_ _ (Bridge.markStatus_tracks env ready epoch h)
  | bridgeConfigure loadedEnv env configs =>
    exact module_ _ (Bridge.configure_tracks host loadedEnv env configs h)
  | bridgeInitWorker loadedEnv env => exact module_ _ (Bridge.initWorker_tracks host loadedEnv env h)
  | refreshTransportStatus env => exact module_ _ (Bridge.refreshTransportStatus_tracks host env h)
  | bridgeAccess r env accessEnv conf =>
    have tracks := Bridge.access_tracks host env accessEnv conf
      ((w.requests r).context? (w.requests r).shared) h
    change Tracks _ (bridgeAccessStep host process w r env accessEnv conf).1.modules.transport
      (filesOf (bridgeAccessStep host process w r env accessEnv conf).2)
    unfold bridgeAccessStep
    dsimp only
    rw [filesOf_append, filesOf_append, filesOf_map]
    generalize Bridge.access host process env accessEnv conf _ w.modules = outcome at tracks ⊢
    have silent : ∀ first second : List Event, filesOf first = [] → filesOf second = [] →
        outcome.effects ++ filesOf first ++ filesOf second = outcome.effects := by
      intro first second h₁ h₂
      rw [h₁, h₂, List.append_nil, List.append_nil]
    rw [silent _ _ (by split <;> rfl) (by split <;> rfl)]
    exact tracks
  | access r env sharedTable routeId =>
    change Tracks _ w.modules.transport (filesOf (if _ then _ else _))
    split <;> exact .refl _
  | begin r env self uri options =>
    change Tracks _ (beginStep host w r env self uri options).1.modules.transport
      (filesOf (beginStep host w r env self uri options).2)
    rw [beginStep_modules]
    have silent : filesOf (beginStep host w r env self uri options).2 = [] := by
      unfold beginStep
      split
      · dsimp only
        cases ((w.requests r).begin host w.modules.transport env self uri options).2 <;> rfl
      · rfl
    rw [silent]
    exact .refl _
  | signerReturns r call now result =>
    change Tracks _ (signerStep host w r call now result).1.modules.transport
      (filesOf (signerStep host w r call now result).2)
    rw [signerStep_modules]
    have silent : filesOf (signerStep host w r call now result).2 = [] := by
      unfold signerStep
      split
      · rename_i reference pending _
        dsimp only
        cases (afterSigner host now ((w.requests r).context? reference) pending result).2 <;> rfl
      · rfl
    rw [silent]
    exact .refl _
  | networkReturns r call result =>
    change Tracks _ (networkStep w r call result).1.modules.transport
      (filesOf (networkStep w r call result).2)
    rw [networkStep_modules]
    have silent : filesOf (networkStep w r call result).2 = [] := by
      unfold networkStep
      split <;> rfl
    rw [silent]
    exact .refl _
  | callback r i accessEnv =>
    change Tracks _ (callbackStep host w r i accessEnv).1.modules.transport
      (filesOf (callbackStep host w r i accessEnv).2)
    rw [callbackStep_transport]
    have silent : filesOf (callbackStep host w r i accessEnv).2 = [] := by
      unfold callbackStep
      split
      · split
        · dsimp only
          split <;> rfl
        · rfl
      · rfl
    rw [silent]
    exact .refl _

end

end KonnectFapi.Source.Worker

namespace KonnectFapi.Source.Transport
open Lib Lib.Lua

/-- Everything a worker has done to the files, and its state. -/
structure Recorded (effects : List FileEffect) (s : State) : Prop where
  told : ∀ status, .writeStatus status ∈ effects →
    Exporting s ∧ status.workerId = s.workerId ∧ status.pid = s.pid
  ready : Since (fun _ x => x.SaysReady) FileEffect.IsRemoval effects → (snapshot s).Ready
  last : Exporting s → s.statusExportFailed = false →
    Since (fun _ x => x = .writeStatus (snapshot s)) FileEffect.IsStatus effects

theorem recorded_initial : Recorded [] Worker.World.initial.modules.transport where
  told status h := absurd h List.not_mem_nil
  ready h := by
    obtain ⟨x, hx, -⟩ := h.exists_mem
    cases hx
  last on := by
    have := on.initialized
    cases this

theorem Recorded.step {effects e : List FileEffect} {s s' : State} (h : Recorded effects s)
    (tracks : Tracks s s' e) : Recorded (effects ++ e) s' where
  told status hstatus := by
    rcases List.mem_append.mp hstatus with hold | hnew
    · obtain ⟨on, sameId, samePid⟩ := h.told status hold
      obtain ⟨on', sameId', samePid'⟩ := tracks.stays.exporting on
      exact ⟨on', sameId.trans sameId'.symm, samePid.trans samePid'.symm⟩
    · exact tracks.told status hnew
  ready up := by
    rcases Since.append_iff.mp up with new | ⟨old, kept⟩
    · exact tracks.ready new
    · obtain ⟨x, hx, status, rfl, -⟩ := old.exists_mem
      have on := (h.told status hx).1
      exact (tracks.lost on (h.ready old)).resolve_left fun removed => kept _ removed rfl
  last on clear := by
    rcases tracks.last on clear with ⟨rfl, rfl⟩ | new
    · rw [List.append_nil]
      exact h.last on clear
    · exact Since.append_iff.mpr (Or.inl new)

end KonnectFapi.Source.Transport

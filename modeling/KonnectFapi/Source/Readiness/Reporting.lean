import KonnectFapi.Lib.Since
import KonnectFapi.Source.HeldConfiguration

/-!
# What the status files of a worker say

Source: kong/plugins/fapi-as-mtls-transport/handler.lua:448-507 and 586-607. A status that
says ready stays true until the worker has removed the marker, and the last one written is
the present one unless its export has failed.
-/

namespace KonnectFapi.Source.Transport
open Lib Lib.Lua

/-- The four flags an accepted status has. -/
structure StatusSnapshot.Ready (status : StatusSnapshot) : Prop where
  wrapper : status.wrapperReady = true
  registry : status.registryReady = true
  bridge : status.bridgeLoaded = true
  delegate : status.delegateReady = true

/-- A worker that writes status files and removes the marker. -/
structure Exporting (s : State) : Prop where
  initialized : s.workerInitialized = true
  dir : s.statusDir = some statusDirectory

def FileEffect.IsStatus : FileEffect → Prop
  | .writeStatus _ => True
  | .removeMarker => False

/-- The effects of one `write_status`, with what the operation removed before it. -/
inductive Exported (s : State) : State → List FileEffect → Prop where
  | silent {e : List FileEffect} (off : ¬ Exporting s) (quiet : ∀ x ∈ e, ¬ x.IsStatus) :
      Exported s s e
  | written {front : List FileEffect} (on : Exporting s) (quiet : ∀ x ∈ front, ¬ x.IsStatus)
      (withdrawn : s.failed = true ∨ s.registryReady = false → .removeMarker ∈ front) :
      Exported s { s with statusExportFailed := false }
        (front ++ [.writeStatus (snapshot { s with statusExportFailed := false })])
  | failed {e : List FileEffect} (on : Exporting s) (removed : .removeMarker ∈ e)
      (own : ∀ status, .writeStatus status ∈ e →
        status = snapshot { s with statusExportFailed := true }) :
      Exported s { s with statusExportFailed := true } e

theorem Identified.dir_some {process : Process} {s : State} (h : Identified process s) {dir : Bytes}
    (hdir : s.statusDir = some dir) : dir = statusDirectory := by
  have own := h.dir.symm.trans hdir
  unfold ownStatusDir ownConfigValid at own
  cases given : statusDirGiven process with
  | none => simp [given] at own
  | some d =>
    rw [given] at own
    dsimp only at own
    split at own
    · rename_i valid
      rw [Bool.and_eq_true, decide_eq_true_eq] at valid
      exact (Option.some.inj own).symm.trans valid.1
    · cases own

theorem removeReadyMarker_quiet (s : State) : ∀ x ∈ removeReadyMarker s, ¬ x.IsStatus := by
  unfold removeReadyMarker
  split
  · intro x hx
    obtain rfl := List.mem_singleton.mp hx
    exact id
  · intro x hx
    cases hx

theorem Exporting.removes {s : State} (h : Exporting s) : .removeMarker ∈ removeReadyMarker s := by
  unfold removeReadyMarker
  rw [if_pos h.dir]
  exact List.mem_singleton_self _

namespace Exported

theorem identified {process : Process} {s s' : State} {e : List FileEffect}
    (h : Identified process s) (exported : Exported s s' e) : Identified process s' := by
  cases exported with
  | silent => exact h
  | written => exact h.congr rfl
  | failed => exact h.congr rfl

theorem prepend {s s' : State} {e front : List FileEffect} (h : Exported s s' e)
    (quiet : ∀ x ∈ front, ¬ x.IsStatus) : Exported s s' (front ++ e) := by
  cases h with
  | silent off others => exact .silent off (List.forall_mem_append.mpr ⟨quiet, others⟩)
  | written on others withdrawn =>
    rw [← List.append_assoc]
    exact .written on (List.forall_mem_append.mpr ⟨quiet, others⟩)
      fun down => List.mem_append_right _ (withdrawn down)
  | failed on removed own =>
    apply Exported.failed on (List.mem_append_right _ removed)
    intro status hstatus
    rcases List.mem_append.mp hstatus with hfront | he
    · exact absurd trivial (quiet _ hfront)
    · exact own status he

/-- A status among the effects is the one of the state they leave. -/
theorem told {s s' : State} {e : List FileEffect} (h : Exported s s' e) {status : StatusSnapshot}
    (hstatus : .writeStatus status ∈ e) : status = snapshot s' ∧ Exporting s' := by
  cases h with
  | silent off quiet => exact absurd trivial (quiet _ hstatus)
  | written on quiet withdrawn =>
    refine ⟨?_, on.initialized, on.dir⟩
    rcases List.mem_append.mp hstatus with hfront | hlast
    · exact absurd trivial (quiet _ hfront)
    · exact FileEffect.writeStatus.inj (List.mem_singleton.mp hlast)
  | failed on removed own => exact ⟨own status hstatus, on.initialized, on.dir⟩

/-- What is left standing without a removal. -/
theorem withdrawn {s s' : State} {e : List FileEffect} (h : Exported s s' e) (on : Exporting s') :
    .removeMarker ∈ e ∨
      (s'.failed = false ∧ s'.registryReady = true ∧ s'.statusExportFailed = false) := by
  cases h with
  | silent off quiet => exact absurd on off
  | written on quiet withdrawn =>
    by_cases down : s.failed = true ∨ s.registryReady = false
    · exact Or.inl (List.mem_append_left _ (withdrawn down))
    · rw [not_or, Bool.not_eq_true, Bool.not_eq_false] at down
      exact Or.inr ⟨down.1, down.2, rfl⟩
  | failed on removed own => exact Or.inl removed

/-- The last status written is the present one, where the export did not fail. -/
theorem last {s s' : State} {e : List FileEffect} (h : Exported s s' e) (on : Exporting s')
    (exported : s'.statusExportFailed = false) :
    Since (fun _ x => x = .writeStatus (snapshot s')) FileEffect.IsStatus e := by
  cases h with
  | silent off quiet => exact absurd on off
  | written on quiet withdrawn => exact Since.now rfl
  | failed on removed own => cases exported

end Exported

/-- `write_status`. -/
theorem writeStatus_exports {process : Process} {s : State} (env : Env)
    (h : Identified process (ensureWorkerIdentity process false s)) :
    Exported (ensureWorkerIdentity process false s) (writeStatus process env s).1
      (writeStatus process env s).2 := by
  unfold writeStatus
  generalize ensureWorkerIdentity process false s = t at h ⊢
  dsimp only
  split
  · rename_i uninitialized
    have off : ¬ Exporting t := by
      intro on
      rw [on.initialized] at uninitialized
      cases uninitialized
    exact .silent off fun x hx => absurd hx List.not_mem_nil
  · rename_i initialized
    rw [Bool.not_eq_true, Bool.not_eq_false'] at initialized
    have removal : ∀ x ∈ (if t.failed || !t.registryReady then removeReadyMarker t else []),
        ¬ x.IsStatus := by
      split
      · exact removeReadyMarker_quiet t
      · intro x hx
        cases hx
    split
    · rename_i hdir
      have off : ¬ Exporting t := by
        intro on
        rw [on.dir] at hdir
        cases hdir
      exact .silent off removal
    · rename_i dir hdir
      have on : Exporting t := ⟨initialized, hdir.trans (congrArg some (h.dir_some hdir))⟩
      split
      · apply Exported.written on removal
        intro down
        rw [if_pos]
        · exact on.removes
        · rcases down with down | down
          · rw [down, Bool.true_or]
          · rw [down, Bool.not_false, Bool.or_true]
      · have failing : Exporting { t with statusExportFailed := true } := ⟨on.initialized, on.dir⟩
        apply Exported.failed on
        · exact List.mem_append_left _ (List.mem_append_right _ failing.removes)
        · intro status hstatus
          rcases List.mem_append.mp hstatus with hfront | hlast
          · rcases List.mem_append.mp hfront with hfront | hfront
            · exact absurd trivial (removal _ hfront)
            · exact absurd trivial (removeReadyMarker_quiet _ _ hfront)
          · split at hlast
            · exact FileEffect.writeStatus.inj (List.mem_singleton.mp hlast)
            · cases hlast

theorem Identified.exports {process : Process} {s : State} (h : Identified process s) (env : Env) :
    Exported s (Transport.writeStatus process env s).1 (Transport.writeStatus process env s).2 := by
  have exported := writeStatus_exports (s := s) env (by rw [h.ensure]; exact h)
  rwa [h.ensure] at exported

/-! ## The operations -/

section
variable {process : Process} {s : State} (env : Env)

theorem latchFailed_exports (h : Identified process s) :
    ∃ t, Identified process t ∧ Exported t (latchFailed process env s).state (latchFailed process env s).effects := by
  have named : Identified process
      { s with failed := true, registryReady := false, delegateReady := false, registry := none } :=
    h.congr rfl
  exact ⟨_, named, named.exports env⟩

theorem acceptConfig_exports (host : Host) (loaded : Loaded) (h : Identified process s) :
    let outcome := acceptConfig host process env loaded.config loaded.routes loaded.identities
      loaded.metadata loaded.configHash loaded.signature s
    ∃ t, Identified process t ∧ Exported t outcome.state outcome.effects := by
  have named : Identified process { s with
      configHash := some loaded.configHash
      configSource := some loaded.signature
      startupGeneration := some (s.startupGeneration.getD (ascii "offline-test")) } :=
    h.congr (by simp [State.who, h.generation])
  unfold acceptConfig
  dsimp only
  rw [named.epoch host rfl]
  dsimp only
  cases epochOf host process loaded.configHash with
  | none => exact latchFailed_exports env (named.congr rfl)
  | some epoch =>
    dsimp only
    have again : Identified process { s with
        configHash := some loaded.configHash
        configSource := some loaded.signature
        startupGeneration := some (s.startupGeneration.getD (ascii "offline-test"))
        registryEpoch := some epoch
        registry := some loaded.registry
        registryReady := s.statusConfigValid != some false
        delegateReady := false } := named.congr rfl
    exact ⟨_, again, again.exports env⟩

theorem configure_exports (host : Host) (configs : Value) (h : Known process s) :
    ∃ t, Identified process t ∧ Exported t (configure host process env configs s).state
      (configure host process env configs s).effects := by
  obtain ⟨identified, -⟩ := h.ensure false
  unfold configure
  generalize ensureWorkerIdentity process false s = t at identified ⊢
  dsimp only
  split
  · have named : Identified process { t with registryReady := false, delegateReady := false } :=
      identified.congr rfl
    exact ⟨_, named, named.exports env⟩
  · split
    · have named : Identified process
          { t with registry := none, registryReady := false, delegateReady := false } :=
        identified.congr rfl
      exact ⟨_, named, (named.exports env).prepend (removeReadyMarker_quiet _)⟩
    · split
      · exact latchFailed_exports env identified
      · split
        · exact latchFailed_exports env identified
        · split
          · exact latchFailed_exports env identified
          · exact acceptConfig_exports env host _ identified

theorem initWorker_exports (host : Host) (h : Known process s) :
    ∃ t, Identified process t ∧ Exported t (initWorker host process env s).state (initWorker host process env s).effects := by
  obtain ⟨identified, -⟩ := h.ensure true
  have refreshed : ∀ t : State, (refreshRegistryEpoch host t).who = t.who := by
    intro t
    unfold refreshRegistryEpoch
    split <;> rfl
  unfold initWorker
  generalize ensureWorkerIdentity process true s = t at identified ⊢
  dsimp only
  have named : Identified process
      (installOrFail env (restoreReady (refreshRegistryEpoch host { t with workerInitialized := true }))) := by
    apply identified.congr
    rw [installOrFail_who]
    exact refreshed _
  exact ⟨_, named, (named.exports env).prepend (removeReadyMarker_quiet _)⟩

theorem markBridgeLoaded_exports (h : Known process s) :
    ∃ t, Exported t (markBridgeLoaded process env s).1 (markBridgeLoaded process env s).2 := by
  have known : Known process { s with bridgeLoaded := true } := h.of_ready s.delegateReady
  unfold markBridgeLoaded
  dsimp only
  split
  · exact ⟨_, writeStatus_exports env (known.ensure false).1⟩
  · rename_i uninitialized
    exact ⟨_, .silent (fun on => uninitialized on.initialized) fun x hx => absurd hx List.not_mem_nil⟩

theorem markBridgeStatus_exports (ready : Bool) (epoch : Option Bytes) (h : Known process s) :
    ∃ t, Exported t (markBridgeStatus process env ready epoch s).1
      (markBridgeStatus process env ready epoch s).2 := by
  have known : Known process
      { s with bridgeLoaded := true, delegateReady := delegateReadiness s ready epoch } := h.of_ready _
  unfold markBridgeStatus
  dsimp only
  split
  · refine ⟨_, Exported.prepend (writeStatus_exports env (known.ensure false).1) ?_⟩
    split
    · exact removeReadyMarker_quiet _
    · intro x hx
      cases hx
  · rename_i uninitialized
    exact ⟨_, .silent (fun on => uninitialized on.initialized) fun x hx => absurd hx List.not_mem_nil⟩

/-- A report that does not say ready removes the marker. -/
theorem markBridgeStatus_withdraws {ready : Bool} {epoch : Option Bytes} (on : Exporting s)
    (down : delegateReadiness s ready epoch = false) :
    .removeMarker ∈ (markBridgeStatus process env ready epoch s).2 := by
  have down' : (ready && !s.failed && s.registryReady && epoch.isSome && epoch == s.registryEpoch) =
      false := down
  unfold markBridgeStatus
  dsimp only
  rw [if_pos on.initialized, down', Bool.not_false, if_pos rfl]
  apply List.mem_append_left
  have on' : Exporting { s with bridgeLoaded := true, delegateReady := false } := ⟨on.initialized, on.dir⟩
  exact on'.removes

end

/-! ## What an operation leaves -/

/-- The worker goes on exporting under the same ids, and keeps its wrapper. -/
structure Stays (s s' : State) : Prop where
  exporting : Exporting s → Exporting s' ∧ s'.workerId = s.workerId ∧ s'.pid = s.pid
  wrapper : s.wrapperReady = true → s'.wrapperReady = true

theorem Stays.refl (s : State) : Stays s s := ⟨fun on => ⟨on, rfl, rfl⟩, id⟩

theorem Stays.trans {a b c : State} (first : Stays a b) (second : Stays b c) : Stays a c where
  exporting on := by
    obtain ⟨onB, idB, pidB⟩ := first.exporting on
    obtain ⟨onC, idC, pidC⟩ := second.exporting onB
    exact ⟨onC, idC.trans idB, pidC.trans pidB⟩
  wrapper h := second.wrapper (first.wrapper h)

theorem Known.identified {process : Process} {s : State} (h : Known process s) (on : Exporting s) :
    Identified process s := by
  rcases h.who with anonymous | identified
  · have := anonymous.dir.symm.trans on.dir
    cases this
  · exact identified

theorem stays_of_identified {process : Process} {s s' : State} (known : Known process s)
    (named : Identified process s' ∨ s'.who = s.who)
    (initialized : s.workerInitialized = true → s'.workerInitialized = true)
    (wrapper : s.wrapperReady = true → s'.wrapperReady = true) : Stays s s' where
  exporting on := by
    have before := known.identified on
    have after : Identified process s' := named.elim id fun same => before.congr same
    exact ⟨⟨initialized on.initialized, after.dir.trans (before.dir.symm.trans on.dir)⟩,
      after.workerId.trans before.workerId.symm, after.pid.trans before.pid.symm⟩
  wrapper := wrapper

theorem configure_stays (host : Host) {process : Process} (env : Env) (configs : Value) {s : State}
    (h : Known process s) : Stays s (configure host process env configs s).state := by
  obtain ⟨t, named, exported⟩ := configure_exports env host configs h
  have effect := configure_effect host process env configs s
  have core : (configure host process env configs s).state.core.workerInitialized =
        s.workerInitialized ∧
      (configure host process env configs s).state.core.wrapperReady = s.wrapperReady := by
    cases effect with
    | stillFailed _ core | absent _ _ core | latched _ core =>
      rw [core]
      exact ⟨rfl, rfl⟩
    | accepted loaded ready epoch _ _ _ core =>
      rw [core]
      cases epoch <;> exact ⟨rfl, rfl⟩
  exact stays_of_identified h (Or.inl (exported.identified named)) core.1.trans core.2.trans

theorem initWorker_stays (host : Host) {process : Process} (env : Env) {s : State}
    (h : Known process s) : Stays s (initWorker host process env s).state := by
  obtain ⟨t, named, exported⟩ := initWorker_exports env host h
  obtain ⟨epoch, ready, -, core⟩ := initWorker_core host process env s
  have kept : (initWorker host process env s).state.core.workerInitialized = true ∧
      (s.wrapperReady = true → (initWorker host process env s).state.core.wrapperReady = true) := by
    rw [core]
    split
    · exact ⟨rfl, fun _ => rfl⟩
    · exact ⟨rfl, id⟩
  exact stays_of_identified h (Or.inl (exported.identified named)) (fun _ => kept.1) kept.2

/-- The bridge's reports leave the worker as it was. -/
theorem stays_kept (process : Process) (s : State) :
    Bridge.KeptByReports process fun t => Known process t ∧ Stays s t := by
  apply kept_of_flags
  · intro t ready h
    have same : Stays t { t with bridgeLoaded := true, delegateReady := ready } :=
      ⟨fun on => ⟨⟨on.initialized, on.dir⟩, rfl, rfl⟩, id⟩
    exact ⟨h.1.of_ready ready, h.2.trans same⟩
  · intro env t h
    have known := h.1.of_writeStatus env
    have core := writeStatus_core process env t
    have named : Identified process (writeStatus process env t).1 :=
      (writeStatus_exports env (h.1.ensure false).1).identified (h.1.ensure false).1
    have same := stays_of_identified h.1 (Or.inl named)
      (congrArg Core.workerInitialized core).trans (congrArg Core.wrapperReady core).trans
    exact ⟨known, h.2.trans same⟩

end KonnectFapi.Source.Transport

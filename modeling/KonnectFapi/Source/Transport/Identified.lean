import KonnectFapi.Source.Transport.Effects

/-!
# Who a worker is

Source: kong/plugins/fapi-as-mtls-transport/handler.lua:353-395. The identity of a
worker is read once; reading it again, as `init_worker` does, gives the same.
-/

namespace KonnectFapi.Source.Transport
open Lib Lib.Lua

/-- A status directory the handler takes. -/
def statusDirGiven (process : Process) : Option Bytes :=
  match process.statusDir with
  | some dir => if dir = [] then none else some dir
  | none => none

def ownConfigValid (process : Process) : Bool :=
  match statusDirGiven process with
  | some dir => dir = statusDirectory && generationAccepted process.generation
  | none => true

def ownGeneration (process : Process) : Bytes :=
  process.generation.getD
    (if (statusDirGiven process).isSome then ascii "unavailable" else ascii "offline-test")

def ownStatusDir (process : Process) : Option Bytes :=
  if ownConfigValid process then statusDirGiven process else none

/-- The worker knows its process. -/
structure Identified (process : Process) (s : State) : Prop where
  workerId : s.workerId = some (process.workerId.getD 0)
  pid : s.pid = some (process.workerPid.getD 0)
  generation : s.startupGeneration = some (ownGeneration process)
  valid : s.statusConfigValid = some (ownConfigValid process)
  dir : s.statusDir = ownStatusDir process

/-- The fields `ensure_worker_identity` writes. -/
def State.who (s : State) :
    Option Nat × Option Nat × Option Bytes × Option Bool × Option Bytes :=
  (s.workerId, s.pid, s.startupGeneration, s.statusConfigValid, s.statusDir)

theorem Identified.congr {process : Process} {s t : State} (h : Identified process s)
    (same : t.who = s.who) : Identified process t := by
  simp only [State.who, Prod.mk.injEq] at same
  obtain ⟨workerId, pid, generation, valid, dir⟩ := same
  exact ⟨workerId.trans h.workerId, pid.trans h.pid, generation.trans h.generation,
    valid.trans h.valid, dir.trans h.dir⟩

/-- A worker that has not looked yet. -/
structure Anonymous (s : State) : Prop where
  workerId : s.workerId = none
  dir : s.statusDir = none

theorem ensureWorkerIdentity_forced (process : Process) (s : State) :
    ensureWorkerIdentity process true s =
      { s with
        workerId := some (process.workerId.getD 0)
        pid := some (process.workerPid.getD 0)
        startupGeneration := some (ownGeneration process)
        statusConfigValid := some (ownConfigValid process)
        statusDir := if ownConfigValid process then statusDirGiven process else s.statusDir } := by
  unfold ensureWorkerIdentity
  rw [if_neg (by simp)]
  cases named : process.statusDir with
  | none =>
    have given : statusDirGiven process = none := by
      unfold statusDirGiven
      rw [named]
    have valid : ownConfigValid process = true := by
      unfold ownConfigValid
      rw [given]
    simp [ownGeneration, given, valid]
  | some dir =>
    by_cases empty : dir = []
    · have given : statusDirGiven process = none := by
        unfold statusDirGiven
        rw [named]
        exact if_pos empty
      have valid : ownConfigValid process = true := by
        unfold ownConfigValid
        rw [given]
      simp [ownGeneration, given, valid, empty]
    · have given : statusDirGiven process = some dir := by
        unfold statusDirGiven
        rw [named]
        exact if_neg empty
      have valid : ownConfigValid process =
          (decide (dir = statusDirectory) && generationAccepted process.generation) := by
        unfold ownConfigValid
        rw [given]
      by_cases known : dir = statusDirectory
      · have nonempty : statusDirectory ≠ [] := known ▸ empty
        cases accepted : generationAccepted process.generation <;>
          simp [ownGeneration, given, valid, nonempty, known, accepted]
      · simp [ownGeneration, given, valid, empty, known]

/-- Looking once, or once more, identifies the worker. -/
theorem identified_of_ensure {process : Process} {force : Bool} {s : State}
    (h : Anonymous s ∨ Identified process s) :
    Identified process (ensureWorkerIdentity process force s) := by
  have forced : Identified process (ensureWorkerIdentity process true s) := by
    rw [ensureWorkerIdentity_forced]
    refine ⟨rfl, rfl, rfl, rfl, ?_⟩
    unfold ownStatusDir
    split
    · rfl
    · rename_i invalid
      rcases h with h | h
      · exact h.dir
      · rw [h.dir, ownStatusDir, if_neg invalid]
  cases force with
  | true => exact forced
  | false =>
    rcases h with h | h
    · have again : ensureWorkerIdentity process false s = ensureWorkerIdentity process true s := by
        unfold ensureWorkerIdentity
        rw [h.workerId]
        rfl
      rw [again]
      exact forced
    · rw [ensureWorkerIdentity_of_set process (by rw [h.workerId]; rfl)]
      exact h

/-- An identified worker finds nothing new. -/
theorem Identified.ensure {process : Process} {s : State} (h : Identified process s) (force : Bool) :
    ensureWorkerIdentity process force s = s := by
  cases force with
  | false => exact ensureWorkerIdentity_of_set process (by rw [h.workerId]; rfl)
  | true =>
    rw [ensureWorkerIdentity_forced]
    have dir : (if ownConfigValid process then statusDirGiven process else s.statusDir) =
        s.statusDir := by
      rw [h.dir, ownStatusDir]
      split <;> rfl
    rw [dir, ← h.workerId, ← h.pid, ← h.generation, ← h.valid]

/-- What a status export of an identified worker leaves. -/
theorem Identified.writeStatus {process : Process} {s : State} (h : Identified process s) (env : Env) :
    ∃ failed, (Transport.writeStatus process env s).1 = { s with statusExportFailed := failed } := by
  unfold Transport.writeStatus
  rw [h.ensure]
  dsimp only
  split
  · exact ⟨s.statusExportFailed, rfl⟩
  · split
    · exact ⟨s.statusExportFailed, rfl⟩
    · split
      · exact ⟨false, rfl⟩
      · exact ⟨true, rfl⟩

/-- A successful one. -/
theorem Identified.writeStatus_exported {process : Process} {s : State} (h : Identified process s)
    {env : Env} (exports : env.firstExport = true) (clear : s.statusExportFailed = false) :
    (Transport.writeStatus process env s).1 = s := by
  unfold Transport.writeStatus
  rw [h.ensure, exports]
  dsimp only
  split
  · rfl
  · split
    · rfl
    · rw [if_pos rfl, ← clear]

/-- A ready worker's successful export removes no marker. -/
theorem Identified.writeStatus_keeps {process : Process} {s : State} (h : Identified process s)
    {env : Env} (exports : env.firstExport = true) (ready : s.registryReady = true)
    (live : s.failed = false) : .removeMarker ∉ (Transport.writeStatus process env s).2 := by
  have kept : (if s.failed || !s.registryReady then removeReadyMarker s else []) = [] := by
    rw [ready, live]
    rfl
  unfold Transport.writeStatus
  rw [h.ensure, exports]
  dsimp only
  split
  · exact List.not_mem_nil
  · rw [kept]
    split
    · exact List.not_mem_nil
    · simp

end KonnectFapi.Source.Transport

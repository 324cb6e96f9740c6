import KonnectFapi.Source.Readiness.Validator

/-!
# What an accepted snapshot says

Source: scripts/require-wp5-readiness.sh:195-238. Every worker of the marker comes from a
row that reports it ready under the generation and the configuration of the marker, and no
worker id stands twice.
-/

namespace KonnectFapi.Source.Readiness
open Lib Lib.Json

/-- What every pass keeps, the loop keeps. -/
theorem foldlM_invariant {α β : Type} {f : β → α → Option β} {P : β → Prop} {xs : List α}
    (kept : ∀ b, ∀ a ∈ xs, ∀ b', P b → f b a = some b' → P b') {b r : β} (h : P b)
    (hrun : xs.foldlM f b = some r) : P r := by
  induction xs generalizing b with
  | nil =>
    obtain rfl := Option.some.inj hrun
    exact h
  | cons a rest ih =>
    rw [List.foldlM_cons] at hrun
    obtain ⟨next, hstep, hrest⟩ := Option.bind_eq_some_iff.mp hrun
    apply ih _ (kept b a List.mem_cons_self next h hstep) hrest
    intro c d hd e
    exact kept c d (List.mem_cons_of_mem _ hd) e

theorem guard_bind {α : Type} {p : Bool} {next : Unit → Option α} {a : α} :
    (guard (p = true) >>= next) = some a ↔ p = true ∧ next () = some a := by
  cases p <;> simp [guard, failure, bind]

variable {floats : FloatEquality} {digits : Digits}

/-! ## Reading the lines -/

/-- Every process id that was read is one. -/
theorem readLine_pids {snapshot next : Snapshot} {line : Text}
    (h : ∀ pid ∈ snapshot.workerPids, 1 ≤ pid) (hline : readLine digits snapshot line = some next) :
    ∀ pid ∈ next.workerPids, 1 ≤ pid := by
  unfold readLine at hline
  obtain ⟨⟨kind, remainder⟩, -, hline⟩ := Option.bind_eq_some_iff.mp hline
  dsimp only at hline
  split at hline
  · split at hline
    · cases hline
    · obtain rfl := Option.some.inj hline
      exact h
  · split at hline
    · obtain ⟨pid, -, hline⟩ := Option.bind_eq_some_iff.mp hline
      split at hline
      · cases hline
      · rename_i hpid
        obtain rfl := Option.some.inj hline
        apply List.forall_mem_cons.mpr ⟨_, h⟩
        simp only [Bool.or_eq_true, decide_eq_true_eq, not_or] at hpid
        omega
    · split at hline
      · obtain ⟨⟨filename, value⟩, -, hline⟩ := Option.bind_eq_some_iff.mp hline
        dsimp only at hline
        obtain ⟨json, -, hline⟩ := Option.bind_eq_some_iff.mp hline
        split at hline
        · split at hline
          · obtain rfl := Option.some.inj hline
            exact h
          · cases hline
        · cases hline
      · cases hline

theorem snapshot_pids {lines : List Text} {snapshot : Snapshot}
    (h : lines.foldlM (readLine digits) {} = some snapshot) : ∀ pid ∈ snapshot.workerPids, 1 ≤ pid := by
  apply foldlM_invariant (P := fun read : Snapshot => ∀ pid ∈ read.workerPids, 1 ≤ pid) _ _ h
  · intro read line _ next hread hline
    exact readLine_pids hread hline
  · intro pid hpid
    cases hpid

/-! ## One row -/

/-- A row that reports a worker ready. -/
structure Reports (generation configHash : Text) (row : Dict) (worker : CurrentWorker) : Prop where
  workerId : row.lookup (text "worker_id") = some (.int worker.workerId)
  pid : row.lookup (text "pid") = some (.int worker.pid)
  generation : textField row "generation" = some generation
  configHash : hexAt row "config_hash" = some configHash
  registryEpoch : hexAt row "registry_epoch" = some worker.registryEpoch
  flags : ∀ name ∈ ["wrapper_ready", "registry_ready", "bridge_loaded", "delegate_ready"],
    isTrue row name = true

theorem currentRow_reports {generation configHash : Text} {row : Dict} {workerId pid : Int}
    {worker : CurrentWorker} (hid : row.lookup (text "worker_id") = some (.int workerId))
    (hpid : row.lookup (text "pid") = some (.int pid))
    (h : currentRow floats generation row workerId pid = some (configHash, worker)) :
    Reports generation configHash row worker ∧ worker.workerId = workerId ∧ worker.pid = pid := by
  unfold currentRow at h
  obtain ⟨hgeneration, h⟩ := guard_bind.mp h
  obtain ⟨hash, hhash, h⟩ := Option.bind_eq_some_iff.mp h
  obtain ⟨epoch, hepoch, h⟩ := Option.bind_eq_some_iff.mp h
  obtain ⟨hflags, h⟩ := guard_bind.mp h
  obtain ⟨-, h⟩ := guard_bind.mp h
  obtain ⟨rfl, rfl⟩ := Prod.mk.inj (Option.some.inj h)
  exact ⟨⟨hid, hpid, beq_iff_eq.mp hgeneration, hhash, hepoch, List.all_eq_true.mp hflags⟩, rfl, rfl⟩

/-- The loop after some of the rows. -/
structure Covered (generation : Text) (workerPids : List Nat) (rows : List (Text × Dict))
    (coverage : Coverage) : Prop where
  distinct : (coverage.current.map (·.workerId)).Nodup
  seen : ∀ worker ∈ coverage.current, worker.workerId ∈ coverage.seenWorkerIds
  ids : ∀ worker ∈ coverage.current, 0 ≤ worker.workerId
  pids : ∀ worker ∈ coverage.current, worker.pid ∈ workerPids.map Int.ofNat
  reports : ∀ worker ∈ coverage.current, ∃ configHash ∈ coverage.hashes, ∃ entry ∈ rows,
    Reports generation configHash entry.2 worker ∧
      entry.1 = text "worker-" ++ ofAscii (printInt worker.workerId) ++ text ".json"
  hashes : ∀ configHash ∈ coverage.hashes, ∃ entry ∈ rows,
    hexAt entry.2 "config_hash" = some configHash

theorem coverRow_covered {generation : Text} {workerPids : List Nat} {rows : List (Text × Dict)}
    {coverage next : Coverage} {entry : Text × Dict} (hentry : entry ∈ rows)
    (h : Covered generation workerPids rows coverage)
    (hrow : coverRow floats generation workerPids coverage entry = some next) :
    Covered generation workerPids rows next := by
  unfold coverRow at hrow
  obtain ⟨json, hid, hrow⟩ := Option.bind_eq_some_iff.mp hrow
  split at hrow
  case h_2 => cases hrow
  rename_i workerId
  obtain ⟨hfresh, hrow⟩ := guard_bind.mp hrow
  obtain ⟨hfilename, hrow⟩ := guard_bind.mp hrow
  simp only [Bool.and_eq_true, decide_eq_true_eq, Bool.not_eq_true',
    List.contains_eq_mem, decide_eq_false_iff_not] at hfresh
  obtain ⟨nonneg, hnew⟩ := hfresh
  have older : ∀ worker ∈ coverage.current, worker.workerId ∈ workerId :: coverage.seenWorkerIds :=
    fun worker hworker => List.mem_cons_of_mem _ (h.seen worker hworker)
  have passed : Covered generation workerPids rows
      { coverage with seenWorkerIds := workerId :: coverage.seenWorkerIds } :=
    ⟨h.distinct, older, h.ids, h.pids, h.reports, h.hashes⟩
  split at hrow
  · rename_i pid hpid
    split at hrow
    · rename_i hcurrent
      obtain ⟨⟨configHash, worker⟩, hworker, hnext⟩ := Option.bind_eq_some_iff.mp hrow
      obtain rfl := Option.some.inj hnext
      obtain ⟨reports, rfl, rfl⟩ := currentRow_reports hid hpid hworker
      have absent : worker.workerId ∉ coverage.current.map (·.workerId) := by
        intro hmem
        obtain ⟨other, hother, hsame⟩ := List.mem_map.mp hmem
        exact hnew (hsame ▸ h.seen other hother)
      refine ⟨?_, ?_, ?_, ?_, ?_, ?_⟩
      · rw [List.map_append, List.map_cons, List.map_nil]
        exact List.nodup_append'.mpr ⟨h.distinct, List.nodup_singleton _,
          List.disjoint_singleton.mpr absent⟩
      · exact List.forall_mem_append.mpr ⟨older, by simp⟩
      · exact List.forall_mem_append.mpr ⟨h.ids, by simpa using nonneg⟩
      · exact List.forall_mem_append.mpr ⟨h.pids, by
          simpa only [List.forall_mem_singleton] using List.contains_iff_mem.mp hcurrent⟩
      · intro other hother
        rcases List.mem_append.mp hother with hother | hother
        · obtain ⟨hash, hhash, found⟩ := h.reports other hother
          exact ⟨hash, List.mem_cons_of_mem _ hhash, found⟩
        · rw [List.mem_singleton.mp hother]
          exact ⟨configHash, List.mem_cons_self, entry, hentry, reports, beq_iff_eq.mp hfilename⟩
      · exact List.forall_mem_cons.mpr ⟨⟨entry, hentry, reports.configHash⟩, h.hashes⟩
    · obtain rfl := Option.some.inj hrow
      exact passed
  · obtain rfl := Option.some.inj hrow
    exact passed

/-! ## A whole snapshot -/

/-- What an accepted snapshot was. -/
structure Vetted (snapshot : Snapshot) (accepted : Accepted) : Prop where
  generation : snapshot.generation = some accepted.generation
  distinct : (accepted.current.map (·.workerId)).Nodup
  ids : ∀ worker ∈ accepted.current, 0 ≤ worker.workerId
  pids : ∀ worker ∈ accepted.current, worker.pid ∈ snapshot.workerPids.map Int.ofNat
  covers : ∀ pid ∈ snapshot.workerPids, (pid : Int) ∈ accepted.current.map (·.pid)
  reports : ∀ worker ∈ accepted.current, ∃ entry ∈ snapshot.rows,
    Reports accepted.generation accepted.configHash entry.2 worker ∧
      entry.1 = text "worker-" ++ ofAscii (printInt worker.workerId) ++ text ".json"
  configHash : isHexText 64 accepted.configHash = true

theorem isHexText_of_hexAt {row : Dict} {name : String} {t : Text} (h : hexAt row name = some t) :
    isHexText 64 t = true := by
  unfold hexAt at h
  split at h
  · split at h
    · rename_i hhex
      exact Option.some.inj h ▸ hhex
    · cases h
  · cases h

theorem validateRows_accepted {snapshot : Snapshot} {expectedGeneration : Text} {accepted : Accepted}
    (h : validateRows floats snapshot expectedGeneration = some accepted) :
    Vetted snapshot accepted ∧ accepted.generation = expectedGeneration := by
  unfold validateRows at h
  obtain ⟨generation, hgeneration, h⟩ := Option.bind_eq_some_iff.mp h
  obtain ⟨hexpected, h⟩ := guard_bind.mp h
  obtain ⟨coverage, hcoverage, h⟩ := Option.bind_eq_some_iff.mp h
  have covered : Covered generation snapshot.workerPids snapshot.rows coverage := by
    apply foldlM_invariant (P := Covered generation snapshot.workerPids snapshot.rows) _ _ hcoverage
    · intro read entry hentry next hread hrow
      exact coverRow_covered hentry hread hrow
    · refine ⟨List.nodup_nil, ?_, ?_, ?_, ?_, ?_⟩ <;> intro _ hmem <;> cases hmem
  split at h
  case h_2 => cases h
  rename_i configHash more hhashes
  obtain ⟨hsame, h⟩ := guard_bind.mp h
  obtain ⟨hcovers, h⟩ := guard_bind.mp h
  obtain rfl := Option.some.inj h
  have single : ∀ hash ∈ coverage.hashes, hash = configHash := by
    rw [hhashes]
    intro hash hhash
    rcases List.mem_cons.mp hhash with hhash | hhash
    · exact hhash
    · exact beq_iff_eq.mp (List.all_eq_true.mp hsame hash hhash)
  refine ⟨⟨hgeneration, covered.distinct, covered.ids, covered.pids, ?_, ?_, ?_⟩, ?_⟩
  · intro pid hpid
    exact List.contains_iff_mem.mp (List.all_eq_true.mp hcovers pid hpid)
  · intro worker hworker
    obtain ⟨hash, hhash, found⟩ := covered.reports worker hworker
    exact single hash hhash ▸ found
  · obtain ⟨entry, -, hhex⟩ := covered.hashes configHash (hhashes ▸ List.mem_cons_self)
    exact isHexText_of_hexAt hhex
  · simp only [Bool.and_eq_true, beq_iff_eq] at hexpected
    exact hexpected.1.1.2

end KonnectFapi.Source.Readiness

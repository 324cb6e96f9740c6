import KonnectFapi.Source.Deployment
import KonnectFapi.Source.Readiness.Reader

/-!
# The readiness marker between the supervisor and a worker

Source: scripts/require-wp5-readiness.sh:149-279; handler.lua:509-577. Both sides check the
same document with their own rules. A worker that takes an accepted marker was in the
snapshot with exactly its present identity; it takes one in which it stands unless the
marker is too long, has too many workers or names a process twice.
-/

namespace KonnectFapi.Guarantees
open Lib Lib.Lua Lib.Json Source.Readiness Source.Transport

variable {floats : FloatEquality} {digits : Digits} {host : Host} {sha256 : Bytes → Bytes}

/-- A marker that was printed for an accepted snapshot is read back whole, and a worker of
the status directory takes it exactly when it trusts it. -/
theorem marker_agreement {lines : List Text} {expectedGeneration : Text} {accepted : Accepted}
    {value : Value} (haccepted : validate floats digits lines expectedGeneration = some accepted)
    (hvalue : host.cjsonDecode (canonical accepted.marker) = some value)
    (mirrors : DecodesTo accepted.marker value) :
    readValidation (accepted.output sha256) =
        some (hex (sha256 (canonical accepted.fingerprintSource)), canonical accepted.marker) ∧
      ∀ s : State, s.statusDir = some statusDirectory →
        (readyMarkerCoversWorker host s (some (canonical accepted.marker)) = true ↔
          Trusts s accepted) := by
  refine ⟨readValidation_output accepted, ?_⟩
  intro s hdir
  exact covers_iff (accepted_sound haccepted) hdir hvalue mirrors

/-! A data plane of one worker process that has reported itself ready. -/

def asciiDigits : Digits where
  value := fun c => if 48 ≤ c.val ∧ c.val ≤ 57 then some (c.val - 48) else none

/-- The registry epoch of the deployed worker. -/
def readyEpoch : String := "1f84a0b3d8191bf544292e0dedd48b31ea64d6e5fbf4b5d475fcbe9cfa18d8c2"

def readyRow : Dict :=
  [(text "worker_id", .int 0), (text "pid", .int 11), (text "generation", .str (text "gen-1")),
    (text "config_hash", .str (text Source.Deployment.configHash)),
    (text "registry_epoch", .str (text readyEpoch)), (text "wrapper_ready", .bool true),
    (text "registry_ready", .bool true), (text "bridge_loaded", .bool true),
    (text "delegate_ready", .bool true), (text "routes", .arr (expectedRoutes.map .obj))]

def readyLines : List Text :=
  [text "G\tgen-1\n", text "P\t11\n",
    text "S\tworker-0.json\t" ++ ofAscii (print (.obj readyRow)) ++ text "\n"]

def readyAccepted : Accepted :=
  ⟨text "gen-1", text Source.Deployment.configHash, [⟨0, 11, text readyEpoch⟩]⟩

def readyWorkerValue : Value :=
  .table 0 [(.str (ascii "worker_id"), .num 0), (.str (ascii "pid"), .num 11),
    (.str (ascii "registry_epoch"), .str (ascii readyEpoch))]

def readyMarkerValue : Value :=
  .table 0 [(.str (ascii "generation"), .str (ascii "gen-1")),
    (.str (ascii "config_hash"), .str (ascii Source.Deployment.configHash)),
    (.str (ascii "workers"), .table 1 [(.num 1, readyWorkerValue)])]

/-- Libraries that decode this marker. -/
def decodingHost : Host :=
  { Source.Deployment.libraries with
    cjsonDecode := fun t => if t = canonical readyAccepted.marker then some readyMarkerValue else none }

theorem readyWorker_mirrors :
    DecodesTo (CurrentWorker.json ⟨0, 11, text readyEpoch⟩) readyWorkerValue := by
  have values : List.Forall₂ DecodesTo [.int 0, .int 11, .str (text readyEpoch)]
      [.num 0, .num 11, .str (ascii readyEpoch)] :=
    .cons (.int 0) (.cons (.int 11) (.cons (.str (by decide +kernel)) .nil))
  have names : List.Forall₂ (fun m name => encodeUtf8 m.1 = some name)
      [(text "worker_id", Json.int 0), (text "pid", .int 11), (text "registry_epoch", .str (text readyEpoch))]
      [ascii "worker_id", ascii "pid", ascii "registry_epoch"] :=
    .cons (by decide +kernel) (.cons (by decide +kernel) (.cons (by decide +kernel) .nil))
  exact .obj names values (.refl _)

theorem readyMarker_mirrors : DecodesTo readyAccepted.marker readyMarkerValue := by
  have workers : DecodesTo (.arr [CurrentWorker.json ⟨0, 11, text readyEpoch⟩])
      (.table 1 [(.num 1, readyWorkerValue)]) :=
    .arr (.cons readyWorker_mirrors .nil) (by rw [fromIndex, fromIndex, Nat.cast_one])
  have values : List.Forall₂ DecodesTo
      [.str (text "gen-1"), .str (text Source.Deployment.configHash), .arr [CurrentWorker.json ⟨0, 11, text readyEpoch⟩]]
      [.str (ascii "gen-1"), .str (ascii Source.Deployment.configHash), .table 1 [(.num 1, readyWorkerValue)]] :=
    .cons (.str (by decide +kernel)) (.cons (.str (by decide +kernel)) (.cons workers .nil))
  have names : List.Forall₂ (fun m name => encodeUtf8 m.1 = some name)
      [(text "generation", Json.str (text "gen-1")), (text "config_hash", .str (text Source.Deployment.configHash)),
        (text "workers", .arr [CurrentWorker.json ⟨0, 11, text readyEpoch⟩])]
      [ascii "generation", ascii "config_hash", ascii "workers"] :=
    .cons (by decide +kernel) (.cons (by decide +kernel) (.cons (by decide +kernel) .nil))
  exact .obj names values (.refl _)

theorem decodingHost_decode (t : Bytes) : decodingHost.cjsonDecode t =
    if t = canonical readyAccepted.marker then some readyMarkerValue else none := rfl

theorem ready_decoded :
    decodingHost.cjsonDecode (canonical readyAccepted.marker) = some readyMarkerValue := by
  rw [decodingHost_decode, if_pos rfl]

theorem ready_accepted : validate ⟨fun _ _ => false, fun _ _ => false⟩ asciiDigits readyLines
    (text "gen-1") = some readyAccepted := by
  decide +kernel

/-- The state of that worker. -/
def readyState : State :=
  { State.initial with
    configHash := some (ascii Source.Deployment.configHash), registryEpoch := some (ascii readyEpoch)
    workerId := some 0, pid := some 11, startupGeneration := some (ascii "gen-1")
    statusConfigValid := some true, statusDir := some statusDirectory }

theorem marker_agreement_ready :
    readValidation (readyAccepted.output fun _ => []) =
        some (hex [], canonical readyAccepted.marker) ∧
      ∀ s : State, s.statusDir = some statusDirectory →
        (readyMarkerCoversWorker decodingHost s (some (canonical readyAccepted.marker)) = true ↔
          Trusts s readyAccepted) :=
  marker_agreement ready_accepted ready_decoded readyMarker_mirrors

/-- What a worker learns from a marker that covers it: its own status said ready under its
present identity, and so did a status of every worker process, for one configuration. -/
theorem marker_vouches {lines : List Text} {expectedGeneration : Text} {accepted : Accepted}
    {value : Value} {s : State} (haccepted : validate floats digits lines expectedGeneration = some accepted)
    (hvalue : host.cjsonDecode (canonical accepted.marker) = some value)
    (mirrors : DecodesTo accepted.marker value) (hdir : s.statusDir = some statusDirectory)
    (covers : readyMarkerCoversWorker host s (some (canonical accepted.marker)) = true) :
    ∃ snapshot, lines.foldlM (readLine digits) {} = some snapshot ∧
      encodeUtf8 expectedGeneration = s.startupGeneration ∧
      encodeUtf8 accepted.configHash = s.configHash ∧
      (∃ entry ∈ snapshot.rows, ∃ w, Reports expectedGeneration accepted.configHash entry.2 w ∧
        entry.1 = text "worker-" ++ ofAscii (printInt w.workerId) ++ text ".json" ∧ Identifies s w) ∧
      ∀ pid ∈ snapshot.workerPids, ∃ entry ∈ snapshot.rows, ∃ w,
        Reports expectedGeneration accepted.configHash entry.2 w ∧ w.pid = pid := by
  have trusts := (covers_iff (accepted_sound haccepted) hdir hvalue mirrors).mp covers
  obtain ⟨snapshot, hsnapshot, from_, rfl⟩ := validate_accepted haccepted
  refine ⟨snapshot, hsnapshot, trusts.generation, trusts.configHash, ?_, ?_⟩
  · obtain ⟨w, hw, hnames⟩ := trusts.named
    obtain ⟨entry, hentry, reports, hfilename⟩ := from_.reports w hw
    exact ⟨entry, hentry, w, reports, hfilename, hnames⟩
  · intro pid hpid
    obtain ⟨w, hw, heq⟩ := List.mem_map.mp (from_.covers pid hpid)
    obtain ⟨entry, hentry, reports, -⟩ := from_.reports w hw
    exact ⟨entry, hentry, w, reports, heq⟩

theorem marker_vouches_ready :
    ∃ snapshot, readyLines.foldlM (readLine asciiDigits) {} = some snapshot ∧
      encodeUtf8 (text "gen-1") = readyState.startupGeneration ∧
      encodeUtf8 readyAccepted.configHash = readyState.configHash ∧
      (∃ entry ∈ snapshot.rows, ∃ w,
        Reports (text "gen-1") readyAccepted.configHash entry.2 w ∧
        entry.1 = text "worker-" ++ ofAscii (printInt w.workerId) ++ text ".json" ∧
        Identifies readyState w) ∧
      ∀ pid ∈ snapshot.workerPids, ∃ entry ∈ snapshot.rows, ∃ w,
        Reports (text "gen-1") readyAccepted.configHash entry.2 w ∧ w.pid = pid :=
  marker_vouches ready_accepted ready_decoded readyMarker_mirrors rfl (by decide +kernel)

end KonnectFapi.Guarantees

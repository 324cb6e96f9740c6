import KonnectFapi.Source.Readiness.Invariant

/-!
# From a marker back to its workers

Source: scripts/require-wp5-readiness.sh:149-247; handler.lua:424-446. The status a worker
encodes is the row the validator reads, so every worker of an accepted marker has written a
status that says ready.
-/

namespace KonnectFapi.Source.Readiness
open Lib Lib.Lua Lib.Json Transport

/-! ## The libraries between the two -/

/-- A byte string of a status, as a member of the row; nil leaves no member. -/
def TextMember (row : Dict) (name : String) (value : Option Bytes) : Prop :=
  (row.lookup (text name) = none ∧ value = none) ∨
    ∃ t, row.lookup (text name) = some (.str t) ∧ encodeUtf8 t = value

/-- The row that is read for a status. -/
structure RowOf (status : StatusSnapshot) (row : Dict) : Prop where
  workerId : row.lookup (text "worker_id") = status.workerId.map fun n => .int n
  pid : row.lookup (text "pid") = status.pid.map fun n => .int n
  generation : TextMember row "generation" status.generation
  configHash : TextMember row "config_hash" status.configHash
  registryEpoch : TextMember row "registry_epoch" status.registryEpoch
  wrapper : row.lookup (text "wrapper_ready") = some (.bool status.wrapperReady)
  registry : row.lookup (text "registry_ready") = some (.bool status.registryReady)
  bridge : row.lookup (text "bridge_loaded") = some (.bool status.bridgeLoaded)
  delegate : row.lookup (text "delegate_ready") = some (.bool status.delegateReady)

/-- Both encoders write numbers below this one out in full. -/
def wholeNumbers : Nat := 10 ^ 14

/-- `cjson.encode` read back by `json.loads`. -/
structure Encodes (encode : StatusSnapshot → Text) : Prop where
  oneLine : ∀ status, (10 : CodePoint) ∉ encode status
  row : ∀ status row, status.workerId.getD 0 < wholeNumbers → status.pid.getD 0 < wholeNumbers →
    loadsDict (encode status) = some (.obj row) → RowOf status row

/-- A marker of texts and numbers that every JSON library carries over. -/
structure Accepted.Plain (accepted : Accepted) : Prop where
  generation : isGeneration accepted.generation = true
  configHash : isHexText 64 accepted.configHash = true
  epochs : ∀ w ∈ accepted.current, isHexText 64 w.registryEpoch = true
  ids : ∀ w ∈ accepted.current, ∃ n m : Nat, w.workerId = n ∧ w.pid = m ∧
    n < wholeNumbers ∧ m < wholeNumbers

/-- `json.dumps` read back by `cjson.decode`, where it reads it at all. -/
def DecodesMarkers (host : Host) : Prop :=
  ∀ accepted : Accepted, accepted.Plain → ∀ value,
    host.cjsonDecode (canonical accepted.marker) = some value → DecodesTo accepted.marker value

/-- The assumptions about the libraries and the process ids. -/
structure Setting.Fits {ι : Type} (x : Setting ι) : Prop where
  encodes : Encodes x.encode
  decodes : DecodesMarkers x.host
  small : ∀ i, (x.process i).workerId.getD 0 < wholeNumbers ∧ (x.process i).workerPid.getD 0 < wholeNumbers
  /-- The kernel gives no process id to two of the workers. -/
  distinct : ∀ i j, (x.process i).workerPid.getD 0 = (x.process j).workerPid.getD 0 → i = j

/-! ## One text, one marker -/

theorem hasPair_of_hex {length : Nat} {t : Text} (h : isHexText length t = true) : hasPair t = false := by
  apply hasPair_of_below
  intro c hc
  unfold isHexText at h
  rw [Bool.and_eq_true] at h
  have hdigit := List.all_eq_true.mp h.2 c hc
  simp only [Bool.or_eq_true, Bool.and_eq_true, decide_eq_true_eq] at hdigit
  omega

theorem hasPair_of_generation {t : Text} (h : isGeneration t = true) : hasPair t = false := by
  apply hasPair_of_below
  intro c hc
  unfold isGeneration at h
  rw [Bool.and_eq_true] at h
  have hpoint := List.all_eq_true.mp h.2 c hc
  simp only [isGenerationPoint, Bool.or_eq_true, Bool.and_eq_true, decide_eq_true_eq, beq_iff_eq] at hpoint
  omega

theorem CurrentWorker.readable {w : CurrentWorker} (h : isHexText 64 w.registryEpoch = true) :
    Readable unique w.json := by
  have names : (workerFields.map text).Nodup := by decide +kernel
  refine ⟨unique_eq_some.mpr ⟨names, rfl⟩, ?_⟩
  exact ⟨hasPair_text _, trivial, hasPair_text _, trivial, hasPair_text _, hasPair_of_hex h, trivial⟩

theorem Accepted.Plain.readable {accepted : Accepted} (h : accepted.Plain) :
    Readable unique accepted.marker := by
  have names : (markerFields.map text).Nodup := by decide +kernel
  have workers : ReadableItems unique (accepted.workers.map CurrentWorker.json) := by
    apply readableItems_iff.mpr
    intro v hv
    obtain ⟨w, hw, rfl⟩ := List.mem_map.mp hv
    exact CurrentWorker.readable (h.epochs w (mem_sortOn.mp hw))
  exact ⟨unique_eq_some.mpr ⟨names, rfl⟩, hasPair_text _, hasPair_of_generation h.generation,
    hasPair_text _, hasPair_of_hex h.configHash, hasPair_text _, workers, trivial⟩

/-- Sorted members of one name come from members of that name. -/
theorem get?_of_sorted {v w : Json} (hv : Unique v) (hw : Unique w) (h : sortKeys v = sortKeys w)
    (name : Text) : (v.get? name).map sortKeys = (w.get? name).map sortKeys := by
  rw [← get?_sortKeys hv, ← get?_sortKeys hw, h]

theorem CurrentWorker.json_of_sorted {v w : CurrentWorker} (hv : isHexText 64 v.registryEpoch = true)
    (hw : isHexText 64 w.registryEpoch = true) (h : sortKeys v.json = sortKeys w.json) :
    v.json = w.json := by
  have found := get?_of_sorted (unique_of_readable (readable hv)) (unique_of_readable (readable hw)) h
  have workerId : some (Json.int v.workerId) = some (.int w.workerId) := found (text "worker_id")
  have pid : some (Json.int v.pid) = some (.int w.pid) := found (text "pid")
  have epoch : some (Json.str v.registryEpoch) = some (.str w.registryEpoch) :=
    found (text "registry_epoch")
  unfold CurrentWorker.json
  rw [Option.some.inj workerId, Option.some.inj pid, Option.some.inj epoch]

theorem json_of_sortedItems {vs ws : List CurrentWorker}
    (hv : ∀ v ∈ vs, isHexText 64 v.registryEpoch = true) (hw : ∀ w ∈ ws, isHexText 64 w.registryEpoch = true)
    (h : sortItems (vs.map CurrentWorker.json) = sortItems (ws.map CurrentWorker.json)) :
    vs.map CurrentWorker.json = ws.map CurrentWorker.json := by
  induction vs generalizing ws with
  | nil =>
    cases ws with
    | nil => rfl
    | cons w rest => cases h
  | cons v vs ih =>
    cases ws with
    | nil => cases h
    | cons w ws =>
      obtain ⟨head, tail⟩ := List.cons.inj h
      rw [List.map_cons, List.map_cons,
        CurrentWorker.json_of_sorted (hv v List.mem_cons_self) (hw w List.mem_cons_self) head,
        ih (fun v hmem => hv v (List.mem_cons_of_mem _ hmem)) (fun w hmem => hw w (List.mem_cons_of_mem _ hmem)) tail]

/-- Plain markers of one canonical text are one marker. -/
theorem Accepted.Plain.marker_of_canonical {a b : Accepted} (ha : a.Plain) (hb : b.Plain)
    (h : canonical a.marker = canonical b.marker) : a.marker = b.marker := by
  have hua := unique_of_readable ha.readable
  have hub := unique_of_readable hb.readable
  have found := get?_of_sorted hua hub
    ((sortKeys_eq_iff hua hub).mpr ((canonical_eq_iff ha.readable hb.readable).mp h))
  have generation : some (Json.str a.generation) = some (.str b.generation) := found (text "generation")
  have configHash : some (Json.str a.configHash) = some (.str b.configHash) := found (text "config_hash")
  have workers : some (sortKeys (.arr (a.workers.map CurrentWorker.json))) =
      some (sortKeys (.arr (b.workers.map CurrentWorker.json))) := found (text "workers")
  have items : a.workers.map CurrentWorker.json = b.workers.map CurrentWorker.json := json_of_sortedItems (fun w hw => ha.epochs w (mem_sortOn.mp hw))
    (fun w hw => hb.epochs w (mem_sortOn.mp hw)) (Json.arr.inj (Option.some.inj workers))
  unfold Accepted.marker
  rw [Option.some.inj generation, Option.some.inj configHash, items]

/-! ## A row that says ready -/

/-- A status that an element of the marker was made from. -/
structure Behind (status : StatusSnapshot) (accepted : Accepted) (w : CurrentWorker) : Prop where
  ready : status.Ready
  workerId : status.workerId.map Int.ofNat = some w.workerId
  pid : status.pid.map Int.ofNat = some w.pid
  generation : encodeUtf8 accepted.generation = status.generation
  configHash : encodeUtf8 accepted.configHash = status.configHash
  epoch : encodeUtf8 w.registryEpoch = status.registryEpoch

theorem TextMember.encoded {row : Dict} {name : String} {value : Option Bytes} {t : Text}
    (h : TextMember row name value) (hlookup : row.lookup (text name) = some (.str t)) :
    encodeUtf8 t = value := by
  rcases h with ⟨hnone, -⟩ | ⟨u, hu, hvalue⟩
  · rw [hnone] at hlookup
    cases hlookup
  · rw [hu] at hlookup
    obtain rfl := Json.str.inj (Option.some.inj hlookup)
    exact hvalue

theorem lookup_of_hexAt {row : Dict} {name : String} {t : Text} (h : hexAt row name = some t) :
    row.lookup (text name) = some (.str t) := by
  unfold hexAt at h
  split at h
  · rename_i found hfound
    split at h
    · rw [hfound, Option.some.inj h]
    · cases h
  · cases h

theorem lookup_of_textField {row : Dict} {name : String} {t : Text} (h : textField row name = some t) :
    row.lookup (text name) = some (.str t) := by
  obtain ⟨found, hfound, hstr⟩ := Option.bind_eq_some_iff.mp h
  rw [hfound, str?_eq_some.mp hstr]

theorem flag_of_isTrue {row : Dict} {name : String} {b : Bool}
    (hlookup : row.lookup (text name) = some (.bool b)) (h : isTrue row name = true) : b = true := by
  unfold isTrue at h
  rwa [hlookup] at h

theorem id_of_lookup {row : Dict} {name : String} {value : Option Nat} {n : Int}
    (hvalue : row.lookup (text name) = value.map fun m => .int m)
    (hlookup : row.lookup (text name) = some (.int n)) : value.map Int.ofNat = some n := by
  rw [hvalue] at hlookup
  cases value with
  | none => cases hlookup
  | some m => exact congrArg some (Json.int.inj (Option.some.inj hlookup))

theorem RowOf.behind {status : StatusSnapshot} {row : Dict} {accepted : Accepted} {w : CurrentWorker}
    (h : RowOf status row) (reports : Reports accepted.generation accepted.configHash row w) :
    Behind status accepted w where
  ready := by
    have flags := reports.flags
    refine ⟨flag_of_isTrue h.wrapper (flags _ (by simp)), flag_of_isTrue h.registry (flags _ (by simp)),
      flag_of_isTrue h.bridge (flags _ (by simp)), flag_of_isTrue h.delegate (flags _ (by simp))⟩
  workerId := id_of_lookup h.workerId reports.workerId
  pid := id_of_lookup h.pid reports.pid
  generation := h.generation.encoded (lookup_of_textField reports.generation)
  configHash := h.configHash.encoded (lookup_of_hexAt reports.configHash)
  epoch := h.registryEpoch.encoded (lookup_of_hexAt reports.registryEpoch)

theorem newline_not_in_generation {t : Text} (h : isGeneration t = true) : (10 : CodePoint) ∉ t := by
  intro hmem
  unfold isGeneration at h
  rw [Bool.and_eq_true] at h
  have hpoint := List.all_eq_true.mp h.2 10 hmem
  revert hpoint
  decide

/-- The generation of a snapshot is one that the capture has checked. -/
theorem generation_of_line {ι : Type} {x : Setting ι} {P : StatusSnapshot → Prop} {line g : Text} (hline : Captured x P line) (h : Says line "G" g) :
    isGeneration g = true := by
  cases hline with
  | @generation t plain =>
    obtain ⟨stripped, hsaid, hwhole⟩ := @said_by_captureLine "G" (by decide) t
    obtain ⟨-, rfl⟩ := hsaid.unique h
    rwa [hwhole (newline_not_in_generation plain)]
  | workerPid t =>
    obtain ⟨stripped, hsaid, -⟩ := @said_by_captureLine "P" (by decide) t
    exact absurd (hsaid.unique h).1 (by decide)
  | status =>
    obtain ⟨stripped, hsaid, -⟩ := @said_by_captureLine "S" (by decide) _
    exact absurd (hsaid.unique h).1 (by decide)

/-- Statuses with ids that are written out in full. -/
def SmallIds (P : StatusSnapshot → Prop) : Prop :=
  ∀ status, P status → ∃ n m : Nat, status.workerId = some n ∧ status.pid = some m ∧
    n < wholeNumbers ∧ m < wholeNumbers

/-- A row of the snapshot is what was read for the content of a status file. -/
theorem status_of_row {ι : Type} {x : Setting ι} {P : StatusSnapshot → Prop} (fits : x.Fits)
    (small : SmallIds P) {line : Text} {entry : Text × Dict} (hline : Captured x P line)
    (hread : RowRead line entry.1 entry.2) : ∃ status, P status ∧ RowOf status entry.2 := by
  cases hline with
  | generation plain => exact absurd (hread.kind (by decide)) (by decide)
  | workerPid t => exact absurd (hread.kind (by decide)) (by decide)
  | @status status content =>
    obtain ⟨-, hvalue⟩ := hread.of_statusLine (fits.encodes.oneLine status)
    obtain ⟨n, m, hid, hpid, smallId, smallPid⟩ := small status content
    refine ⟨status, content, fits.encodes.row status _ ?_ ?_ hvalue⟩
    · rw [hid]
      exact smallId
    · rw [hpid]
      exact smallPid

/-- What stands behind an accepted capture. -/
structure Written (P : StatusSnapshot → Prop) (accepted : Accepted) : Prop where
  sound : accepted.Sound
  plain : accepted.Plain
  behind : ∀ w ∈ accepted.current, ∃ status, P status ∧ Behind status accepted w

theorem written_of_captured {ι : Type} {x : Setting ι} {P : StatusSnapshot → Prop} (fits : x.Fits)
    (small : SmallIds P) {lines : List Text} {expectedGeneration : Text} {accepted : Accepted}
    (haccepted : validate x.floats x.digits lines expectedGeneration = some accepted)
    (hlines : ∀ line ∈ lines, Captured x P line) : Written P accepted := by
  obtain ⟨snapshot, hsnapshot, vetted, -⟩ := validate_accepted haccepted
  have sound := accepted_sound haccepted
  have read := snapshot_readFrom hsnapshot
  have behind : ∀ w ∈ accepted.current, ∃ status, P status ∧ Behind status accepted w := by
    intro w hw
    obtain ⟨entry, hentry, reports, -⟩ := vetted.reports w hw
    obtain ⟨line, hline, hrow⟩ := read.rows entry hentry
    obtain ⟨status, content, rowOf⟩ := status_of_row fits small (hlines line hline) hrow
    exact ⟨status, content, rowOf.behind reports⟩
  refine ⟨sound, ⟨?_, vetted.configHash, sound.epochs, ?_⟩, behind⟩
  · obtain ⟨line, hline, hsaid⟩ := read.generation _ vetted.generation
    exact generation_of_line (hlines line hline) hsaid
  · intro w hw
    obtain ⟨status, content, h⟩ := behind w hw
    obtain ⟨n, m, hid, hpid, smallId, smallPid⟩ := small status content
    refine ⟨n, m, ?_, ?_, smallId, smallPid⟩
    · have hw := h.workerId
      rw [hid] at hw
      exact (Option.some.inj hw).symm
    · have hw := h.pid
      rw [hpid] at hw
      exact (Option.some.inj hw).symm

/-! ## The writers -/

section
variable {ι : Type} [DecidableEq ι] {x : Setting ι} {c : Cluster ι} {past : List (Event ι)}

theorem effect_of_wrote {i : ι} {status : StatusSnapshot} (h : .wrote i status ∈ past) :
    .writeStatus status ∈ effectsOf i past := by
  apply List.mem_filterMap.mpr
  exact ⟨_, h, effect?_eq_some.mpr rfl⟩

/-- Every status a worker has written has its own ids. -/
theorem Inv.wrote (inv : Inv x c past) {i : ι} {status : StatusSnapshot} (h : .wrote i status ∈ past) :
    Exporting (c.procs i).world.modules.transport ∧
      status.workerId = some ((x.process i).workerId.getD 0) ∧
      status.pid = some ((x.process i).workerPid.getD 0) := by
  have proc := inv.procs i
  obtain ⟨on, sameId, samePid⟩ := proc.recorded.told status (List.mem_append_left _ (effect_of_wrote h))
  have identified := proc.known.identified on
  exact ⟨on, sameId.trans identified.workerId, samePid.trans identified.pid⟩

theorem Inv.smallIds (fits : x.Fits) (inv : Inv x c past) : SmallIds (WrittenIn past) := by
  rintro status ⟨i, hwrote⟩
  obtain ⟨-, hid, hpid⟩ := inv.wrote hwrote
  exact ⟨_, _, hid, hpid, (fits.small i).1, (fits.small i).2⟩

/-- A status file is what its worker has written last, and, where the worker has no file
operation left to do and its export has not failed, what it would write now. -/
theorem Inv.truthful (inv : Inv x c past) {n : Nat} {status : StatusSnapshot}
    (hrow : c.rows n = some status) :
    ∃ i, .wrote i status ∈ past ∧ (x.process i).workerId.getD 0 = n ∧
      ((c.procs i).pending = [] → (c.procs i).world.modules.transport.statusExportFailed = false →
        status = snapshot (c.procs i).world.modules.transport) := by
  obtain ⟨hid, i, hwrote⟩ := inv.rows n status hrow
  obtain ⟨e, hmem, rfl⟩ := hwrote.exists_mem
  obtain ⟨on, hworker, -⟩ := inv.wrote hmem
  have hn : (x.process i).workerId.getD 0 = n := by
    rw [hworker] at hid
    exact hid
  refine ⟨i, hmem, hn, ?_⟩
  intro idle clear
  have written : Since (fun _ y => y = .writeStatus status) FileEffect.IsStatus (effectsOf i past) := by
    apply hwrote.filterMap
    · intro e he
      exact ⟨.writeStatus status, effect?_eq_some.mpr he, rfl⟩
    · intro e he effect heffect hstatus
      obtain rfl := effect?_eq_some.mp heffect
      cases effect with
      | removeMarker => exact absurd hstatus id
      | writeStatus other =>
        obtain ⟨-, hother, -⟩ := inv.wrote he
        change other.workerId.getD 0 = n
        rw [hother]
        exact hn
  have last := (inv.procs i).recorded.last on clear
  rw [idle, List.append_nil] at last
  obtain ⟨y, hy, hsame⟩ := written.unique last (fun e he => he ▸ trivial) (fun e he => he ▸ trivial)
  exact FileEffect.writeStatus.inj (hy.symm.trans hsame)

end

end KonnectFapi.Source.Readiness

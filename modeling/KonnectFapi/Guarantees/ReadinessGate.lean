import KonnectFapi.Guarantees.MarkerAgreement
import KonnectFapi.Source.Readiness.Vouching
import KonnectFapi.Source.Transport.GuardEffects

/-!
# The readiness gate in every order of steps

Source: scripts/require-wp5-readiness.sh:254-345 and 468-496; handler.lua:448-607, 1331-1359
and 1512-1533. Between the capture of the status files and the publication of the marker a
worker may lose its readiness, so a marker can stand that is out of date; what an admission
then still rests on is proved for every interleaving.
-/

namespace KonnectFapi.Guarantees
open Lib Lib.Lua Lib.Json Source.Readiness Source.Transport
open Source (Worker.Step Worker.World)

variable {ι : Type} [DecidableEq ι]

/-! ## Passing the gate -/

/-- What both entries of the handler check. -/
structure GateOpen (host : Host) (s : State) (marker : Option Bytes) : Prop where
  registry : s.registryReady = true
  live : s.failed = false
  wrapper : s.wrapperReady = true
  covers : readyMarkerCoversWorker host s marker = true

/-- A call to an authorization server endpoint that was admitted. -/
def IsCall (i : ι) (e : Source.Readiness.Event ι) : Prop :=
  ∃ r context pending, e = .worked i (.signerCalled r context pending) ∨
    e = .worked i (.signerFailed r context pending) ∨ e = .worked i (.sent r context pending)

/-- The steps that need the gate open: a call that is launched, a request whose access phase
leaves a context. -/
inductive Passes (x : Setting ι) (c : Cluster ι) (i : ι) : Worker.Step → Prop where
  | call {r : Nat} {env : CallEnv} {self uri options : Value} {e : Source.Readiness.Event ι}
      (shown : e ∈ (x.step c (.work i (.begin r env self uri options))).2) (launched : IsCall i e) :
      Passes x c i (.begin r env self uri options)
  | access {r : Nat} {env : Env} {sharedTable : Bool} {routeId : Option Bytes}
      (idle : (c.procs i).pending = [])
      (context : (((x.step c (.work i (.access r env sharedTable routeId))).1.procs i).world.requests
        r).shared.isSome = true) : Passes x c i (.access r env sharedTable routeId)

theorem gateOpen_of_begun {host : Host} {s : State} {env : CallEnv} {context : Option Context}
    {self uri options : Value}
    (h : ∃ pending, (beginCall host s env context self uri options).2 = .awaitSigner pending ∨
      (beginCall host s env context self uri options).2 = .signerFailed pending ∨
      (beginCall host s env context self uri options).2 = .sending pending) :
    GateOpen host s env.marker := by
  obtain ⟨pending, h⟩ := h
  unfold beginCall at h
  split at h
  · rcases h with h | h | h <;> cases h
  · rcases h with h | h | h <;> cases h
  · rcases h with h | h | h <;> cases h
  · rename_i admission
    have checked := admitCall_admitted admission
    exact ⟨checked.ready.1, checked.ready.2.1, checked.ready.2.2, checked.marker⟩

theorem gateOpen_of_context {host : Host} {s : State} {env : Env} {sharedTable : Bool}
    {routeId : Option Bytes} (h : (access host env s sharedTable routeId).shared.isSome = true) :
    GateOpen host s (env.files readyMarker) := by
  unfold access at h
  dsimp only at h
  split at h
  · cases h
  · split at h
    · cases h
    · split at h
      · cases h
      · split at h
        · cases h
        · rename_i checks
          simp only [Bool.or_eq_true, Bool.not_eq_true', not_or, Bool.not_eq_false,
            Bool.not_eq_true] at checks
          obtain ⟨⟨⟨⟨registry, live⟩, wrapper⟩, -⟩, covers⟩ := checks
          exact ⟨registry, live, wrapper, covers⟩

/-- The event of a call that is launched. -/
theorem begun_of_event {ι : Type} {i : ι} {r r' : Nat} {context context' : Option Nat} {begun : Begun}
    {pending : Pending}
    (h : Source.Readiness.Event.worked i (Source.Worker.Begun.event r context begun) =
          .worked i (.signerCalled r' context' pending) ∨
        Source.Readiness.Event.worked i (Source.Worker.Begun.event r context begun) =
          .worked i (.signerFailed r' context' pending) ∨
        Source.Readiness.Event.worked i (Source.Worker.Begun.event r context begun) =
          .worked i (.sent r' context' pending)) :
    begun = .awaitSigner pending ∨ begun = .signerFailed pending ∨ begun = .sending pending := by
  cases begun with
  | awaitSigner found | signerFailed found | sending found =>
    rcases h with h | h | h <;> cases h
    simp
  | rejected | passthrough | raised => rcases h with h | h | h <;> cases h

theorem context_of_accessed {w : Worker.World} {r : Nat} {result : AccessResult}
    (h : ((w.setRequest r ((w.requests r).accessed result)).requests r).shared.isSome = true) :
    result.shared.isSome = true := by
  rw [Source.Worker.World.setRequest_self] at h
  unfold Source.Worker.Request.accessed at h
  cases hshared : result.shared with
  | none =>
    rw [hshared] at h
    cases h
  | some context => rfl

theorem gateOpen_of_passes {x : Setting ι} {c : Cluster ι} {i : ι} {step : Worker.Step}
    (h : Passes x c i step) :
    (c.procs i).pending = [] ∧ GateOpen x.host (c.procs i).world.modules.transport c.marker := by
  cases h with
  | @call r env self uri options e shown launched =>
    simp only [Setting.step] at shown
    split at shown
    · rename_i idle
      refine ⟨idle, ?_⟩
      obtain ⟨event, hevent, rfl⟩ := List.mem_map.mp shown
      have hshown := (List.mem_filter.mp hevent).1
      change event ∈ (Source.Worker.beginStep x.host (c.procs i).world r { env with marker := c.marker }
        self uri options).2 at hshown
      unfold Source.Worker.beginStep at hshown
      split at hshown
      · obtain rfl := List.mem_singleton.mp hshown
        obtain ⟨r', context, pending, hevent⟩ := launched
        exact gateOpen_of_begun ⟨pending, begun_of_event hevent⟩
      · cases hshown
    · cases shown
  | @access r env sharedTable routeId idle context =>
    refine ⟨idle, ?_⟩
    simp only [Setting.step, if_pos idle, setProc_self] at context
    have gate := gateOpen_of_context (context_of_accessed context)
    dsimp only at gate
    rwa [Function.update_self] at gate

/-! ## What an open gate rests on -/

/-- A worker in runtime mode behind an open gate exports under the identity of its process. -/
theorem identified_of_open {ι : Type} {x : Setting ι} {i : ι} {p : Proc} {effects : List FileEffect}
    {marker : Option Bytes} (proc : ProcInv x i p effects)
    (runtime : (x.process i).statusDir = some statusDirectory)
    (gate : GateOpen x.host p.world.modules.transport marker) :
    Identified (x.process i) p.world.modules.transport ∧
      p.world.modules.transport.statusDir = some statusDirectory := by
  have given : statusDirGiven (x.process i) = some statusDirectory := by
    unfold statusDirGiven
    rw [runtime]
    exact if_neg (by decide)
  obtain ⟨env, configs, settled⟩ := proc.settled
  rcases settled with failed | ⟨-, unready⟩ | ⟨loaded, -, holding⟩
  · exact absurd (failed.symm.trans gate.live) (by decide)
  · exact absurd (unready.symm.trans gate.registry) (by decide)
  · have valid : ownConfigValid (x.process i) = true := holding.ready.symm.trans gate.registry
    refine ⟨holding.identified, holding.identified.dir.trans ?_⟩
    rw [ownStatusDir, if_pos valid, given]

/-- What an admission rests on: the marker that stands was published for a status that the
worker itself had written, ready and under its present identity; only its delegate may have
been lost since, and only if it has removed a marker in between. -/
structure Backing (x : Setting ι) (past : List (Source.Readiness.Event ι)) (i : ι) (s : State)
    (accepted : Accepted) (status : StatusSnapshot) : Prop where
  published : Since (fun before e => e = .published (canonical accepted.marker) ∧
    .wrote i status ∈ before) Event.EndsMarker past
  trusts : Trusts s accepted
  ready : status.Ready
  workerId : status.workerId = s.workerId
  pid : status.pid = s.pid
  generation : status.generation = s.startupGeneration
  configHash : status.configHash = s.configHash
  epoch : status.registryEpoch = s.registryEpoch
  wrapper : (snapshot s).wrapperReady = true
  registry : (snapshot s).registryReady = true
  bridge : (snapshot s).bridgeLoaded = true
  kept : Since (fun _ e => e = .wrote i status) (· = .removed i) past → (snapshot s).Ready

theorem sameId_of_map {a b : Option Nat} (h : a.map Int.ofNat = b.map Int.ofNat) : a = b :=
  Option.map_injective (fun _ _ => Int.ofNat.inj) h

/-- A ready status written without a removal since, among the effects of its worker. -/
theorem said_of_wrote {past : List (Source.Readiness.Event ι)} {i : ι} {status : StatusSnapshot}
    (h : Since (fun _ e => e = .wrote i status) (· = .removed i) past) (ready : status.Ready) :
    Since (fun _ x => x.SaysReady) FileEffect.IsRemoval (effectsOf i past) := by
  apply h.filterMap
  · intro e he
    exact ⟨.writeStatus status, effect?_eq_some.mpr he, status, rfl, ready⟩
  · intro e he effect heffect hremoval
    obtain rfl : effect = .removeMarker := hremoval
    exact effect?_eq_some.mp heffect

theorem backing_of_open {x : Setting ι} {c : Cluster ι} {past : List (Source.Readiness.Event ι)}
    {i : ι} (fits : x.Fits) (inv : Inv x c past)
    (runtime : (x.process i).statusDir = some statusDirectory) (idle : (c.procs i).pending = [])
    (gate : GateOpen x.host (c.procs i).world.modules.transport c.marker) :
    ∃ accepted status, Backing x past i (c.procs i).world.modules.transport accepted status := by
  have proc := inv.procs i
  obtain ⟨identified, hdir⟩ := identified_of_open proc runtime gate
  have covers := gate.covers
  obtain ⟨marker, value, hmarker, hvalue⟩ := decoded_of_covers hdir covers
  obtain ⟨before, e, after, rfl, ⟨rfl, vouched⟩, hafter⟩ := inv.marker marker hmarker
  obtain ⟨lines, expected, accepted, haccepted, hlines, rfl⟩ := vouched
  have sub : ∀ e ∈ before, e ∈ before ++ Event.published (canonical accepted.marker) :: after :=
    fun e he => List.mem_append_left _ he
  have small : SmallIds (WrittenIn before) := by
    rintro status ⟨j, hwrote⟩
    exact inv.smallIds fits status ⟨j, sub _ hwrote⟩
  have written := written_of_captured fits small haccepted hlines
  rw [hmarker] at covers
  have trusts := (covers_iff written.sound hdir hvalue
    (fits.decodes accepted written.plain value hvalue)).mp covers
  obtain ⟨w, hw, names⟩ := trusts.named
  obtain ⟨status, ⟨j, hwrote⟩, behind⟩ := written.behind w hw
  obtain ⟨-, hid, hpid⟩ := inv.wrote (sub _ hwrote)
  have samePid : status.pid = (c.procs i).world.modules.transport.pid :=
    sameId_of_map (behind.pid.trans names.pid.symm)
  have author : j = i := by
    apply fits.distinct
    have := hpid.symm.trans (samePid.trans identified.pid)
    exact Option.some.inj this
  subst author
  refine ⟨accepted, status, ⟨before, _, after, rfl, ⟨rfl, hwrote⟩, hafter⟩, trusts, behind.ready, ?_, samePid,
    ?_, ?_, ?_, gate.wrapper, ?_, proc.known.bridgeLoaded, ?_⟩
  · exact sameId_of_map (behind.workerId.trans names.workerId.symm)
  · exact behind.generation.symm.trans trusts.generation
  · exact behind.configHash.symm.trans trusts.configHash
  · exact behind.epoch.symm.trans names.epoch
  · simp only [snapshot, gate.registry, gate.live, trusts.exported, Bool.not_false, Bool.and_true]
  · intro since
    apply proc.recorded.ready
    rw [idle, List.append_nil]
    exact said_of_wrote since behind.ready

/-- In every order of the steps of workers and supervisor, a worker that passes the gate has
written the very status it was published for. -/
theorem gate_backed {x : Setting ι} (fits : x.Fits) (inputs : List (Input ι)) {i : ι}
    (runtime : (x.process i).statusDir = some statusDirectory) {step : Worker.Step}
    (passes : Passes x (x.run {} inputs).1 i step) :
    ∃ accepted status, Backing x (x.run {} inputs).2 i
      ((x.run {} inputs).1.procs i).world.modules.transport accepted status := by
  obtain ⟨idle, gate⟩ := gateOpen_of_passes passes
  exact backing_of_open fits (inv_run x inputs) runtime idle gate

/-! The deployed worker and its supervisor. -/

/-- What the worker writes once the bridge is its delegate. -/
def startedStatus : StatusSnapshot where
  workerId := some 0
  pid := some 11
  generation := some (ascii "gen-1")
  configHash := some (ascii Source.Deployment.configHash)
  registryEpoch := some (ascii readyEpoch)
  wrapperReady := true
  registryReady := true
  bridgeLoaded := true
  delegateReady := true
  routes := [⟨routeA.routeId, routeA.logicalRoute, routeA.clientId⟩,
    ⟨routeB.routeId, routeB.logicalRoute, routeB.clientId⟩]

/-- Libraries that write this status and read its marker. -/
def startedSetting : Setting Unit where
  host := decodingHost
  process := fun _ => Source.Deployment.process
  encode := fun status => if status = startedStatus then ofAscii (print (.obj readyRow)) else []
  floats := ⟨fun _ _ => false, fun _ _ => false⟩
  digits := asciiDigits
  sha256 := fun _ => []

/-- The worker starts, then the supervisor reads its status and publishes the marker. -/
def startedInputs : List (Input Unit) :=
  Source.Deployment.started.flatMap (fun step => .work () step :: List.replicate 4 (.perform ())) ++
    [.capture, .generation (text "gen-1"), .workerPid (text "11"), .read 0, .validate (text "gen-1"),
      .publish]

theorem expectedRoute_readable (routeId logicalRoute clientId : String) :
    Readable (fun found => some (.obj (dict found))) (.obj (expectedRoute routeId logicalRoute clientId)) := by
  refine ⟨rfl, ?_⟩
  exact ⟨hasPair_text _, hasPair_text _, hasPair_text _, hasPair_text _, hasPair_text _, hasPair_text _, trivial⟩

theorem readyRow_decoded : loadsDict (ofAscii (print (.obj readyRow))) = some (.obj readyRow) := by
  apply loads_print
  refine ⟨rfl, ?_⟩
  exact ⟨hasPair_text _, trivial, hasPair_text _, trivial, hasPair_text _, hasPair_text _,
    hasPair_text _, hasPair_text _, hasPair_text _, hasPair_text _, hasPair_text _, trivial,
    hasPair_text _, trivial, hasPair_text _, trivial, hasPair_text _, trivial, hasPair_text _,
    ⟨expectedRoute_readable _ _ _, expectedRoute_readable _ _ _, trivial⟩, trivial⟩

theorem readyRow_of_startedStatus : RowOf startedStatus readyRow where
  workerId := rfl
  pid := rfl
  generation := .inr ⟨text "gen-1", rfl, by decide +kernel⟩
  configHash := .inr ⟨text Source.Deployment.configHash, rfl, by decide +kernel⟩
  registryEpoch := .inr ⟨text readyEpoch, rfl, by decide +kernel⟩
  wrapper := rfl
  registry := rfl
  bridge := rfl
  delegate := rfl

theorem startedSetting_encodes : Encodes startedSetting.encode where
  oneLine := by
    intro status
    change _ ∉ if status = startedStatus then ofAscii (print (.obj readyRow)) else []
    split
    · decide +kernel
    · exact List.not_mem_nil
  row := by
    intro status row _ _ h
    change loadsDict (if status = startedStatus then ofAscii (print (.obj readyRow)) else []) = _ at h
    split at h
    · rename_i same
      rw [readyRow_decoded] at h
      obtain rfl := Json.obj.inj (Option.some.inj h)
      rw [same]
      exact readyRow_of_startedStatus
    · cases h

theorem readyAccepted_plain : readyAccepted.Plain where
  generation := by decide +kernel
  configHash := by decide +kernel
  epochs := by decide +kernel
  ids := by
    intro w hw
    obtain rfl := List.mem_singleton.mp hw
    exact ⟨0, 11, rfl, rfl, by decide, by decide⟩

theorem startedSetting_decodes : DecodesMarkers startedSetting.host := by
  intro accepted plain value h
  change decodingHost.cjsonDecode _ = _ at h
  rw [decodingHost_decode] at h
  split at h
  · rename_i same
    obtain rfl := Option.some.inj h
    rw [plain.marker_of_canonical readyAccepted_plain same]
    exact readyMarker_mirrors
  · cases h

theorem startedSetting_fits : startedSetting.Fits where
  encodes := startedSetting_encodes
  decodes := startedSetting_decodes
  small := fun _ => (by decide +kernel : 0 < wholeNumbers ∧ 11 < wholeNumbers)
  distinct := fun _ _ _ => rfl

theorem started_run : let c := (startedSetting.run {} startedInputs).1
    c.rows 0 = some startedStatus ∧ (c.procs ()).pending = [] ∧
      (((startedSetting.step c (.work () (.access 0 Source.Deployment.env true
        (some routeA.routeId)))).1.procs ()).world.requests 0).shared.isSome = true := by
  decide +kernel

theorem gate_backed_started : ∃ accepted status, Backing startedSetting
    (startedSetting.run {} startedInputs).2 ()
    ((startedSetting.run {} startedInputs).1.procs ()).world.modules.transport accepted status :=
  gate_backed startedSetting_fits startedInputs rfl (.access started_run.2.1 started_run.2.2)

/-! ## What a check finds -/

/-- A status file says what its worker would say now, unless the worker has file operations
left to do or its export has failed. -/
theorem status_files_truthful {x : Setting ι} (inputs : List (Input ι)) {n : Nat}
    {status : StatusSnapshot} (hrow : (x.run {} inputs).1.rows n = some status) :
    ∃ i, .wrote i status ∈ (x.run {} inputs).2 ∧ (x.process i).workerId.getD 0 = n ∧
      (((x.run {} inputs).1.procs i).pending = [] →
        ((x.run {} inputs).1.procs i).world.modules.transport.statusExportFailed = false →
        status = snapshot ((x.run {} inputs).1.procs i).world.modules.transport) :=
  (inv_run x inputs).truthful hrow

theorem status_files_truthful_started :
    ∃ i, .wrote i startedStatus ∈ (startedSetting.run {} startedInputs).2 ∧
      (startedSetting.process i).workerId.getD 0 = 0 ∧
      (((startedSetting.run {} startedInputs).1.procs i).pending = [] →
        ((startedSetting.run {} startedInputs).1.procs i).world.modules.transport.statusExportFailed =
          false →
        startedStatus =
          snapshot ((startedSetting.run {} startedInputs).1.procs i).world.modules.transport) :=
  status_files_truthful startedInputs started_run.1

/-- A check that is accepted finds every process it lists: such a worker is ready under the
generation and the configuration of the marker, unless it has file operations left to do or
its export has failed. -/
theorem accepted_check_truthful {x : Setting ι} (fits : x.Fits) (inputs : List (Input ι))
    {lines : List Text} {expectedGeneration : Text} {accepted : Accepted}
    (captured : ∀ line ∈ lines,
      Captured x (fun status => ∃ n, (x.run {} inputs).1.rows n = some status) line)
    (haccepted : validate x.floats x.digits lines expectedGeneration = some accepted) :
    ∃ read, lines.foldlM (readLine x.digits) {} = some read ∧ ∀ pid ∈ read.workerPids,
      ∃ i, (x.process i).workerPid.getD 0 = pid ∧
        (((x.run {} inputs).1.procs i).pending = [] →
          ((x.run {} inputs).1.procs i).world.modules.transport.statusExportFailed = false →
          (snapshot ((x.run {} inputs).1.procs i).world.modules.transport).Ready ∧
            encodeUtf8 expectedGeneration =
              ((x.run {} inputs).1.procs i).world.modules.transport.startupGeneration ∧
            encodeUtf8 accepted.configHash =
              ((x.run {} inputs).1.procs i).world.modules.transport.configHash) := by
  have inv := inv_run x inputs
  have small : SmallIds fun status => ∃ n, (x.run {} inputs).1.rows n = some status := by
    rintro status ⟨n, hrow⟩
    obtain ⟨i, hwrote, -⟩ := inv.truthful hrow
    exact inv.smallIds fits status ⟨i, hwrote⟩
  have written := written_of_captured fits small haccepted captured
  obtain ⟨read, hread, vetted, rfl⟩ := validate_accepted haccepted
  refine ⟨read, hread, ?_⟩
  intro pid hpid
  obtain ⟨w, hw, hsame⟩ := List.mem_map.mp (vetted.covers pid hpid)
  obtain ⟨status, ⟨n, hrow⟩, behind⟩ := written.behind w hw
  obtain ⟨i, hwrote, -, now⟩ := inv.truthful hrow
  obtain ⟨-, -, hstatus⟩ := inv.wrote hwrote
  refine ⟨i, ?_, ?_⟩
  · have hpids := behind.pid
    rw [hstatus, hsame] at hpids
    exact Int.ofNat.inj (Option.some.inj hpids)
  · intro idle clear
    have same := now idle clear
    rw [same] at behind
    exact ⟨behind.ready, behind.generation, behind.configHash⟩

theorem readyLines_captured : ∀ line ∈ readyLines, Captured startedSetting
    (fun status => ∃ n, (startedSetting.run {} startedInputs).1.rows n = some status) line := by
  have lines : readyLines = [captureLine "G" (text "gen-1"), captureLine "P" (text "11"),
      statusLine 0 (startedSetting.encode startedStatus)] := by decide +kernel
  rw [lines]
  have reported : Captured startedSetting
      (fun status => ∃ n, (startedSetting.run {} startedInputs).1.rows n = some status)
      (statusLine (startedStatus.workerId.getD 0) (startedSetting.encode startedStatus)) :=
    .status ⟨0, started_run.1⟩
  exact List.forall_mem_cons.mpr ⟨.generation (by decide +kernel),
    List.forall_mem_cons.mpr ⟨.workerPid _, List.forall_mem_singleton.mpr reported⟩⟩

theorem accepted_check_truthful_started :
    ∃ read, readyLines.foldlM (readLine startedSetting.digits) {} = some read ∧
      ∀ pid ∈ read.workerPids, ∃ i, (startedSetting.process i).workerPid.getD 0 = pid ∧
        (((startedSetting.run {} startedInputs).1.procs i).pending = [] →
          ((startedSetting.run {} startedInputs).1.procs i).world.modules.transport.statusExportFailed =
            false →
          (snapshot ((startedSetting.run {} startedInputs).1.procs i).world.modules.transport).Ready ∧
            encodeUtf8 (text "gen-1") =
              ((startedSetting.run {} startedInputs).1.procs i).world.modules.transport.startupGeneration ∧
            encodeUtf8 readyAccepted.configHash =
              ((startedSetting.run {} startedInputs).1.procs i).world.modules.transport.configHash) :=
  accepted_check_truthful startedSetting_fits startedInputs readyLines_captured ready_accepted

end KonnectFapi.Guarantees

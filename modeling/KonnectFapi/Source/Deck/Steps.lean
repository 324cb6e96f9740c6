import KonnectFapi.Source.Deck.Main

/-!
# The steps of the deck script

Source: scripts/run-deck.py:437-682. For every part of the script, what its whole runs have
asked and found; only the reviews and the requested command start a process.
-/

namespace KonnectFapi.Source.Deck
open Lib Lib.Json
open Dialogue
open GatewayState (Gateway)

/-! ## Checks -/

@[simp] theorem ran_demand {holds : Bool} {message : String} {t : History} {u : Unit} :
    Ran (demand holds message) t (.ok u) ↔ t = [] ∧ holds = true := by
  unfold demand
  rw [ran_check, require_eq_ok]

@[simp] theorem not_asks_demand {holds : Bool} {message : String} {t : History} {q : Question} :
    ¬ Asks (demand holds message) t q := not_asks_check

@[simp] theorem not_ran_refuse {α : Type} {message : String} {t : History} {value : α} :
    ¬ Ran (refuse message : Asking α) t (.ok value) := by
  unfold refuse
  rw [ran_check]
  rintro ⟨-, h⟩
  cases h

@[simp] theorem not_asks_refuse {α : Type} {message : String} {t : History} {q : Question} :
    ¬ Asks (refuse message : Asking α) t q := not_asks_check

theorem equal_str {floats : FloatEquality} {t : Text} {v : Json} :
    equal floats (.str t) v = true ↔ v = .str t := by
  cases v <;> simp [equal, str?]

/-! ## Processes -/

theorem finishedOr_eq_ok {failure : Bool → Refused} {result : DeckResult} {finished : Finished} :
    finishedOr failure result = .ok finished ↔
      result = .finished finished.returncode finished.stdout finished.stderr := by
  cases result with
  | finished returncode stdout stderr =>
    obtain ⟨c, o, e⟩ := finished
    simp [finishedOr]
  | undecodable | timedOut | osError => simp [finishedOr]

variable {x : Libraries} {s : Start} {session : Session} {word : String} {further : List String}
  {failure : Bool → Refused} {t : History} {q : Question}

/-- The exchange of a process that has finished. -/
def Finished.exchange (finished : Finished) (arguments : List Text) (environment : List (Text × Text)) :
    Exchange AnswerTo :=
  ⟨.deck arguments environment, .finished finished.returncode finished.stdout finished.stderr⟩

theorem ran_runDeck {finished : Finished} :
    Ran (runDeck s session word further failure) t (.ok finished) ↔
      t = [finished.exchange (session.command s word further) (session.environment s)] := by
  unfold runDeck
  rw [ran_bind_ok]
  constructor
  · rintro ⟨result, before, after, rfl, hask, hcheck⟩
    obtain rfl := ran_question.mp hask
    obtain ⟨rfl, hfinished⟩ := ran_check.mp hcheck
    obtain rfl := finishedOr_eq_ok.mp hfinished
    rfl
  · rintro rfl
    exact ⟨_, [_], [], rfl, ran_question.mpr rfl, ran_check.mpr ⟨rfl, finishedOr_eq_ok.mpr rfl⟩⟩

theorem asks_runDeck : Asks (runDeck s session word further failure) t q ↔
    t = [] ∧ q = .deck (session.command s word further) (session.environment s) := by
  unfold runDeck
  rw [asks_bind, asks_question]
  constructor
  · rintro (h | ⟨result, before, after, -, -, h⟩)
    · exact h
    · exact absurd h not_asks_check
  · exact .inl

/-! ## Where nothing is started or sent -/

/-- A deck process, or a schema sent to the control plane. -/
def Question.acts : Question → Bool
  | .deck _ _ | .sendSchema _ _ _ _ => true
  | _ => false

/-- A part of the scripts that only reads and writes lines. -/
def Passive {α : Type} (d : Asking α) : Prop := Only (fun q => q.acts = false) d

section
variable {α β : Type}

theorem Passive.pure (value : α) : Passive (pure value : Asking α) := only_pure value

theorem Passive.check (y : Except Refused α) : Passive (check y : Asking α) := only_check y

theorem Passive.demand (holds : Bool) (message : String) : Passive (demand holds message) := only_check _

theorem Passive.refuse (message : String) : Passive (refuse message : Asking α) := only_check _

theorem Passive.ask (h : q.acts = false) : Passive (ask q) := only_question h

theorem Passive.bind {d : Asking α} {k : α → Asking β} (hd : Passive d) (hk : ∀ value, Passive (k value)) :
    Passive (d >>= k) := only_bind hd hk

theorem Passive.attempt {d : Asking α} (h : Passive d) : Passive d.attempt := only_attempt h

theorem Passive.not_asks {d : Asking α} (h : Passive d) (acts : q.acts = true) : ¬ Asks d t q := by
  intro hasks
  rw [h _ _ hasks] at acts
  cases acts

theorem Passive.quiet {d : Asking α} (h : Passive d) {r : Except Refused α} (hran : Ran d t r) :
    ∀ e ∈ t, e.1.acts = false := Only.history h hran

/-- Whatever acts in a sequence with such a part comes after it. -/
theorem Passive.after {d : Asking α} {k : α → Asking β} (h : Passive d) (acts : q.acts = true)
    (hasks : Asks (d >>= k) t q) :
    ∃ value before after, t = before ++ after ∧ Ran d before (.ok value) ∧ Asks (k value) after q := by
  rcases asks_bind.mp hasks with hd | hk
  · exact absurd hd (h.not_asks acts)
  · exact hk

end

theorem readLines_passive (keeps : Text → Bool) (path : String) : Passive (readLines keeps path) := by
  apply Passive.bind (.ask rfl)
  intro found
  cases found with
  | missing => exact .pure _
  | failed => exact .check _
  | content t => exact .pure _

theorem askThirdPartyState_passive : Passive askThirdPartyState :=
  .bind (.ask rfl) fun _ => .bind (.ask rfl) fun _ => .bind (.ask rfl) fun _ => .bind (.ask rfl) fun _ =>
    .bind (.check _) fun _ => .pure _

theorem askRuntimeState_passive (gateway : Gateway) : Passive (askRuntimeState gateway) := by
  cases gateway with
  | api => exact .bind (.ask rfl) fun _ => .check _
  | thirdParty => exact askThirdPartyState_passive

theorem askStates_passive (gateway : Gateway) (stage : Option Text) (operation : Operation) :
    Passive (askStates gateway stage operation) := by
  apply Passive.bind (.ask rfl)
  intro foundation
  apply Passive.bind (.check _)
  intro _
  have state : Passive (do
      let found : Bool ← ask (.isFile
        (if isStage stage "foundation" then foundationFile gateway else runtimeFile gateway))
      check (if found then .ok () else .error (.valueError (stage.getD [] ++ text " state is missing: " ++
        text (if isStage stage "foundation" then foundationFile gateway else runtimeFile gateway)))) :
      Asking Unit) := .bind (.ask rfl) fun _ => .check _
  cases operation with
  | validate =>
    cases gateway with
    | api =>
      apply Passive.bind (.ask rfl)
      intro found
      cases found with
      | true => exact askRuntimeState_passive .api
      | false => exact .pure _
    | thirdParty =>
      dsimp only
      split
      · exact askRuntimeState_passive .thirdParty
      · exact .pure _
  | diff | sync =>
    dsimp only
    split
    · exact .bind (askRuntimeState_passive gateway) fun _ => state
    · exact state
  | preflight | schemaCheck | schemaSync => exact .pure _

theorem askManifest_passive (gateway : Gateway) : Passive (askManifest x gateway) := by
  refine .bind (.ask rfl) fun found => .bind (.demand _ _) fun _ => .bind (.ask rfl) fun document => ?_
  cases document with
  | missing | failed => exact .check _
  | content t =>
    exact .bind (.check _) fun _ => .bind (readLines_passive _ _) fun _ => .check _

theorem localManifest_passive (gateway : Gateway) (stage : Option Text) (operation : Operation) :
    Passive (localManifest x gateway stage operation) := by
  apply Passive.bind (.check _)
  intro _
  apply Passive.bind (askStates_passive _ _ _)
  intro _
  cases operation with
  | validate | preflight => exact .pure _
  | diff | sync | schemaCheck | schemaSync => exact .bind (askManifest_passive _) fun _ => .pure _

theorem askInfo_passive : Passive (askInfo x s) := by
  apply Passive.bind (localManifest_passive _ _ _)
  intro info
  cases info with
  | none => exact .check _
  | some info => exact .pure _

theorem certificateDer_passive (value : Json) : Passive (certificateDer value) := by
  unfold certificateDer
  dsimp only
  split
  · refine .bind (.demand _ _) fun _ => .bind (.ask rfl) fun result => ?_
    split
    · exact .pure _
    · exact .refuse _
  · exact .refuse _

theorem checkCertificates_passive (values : Dict) (names : List String) :
    Passive (checkCertificates values names) := by
  induction names with
  | nil => exact .pure _
  | cons name rest ih => exact .bind (certificateDer_passive _) fun _ => ih

theorem askRoleValues_passive (gateway : Gateway) (requirePrivateMode : Bool) :
    Passive (askRoleValues gateway requirePrivateMode) := by
  apply Passive.bind
  · apply Passive.bind (.ask rfl)
    intro read
    cases read with
    | unsafeDirectory | failed | unsuitable => exact .refuse _
    | content raw =>
      apply Passive.bind (.demand _ _)
      intro _
      split
      · exact .pure _
      · exact .refuse _
  · intro roleValues
    unfold validateRoleValues
    split
    · exact .bind (.demand _ _) fun _ => .bind (checkCertificates_passive _ _) fun _ =>
        .bind (.demand _ _) fun _ => .pure _
    · exact .refuse _

theorem askBackendApproval_passive (target roleValues : Dict) :
    Passive (askBackendApproval x target roleValues) := .bind (.ask rfl) fun _ => .check _

theorem prepare_passive : Passive (prepare x s) := by
  refine .bind askInfo_passive fun info => .bind (.ask rfl) fun _ => .bind (.check _) fun _ =>
    .bind (.check _) fun _ => .bind (askRoleValues_passive _ _) fun roleValues => .bind ?_ fun _ => .pure _
  unfold askReceipt
  split
  · exact .bind (.bind (.ask rfl) fun _ => .check _) fun _ => .pure _
  · split
    · exact .bind (askBackendApproval_passive _ _) fun _ => .pure _
    · exact .pure _

theorem verifySharedApiCa_passive (base : Text) (target : Dict) (token : Text) (roleCertificate : Json) :
    Passive (verifySharedApiCa x base target token roleCertificate) := by
  apply Passive.bind (.ask rfl)
  intro response
  cases response with
  | raised => exact .check _
  | answered status response =>
    refine .bind (.demand _ _) fun _ => .bind (.check _) fun remote => .bind (.demand _ _) fun _ =>
      .bind (certificateDer_passive _).attempt fun remoteDer => ?_
    cases remoteDer with
    | error reason => exact .refuse _
    | ok remoteDer =>
      apply Passive.bind (certificateDer_passive _).attempt
      intro expectedDer
      cases expectedDer with
      | error reason => exact .refuse _
      | ok expectedDer => exact .demand _ _

theorem readPlugins_passive (plugins : List (String × String)) : Passive (readPlugins plugins) := by
  induction plugins with
  | nil => exact .pure _
  | cons plugin rest ih =>
    apply Passive.bind
    · apply Passive.bind (.ask rfl)
      intro read
      cases read with
      | missing | failed => exact .check _
      | content t => exact .pure _
    · exact fun _ => .bind ih fun _ => .pure _

theorem writeLines_passive (lines : List Text) : Passive (writeLines lines) := by
  induction lines with
  | nil => exact .pure _
  | cons line rest ih => exact .bind (.ask rfl) fun _ => ih

theorem checkSchemas_passive (gateway : Gateway) (base : Text) (target : Dict) (token : Text) :
    Passive (checkSchemas x gateway base target token) := by
  cases gateway with
  | api => exact writeLines_passive _
  | thirdParty =>
    exact .bind (readPlugins_passive _) fun _ => .bind (.ask rfl) fun _ => .bind (.check _) fun _ =>
      .bind (.check _) fun _ => .bind (.check _) fun _ => writeLines_passive _

theorem connect_passive (prepared : Prepared) : Passive (connect x s prepared) := by
  refine .bind (readLines_passive _ _) fun config => .bind (.demand _ _) fun _ =>
    .bind (.bind (.ask rfl) fun _ => .check _) fun _ => ?_
  split
  · exact .bind (verifySharedApiCa_passive _ _ _ _) fun _ => .bind (checkSchemas_passive _ _ _ _) fun _ => .pure _
  · exact .bind (checkSchemas_passive _ _ _ _) fun _ => .pure _

theorem askUnchanged_passive (receipt : Json) : Passive (askUnchanged x s receipt) := by
  refine .bind askInfo_passive fun info => .bind (askRoleValues_passive _ _) fun roleValues =>
    .bind (askBackendApproval_passive _ _) fun fresh => .bind (.demand _ _) fun _ => .bind (.ask rfl) fun _ =>
      .bind (.demand _ _) fun _ => .bind (.ask rfl) fun state => ?_
  split
  · exact .demand _ _
  · exact .refuse _

theorem askMigrationUnchanged_passive (receipt : Json) : Passive (askMigrationUnchanged x s receipt) := by
  refine .bind (askRoleValues_passive _ _) fun _ => .bind (.ask rfl) fun _ => .bind (.demand _ _) fun _ =>
    .bind (.ask rfl) fun state => ?_
  split
  · exact .demand _ _
  · exact .refuse _

theorem fileSha256_passive (path : String) : Passive (fileSha256 x path) := by
  apply Passive.bind (.ask rfl)
  intro bytes
  split
  · exact .pure _
  · exact .refuse _

theorem reportDiff_passive (stdout : Text) : Passive (reportDiff x s session stdout) := by
  unfold reportDiff
  dsimp only
  split
  · exact .bind (.check _) fun _ => .bind (.ask rfl) fun _ => .bind (.ask rfl) fun _ =>
      .bind (fileSha256_passive _) fun _ => .bind (.ask rfl) fun _ => .ask rfl
  · exact .bind (.check _) fun _ => .bind (.ask rfl) fun _ => .bind (fileSha256_passive _) fun _ =>
      .bind (.ask rfl) fun _ => .bind (.ask rfl) fun _ => .bind (.ask rfl) fun _ => .ask rfl

theorem conclude_passive (result : Finished) : Passive (conclude x s session result) := by
  unfold conclude
  dsimp only
  split
  · exact .bind (.check _) fun _ => .bind (.check _) fun _ => .bind (reportDiff_passive _) fun _ => .pure _
  · split
    · exact .bind (.check _) fun _ => .pure _
    · split
      · exact .bind (.ask rfl) fun _ => .pure _
      · exact .bind (.ask rfl) fun _ => .bind (.ask rfl) fun _ => .pure _

end KonnectFapi.Source.Deck

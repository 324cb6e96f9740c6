import KonnectFapi.Source.Deck.Receipt
import KonnectFapi.Source.Deck.Steps

/-!
# What a review has found

Source: scripts/run-deck.py:437-626. A review that lets the script go on has read the receipt
before and after the fresh diff, and compared it with everything it is bound to.
-/

namespace KonnectFapi.Source.Deck
open Lib Lib.Json
open Dialogue
open GatewayState (Gateway)

variable {x : Libraries} {s : Start} {session : Session} {t : History}

/-! ## Before the token -/

theorem ran_askBackendApproval {target roleValues : Dict} {receipt : Json} :
    Ran (askBackendApproval x target roleValues) t (.ok receipt) ↔ ∃ files, t = [⟨.backendFiles, files⟩] ∧
      readBackendRuntimeApproval x files ⟨.obj target, .obj roleValues⟩ = .ok receipt := by
  unfold askBackendApproval
  rw [ran_bind_ok]
  constructor
  · rintro ⟨files, before, after, rfl, hask, hcheck⟩
    obtain rfl := ran_question.mp hask
    obtain ⟨rfl, hreceipt⟩ := ran_check.mp hcheck
    exact ⟨files, rfl, hreceipt⟩
  · rintro ⟨files, rfl, hreceipt⟩
    exact ⟨files, [_], [], rfl, ran_question.mpr rfl, ran_check.mpr ⟨rfl, hreceipt⟩⟩

theorem ran_askMigrationApproval {target roleValues : Dict} {receipt : Json} :
    Ran (askMigrationApproval x target roleValues) t (.ok receipt) ↔
      ∃ files : MigrationFiles, t = [⟨.migrationFiles, files⟩] ∧
        Migration.readMigrationApproval x.sha256 x.floats ⟨files.directories, files.receipt,
          targetText target "control_plane_id", files.stateLinked, files.state, .obj roleValues⟩ =
            .ok receipt := by
  unfold askMigrationApproval
  rw [ran_bind_ok]
  constructor
  · rintro ⟨files, before, after, rfl, hask, hcheck⟩
    obtain rfl := ran_question.mp hask
    obtain ⟨rfl, hreceipt⟩ := ran_check.mp hcheck
    exact ⟨files, rfl, hreceipt⟩
  · rintro ⟨files, rfl, hreceipt⟩
    exact ⟨files, [_], [], rfl, ran_question.mpr rfl, ran_check.mpr ⟨rfl, hreceipt⟩⟩

/-- What is found before the token is read. -/
structure Preparation (x : Libraries) (s : Start) (t : History) (prepared : Prepared) : Prop where
  approval : requireApproval s = .ok ()
  /-- The manifest, then the role values, then the receipt. -/
  order : ∃ manifest found roles receipt, t = manifest ++ found ++ roles ++ receipt ∧
    Ran (askInfo x s) manifest (.ok prepared.info) ∧
    Ran (askRoleValues s.gateway s.isRuntime) roles (.ok prepared.roleValues) ∧
    Ran (askReceipt x s prepared.info.target prepared.roleValues) receipt (.ok prepared.receipt)

theorem preparation {prepared : Prepared} (h : Ran (prepare x s) t (.ok prepared)) :
    Preparation x s t prepared := by
  obtain ⟨info, manifest, rest, rfl, hinfo, after1⟩ := ran_bind_ok.mp h
  obtain ⟨found, asked, rest, rfl, -, after2⟩ := ran_bind_ok.mp after1
  obtain ⟨_, nothing, rest, rfl, hfound, after3⟩ := ran_bind_ok.mp after2
  obtain ⟨rfl, -⟩ := ran_check.mp hfound
  obtain ⟨_, nothing, rest, rfl, happroval, after4⟩ := ran_bind_ok.mp after3
  obtain ⟨rfl, approval⟩ := ran_check.mp happroval
  obtain ⟨roleValues, roles, rest, rfl, hroles, after5⟩ := ran_bind_ok.mp after4
  obtain ⟨receipt, receiptRead, rest, rfl, hreceipt, after6⟩ := ran_bind_ok.mp after5
  obtain ⟨rfl, rfl⟩ := ran_pure.mp after6
  exact ⟨approval, manifest, asked, roles, receiptRead, by simp, hinfo, hroles, hreceipt⟩

/-! ## The fresh diff -/

/-- A fresh diff that is the reviewed one. -/
structure FreshDiff (x : Libraries) (receipt : Json) (secrets : List Text) (stdout : Text)
    (view : RuntimeDiff.View) (digest : Text) (plan : PlanType) : Prop where
  parsed : RuntimeDiff.parseSanitizedRuntimeDiff x.sha256 x.floats x.walk stdout secrets = .ok (view, digest)
  digest : field receipt "diff_sha256" = .str digest
  planType : field receipt "plan_type" = .str (text plan.name)
  operations : ListsPlan plan view.operationsJson
  sameSummary : equal x.floatEquality view.summary (field receipt "summary") = true
  sameOperations : equal x.floatEquality view.operationsJson (field receipt "operations") = true

theorem checkReviewedDiff_eq_ok {receipt : Json} {secrets : List Text} {stdout : Text} {u : Unit}
    (h : checkReviewedDiff x receipt secrets stdout = .ok u) :
    ∃ view digest plan, FreshDiff x receipt secrets stdout view digest plan := by
  obtain ⟨⟨view, digest⟩, hparsed, h⟩ := bind_eq_ok.mp h
  obtain ⟨plan, hplan, h⟩ := bind_eq_ok.mp h
  have same := require_eq_ok.mp h
  simp only [Bool.and_eq_true] at same
  obtain ⟨hname, hoperations⟩ := validateBackendScope_eq_ok hplan
  exact ⟨view, digest, plan, hparsed, equal_str.mp same.1.1, hname, hoperations, same.1.2, same.2⟩

/-! ## The second reading -/

/-- What the second reading has compared with the receipt. -/
structure Rechecked (x : Libraries) (s : Start) (receipt : Json) (t : History) (info : ManifestInfo)
    (roleValues : Dict) (files : BackendFiles) (fresh : Json) (state : Bytes) : Prop where
  order : ∃ manifest roles, t = manifest ++ roles ++ [⟨.backendFiles, files⟩, ⟨.isLink s.stateRelative, false⟩,
      ⟨.fileBytes s.stateRelative, some state⟩] ∧
    Ran (askInfo x s) manifest (.ok info) ∧ Ran (askRoleValues s.gateway true) roles (.ok roleValues)
  accepted : readBackendRuntimeApproval x files ⟨.obj info.target, .obj roleValues⟩ = .ok fresh
  same : equal x.floatEquality fresh receipt = true
  state : field receipt "state_sha256" = .str (x.sha256 state)
  roleInputs : field receipt "role_inputs_sha256" = .str (x.canonicalSha256 (.obj roleValues))
  target : field receipt "target_sha256" = .str (x.canonicalSha256 (.obj info.target))

theorem rechecked {receipt : Json} {u : Unit} (h : Ran (askUnchanged x s receipt) t (.ok u)) :
    ∃ info roleValues files fresh state, Rechecked x s receipt t info roleValues files fresh state := by
  obtain ⟨info, manifest, rest, rfl, hinfo, after1⟩ := ran_bind_ok.mp h
  obtain ⟨roleValues, roles, rest, rfl, hroles, after2⟩ := ran_bind_ok.mp after1
  obtain ⟨fresh, read, rest, rfl, hread, after3⟩ := ran_bind_ok.mp after2
  obtain ⟨files, rfl, hreceipt⟩ := ran_askBackendApproval.mp hread
  obtain ⟨_, nothing, rest, rfl, hsame, after4⟩ := ran_bind_ok.mp after3
  obtain ⟨rfl, same⟩ := ran_demand.mp hsame
  obtain ⟨linked, asked, rest, rfl, hlinked, after5⟩ := ran_bind_ok.mp after4
  obtain rfl := ran_question.mp hlinked
  obtain ⟨_, nothing, rest, rfl, hunlinked, after6⟩ := ran_bind_ok.mp after5
  obtain ⟨rfl, unlinked⟩ := ran_demand.mp hunlinked
  obtain ⟨bytes, asked, rest, rfl, hbytes, after7⟩ := ran_bind_ok.mp after6
  obtain rfl := ran_question.mp hbytes
  cases linked with
  | true => cases unlinked
  | false =>
    cases bytes with
    | none => exact absurd after7 not_ran_refuse
    | some state =>
      obtain ⟨rfl, digests⟩ := ran_demand.mp after7
      simp only [Bool.and_eq_true] at digests
      refine ⟨info, roleValues, files, fresh, state, ⟨manifest, roles, by simp, hinfo, hroles⟩, hreceipt, same,
        equal_str.mp digests.1.1, equal_str.mp digests.1.2, equal_str.mp digests.2⟩

/-! ## The third-party review -/

/-- The processes of the review, and what it has read after them. -/
structure Review where
  validation : Finished
  diff : Finished
  view : RuntimeDiff.View
  digest : Text
  plan : PlanType
  info : ManifestInfo
  roleValues : Dict
  second : BackendFiles
  fresh : Json
  state : Bytes

def validateArguments : List String := ["--online-entities-list", "Routes", "--no-color"]
def diffArguments : List String := ["--json-output", "--no-color", "--no-mask-deck-env-vars-value"]

/-- A process that reports success and nothing else. -/
structure Finished.Clean (finished : Finished) : Prop where
  success : finished.returncode = 0
  quiet : isQuiet finished.stderr = true

structure Reviewed (x : Libraries) (s : Start) (session : Session) (receipt : Json) (t : History)
    (review : Review) : Prop where
  order : ∃ later, t = review.validation.exchange (session.command s "validate" validateArguments)
        (session.environment s) ::
      review.diff.exchange (session.command s "diff" diffArguments) (session.environment s) :: later ∧
    Rechecked x s receipt later review.info review.roleValues review.second review.fresh review.state
  validation : review.validation.Clean
  diff : review.diff.Clean
  fresh : FreshDiff x receipt session.sensitiveValues review.diff.stdout review.view review.digest review.plan

theorem clean_of_demand {finished : Finished}
    (h : (finished.returncode == 0 && isQuiet finished.stderr) = true) : finished.Clean := by
  rw [Bool.and_eq_true, beq_iff_eq] at h
  exact ⟨h.1, h.2⟩

theorem reviewed_of_ran {receipt : Json} {u : Unit}
    (h : Ran (reviewThirdParty x s session receipt) t (.ok u)) :
    ∃ review, Reviewed x s session receipt t review := by
  obtain ⟨validation, ran, rest, rfl, hvalidation, after1⟩ := ran_bind_ok.mp h
  obtain rfl := ran_runDeck.mp hvalidation
  obtain ⟨_, nothing, rest, rfl, hclean, after2⟩ := ran_bind_ok.mp after1
  obtain ⟨rfl, cleanValidation⟩ := ran_demand.mp hclean
  obtain ⟨diff, ran, rest, rfl, hdiff, after3⟩ := ran_bind_ok.mp after2
  obtain rfl := ran_runDeck.mp hdiff
  obtain ⟨_, nothing, rest, rfl, hclean, after4⟩ := ran_bind_ok.mp after3
  obtain ⟨rfl, cleanDiff⟩ := ran_demand.mp hclean
  obtain ⟨_, nothing, rest, rfl, hfresh, after5⟩ := ran_bind_ok.mp after4
  obtain ⟨rfl, reviewed⟩ := ran_check.mp hfresh
  obtain ⟨view, digest, plan, fresh⟩ := checkReviewedDiff_eq_ok reviewed
  obtain ⟨info, roleValues, second, again, state, hrechecked⟩ := rechecked after5
  exact ⟨⟨validation, diff, view, digest, plan, info, roleValues, second, again, state⟩,
    ⟨rest, rfl, hrechecked⟩, clean_of_demand cleanValidation, clean_of_demand cleanDiff, fresh⟩

/-! ## The API review -/

/-- What the API review has found. -/
structure Migrated (x : Libraries) (s : Start) (session : Session) (receipt : Json) (t : History)
    (diff : Finished) (view : Migration.ReceiptView) (digest : Text) (roleValues : Dict) (state : Bytes) :
    Prop where
  order : ∃ roles, t = diff.exchange (session.command s "diff" ["--json-output", "--no-color"])
        (session.environment s) :: roles ++
      [⟨.isLink s.stateRelative, false⟩, ⟨.fileBytes s.stateRelative, some state⟩] ∧
    Ran (askRoleValues s.gateway true) roles (.ok roleValues)
  clean : diff.Clean
  parsed : Migration.parseDeckDiffReport x.sha256 x.floats diff.stdout = .ok (view, digest)
  digest : field receipt "diff_sha256" = .str digest
  sameSummary :
    equal x.floatEquality (RuntimeDiff.summaryJson view.count) (field receipt "summary") = true
  sameOperations : equal x.floatEquality view.operationsJson (field receipt "operations") = true
  state : field receipt "state_sha256" = .str (x.sha256 state)
  roleInputs : field receipt "role_inputs_sha256" = .str (x.canonicalSha256 (.obj roleValues))

theorem migrated_of_ran {receipt : Json} {u : Unit}
    (h : Ran (reviewMigration x s session receipt) t (.ok u)) :
    ∃ diff view digest roleValues state,
      Migrated x s session receipt t diff view digest roleValues state := by
  obtain ⟨diff, ran, rest, rfl, hdiff, after1⟩ := ran_bind_ok.mp h
  obtain rfl := ran_runDeck.mp hdiff
  obtain ⟨_, nothing, rest, rfl, hsuccess, after2⟩ := ran_bind_ok.mp after1
  obtain ⟨rfl, success⟩ := ran_demand.mp hsuccess
  obtain ⟨_, nothing, rest, rfl, hquiet, after3⟩ := ran_bind_ok.mp after2
  obtain ⟨rfl, quiet⟩ := ran_demand.mp hquiet
  obtain ⟨_, nothing, rest, rfl, hsame, after4⟩ := ran_bind_ok.mp after3
  obtain ⟨rfl, same⟩ := ran_check.mp hsame
  obtain ⟨roleValues, roles, rest, rfl, hroles, after5⟩ := ran_bind_ok.mp after4
  obtain ⟨linked, asked, rest, rfl, hlinked, after6⟩ := ran_bind_ok.mp after5
  obtain rfl := ran_question.mp hlinked
  obtain ⟨_, nothing, rest, rfl, hunlinked, after7⟩ := ran_bind_ok.mp after6
  obtain ⟨rfl, unlinked⟩ := ran_demand.mp hunlinked
  obtain ⟨bytes, asked, rest, rfl, hbytes, after8⟩ := ran_bind_ok.mp after7
  obtain rfl := ran_question.mp hbytes
  cases linked with
  | true => cases unlinked
  | false =>
    cases bytes with
    | none => exact absurd after8 not_ran_refuse
    | some state =>
      obtain ⟨rfl, digests⟩ := ran_demand.mp after8
      obtain ⟨⟨view, digest⟩, hparsed, hcompared⟩ := bind_eq_ok.mp same
      have compared := require_eq_ok.mp hcompared
      simp only [Bool.and_eq_true] at digests compared
      exact ⟨diff, view, digest, roleValues, state, ⟨roles, by simp, hroles⟩,
        ⟨beq_iff_eq.mp success, quiet⟩, hparsed, equal_str.mp compared.1.1, compared.1.2, compared.2,
        equal_str.mp digests.1, equal_str.mp digests.2⟩

/-! ## What a review starts -/

theorem asks_after_demand {α : Type} {holds : Bool} {message : String} {next : Unit → Asking α}
    {q : Question} (h : Asks (demand holds message >>= next) t q) : Asks (next ()) t q := by
  rcases asks_bind.mp h with hasks | ⟨_, before, after, rfl, hran, hnext⟩
  · exact absurd hasks not_asks_demand
  · obtain ⟨rfl, -⟩ := ran_demand.mp hran
    exact hnext

/-- A process of a review is a validation or a diff, in the environment of the run. -/
structure OfReview (s : Start) (session : Session) (arguments : List Text)
    (environment : List (Text × Text)) : Prop where
  environment : environment = session.environment s
  command : ∃ word ∈ ["validate", "diff"], ∃ further, arguments = session.command s word further

theorem asks_reviewThirdParty {receipt : Json} {arguments : List Text} {environment : List (Text × Text)}
    (h : Asks (reviewThirdParty x s session receipt) t (.deck arguments environment)) :
    OfReview s session arguments environment := by
  rcases asks_bind.mp h with h | ⟨validation, _, _, -, -, after1⟩
  · obtain ⟨-, hq⟩ := asks_runDeck.mp h
    obtain ⟨rfl, rfl⟩ := Question.deck.inj hq
    exact ⟨rfl, "validate", by simp, _, rfl⟩
  · rcases asks_bind.mp (asks_after_demand after1) with h | ⟨diff, _, _, -, -, after2⟩
    · obtain ⟨-, hq⟩ := asks_runDeck.mp h
      obtain ⟨rfl, rfl⟩ := Question.deck.inj hq
      exact ⟨rfl, "diff", by simp, _, rfl⟩
    · rcases asks_bind.mp (asks_after_demand after2) with h | ⟨_, _, _, -, -, after3⟩
      · exact absurd h not_asks_check
      · exact absurd after3 ((askUnchanged_passive receipt).not_asks rfl)

theorem asks_reviewMigration {receipt : Json} {arguments : List Text} {environment : List (Text × Text)}
    (h : Asks (reviewMigration x s session receipt) t (.deck arguments environment)) :
    OfReview s session arguments environment := by
  rcases asks_bind.mp h with h | ⟨diff, _, _, -, -, after1⟩
  · obtain ⟨-, hq⟩ := asks_runDeck.mp h
    obtain ⟨rfl, rfl⟩ := Question.deck.inj hq
    exact ⟨rfl, "diff", by simp, _, rfl⟩
  · rcases asks_bind.mp (asks_after_demand (asks_after_demand after1)) with h | ⟨_, _, _, -, -, after2⟩
    · exact absurd h not_asks_check
    · exact absurd after2 ((askMigrationUnchanged_passive receipt).not_asks rfl)

theorem asks_review {arguments : List Text} {environment : List (Text × Text)}
    (h : Asks (review x s session) t (.deck arguments environment)) :
    OfReview s session arguments environment := by
  unfold review at h
  split at h
  · split at h
    · exact asks_reviewThirdParty h
    · exact asks_reviewMigration h
  · exact absurd h not_asks_pure

end KonnectFapi.Source.Deck

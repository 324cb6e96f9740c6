import KonnectFapi.Guarantees.SyncGate
import KonnectFapi.Source.Deck.Schemas

/-!
# The writes to the plugin schemas

Source: scripts/wp1_target.py:719-784. A schema is sent to the control plane only after the whole
inventory was read there, and when all of them are sent the inventory is the desired one.
-/

namespace KonnectFapi.Guarantees
open Lib Lib.Json Source.Deck
open Dialogue (Ran Asks Returns ran_bind_ok ran_question ran_check ran_pure returns_pure returns_question
  returns_check)
open Source.SchemaPages (Sources requestSchemaPages)

variable {x : Libraries} {s : TargetStart} {past t : History} {info : ManifestInfo} {token : Text}

/-! ## What is read before any write -/

/-- The plan of a registration, found on the control plane and in the files. -/
structure RegistrationPlanned (x : Libraries) (t : History) (info : ManifestInfo) (token : Text)
    (plan : SchemaPlan) : Prop where
  files : List.Forall₂ (fun plugin source => source.1 = text plugin.1 ∧
    ⟨.readText plugin.2, .content source.2⟩ ∈ t) pluginFiles plan.expected
  inventory : ∃ server pages, ⟨.schemaPages (schemasUrl (baseOf info) info.target) token, server⟩ ∈ t ∧
    (requestSchemaPages server).2 = .ok pages ∧ readInventory pages = .ok plan.present
  changes : Changes x plan.present plan.expected plan.changed

theorem planSchemas_passive (base : Text) (target : Dict) : Passive (planSchemas x base target token) :=
  .bind (readPlugins_passive _) fun _ => .bind (.ask rfl) fun _ => .bind (.check _) fun _ =>
    .bind (.check _) fun _ => .bind (.check _) fun _ => .pure _

theorem planned_of_ran {plan : SchemaPlan}
    (h : Ran (planSchemas x (baseOf info) info.target token) t (.ok plan)) :
    RegistrationPlanned x t info token plan := by
  obtain ⟨expected, read, rest, rfl, hread, after1⟩ := ran_bind_ok.mp h
  obtain ⟨server, asked, rest, rfl, hserver, after2⟩ := ran_bind_ok.mp after1
  obtain rfl := ran_question.mp hserver
  obtain ⟨pages, nothing, rest, rfl, hpages, after3⟩ := ran_bind_ok.mp after2
  obtain ⟨-, paged⟩ := ran_check.mp hpages
  obtain ⟨present, nothing', rest, rfl, hpresent, after4⟩ := ran_bind_ok.mp after3
  obtain ⟨-, inventory⟩ := ran_check.mp hpresent
  obtain ⟨changed, nothing'', rest, rfl, hchanged, after5⟩ := ran_bind_ok.mp after4
  obtain ⟨-, changes⟩ := ran_check.mp hchanged
  obtain ⟨-, rfl⟩ := ran_pure.mp after5
  refine ⟨(plugins_of_ran hread).imp ?_, ⟨server, pages, by simp, paged, inventory⟩,
    changedSchemas_eq_ok changes⟩
  rintro plugin source ⟨hname, hmem⟩
  exact ⟨hname, by simp [hmem]⟩

/-- What holds before the inventory is asked for. -/
structure RegistrationAdmitted (x : Libraries) (s : TargetStart) (t : History) (info : ManifestInfo)
    (token : Text) : Prop where
  operation : s.operation = .schemaSync
  gateway : s.gateway = .thirdParty
  unstaged : s.stage = none
  allowed : s.approvesSchemas = true
  manifest : ManifestRead x s.gateway t info
  controlPlane : ControlPlane x t (baseOf info) info.target token

theorem openTarget_passive : Passive (openTarget x info) :=
  .bind (readLines_passive _ _) fun _ => .bind (.demand _ _) fun _ =>
    .bind (.bind (.ask rfl) fun _ => .check _) fun _ => .pure _

theorem opened_of_ran (h : Ran (openTarget x info) t (.ok token)) :
    ControlPlane x t (baseOf info) info.target token := by
  obtain ⟨env, read, rest, rfl, -, after1⟩ := ran_bind_ok.mp h
  obtain ⟨_, nothing, rest, rfl, -, after2⟩ := ran_bind_ok.mp after1
  obtain ⟨_, asked, rest, rfl, hverified, after3⟩ := ran_bind_ok.mp after2
  obtain ⟨-, rfl⟩ := ran_pure.mp after3
  obtain ⟨response, remote, hmem, hremote⟩ := controlPlane_of_ran hverified
  exact ⟨response, remote, by simp [hmem], hremote⟩

theorem manifest_of_local {gateway : Source.GatewayState.Gateway} {stage : Option Text}
    {found : Option ManifestInfo} (h : Ran (localManifest x gateway stage .schemaSync) t (.ok found)) :
    stage = none ∧ ∃ info, found = some info ∧ ManifestRead x gateway t info := by
  obtain ⟨_, nothing, rest, rfl, hselected, after1⟩ := ran_bind_ok.mp h
  obtain ⟨-, selected⟩ := ran_check.mp hselected
  obtain ⟨_, states, rest, rfl, -, after2⟩ := ran_bind_ok.mp after1
  obtain ⟨info, read, rest, rfl, hread, after3⟩ := ran_bind_ok.mp after2
  obtain ⟨-, rfl⟩ := ran_pure.mp after3
  obtain ⟨found, document, config, hmem, hvalid⟩ := manifest_of_ran hread
  exact ⟨Option.isNone_iff_eq_none.mp (require_eq_ok.mp selected), info, rfl, found, document, config,
    by simp [hmem], hvalid⟩

/-- The history up to the last answer that is read before the writes. -/
structure Prologue (x : Libraries) (s : TargetStart) (t : History) (info : ManifestInfo) (token : Text)
    (plan : SchemaPlan) : Prop where
  quiet : ∀ e ∈ t, e.1.acts = false
  admitted : RegistrationAdmitted x s t info token
  planned : RegistrationPlanned x t info token plan

/-- What the script has gone through once the plan is there. -/
theorem prologue {found : Option ManifestInfo} {plan : SchemaPlan} {a b c : History}
    (hmanifest : Ran (localManifest x s.gateway s.stage s.operation) a (.ok found))
    (operation : s.operation = .schemaSync)
    (admitted : (!(decide (s.gateway = .api) && decide (s.operation = .schemaSync))) = true)
    (hinfo : found = some info) (allowed : s.approvesSchemas = true)
    (hopened : Ran (openTarget x info) b (.ok token))
    (hplan : Ran (planSchemas x (baseOf info) info.target token) c (.ok plan)) :
    Prologue x s (a ++ b ++ c) info token plan := by
  have quiet (e : Dialogue.Exchange AnswerTo) (he : e ∈ a ++ b ++ c) : e.1.acts = false := by
    rcases List.mem_append.mp he with he | he
    · rcases List.mem_append.mp he with he | he
      · exact (localManifest_passive _ _ _).quiet hmanifest e he
      · exact openTarget_passive.quiet hopened e he
    · exact (planSchemas_passive _ _).quiet hplan e he
  have gateway : s.gateway = .thirdParty := by
    cases hgateway : s.gateway with
    | thirdParty => rfl
    | api => simp [hgateway, operation] at admitted
  rw [operation] at hmanifest
  obtain ⟨unstaged, same, hsame, read, document, config, hmem, hvalid⟩ := manifest_of_local hmanifest
  obtain rfl := Option.some.inj (hinfo.symm.trans hsame)
  obtain ⟨response, remote, hasked, hremote⟩ := opened_of_ran hopened
  obtain ⟨files, ⟨server, pages, hserver, hpages⟩, changes⟩ := planned_of_ran hplan
  refine ⟨quiet, ⟨operation, gateway, unstaged, allowed, ?_, ?_⟩, ?_, ?_, changes⟩
  · exact ⟨read, document, config, by simp [hmem], hvalid⟩
  · exact ⟨response, remote, by simp [hasked], hremote⟩
  · apply files.imp
    rintro plugin source ⟨hname, hread⟩
    exact ⟨hname, by simp [hread]⟩
  · exact ⟨server, pages, by simp [hserver], hpages⟩

/-! ## Every write -/

theorem asks_targetMain {q : Question} (acts : q.acts = true) (h : Asks (targetMain x s) past q) :
    ∃ info token plan read sent, past = read ++ sent ∧ Prologue x s read info token plan ∧
      Asks (sendSchemas (schemasUrl (baseOf info) info.target) token plan.present plan.changed) sent q := by
  obtain ⟨found, a, rest, rfl, hmanifest, after1⟩ := (localManifest_passive _ _ _).after acts h
  split at after1
  · exact absurd after1 Dialogue.not_asks_pure
  obtain ⟨_, nothing, rest, rfl, hadmitted, after2⟩ := (Passive.demand _ _).after acts after1
  obtain ⟨rfl, admitted⟩ := ran_demand.mp hadmitted
  cases found with
  | none => exact absurd after2 Dialogue.not_asks_check
  | some info =>
    obtain ⟨token, b, rest, rfl, hopened, after3⟩ := openTarget_passive.after acts after2
    cases operation : s.operation with
    | schemaSync =>
      rw [operation] at after3
      obtain ⟨_, nothing, rest, rfl, hallowed, after4⟩ := (Passive.demand _ _).after acts after3
      obtain ⟨rfl, allowed⟩ := ran_demand.mp hallowed
      obtain ⟨plan, c, rest, rfl, hplan, after5⟩ := (planSchemas_passive _ _).after acts after4
      have before := prologue hmanifest operation admitted rfl allowed hopened hplan
      rcases Dialogue.asks_bind.mp after5 with hsend | ⟨_, sent, line, rfl, -, hwrite⟩
      · exact ⟨info, token, plan, _, rest, by simp, before, hsend⟩
      · obtain ⟨-, rfl⟩ := Dialogue.asks_question.mp hwrite
        cases acts
    | schemaCheck =>
      rw [operation] at after3
      exact absurd after3 ((checkSchemas_passive _ _ _ _).not_asks acts)
    | validate | preflight | diff | sync =>
      rw [operation] at after3
      exact absurd after3 Dialogue.not_asks_pure

theorem schema_write_reviewed {replaces : Bool} {url source : Text}
    (h : Asks (targetMain x s) past (.sendSchema replaces url token source)) :
    ∃ info plan before desired after read sent, past = read ++ sent ∧
      Prologue x s read info token plan ∧ plan.changed = before ++ desired :: after ∧
      questions sent = before.map (sending (schemasUrl (baseOf info) info.target) token plan.present) ∧
      .sendSchema replaces url token source =
        sending (schemasUrl (baseOf info) info.target) token plan.present desired := by
  obtain ⟨info, token', plan, read, sent, rfl, before, hsend⟩ := asks_targetMain rfl h
  obtain ⟨earlier, desired, later, hchanged, hsent, hquestion⟩ := asks_sendSchemas hsend
  obtain ⟨-, -, rfl, -⟩ := Question.sendSchema.inj hquestion
  exact ⟨info, plan, earlier, desired, later, read, sent, rfl, before, hchanged, hsent, hquestion⟩

/-! A registration on a control plane that has no schemas yet. -/

def schemaAnswer : (q : Question) → AnswerTo q
  | .schemaPages _ _ => fun _ => .answered 200 (.obj [])
  | .sendSchema _ _ _ _ => .answered 201 .null
  | q => deckAnswer .thirdParty q

def schemaStart : TargetStart :=
  ⟨.schemaSync, .thirdParty, none, [(text "SCHEMA_SYNC_APPROVED", text "YES")]⟩

def isSend : Question → Bool
  | .sendSchema _ _ _ _ => true
  | _ => false

theorem exists_of_isSend {q : Question} (h : isSend q = true) :
    ∃ replaces url token source, q = .sendSchema replaces url token source := by
  cases q with
  | sendSchema replaces url token source => exact ⟨replaces, url, token, source, rfl⟩
  | _ => cases h

def askRegistration : Asking Unit := operate (deckLibraries .thirdParty) schemaStart (knownInfo .thirdParty)

theorem registration_evaluated : Migration.isOk (askRegistration.run schemaAnswer).2 = true ∧
    (askRegistration.run schemaAnswer).1.any (fun e => isSend e.1) = true := by
  decide +kernel

theorem returns_schemaManifest : Returns (localManifest (deckLibraries .thirdParty) .thirdParty none .schemaSync)
    (some (knownInfo .thirdParty)) := by
  refine Returns.bind (a := ()) (returns_check rfl) ?_
  apply Returns.bind (a := ())
  · apply Returns.bind (returns_question _ (Source.GatewayState.File.holds shippedFoundation shippedFoundation_loaded))
    exact Returns.bind (returns_check shippedFoundation_accepted) (returns_pure ())
  · exact Returns.bind (returns_of_isOk evaluated_thirdParty.1.1) (returns_pure _)

theorem registration_ran : ∃ before, Ran (targetMain (deckLibraries .thirdParty) schemaStart)
    (before ++ (askRegistration.run schemaAnswer).1) (.ok ()) := by
  obtain ⟨before, hmanifest⟩ := returns_schemaManifest
  refine ⟨before, hmanifest.bind ?_⟩
  rw [if_neg (by decide)]
  have admitted : Ran (demand true "API foundation must not register custom schemas") [] (.ok ()) :=
    ran_demand.mpr ⟨rfl, rfl⟩
  have ran := Dialogue.ran_run schemaAnswer askRegistration
  rw [eq_unit registration_evaluated.1] at ran
  exact admitted.bind ran

theorem schema_write_reviewed_missing : ∃ token info plan read,
    Prologue (deckLibraries .thirdParty) schemaStart read info token plan ∧ plan.changed ≠ [] := by
  obtain ⟨before, ran⟩ := registration_ran
  obtain ⟨e, he, hsend⟩ := List.any_eq_true.mp registration_evaluated.2
  obtain ⟨earlier, later, hsplit⟩ := List.append_of_mem he
  have asks : Asks (targetMain (deckLibraries .thirdParty) schemaStart) (before ++ earlier) e.1 :=
    ran.asks (by rw [hsplit, List.append_assoc])
  obtain ⟨replaces, url, token, source, hquestion⟩ := exists_of_isSend hsend
  rw [hquestion] at asks
  obtain ⟨info, plan, sent, desired, later, read, -, -, prologue, hchanged, -⟩ := schema_write_reviewed asks
  exact ⟨token, info, plan, read, prologue, by simp [hchanged]⟩

/-! ## A whole registration -/

theorem ran_targetMain {u : Unit} (operation : s.operation = .schemaSync)
    (h : Ran (targetMain x s) past (.ok u)) :
    ∃ info token plan read sent line, past = read ++ sent ++ [⟨.write line, ()⟩] ∧
      Prologue x s read info token plan ∧
      questions sent = plan.changed.map (sending (schemasUrl (baseOf info) info.target) token plan.present) := by
  obtain ⟨found, a, rest, rfl, hmanifest, after1⟩ := ran_bind_ok.mp h
  rw [if_neg (by simp [operation])] at after1
  obtain ⟨_, nothing, rest, rfl, hadmitted, after2⟩ := ran_bind_ok.mp after1
  obtain ⟨rfl, admitted⟩ := ran_demand.mp hadmitted
  cases found with
  | none =>
    obtain ⟨-, hnever⟩ := ran_check.mp after2
    cases hnever
  | some info =>
    obtain ⟨token, b, rest, rfl, hopened, after3⟩ := ran_bind_ok.mp after2
    rw [operation] at after3
    obtain ⟨_, nothing, rest, rfl, hallowed, after4⟩ := ran_bind_ok.mp after3
    obtain ⟨rfl, allowed⟩ := ran_demand.mp hallowed
    obtain ⟨plan, c, rest, rfl, hplan, after5⟩ := ran_bind_ok.mp after4
    obtain ⟨_, sent, line, rfl, hsent, hwrite⟩ := ran_bind_ok.mp after5
    obtain rfl := ran_question.mp hwrite
    have before := prologue hmanifest operation admitted rfl allowed hopened hplan
    exact ⟨info, token, plan, _, sent, synchronizedLine plan.changed, by simp, before, ran_sendSchemas hsent⟩

theorem compareHashes_ok {expected observed : Sources} {names : List Text}
    (h : ∀ name ∈ names, ∃ digest, schemaHash x ((expected.lookup name).getD []) = .ok digest ∧
      schemaHash x ((observed.lookup name).getD []) = .ok digest) :
    ∃ hashes, compareHashes x expected observed names = .ok hashes := by
  induction names with
  | nil => exact ⟨[], rfl⟩
  | cons name rest ih =>
    obtain ⟨⟨digest, want, got⟩, others⟩ := List.forall_mem_cons.mp h
    obtain ⟨hashes, hrest⟩ := ih others
    refine ⟨(name, digest) :: hashes, ?_⟩
    refine bind_eq_ok.mpr ⟨digest, want, bind_eq_ok.mpr ⟨digest, got, ?_⟩⟩
    rw [if_pos rfl]
    exact bind_eq_ok.mpr ⟨hashes, hrest, rfl⟩

/-- The inventory that is left when the sent schemas are in their places. -/
def leftInventory (plan : SchemaPlan) : Sources := amend plan.present plan.changed

/-- What is left, under the names of the files, as a schema check would list it. -/
def leftSchemas (plan : SchemaPlan) : Sources :=
  plan.expected.map fun desired => (desired.1, ((leftInventory plan).lookup desired.1).getD [])

theorem leftSchemas_current {plan : SchemaPlan} (h : RegistrationPlanned x t info token plan)
    (hashed : ∀ desired ∈ plan.expected, ∃ digest, schemaHash x desired.2 = .ok digest) :
    ∃ hashes, compareSchemaHashes x plan.expected (leftSchemas plan) = .ok hashes := by
  obtain ⟨-, distinct⟩ := names_of_files h.files
  have names : (leftSchemas plan).map Prod.fst = plan.expected.map Prod.fst := by
    simp [leftSchemas]
  have settled := h.changes.settled distinct
  have same : sameNames plan.expected (leftSchemas plan) = true := by
    have found {sources others : Sources} (h : sources.map Prod.fst = others.map Prod.fst) :
        (sources.all fun m => (others.lookup m.1).isSome) = true := by
      apply List.all_eq_true.mpr
      intro m hm
      exact mem_names_iff.mp (h ▸ List.mem_map_of_mem hm)
    exact Bool.and_eq_true_iff.mpr ⟨found names.symm, found names⟩
  have hashes : ∃ hashes, compareHashes x plan.expected (leftSchemas plan)
      (sortOn id (plan.expected.map Prod.fst)) = .ok hashes := by
    apply compareHashes_ok
    intro name hname
    obtain ⟨desired, hdesired, rfl⟩ := List.mem_map.mp (mem_sortOn.mp hname)
    obtain ⟨digest, hdigest⟩ := hashed desired hdesired
    obtain ⟨source, hsource, same⟩ := settled desired hdesired
    refine ⟨digest, ?_, ?_⟩
    · rw [lookup_eq_some_of_mem distinct (show (desired.1, desired.2) ∈ plan.expected from hdesired)]
      exact hdigest
    · have hleft : (desired.1, source) ∈ leftSchemas plan := by
        refine List.mem_map.mpr ⟨desired, hdesired, ?_⟩
        rw [leftInventory, hsource]
        rfl
      rw [lookup_eq_some_of_mem (by rw [names]; exact distinct) hleft]
      exact same.trans hdigest
  obtain ⟨found, hfound⟩ := hashes
  exact ⟨found, require_bind.mpr ⟨same, hfound⟩⟩

/-- A registration that returns has sent what differs, in the order of the files and nothing else,
and has left every schema at the digest of its file. -/
theorem schema_sync_settles {u : Unit} (operation : s.operation = .schemaSync)
    (h : Ran (targetMain x s) past (.ok u)) :
    ∃ info token plan read sent line, past = read ++ sent ++ [⟨.write line, ()⟩] ∧
      Prologue x s read info token plan ∧
      questions sent = plan.changed.map (sending (schemasUrl (baseOf info) info.target) token plan.present) ∧
      (∀ desired ∈ plan.expected, Current x (leftInventory plan) desired) ∧
      ((∀ desired ∈ plan.expected, ∃ digest, schemaHash x desired.2 = .ok digest) →
        ∃ hashes, compareSchemaHashes x plan.expected (leftSchemas plan) = .ok hashes) := by
  obtain ⟨info, token, plan, read, sent, line, rfl, before, hsent⟩ := ran_targetMain operation h
  obtain ⟨-, distinct⟩ := names_of_files before.planned.files
  exact ⟨info, token, plan, read, sent, line, rfl, before, hsent,
    before.planned.changes.settled distinct, leftSchemas_current before.planned⟩

theorem schema_sync_settles_empty : ∃ info token plan read,
    Prologue (deckLibraries .thirdParty) schemaStart read info token plan ∧
      ∀ desired ∈ plan.expected, Current (deckLibraries .thirdParty) (leftInventory plan) desired := by
  obtain ⟨before, ran⟩ := registration_ran
  obtain ⟨info, token, plan, read, -, -, -, prologue, -, settled, -⟩ := schema_sync_settles rfl ran
  exact ⟨info, token, plan, read, prologue, settled⟩

end KonnectFapi.Guarantees

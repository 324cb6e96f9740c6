import KonnectFapi.Guarantees.MigrationPlan

/-!
# Receipts copied from an accepted diff

Source: scripts/wp3_runtime.py:698-848. The view of an accepted migration, copied into
a receipt, passes every check on the summary and the operations.
-/

namespace KonnectFapi.Guarantees.Migration
open Lib Lib.Json Source.RuntimeDiff Source.Migration

/-- An identity that a receipt can hold. -/
structure Complete (identity : Identity) : Prop where
  kind : identity.kind ≠ []
  name : identity.name ≠ []
  id : ∃ id, identity.id = some id ∧ id ≠ []

/-- The operations of a change set in scope: what a receipt is checked for. -/
structure Reviewed (operations : Operation → List Identity) : Prop where
  length : ∀ op, (operations op).length = expectedCount op
  sorted : ∀ op, sortOn Identity.key (operations op) = operations op
  complete : ∀ op, ∀ identity ∈ operations op, Complete identity
  approved : validateMigrationApprovalOperations expectedCount expectedTotal operations = .ok ()

/-! ## The view of an accepted report -/

theorem view_sorted {report : Json} {read : DeckReport} (h : ReadDeck report read) (op : Operation) :
    sortOn Identity.key (read.view.operations op) = read.view.operations op := by
  have hview : read.view.operations op = (read.changes op).map (·.identity) := rfl
  rw [hview, (h.lists op).identities_eq, sortOn_sortOn]

theorem view_complete {report : Json} {read : DeckReport} (h : ReadDeck report read)
    (hscope : InScope read.changes) (op : Operation) {identity : Identity}
    (hidentity : identity ∈ read.view.operations op) : Complete identity := by
  obtain ⟨change, hchange, rfl⟩ := List.mem_map.mp hidentity
  obtain ⟨entry, _, has⟩ := (h.lists op).read_from hchange
  obtain ⟨hkind, hname⟩ := has.labelled
  refine ⟨hkind, hname, idOf change, ?_⟩
  have hid : change.identity.id = some (idOf change) := by
    cases op with
    | creating => exact hscope.created_id hchange
    | updating =>
      have hempty := List.eq_nil_of_length_eq_zero (hscope.length .updating)
      rw [hempty] at hchange
      cases hchange
    | deleting => exact (hscope.scanned change hchange).id
  refine ⟨hid, fun hnil => has.filled ?_⟩
  rw [hid, hnil]

theorem named_eq (changes : List Change) (hscanned : ∀ change ∈ changes, Scanned change) :
    ((changes.map (·.identity)).filter fun identity => !isCertificate identity).map
        (fun identity => (canonicalEntityKind identity.kind, identity.name)) =
      (scanOf changes).named.map fun row => (some row.1, row.2.1) := by
  have hfilter : changes.filter ((fun identity => !isCertificate identity) ∘ Change.identity) =
      changes.filter fun change => decide (kindOf change ≠ text "certificate") :=
    List.filter_congr fun change hchange => by
      simp [isCertificate, (hscanned change hchange).kind, beq_eq_decide]
  unfold scanOf
  rw [List.filter_map, hfilter, List.map_map, List.map_map]
  refine List.map_congr_left fun change hchange => ?_
  have hkind := (hscanned change (List.mem_filter.mp hchange).1).kind
  simp [hkind, namedRow]

theorem certificates_eq (changes : List Change) (hscanned : ∀ change ∈ changes, Scanned change) :
    (changes.map (·.identity)).countP isCertificate = (scanOf changes).certificates.length := by
  have hfilter : changes.filter (isCertificate ∘ Change.identity) =
      changes.filter fun change => decide (kindOf change = text "certificate") :=
    List.filter_congr fun change hchange => by
      simp [isCertificate, (hscanned change hchange).kind, beq_eq_decide]
  unfold scanOf
  rw [List.countP_map, List.countP_eq_length_filter, hfilter, List.length_map]

/-- The operations of a change set in scope pass the second validator. -/
theorem InScope.approved {read : DeckReport} (h : InScope read.changes) :
    validateMigrationApprovalOperations expectedCount expectedTotal read.view.operations = .ok () := by
  unfold validateMigrationApprovalOperations
  dsimp only
  refine require_bind.mpr ⟨by simp, require_bind.mpr ⟨?_, require_bind.mpr ⟨?_, require_bind.mpr ⟨?_, ?_⟩⟩⟩⟩
  · have hupdates := List.eq_nil_of_length_eq_zero (h.length .updating)
    simp only [DeckReport.view, Bool.and_eq_true, List.isPerm_iff, List.map_map, hupdates,
      List.map_nil, List.isEmpty_nil, and_true]
    exact h.creates
  · have hlength := h.length .deleting
    have hcertificates := h.certificates.length_eq
    rw [List.length_map] at hcertificates
    simp only [DeckReport.view, Bool.and_eq_true, List.isPerm_iff, beq_iff_eq, named_eq _ h.scanned,
      certificates_eq _ h.scanned, List.length_map]
    exact ⟨⟨h.named.map fun row => (some row.1, row.2.1), hcertificates⟩, hlength⟩
  · simp only [DeckReport.view, ← List.map_append, List.map_map, decide_eq_true_eq]
    have hids := h.ids
    rw [Source.Migration.ids, Source.Migration.ids, ← List.map_append] at hids
    exact hids
  · refine require_eq_ok.mpr ?_
    simp only [DeckReport.view, Bool.not_eq_true', List.any_eq_false, List.forall_mem_map]
    intro change hchange hprotected
    have hscanned := h.scanned change hchange
    rw [hscanned.id] at hprotected
    exact hscanned.unprotected (by simpa using hprotected)

theorem InScope.reviewed {report : Json} {read : DeckReport} (h : ReadDeck report read)
    (hscope : InScope read.changes) : Reviewed read.view.operations where
  length op := by rw [DeckReport.view, List.length_map, hscope.length]
  sorted := view_sorted h
  complete op _ := view_complete h hscope op
  approved := hscope.approved

/-! ## Reading a copied receipt -/

theorem filledText_str {t : Text} (h : t ≠ []) : filledText (some (.str t)) = some t := by
  cases t with
  | nil => exact (h rfl).elim
  | cons c rest => rfl

theorem same_str {t : Text} {w : Json} (h : Same (.str t) w) : w = .str t := by
  cases w with
  | str s => rw [show t = s from h]
  | _ => exact h.elim

theorem same_int {n : Int} {w : Json} (h : Same (.int n) w) : w = .int n := by
  cases w with
  | int m => rw [show n = m from h]
  | _ => exact h.elim

theorem same_arr {items : List Json} {w : Json} (h : Same (.arr items) w) :
    ∃ copied, w = .arr copied ∧ List.Forall₂ Same items copied := by
  cases w with
  | arr copied => exact ⟨copied, rfl, sameItems_iff.mp h⟩
  | _ => exact h.elim

theorem same_obj {found : List (Text × Json)} {w : Json} (h : Same (.obj found) w) :
    ∃ copied, w = .obj copied := by
  cases w with
  | obj copied => exact ⟨copied, rfl⟩
  | _ => exact h.elim

/-- The names of an identity. -/
theorem identityNames_nodup : (["kind", "name", "id"].map text).Nodup := by
  decide +kernel

theorem readIdentity_copied {identity : Identity} (h : Complete identity) {entry : Json}
    (hsame : Same identity.json entry) : readIdentity entry = some identity := by
  obtain ⟨kind, name, id⟩ := identity
  obtain ⟨hkind, hname, id, rfl, hid⟩ := h
  obtain ⟨found, rfl⟩ := same_obj hsame
  have hnames := namesAre_of_same ["kind", "name", "id"] hsame (by rfl)
    (by exact identityNames_nodup)
  have hmembers := sameMembers_iff.mp hsame.2
  simp only [List.forall_mem_cons] at hmembers
  obtain ⟨⟨_, hk, hks⟩, ⟨_, hn, hns⟩, ⟨_, hi, his⟩, _⟩ := hmembers
  rw [same_str hks] at hk
  rw [same_str hns] at hn
  rw [same_str his] at hi
  simp only [readIdentity, hnames, if_true, member]
  rw [hk, hn, hi, filledText_str hkind, filledText_str hname, filledText_str hid]

theorem readIdentities_copied {counts : List (Text × Json)} {name : Text} {copied : List Json}
    {identities : List Identity} (hsame : List.Forall₂ Same (identities.map Identity.json) copied)
    (hcomplete : ∀ identity ∈ identities, Complete identity)
    (hsorted : sortOn Identity.key identities = identities)
    (hcount : counts.lookup name = some (.int identities.length)) :
    readIdentities counts (name, .arr copied) = .ok (name, identities) := by
  have hread : copied.mapM readIdentity = some identities := by
    have hboth := (List.forall₂_and_left _ _).mpr ⟨hcomplete, List.forall₂_map_left_iff.mp hsame⟩
    exact mapM_eq_some (hboth.imp fun _ _ both => readIdentity_copied both.1 both.2).flip
  have hlength : copied.length = identities.length := by
    rw [← hsame.length_eq, List.length_map]
  unfold readIdentities
  dsimp only
  refine require_bind.mpr ⟨?_, ?_⟩
  · rw [hcount, hlength]
    simp [isCount]
  · rw [hread]
    refine require_bind.mpr ⟨?_, rfl⟩
    rw [hsorted]
    exact beq_self_eq_true _

/-- The operation of a name. -/
def opNamed (name : Text) : Option Operation := Operation.all.find? fun op => text op.name == name

theorem opNamed_name (op : Operation) : opNamed (text op.name) = some op := by
  have hall : ∀ op ∈ Operation.all, opNamed (text op.name) = some op := by decide +kernel
  exact hall op op.mem_all

theorem lookup_map_names {α : Type} {found : List (Text × Json)} {f : Text → α} {name : Text}
    (h : name ∈ found.map Prod.fst) :
    (found.map fun m => (m.1, f m.1)).lookup name = some (f name) := by
  induction found with
  | nil => cases h
  | cons m rest ih =>
    rw [List.map_cons, List.lookup_cons]
    split
    · rename_i hname
      rw [eq_of_beq hname]
    · rename_i hname
      rcases List.mem_cons.mp h with h | h
      · rw [h] at hname
        simp at hname
      · exact ih h

/-- A receipt that holds the view of a diff, in whatever order of names. -/
structure Copied (view : ReceiptView) (receipt : Json) : Prop where
  summary : ∃ summary, receipt.get? (text "summary") = some summary ∧
    Same (summaryJson view.count) summary
  operations : ∃ operations, receipt.get? (text "operations") = some operations ∧
    Same view.operationsJson operations

theorem checkApproval_copied {view : ReceiptView} {receipt : Json} (hunique : Unique receipt)
    (hreviewed : Reviewed view.operations) (hcount : ∀ op, view.count op = (view.operations op).length)
    (h : Copied view receipt) : checkApproval receipt = .ok () := by
  obtain ⟨summary, hsummary, hsameSummary⟩ := h.summary
  obtain ⟨operations, hoperations, hsameOperations⟩ := h.operations
  obtain ⟨counts, rfl⟩ := same_obj hsameSummary
  obtain ⟨lists, rfl⟩ := same_obj hsameOperations
  obtain ⟨hcountNames, _, _⟩ := report_names
  have hlistNames : (["creating", "updating", "deleting"].map text).Nodup :=
    (List.nodup_append.mp (show ([text "creating", text "updating", text "deleting"] ++
      [text "total"]).Nodup from hcountNames)).1
  have hcountsNamed := namesAre_of_same ["creating", "updating", "deleting", "total"]
    hsameSummary (by rfl) (by exact hcountNames)
  have hlistsNamed := namesAre_of_same ["creating", "updating", "deleting"]
    hsameOperations (by rfl) (by exact hlistNames)
  have hcounts := sameMembers_iff.mp hsameSummary.2
  have hlists := sameMembers_iff.mp hsameOperations.2
  have hcountsUnique := unique_get? hunique hsummary
  have hlistsUnique := unique_get? hunique hoperations
  have hcountOf (op : Operation) :
      counts.lookup (text op.name) = some (.int (view.operations op).length) := by
    obtain ⟨w, hw, hsame⟩ := hcounts (text op.name, .int (view.count op))
      (List.mem_append_left _ (List.mem_map_of_mem (f := fun op => (text op.name, Json.int (view.count op)))
        op.mem_all))
    rw [hw, same_int hsame, hcount]
  have hlistOf (op : Operation) : ∃ copied, lists.lookup (text op.name) = some (.arr copied) ∧
      List.Forall₂ Same ((view.operations op).map Identity.json) copied := by
    obtain ⟨w, hw, hsame⟩ := hlists (text op.name, .arr ((view.operations op).map Identity.json))
      (List.mem_map_of_mem
        (f := fun op => (text op.name, Json.arr ((view.operations op).map Identity.json))) op.mem_all)
    obtain ⟨copied, rfl, hcopied⟩ := same_arr hsame
    exact ⟨copied, hw, hcopied⟩
  let read (name : Text) : List Identity := ((opNamed name).map view.operations).getD []
  have hread : lists.mapM (readIdentities counts) = .ok (lists.map fun m => (m.1, read m.1)) := by
    refine mapM_eq_ok.mpr (List.forall₂_map_right_iff.mpr (List.forall₂_same.mpr fun m hm => ?_))
    obtain ⟨name, v⟩ := m
    have hname := (namesAre_iff.mp hlistsNamed name).mp (List.mem_map_of_mem (f := Prod.fst) hm)
    obtain ⟨op, rfl⟩ : ∃ op : Operation, text op.name = name := by
      simp only [List.map_cons, List.map_nil, List.mem_cons, List.not_mem_nil, or_false] at hname
      rcases hname with rfl | rfl | rfl
      · exact ⟨.creating, rfl⟩
      · exact ⟨.updating, rfl⟩
      · exact ⟨.deleting, rfl⟩
    obtain ⟨copied, hcopied, hsame⟩ := hlistOf op
    rw [lookup_eq_some_of_mem hlistsUnique.1 hm] at hcopied
    cases hcopied
    have hreadOp : read (text op.name) = view.operations op := by
      simp [read, opNamed_name]
    rw [hreadOp]
    exact readIdentities_copied hsame (hreviewed.complete op) (hreviewed.sorted op) (hcountOf op)
  have htotal : counts.lookup (text "total") = some (.int ((view.operations .creating).length +
      (view.operations .updating).length + (view.operations .deleting).length : Nat)) := by
    obtain ⟨w, hw, hsame⟩ := hcounts (text "total", .int (view.count .creating +
      view.count .updating + view.count .deleting : Nat)) (List.mem_append_right _ List.mem_cons_self)
    rw [hw, same_int hsame, hcount, hcount, hcount]
  have hnatural : counts.all (fun m => (natural m.2).isSome) = true := by
    refine List.all_eq_true.mpr fun m hm => ?_
    have hname := (namesAre_iff.mp hcountsNamed m.1).mp (List.mem_map_of_mem (f := Prod.fst) hm)
    have hfound := lookup_eq_some_of_mem hcountsUnique.1 (show (m.1, m.2) ∈ counts from hm)
    simp only [List.map_cons, List.map_nil, List.mem_cons, List.not_mem_nil, or_false] at hname
    rcases hname with hname | hname | hname | hname
    · rw [hname, show text "creating" = text Operation.creating.name from rfl, hcountOf] at hfound
      rw [← Option.some.inj hfound]
      rfl
    · rw [hname, show text "updating" = text Operation.updating.name from rfl, hcountOf] at hfound
      rw [← Option.some.inj hfound]
      rfl
    · rw [hname, show text "deleting" = text Operation.deleting.name from rfl, hcountOf] at hfound
      rw [← Option.some.inj hfound]
      rfl
    · rw [hname, htotal] at hfound
      rw [← Option.some.inj hfound]
      rfl
  have hoperationsOf (op : Operation) :
      ((lists.map fun m => (m.1, read m.1)).lookup (text op.name)).getD [] = view.operations op := by
    have hname : text op.name ∈ lists.map Prod.fst :=
      (namesAre_iff.mp hlistsNamed _).mpr (by cases op <;> simp [Operation.name])
    rw [lookup_map_names hname, Option.getD_some]
    simp [read, opNamed_name]
  unfold checkApproval
  rw [hsummary, hoperations]
  refine require_bind.mpr ⟨by rw [hcountsNamed, hnatural]; rfl, require_bind.mpr ⟨hlistsNamed, ?_⟩⟩
  refine bind_eq_ok.mpr ⟨_, hread, ?_⟩
  simp only [hoperationsOf, hreviewed.length]
  refine require_bind.mpr ⟨?_, hreviewed.approved⟩
  rw [member, htotal]
  simp [isCount, hreviewed.length]

/-- A receipt that was read repeats no name. -/
theorem readReceipt_unique {sha256 : Bytes → Text} {floats : FloatWriting}
    {inputs : ApprovalInputs} {receipt : Json}
    (h : readReceipt sha256 floats inputs = .ok receipt) : Unique receipt := by
  unfold readReceipt at h
  dsimp only at h
  obtain ⟨_, h⟩ := require_bind.mp h
  obtain ⟨raw, _, h⟩ := bind_eq_ok.mp h
  split at h
  · rename_i found hfound
    split at h
    · obtain ⟨_, h⟩ := require_bind.mp h
      obtain ⟨_, h⟩ := require_bind.mp h
      obtain ⟨_, h⟩ := require_bind.mp h
      split at h
      · obtain ⟨current, _, h⟩ := bind_eq_ok.mp h
        obtain ⟨_, h⟩ := require_bind.mp h
        obtain ⟨_, h⟩ := require_bind.mp h
        obtain ⟨_, h⟩ := require_bind.mp h
        cases h
        obtain ⟨t, ht, hloaded⟩ := Option.bind_eq_some_iff.mp hfound
        exact unique_of_readable (loadsUnique_readable (scalar_decodeUtf8 ht) hloaded)
      · cases h
    · cases h
  · cases h

/-! ## A report of the reviewed migration -/

def textItems (tags : List Text) : Json := .arr (tags.map Json.str)

def relation (id name : Text) : Json := .obj [(text "id", .str id), (text "name", .str name)]

def entry (kind label : Text) (entity : List (Text × Json)) : Json :=
  .obj [(text "kind", .str kind), (text "name", .str label),
    (text "body", .obj [(text "old", .null), (text "new", .obj entity)])]

def createdEntry (e : Text × Text × Text) : Json :=
  let common := [(text "id", Json.str e.2.1), (text "name", .str e.1),
    (text "tags", textItems [text "fapi2-demo", text "api"])]
  if e.2.2 = text "plugin" then
    entry e.2.2 (e.1 ++ text " for route " ++ runtimeRouteName)
      (common ++ [(text "route", relation runtimeRouteId runtimeRouteName)])
  else if e.2.2 = text "route" then
    entry e.2.2 e.1 (common ++ [(text "service", relation runtimeServiceId runtimeServiceName)])
  else entry e.2.2 e.1 common

/-- An id for each legacy entity. -/
def legacyId (kind name tag : Text) : Text := kind ++ text ":" ++ name ++ text ":" ++ tag

def legacyTags (tag : Text) : Text × Json := (text "tags", textItems [text "fapi2-demo", tag])

def deletedCertificate (tag : Text) : Json :=
  entry (text "certificate") tag
    [(text "id", .str (legacyId (text "certificate") [] tag)), legacyTags tag]

def deletedEntry (row : Text × Text × Text) : Json :=
  let (kind, name, tag) := row
  let common := [(text "id", Json.str (legacyId kind name tag)), (text "name", .str name), legacyTags tag]
  let service := serviceOfTag tag
  if kind = text "service" then
    entry kind name (common ++ [
      (text "client_certificate", .obj [(text "id", .str (legacyId (text "certificate") [] tag))]),
      (text "ca_certificates", textItems [sharedApiCaId])])
  else
    entry kind (if kind = text "plugin" then name ++ text " for service " ++ service else name)
      (common ++ [(text "service", relation (legacyId (text "service") service tag) service)])

/-- The lists of a report of the whole migration, in an order of their own. -/
def reviewedEntries : Operation → List Json
  | .creating => runtimeEntities.map createdEntry
  | .updating => []
  | .deleting => [routeA, routeB].map deletedCertificate ++ expectedNamed.map deletedEntry

def reviewedReport : Json :=
  reportJson reviewedEntries (summaryJson fun op => (reviewedEntries op).length)

def isOk {α : Type} : Except Refused α → Bool
  | .ok _ => true
  | .error _ => false

theorem reviewedReport_accepted :
    plain reviewedReport = true ∧ isOk (readDeckReport reviewedReport) = true := by
  decide +kernel

theorem exists_of_isOk {α : Type} {x : Except Refused α} (h : isOk x = true) : ∃ a, x = .ok a := by
  cases x with
  | error e => cases h
  | ok a => exact ⟨a, rfl⟩

theorem changeList_report (lists : Operation → List Json) (summary : Json) (op : Operation) :
    changeList (reportJson lists summary) op = lists op := by
  obtain ⟨hcounts, htop, _⟩ := report_names
  let changes := byOperation fun op => .arr (lists op)
  let members := [(text "changes", Json.obj changes), (text "summary", summary),
    (text "warnings", .arr []), (text "errors", .arr [])]
  have hchanges : (Json.obj members).get? (text "changes") = some (.obj changes) :=
    lookup_eq_some_of_mem (by exact htop) List.mem_cons_self
  have hops : ([text "creating", text "updating", text "deleting"]).Nodup :=
    (List.nodup_append.mp (show ([text "creating", text "updating", text "deleting"] ++
      [text "total"]).Nodup from hcounts)).1
  have hlist : (Json.obj changes).get? (text op.name) = some (.arr (lists op)) :=
    lookup_eq_some_of_mem (by exact hops)
      (List.mem_map_of_mem (f := fun op => (text op.name, Json.arr (lists op))) op.mem_all)
  rw [changeList, show reportJson lists summary = .obj members from rfl, hchanges, Option.bind_some,
    hlist]

/-- A text of a report that is plain is read as the report. -/
theorem changeEntries_print {floats : FloatWriting} {report : Json} (h : plain report = true)
    (op : Operation) : changeEntries floats (ofAscii (print report)) op = changeList report op :=
  changeEntries_eq (loadsUnique_print h) op

/-- The change set of an accepted report is empty or the reviewed migration, and a receipt
copied from the view of a migration is never refused for its summary or operations. -/
theorem migration_scope {Digest : Type} (hash : Bytes → Digest) (sha256 : Bytes → Text)
    (floats : FloatWriting) (raw : Text) (view : ReceiptView) (d : Digest)
    (h : parseDeckDiffReport hash floats raw = .ok (view, d)) :
    ((∀ op, changeEntries floats raw op = []) ∨ Plan (changeEntries floats raw)) ∧
    ((∃ op, changeEntries floats raw op ≠ []) → ∀ (inputs : ApprovalInputs) (receipt : Json),
      readReceipt sha256 floats inputs = .ok receipt → Copied view receipt →
      readMigrationApproval sha256 floats inputs = .ok receipt) := by
  obtain ⟨report, read, hloaded, hdeck, rfl, _⟩ := parseDeck_eq_ok h
  have hentries : changeEntries floats raw = changeList report :=
    funext fun op => changeEntries_eq hloaded op
  rw [hentries]
  rcases validateScope_eq_ok hdeck.scope with hempty | hscope
  · have hnone : ∀ op, changeList report op = [] := fun op =>
      List.eq_nil_of_length_eq_zero (by rw [← (hdeck.lists op).length_eq, hempty op]; rfl)
    exact ⟨.inl hnone, fun ⟨op, hop⟩ => (hop (hnone op)).elim⟩
  · refine ⟨.inr (hscope.plan hdeck), fun _ inputs receipt hread hcopied => ?_⟩
    have hreviewed := hscope.reviewed hdeck
    unfold readMigrationApproval
    refine bind_eq_ok.mpr ⟨receipt, hread, bind_eq_ok.mpr ⟨(), ?_, rfl⟩⟩
    refine checkApproval_copied (readReceipt_unique hread) hreviewed (fun op => ?_) hcopied
    simp [DeckReport.view]

theorem migration_scope_reviewed : Plan reviewedEntries := by
  obtain ⟨hplain, hok⟩ := reviewedReport_accepted
  obtain ⟨read, hread⟩ := exists_of_isOk hok
  have haccepted : parseDeckDiffReport id nanWriting (ofAscii (print reviewedReport)) =
      .ok (read.view, Json.canonical read.canonical) := by
    rw [parseDeckDiffReport, loadsUnique_print hplain]
    exact bind_eq_ok.mpr ⟨read, hread, rfl⟩
  have hentries : changeEntries nanWriting (ofAscii (print reviewedReport)) = reviewedEntries :=
    funext fun op => (changeEntries_print hplain op).trans (changeList_report _ _ op)
  rcases (migration_scope id (fun _ => []) nanWriting _ _ _ haccepted).1 with hempty | hplan
  · rw [hentries] at hempty
    cases hempty .creating
  · rwa [hentries] at hplan

end KonnectFapi.Guarantees.Migration

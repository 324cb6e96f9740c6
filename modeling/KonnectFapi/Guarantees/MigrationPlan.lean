import KonnectFapi.Guarantees.MigrationReport
import KonnectFapi.Source.MigrationApproval

/-!
# The plan of an accepted migration

Source: scripts/wp3_runtime.py:404-848. An accepted change set is empty or the reviewed
migration, and its view passes the checks made on an approval receipt.
-/

namespace KonnectFapi.Guarantees.Migration
open Lib Lib.Json Source.RuntimeDiff Source.Migration

/-! ## What the scan of the deletes collects -/

def kindOf (change : Change) : Text := (canonicalEntityKind change.identity.kind).getD []
def tagOf (change : Change) : Text := (legacyRouteTag change.new).getD []
def idOf (change : Change) : Text := change.identity.id.getD []

/-- A delete that was scanned: known, tagged, not protected. -/
structure Scanned (change : Change) : Prop where
  kind : canonicalEntityKind change.identity.kind = some (kindOf change)
  id : change.identity.id = some (idOf change)
  unprotected : idOf change ∉ protectedIds
  tag : legacyRouteTag change.new = some (tagOf change)

def namedRow (change : Change) : Text × Text × Text :=
  (kindOf change, change.identity.name, tagOf change)

/-- What one pass adds to the scan. -/
def addDelete (scan : Scan) (change : Change) : Scan :=
  if kindOf change = text "certificate" then
    { scan with certificates := scan.certificates ++ [(change, tagOf change)] }
  else
    { scan with
      named := scan.named ++ [namedRow change]
      services :=
        if kindOf change = text "service" then scan.services ++ [(tagOf change, idOf change)]
        else scan.services }

theorem scanNamed_eq_ok {scan scan' : Scan} {change : Change} {kind tag : Text}
    (h : scanNamed scan change kind tag = .ok scan') :
    scan' = { scan with
      named := scan.named ++ [(kind, change.identity.name, tag)]
      services :=
        if kind = text "service" then scan.services ++ [(tag, idOf change)] else scan.services } := by
  unfold scanNamed at h
  dsimp only at h
  obtain ⟨_, h⟩ := require_bind.mp h
  split at h
  · rename_i hkind
    obtain ⟨_, h⟩ := require_bind.mp h
    obtain ⟨_, h⟩ := require_bind.mp h
    cases h
    rw [if_pos hkind]
    rfl
  · rename_i hkind
    rw [if_neg hkind]
    split at h
    · obtain ⟨_, h⟩ := require_bind.mp h
      obtain ⟨_, h⟩ := require_bind.mp h
      cases h
      rfl
    · obtain ⟨_, h⟩ := require_bind.mp h
      obtain ⟨_, h⟩ := require_bind.mp h
      cases h
      rfl

theorem scanDelete_eq_ok {scan scan' : Scan} {change : Change}
    (h : scanDelete scan change = .ok scan') : Scanned change ∧ scan' = addDelete scan change := by
  unfold scanDelete at h
  dsimp only at h
  split at h
  · rename_i kind id hkind hid
    obtain ⟨hknown, h⟩ := require_bind.mp h
    split at h
    · rename_i tag htag
      have hkindOf : kindOf change = kind := by rw [kindOf, hkind, Option.getD_some]
      have hidOf : idOf change = id := by rw [idOf, hid, Option.getD_some]
      have htagOf : tagOf change = tag := by rw [tagOf, htag, Option.getD_some]
      constructor
      · refine ⟨by rw [hkindOf, hkind], by rw [hidOf, hid], ?_, by rw [htagOf, htag]⟩
        rw [hidOf]
        simpa using (Bool.and_eq_true_iff.mp hknown).1
      · unfold addDelete
        rw [hkindOf, htagOf]
        split at h
        · rename_i hcertificate
          cases h
          rw [if_pos hcertificate]
        · rename_i hcertificate
          rw [if_neg hcertificate, scanNamed_eq_ok h, namedRow, hkindOf, htagOf]
    · cases h
  · cases h

/-- The scan of a list of deletes. -/
def scanOf (changes : List Change) : Scan where
  services := (changes.filter fun c => kindOf c = text "service").map fun c => (tagOf c, idOf c)
  named := (changes.filter fun c => kindOf c ≠ text "certificate").map namedRow
  certificates := (changes.filter fun c => kindOf c = text "certificate").map fun c => (c, tagOf c)

def joined (scan more : Scan) : Scan :=
  ⟨scan.services ++ more.services, scan.named ++ more.named, scan.certificates ++ more.certificates⟩

theorem service_ne_certificate : text "service" ≠ text "certificate" := by
  decide +kernel

theorem addDelete_joined (scan : Scan) (change : Change) (rest : List Change) :
    joined (addDelete scan change) (scanOf rest) = joined scan (scanOf (change :: rest)) := by
  unfold addDelete joined scanOf
  by_cases hcertificate : kindOf change = text "certificate"
  · simp [hcertificate, service_ne_certificate.symm]
  · by_cases hservice : kindOf change = text "service"
    · simp [hservice, service_ne_certificate]
    · simp [hcertificate, hservice]

theorem scanDeletes_eq_ok {scan scan' : Scan} {changes : List Change}
    (h : scanDeletes scan changes = .ok scan') :
    (∀ change ∈ changes, Scanned change) ∧ scan' = joined scan (scanOf changes) := by
  induction changes generalizing scan with
  | nil =>
    cases h
    simp [joined, scanOf]
  | cons change rest ih =>
    obtain ⟨next, hnext, h⟩ := bind_eq_ok.mp h
    obtain ⟨hscanned, rfl⟩ := scanDelete_eq_ok hnext
    obtain ⟨hrest, rfl⟩ := ih h
    exact ⟨List.forall_mem_cons.mpr ⟨hscanned, hrest⟩, addDelete_joined scan change rest⟩

/-! ## Changes in scope -/

/-- What the loop over the creates checks. -/
structure Created (change : Change) : Prop where
  kind : canonicalEntityKind change.identity.kind =
    (runtimeEntities.lookup change.identity.name).map (·.2)
  route : canonicalEntityKind change.identity.kind = some (text "route") →
    relationId change.new "service" runtimeServiceName = some runtimeServiceId
  plugin : canonicalEntityKind change.identity.kind = some (text "plugin") →
    relationId change.new "route" runtimeRouteName = some runtimeRouteId

theorem checkCreate_eq_ok {change : Change} (h : checkCreate change = .ok ()) : Created change := by
  have hrest {u : Unit} (h : (do
      require (canonicalEntityKind change.identity.kind != some (text "route") ||
          relationId change.new "service" runtimeServiceName == some runtimeServiceId)
        "API runtime Route create is not bound to the fixed Resource Server Service"
      require (canonicalEntityKind change.identity.kind ==
            (runtimeEntities.lookup change.identity.name).map (·.2) &&
          isText (change.new.get? (text "name")) change.identity.name &&
          isTexts (change.new.get? (text "tags")) [text "fapi2-demo", text "api"])
        "API runtime diff create kind, canonical name, or ownership tags changed" :
        Except Refused Unit) = .ok u) :
      canonicalEntityKind change.identity.kind =
        (runtimeEntities.lookup change.identity.name).map (·.2) ∧
      (canonicalEntityKind change.identity.kind = some (text "route") →
        relationId change.new "service" runtimeServiceName = some runtimeServiceId) := by
    obtain ⟨hroute, h⟩ := require_bind.mp h
    have hkind := require_eq_ok.mp h
    simp only [Bool.and_eq_true, beq_iff_eq] at hkind
    refine ⟨hkind.1.1, fun hr => ?_⟩
    rw [hr] at hroute
    simpa using hroute
  unfold checkCreate at h
  dsimp only at h
  split at h
  · rename_i hplugin
    obtain ⟨hbound, h⟩ := require_bind.mp h
    obtain ⟨hkind, hroute⟩ := hrest h
    simp only [Bool.and_eq_true, beq_iff_eq] at hbound
    exact ⟨hkind, hroute, fun _ => hbound.2⟩
  · rename_i hplugin
    obtain ⟨_, h⟩ := require_bind.mp h
    obtain ⟨hkind, hroute⟩ := hrest h
    exact ⟨hkind, hroute, fun hp => (hplugin hp).elim⟩

/-- The changes of the reviewed migration. -/
structure InScope (changes : Operation → List Change) : Prop where
  length : ∀ op, (changes op).length = expectedCount op
  creates : ((changes .creating).map fun change => describe change.identity).Perm expectedCreates
  created : ∀ change ∈ changes .creating, Created change
  ids : (ids (changes .creating) ++ ids (changes .deleting)).Nodup
  scanned : ∀ change ∈ changes .deleting, Scanned change
  named : (scanOf (changes .deleting)).named.Perm expectedNamed
  services : ∀ tag ∈ [routeA, routeB], ((scanOf (changes .deleting)).services.lookup tag).isSome
  certificates : ((scanOf (changes .deleting)).certificates.map (·.2)).Perm [routeA, routeB]
  relations : ∀ change ∈ changes .deleting,
    checkRelations (scanOf (changes .deleting)) change = .ok ()

/-- The tables of the migration name every entity once. -/
theorem runtimeEntities_distinct :
    (runtimeEntities.map fun e => (e.1, some e.2.1)).Nodup ∧
    (runtimeEntities.map fun e => ((runtimeEntities.lookup e.1).map (·.2), e.1, some e.2.1)) =
      expectedCreates := by
  decide +kernel

theorem creates_perm {changes : List Change} (hlength : changes.length = 6)
    (hall : ∀ e ∈ runtimeEntities, (e.1, some e.2.1) ∈
      changes.map fun change => (change.identity.name, change.identity.id))
    (hcreated : ∀ change ∈ changes, Created change) :
    (changes.map fun change => describe change.identity).Perm expectedCreates := by
  obtain ⟨hdistinct, htable⟩ := runtimeEntities_distinct
  have hpairs : (changes.map fun change => (change.identity.name, change.identity.id)).Perm
      (runtimeEntities.map fun e => (e.1, some e.2.1)) := by
    have hsub := List.subperm_of_subset hdistinct (List.forall_mem_map.mpr hall)
    exact (hsub.perm_of_length_le (by simp [hlength, runtimeEntities])).symm
  have hdescribe : (changes.map fun change => describe change.identity) =
      (changes.map fun change => (change.identity.name, change.identity.id)).map fun pair =>
        ((runtimeEntities.lookup pair.1).map (·.2), pair.1, pair.2) := by
    rw [List.map_map]
    exact List.map_congr_left fun change hchange => by
      rw [describe, (hcreated change hchange).kind, Function.comp_apply]
  rw [hdescribe, ← htable]
  simpa [List.map_map, Function.comp_def] using hpairs.map fun pair =>
    ((runtimeEntities.lookup pair.1).map (·.2), pair.1, pair.2)

/-- What the validator accepts: no change at all, or the reviewed ones. -/
theorem validateScope_eq_ok {changes : Operation → List Change}
    (h : validateRuntimeDiffScope changes = .ok ()) : (∀ op, changes op = []) ∨ InScope changes := by
  unfold validateRuntimeDiffScope at h
  dsimp only at h
  split at h
  · rename_i hempty
    left
    intro op
    exact List.isEmpty_iff.mp (List.all_eq_true.mp hempty op op.mem_all)
  · right
    obtain ⟨hlength, h⟩ := require_bind.mp h
    obtain ⟨hcreates, h⟩ := require_bind.mp h
    obtain ⟨_, hcreated, h⟩ := bind_eq_ok.mp h
    obtain ⟨hids, h⟩ := require_bind.mp h
    obtain ⟨scan, hscan, h⟩ := bind_eq_ok.mp h
    obtain ⟨hnamed, h⟩ := require_bind.mp h
    obtain ⟨hcertificates, h⟩ := require_bind.mp h
    obtain ⟨_, _, hrelations⟩ := bind_eq_ok.mp h
    obtain ⟨hscanned, rfl⟩ := scanDeletes_eq_ok hscan
    have hlengths : ∀ op, (changes op).length = expectedCount op := fun op =>
      eq_of_beq (List.all_eq_true.mp hlength op op.mem_all)
    have hcreated' := fun change hchange =>
      checkCreate_eq_ok (forM_eq_ok.mp hcreated change hchange)
    simp only [Bool.and_eq_true, List.all_eq_true, List.contains_iff_mem] at hcreates hnamed
    refine ⟨hlengths, creates_perm (hlengths .creating) hcreates.2 hcreated', hcreated',
      of_decide_eq_true hids, hscanned, List.isPerm_iff.mp hnamed.1, hnamed.2,
      List.isPerm_iff.mp hcertificates, forM_eq_ok.mp hrelations⟩

/-! ## What the deletes refer to -/

theorem mem_of_legacyRouteTag {entity : Json} {tag : Text} (h : legacyRouteTag entity = some tag) :
    tag ∈ [routeA, routeB] := by
  unfold legacyRouteTag at h
  split at h
  · split at h
    · split at h
      · cases h
      · obtain ⟨_, htag⟩ := Option.filter_eq_some_iff.mp h
        simpa using htag
    · cases h
  · cases h

/-- The kinds differ, and the legacy service of a tag is the one of the table. -/
theorem kinds_distinct :
    text "service" ≠ text "route" ∧ text "service" ≠ text "plugin" ∧
    text "certificate" ≠ text "route" ∧ text "certificate" ≠ text "plugin" ∧
    (∀ e ∈ expectedNamed, e.1 = text "service" → serviceOfTag e.2.2 = e.2.1) := by
  decide +kernel

namespace InScope
variable {changes : Operation → List Change} (h : InScope changes)
include h

theorem tag_mem {change : Change} (hchange : change ∈ changes .deleting) :
    tagOf change ∈ [routeA, routeB] := mem_of_legacyRouteTag (h.scanned change hchange).tag

/-- The deleted certificate of a tag. -/
theorem certificate_of {tag : Text} (htag : tag ∈ [routeA, routeB]) :
    ∃ change ∈ changes .deleting, kindOf change = text "certificate" ∧ tagOf change = tag ∧
      certificateOf (scanOf (changes .deleting)) tag = change.identity.id := by
  obtain ⟨row, hrow, hrowTag⟩ := List.mem_map.mp (h.certificates.mem_iff.mpr htag)
  unfold certificateOf
  cases hfound : (scanOf (changes .deleting)).certificates.reverse.find? fun row => row.2 == tag with
  | none =>
    have hnone := List.find?_eq_none.mp hfound row (List.mem_reverse.mpr hrow)
    exact (hnone (beq_iff_eq.mpr hrowTag)).elim
  | some last =>
    obtain ⟨change, hchange, rfl⟩ :=
      List.mem_map.mp (List.mem_reverse.mp (List.mem_of_find?_eq_some hfound))
    obtain ⟨hmem, hkind⟩ := List.mem_filter.mp hchange
    have hlast := List.find?_some hfound
    exact ⟨change, hmem, of_decide_eq_true hkind, eq_of_beq hlast, rfl⟩

/-- The deleted service of a tag. -/
theorem service_of {tag : Text} (htag : tag ∈ [routeA, routeB]) :
    ∃ change ∈ changes .deleting, kindOf change = text "service" ∧ tagOf change = tag ∧
      change.identity.name = serviceOfTag tag ∧
      (scanOf (changes .deleting)).services.lookup tag = change.identity.id := by
  obtain ⟨id, hid⟩ := Option.isSome_iff_exists.mp (h.services tag htag)
  obtain ⟨change, hchange, hpair⟩ := List.mem_map.mp (mem_of_lookup_eq_some hid)
  obtain ⟨hmem, hkind⟩ := List.mem_filter.mp hchange
  have hservice := of_decide_eq_true hkind
  cases hpair
  refine ⟨change, hmem, hservice, rfl, ?_, hid.trans (h.scanned change hmem).id.symm⟩
  have hnamed : namedRow change ∈ expectedNamed := by
    refine h.named.mem_iff.mp (List.mem_map_of_mem (List.mem_filter.mpr ⟨hmem, ?_⟩))
    simp [hservice, service_ne_certificate]
  exact (kinds_distinct.2.2.2.2 _ hnamed hservice).symm

theorem service_relation {change : Change} (hchange : change ∈ changes .deleting)
    (hkind : kindOf change = text "service") :
    ∃ certificate ∈ changes .deleting, kindOf certificate = text "certificate" ∧
      tagOf certificate = tagOf change ∧
      certificateRelationId change.new "client_certificate" = certificate.identity.id := by
  obtain ⟨certificate, hmem, hcertificate, htag, hid⟩ := h.certificate_of (h.tag_mem hchange)
  refine ⟨certificate, hmem, hcertificate, htag, ?_⟩
  have hcheck := h.relations change hchange
  unfold checkRelations at hcheck
  dsimp only at hcheck
  rw [if_pos ((h.scanned change hchange).kind.trans (congrArg some hkind))] at hcheck
  have hboth := require_eq_ok.mp hcheck
  simp only [Bool.and_eq_true, beq_iff_eq] at hboth
  exact hboth.1.trans hid

theorem route_relation {change : Change} (hchange : change ∈ changes .deleting)
    (hkind : kindOf change = text "route" ∨ kindOf change = text "plugin") :
    ∃ service ∈ changes .deleting, kindOf service = text "service" ∧
      tagOf service = tagOf change ∧
      relationId change.new "service" service.identity.name = service.identity.id := by
  obtain ⟨service, hmem, hservice, htag, hname, hid⟩ := h.service_of (h.tag_mem hchange)
  refine ⟨service, hmem, hservice, htag, ?_⟩
  obtain ⟨hroute, hplugin, _⟩ := kinds_distinct
  have hknown := (h.scanned change hchange).kind
  have hcheck := h.relations change hchange
  unfold checkRelations at hcheck
  dsimp only at hcheck
  rw [if_neg, if_pos] at hcheck
  · rw [hname, ← hid]
    exact eq_of_beq (require_eq_ok.mp hcheck)
  · rw [hknown]
    exact hkind.imp (congrArg some) (congrArg some)
  · rw [hknown]
    rintro hs
    rcases hkind with hkind | hkind
    · exact hroute ((Option.some.inj hs).symm.trans hkind)
    · exact hplugin ((Option.some.inj hs).symm.trans hkind)

end InScope

/-! ## The plan, entry by entry -/

/-- The kind of an entry, as the scope check reads it. -/
def entryKind (op : Operation) (entry : Json) : Option Text :=
  canonicalEntityKind (identityOf op entry).kind

/-- The route tag of a deleted entry. -/
def entryTag (entry : Json) : Option Text := legacyRouteTag (entityOf .deleting entry)

/-- A deleted entry: its kind and route tag, and its name unless it is a certificate. -/
def deleteRow (entry : Json) : Option Text × Option Text × Option Text :=
  (entryKind .deleting entry, entryTag entry,
    if entryKind .deleting entry = some (text "certificate") then none
    else some (identityOf .deleting entry).name)

/-- The eleven named deletes, and a certificate for each route tag. -/
def deleteRows : List (Option Text × Option Text × Option Text) :=
  expectedNamed.map (fun e => (some e.1, some e.2.2, some e.2.1)) ++
    [routeA, routeB].map fun tag => (some (text "certificate"), some tag, none)

def entryId (op : Operation) (entry : Json) : Option Text := (identityOf op entry).id

/-- The reviewed migration, read off the entries of a report. -/
structure Plan (entries : Operation → List Json) : Prop where
  creates : ((entries .creating).map fun e => describe (identityOf .creating e)).Perm expectedCreates
  updates : entries .updating = []
  deletes : ((entries .deleting).map deleteRow).Perm deleteRows
  boundRoute : ∀ e ∈ entries .creating, entryKind .creating e = some (text "route") →
    relationId (entityOf .creating e) "service" runtimeServiceName = some runtimeServiceId
  boundPlugin : ∀ e ∈ entries .creating, entryKind .creating e = some (text "plugin") →
    relationId (entityOf .creating e) "route" runtimeRouteName = some runtimeRouteId
  serviceRefers : ∀ e ∈ entries .deleting, entryKind .deleting e = some (text "service") →
    ∃ certificate ∈ entries .deleting,
      entryKind .deleting certificate = some (text "certificate") ∧
      entryTag certificate = entryTag e ∧
      certificateRelationId (entityOf .deleting e) "client_certificate" = entryId .deleting certificate
  routeRefers : ∀ e ∈ entries .deleting, entryKind .deleting e = some (text "route") ∨
      entryKind .deleting e = some (text "plugin") →
    ∃ service ∈ entries .deleting, entryKind .deleting service = some (text "service") ∧
      entryTag service = entryTag e ∧
      relationId (entityOf .deleting e) "service" (identityOf .deleting service).name =
        entryId .deleting service
  ids : ∃ known : List Text, known.length = 19 ∧ known.Nodup ∧
    ((entries .creating).map (entryId .creating) ++
      (entries .deleting).map (entryId .deleting)).Perm (known.map some)
  unprotected : ∀ e ∈ entries .deleting, ∀ id ∈ protectedIds, entryId .deleting e ≠ some id

/-- A deleted change, as the plan sees its entry. -/
theorem ReadAs.deleted {entry : Json} {change : Change} (h : ReadAs .deleting entry change) :
    entityOf .deleting entry = change.new := by
  obtain ⟨body, hbody, _, _, hnew⟩ := h.body
  have hget : (Json.obj body).get? (text "new") = some change.new := hnew
  simp [entityOf, hbody, hget]

theorem ReadAs.created {entry : Json} {change : Change} (h : ReadAs .creating entry change) :
    entityOf .creating entry = change.new := by
  obtain ⟨body, hbody, _, _, hnew⟩ := h.body
  have hget : (Json.obj body).get? (text "new") = some change.new := hnew
  simp [entityOf, hbody, hget]

namespace ReadList
variable {op : Operation} {entries : List Json} {read : List Change} (h : ReadList op entries read)
include h

/-- Every entry is read as a change. -/
theorem read_as {entry : Json} (hentry : entry ∈ entries) :
    ∃ change ∈ read, ReadAs op entry change := by
  obtain ⟨unsorted, hread, rfl⟩ := h.changes
  obtain ⟨change, hchange, has⟩ := exists_of_mem_left hread hentry
  exact ⟨change, mem_sortOn.mpr hchange, has⟩

/-- Every change is read from an entry. -/
theorem read_from {change : Change} (hchange : change ∈ read) :
    ∃ entry ∈ entries, ReadAs op entry change := by
  obtain ⟨unsorted, hread, rfl⟩ := h.changes
  exact exists_of_mem_right hread (mem_sortOn.mp hchange)

theorem identities_eq : read.map (·.identity) = sortOn Identity.key (entries.map (identityOf op)) := by
  obtain ⟨unsorted, hread, rfl⟩ := h.changes
  rw [map_sortOn (k := Identity.key) fun _ _ => rfl]
  refine congrArg (sortOn Identity.key) (map_eq_of_forall₂ ?_).symm
  exact hread.imp fun _ _ r => r.identity.symm

theorem map_perm {α : Type} {f : Json → α} {g : Change → α}
    (hfg : ∀ entry change, ReadAs op entry change → f entry = g change) :
    (entries.map f).Perm (read.map g) := by
  obtain ⟨unsorted, hread, rfl⟩ := h.changes
  rw [map_eq_of_forall₂ (hread.imp hfg)]
  exact ((sortOn_perm _ unsorted).map g).symm

end ReadList

theorem InScope.created_id {changes : Operation → List Change} (h : InScope changes)
    {change : Change} (hchange : change ∈ changes .creating) :
    change.identity.id = some (idOf change) := by
  have hrow := h.creates.mem_iff.mp (List.mem_map_of_mem hchange)
  obtain ⟨e, _, he⟩ := List.mem_map.mp hrow
  have hid : some e.2.1 = change.identity.id := congrArg (·.2.2) he
  rw [idOf, ← hid, Option.getD_some]

theorem InScope.delete_rows {changes : Operation → List Change} (h : InScope changes) :
    ((changes .deleting).map fun change => (canonicalEntityKind change.identity.kind,
      legacyRouteTag change.new,
      if canonicalEntityKind change.identity.kind = some (text "certificate") then none
      else some change.identity.name)).Perm deleteRows := by
  let isNamed (change : Change) : Bool := kindOf change ≠ text "certificate"
  have hsplit := List.filter_append_perm isNamed (changes .deleting)
  refine (hsplit.symm.map _).trans ?_
  rw [List.map_append]
  refine List.Perm.append ?_ ?_
  · have hrows := h.named.map fun row => (some row.1, some row.2.2, some row.2.1)
    refine List.Perm.trans (List.Perm.of_eq ?_) hrows
    unfold scanOf
    rw [List.map_map]
    refine List.map_congr_left fun change hchange => ?_
    obtain ⟨hmem, hkind⟩ := List.mem_filter.mp hchange
    have hscanned := h.scanned change hmem
    have hother : kindOf change ≠ text "certificate" := of_decide_eq_true hkind
    simp [hscanned.kind, hscanned.tag, hother, namedRow]
  · have hrows := h.certificates.map fun tag => (some (text "certificate"), some tag, (none : Option Text))
    refine List.Perm.trans (List.Perm.of_eq ?_) hrows
    unfold scanOf
    rw [List.map_map, List.map_map]
    have hfilter : (changes .deleting).filter (fun change => !isNamed change) =
        (changes .deleting).filter fun change => decide (kindOf change = text "certificate") :=
      List.filter_congr fun change _ => by simp [isNamed]
    rw [hfilter]
    refine List.map_congr_left fun change hchange => ?_
    obtain ⟨hmem, hkind⟩ := List.mem_filter.mp hchange
    have hscanned := h.scanned change hmem
    have hcertificate : kindOf change = text "certificate" := of_decide_eq_true hkind
    simp [hscanned.kind, hscanned.tag, hcertificate]

/-- The plan of a report whose changes are in scope. -/
theorem InScope.plan {report : Json} {read : DeckReport} (h : ReadDeck report read)
    (hscope : InScope read.changes) : Plan (changeList report) := by
  have hcreates := h.lists .creating
  have hdeletes := h.lists .deleting
  have hkind {op : Operation} {entry : Json} {change : Change} (has : ReadAs op entry change) :
      entryKind op entry = canonicalEntityKind change.identity.kind := by
    rw [entryKind, has.identity]
  have htag {entry : Json} {change : Change} (has : ReadAs .deleting entry change) :
      entryTag entry = legacyRouteTag change.new := by
    rw [entryTag, has.deleted]
  have hid {op : Operation} {entry : Json} {change : Change} (has : ReadAs op entry change) :
      entryId op entry = change.identity.id := by
    rw [entryId, has.identity]
  constructor
  · exact (hcreates.map_perm fun entry change has => by rw [has.identity]).trans hscope.creates
  · have hlength := hscope.length .updating
    rw [(h.lists .updating).length_eq] at hlength
    exact List.eq_nil_of_length_eq_zero hlength
  · refine (hdeletes.map_perm fun entry change has => ?_).trans hscope.delete_rows
    rw [deleteRow, hkind has, htag has, has.identity]
  · intro entry hentry hroute
    obtain ⟨change, hchange, has⟩ := hcreates.read_as hentry
    rw [has.created]
    exact (hscope.created change hchange).route (hkind has ▸ hroute)
  · intro entry hentry hplugin
    obtain ⟨change, hchange, has⟩ := hcreates.read_as hentry
    rw [has.created]
    exact (hscope.created change hchange).plugin (hkind has ▸ hplugin)
  · intro entry hentry hservice
    obtain ⟨change, hchange, has⟩ := hdeletes.read_as hentry
    have hknown : kindOf change = text "service" := by
      rw [kindOf, ← hkind has, hservice, Option.getD_some]
    obtain ⟨certificate, hmem, hcertificate, hsame, hrelation⟩ :=
      hscope.service_relation hchange hknown
    obtain ⟨other, hother, hasOther⟩ := hdeletes.read_from hmem
    refine ⟨other, hother, ?_, ?_, ?_⟩
    · rw [hkind hasOther, (hscope.scanned certificate hmem).kind, hcertificate]
    · rw [htag hasOther, htag has, (hscope.scanned certificate hmem).tag,
        (hscope.scanned change hchange).tag, hsame]
    · rw [has.deleted, hid hasOther, hrelation]
  · intro entry hentry hroute
    obtain ⟨change, hchange, has⟩ := hdeletes.read_as hentry
    have hknown : kindOf change = text "route" ∨ kindOf change = text "plugin" := by
      rw [kindOf, ← hkind has]
      exact hroute.imp (fun hr => by rw [hr, Option.getD_some]) fun hp => by rw [hp, Option.getD_some]
    obtain ⟨service, hmem, hservice, hsame, hrelation⟩ := hscope.route_relation hchange hknown
    obtain ⟨other, hother, hasOther⟩ := hdeletes.read_from hmem
    refine ⟨other, hother, ?_, ?_, ?_⟩
    · rw [hkind hasOther, (hscope.scanned service hmem).kind, hservice]
    · rw [htag hasOther, htag has, (hscope.scanned service hmem).tag,
        (hscope.scanned change hchange).tag, hsame]
    · rw [has.deleted, hid hasOther, ← hasOther.identity, hrelation]
  · have hknown : Source.Migration.ids (read.changes .creating) ++
        Source.Migration.ids (read.changes .deleting) =
        ((read.changes .creating ++ read.changes .deleting).map idOf).map some := by
      rw [Source.Migration.ids, Source.Migration.ids, ← List.map_append, List.map_map]
      refine List.map_congr_left fun change hchange => ?_
      rcases List.mem_append.mp hchange with hchange | hchange
      · exact hscope.created_id hchange
      · exact (hscope.scanned change hchange).id
    refine ⟨(read.changes .creating ++ read.changes .deleting).map idOf, ?_, ?_, ?_⟩
    · rw [List.length_map, List.length_append, hscope.length, hscope.length]
      rfl
    · have hdistinct := hscope.ids
      rw [hknown] at hdistinct
      exact hdistinct.of_map some
    · rw [← hknown]
      exact (hcreates.map_perm fun entry change has => hid has).append
        (hdeletes.map_perm fun entry change has => hid has)
  · intro entry hentry id hprotected heq
    obtain ⟨change, hchange, has⟩ := hdeletes.read_as hentry
    have hscanned := hscope.scanned change hchange
    rw [hid has, hscanned.id] at heq
    exact hscanned.unprotected (Option.some.inj heq ▸ hprotected)

end KonnectFapi.Guarantees.Migration

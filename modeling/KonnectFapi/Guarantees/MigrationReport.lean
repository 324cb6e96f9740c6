import KonnectFapi.Guarantees.DiffDigest
import KonnectFapi.Source.MigrationDiff

/-!
# What an accepted diff report of the API gateway holds

Source: scripts/wp3_runtime.py:404-515. Every change is an entry of the report under
its identity; the changes of a list stand in the order of their identities.
-/

namespace KonnectFapi.Guarantees.Migration
open Lib Lib.Json Source.RuntimeDiff Source.Migration

/-! ## Reading entries -/

/-- The part of the entry that holds the identity of the entity. -/
def entityOf (op : Operation) (entry : Json) : Json :=
  let side := if op = .updating then "old" else "new"
  ((entry.get? (text "body")).bind (·.get? (text side))).getD .null

/-- The identity an entry is read with. -/
def identityOf (op : Operation) (entry : Json) : Identity :=
  let entity := entityOf op entry
  let kind := strOf entry "kind"
  ⟨kind, if canonicalEntityKind kind = some (text "plugin") then strOf entity "name" else strOf entry "name",
    (entity.get? (text "id")).bind str?⟩

def identityKey (op : Operation) (entry : Json) : Text ×ₗ Text ×ₗ Text := (identityOf op entry).key

theorem entityOf_sortKeys (op : Operation) {entry : Json} (h : Unique entry) :
    entityOf op (sortKeys entry) = sortKeys (entityOf op entry) ∧ Unique (entityOf op entry) := by
  unfold entityOf
  dsimp only
  rw [get?_sortKeys h]
  cases hbody : entry.get? (text "body") with
  | none => exact ⟨rfl, trivial⟩
  | some body =>
    have hunique := unique_get? h hbody
    simp only [Option.map_some, Option.bind_some]
    rw [get?_sortKeys hunique]
    cases hside : body.get? (text (if op = .updating then "old" else "new")) with
    | none => exact ⟨rfl, trivial⟩
    | some entity => exact ⟨rfl, unique_get? hunique hside⟩

theorem identityOf_stable (op : Operation) {entry : Json} (h : Unique entry) :
    identityOf op (sortKeys entry) = identityOf op entry := by
  obtain ⟨hentity, hunique⟩ := entityOf_sortKeys op h
  unfold identityOf
  dsimp only
  rw [hentity, strOf_sortKeys h, strOf_sortKeys h, strOf_sortKeys hunique, get?_sortKeys hunique]
  cases (entityOf op entry).get? (text "id") with
  | none => rfl
  | some id => simp [str?_sortKeys]

theorem filledText_eq_some {value : Option Json} {t : Text} (h : filledText value = some t) :
    value = some (.str t) ∧ t ≠ [] := by
  unfold filledText at h
  split at h
  · cases h
    exact ⟨rfl, List.cons_ne_nil _ _⟩
  · cases h

/-- The id an entity gives, and that it is not empty. -/
theorem entityId_eq_ok {entity : Json} {id : Option Text} (h : entityId entity = .ok id) :
    (entity.get? (text "id")).bind str? = id ∧ id ≠ some [] := by
  unfold entityId at h
  split at h
  · rename_i hget
    cases h
    simp [hget]
  · rename_i hget
    cases h
    simp [hget, str?]
  · rename_i hget
    cases h
    simp [hget, str?]
  · cases h

theorem checkBody_eq_ok {op : Operation} {old new entity : Json}
    (h : Source.Migration.checkBody op old new = .ok entity) :
    entity = if op = .updating then old else new := by
  unfold Source.Migration.checkBody at h
  dsimp only at h
  obtain ⟨_, h⟩ := require_bind.mp h
  cases op with
  | creating | updating | deleting =>
    obtain ⟨_, h⟩ := require_bind.mp h
    cases h
    rfl

theorem identityName_eq_ok {kind name canonicalName : Text} {entity : Json} (hname : name ≠ [])
    (h : identityName kind name entity = .ok canonicalName) :
    canonicalName =
      (if canonicalEntityKind kind = some (text "plugin") then strOf entity "name" else name) ∧
    canonicalName ≠ [] := by
  unfold identityName at h
  split at h
  · rename_i hplugin
    rw [if_pos hplugin]
    split at h
    · rename_i t ht
      cases h
      obtain ⟨hget, hfilled⟩ := filledText_eq_some ht
      exact ⟨by simp [strOf, hget, str?], hfilled⟩
    · cases h
  · rename_i hother
    cases h
    exact ⟨(if_neg hother).symm, hname⟩

/-- What a change keeps of its entry. -/
structure ReadAs (op : Operation) (entry : Json) (change : Change) : Prop where
  keys : ∃ found, entry = .obj found ∧ namesAre found ["kind", "name", "body"] = true
  kind : entry.get? (text "kind") = some (.str change.identity.kind)
  name : entry.get? (text "name") = some (.str change.name)
  body : ∃ body, entry.get? (text "body") = some (.obj body) ∧ namesAre body ["old", "new"] = true ∧
    body.lookup (text "old") = some change.old ∧ body.lookup (text "new") = some change.new
  identity : change.identity = identityOf op entry
  labelled : change.identity.kind ≠ [] ∧ change.identity.name ≠ []
  filled : change.identity.id ≠ some []

theorem readChange_eq_ok {op : Operation} {entry : Json} {change : Change}
    (h : readChange op entry = .ok change) : ReadAs op entry change := by
  unfold readChange at h
  dsimp only at h
  split at h
  · rename_i found
    obtain ⟨hkeys, h⟩ := require_bind.mp h
    split at h
    · rename_i kind hkind
      split at h
      · rename_i name hname
        split at h
        · rename_i body hbody
          obtain ⟨hnames, h⟩ := require_bind.mp h
          split at h
          · rename_i old hold
            split at h
            · rename_i new hnew
              obtain ⟨entity, hentity, h⟩ := bind_eq_ok.mp h
              obtain ⟨id, hid, h⟩ := bind_eq_ok.mp h
              obtain ⟨_, h⟩ := require_bind.mp h
              obtain ⟨_, h⟩ := require_bind.mp h
              obtain ⟨canonicalName, hcanonical, h⟩ := bind_eq_ok.mp h
              cases h
              obtain ⟨hkind, hkindFilled⟩ := filledText_eq_some hkind
              obtain ⟨hname, hnameFilled⟩ := filledText_eq_some hname
              obtain ⟨hidentity, hfilled⟩ := entityId_eq_ok hid
              have hside : entityOf op (.obj found) = entity := by
                rw [checkBody_eq_ok hentity]
                have hget : (Json.obj found).get? (text "body") = some (.obj body) := hbody
                have hgetOld : (Json.obj body).get? (text "old") = some old := hold
                have hgetNew : (Json.obj body).get? (text "new") = some new := hnew
                cases op <;> simp [entityOf, hget, hgetOld, hgetNew]
              have hkindOf : strOf (.obj found) "kind" = kind := by
                have hget : (Json.obj found).get? (text "kind") = some (.str kind) := hkind
                simp [strOf, hget, str?]
              have hnameOf : strOf (.obj found) "name" = name := by
                have hget : (Json.obj found).get? (text "name") = some (.str name) := hname
                simp [strOf, hget, str?]
              obtain ⟨hcanonicalOf, hcanonicalFilled⟩ := identityName_eq_ok hnameFilled hcanonical
              refine ⟨⟨found, rfl, hkeys⟩, hkind, hname, ⟨body, hbody, hnames, hold, hnew⟩, ?_,
                ⟨hkindFilled, hcanonicalFilled⟩, hfilled⟩
              unfold identityOf
              dsimp only
              rw [hside, hkindOf, hidentity, hnameOf, hcanonicalOf]
            · cases h
          · cases h
        · cases h
      · cases h
    · cases h
  · cases h

/-! ## An entry and its change -/

theorem changeNames_nodup : ([text "kind", text "name", text "body"]).Nodup ∧
    ([text "old", text "new"]).Nodup ∧
    [text "kind", text "name", text "body", text "old", text "new"].all
      (fun name => !hasPair name) = true := by
  decide +kernel

namespace ReadAs
variable {op : Operation} {entry : Json} {change : Change} (h : ReadAs op entry change)
include h

/-- The normalized entry is the entry of the report. -/
theorem same (hunique : Unique entry) : Same change.json entry := by
  obtain ⟨found, rfl, hkeys⟩ := h.keys
  obtain ⟨hentry, hbody, _⟩ := changeNames_nodup
  obtain ⟨body, hgot, hnames, hold, hnew⟩ := h.body
  have hbodyUnique := unique_get? hunique hgot
  refine same_named hkeys hunique.1 (by rfl) (by exact hentry) ?_
  simp only [List.forall_mem_cons]
  refine ⟨⟨_, h.kind, rfl⟩, ⟨_, h.name, rfl⟩, ⟨_, hgot, ?_⟩, by simp⟩
  refine same_named hnames hbodyUnique.1 (by rfl) (by exact hbody) ?_
  simp only [List.forall_mem_cons]
  exact ⟨⟨_, hold, same_self (unique_get? hbodyUnique hold)⟩,
    ⟨_, hnew, same_self (unique_get? hbodyUnique hnew)⟩, by simp⟩

theorem readable (hreadable : Readable unique entry) : Readable unique change.json := by
  obtain ⟨hentry, hbody, hpairs⟩ := changeNames_nodup
  simp only [List.all_cons, Bool.and_eq_true, Bool.not_eq_true'] at hpairs
  obtain ⟨hk, hn, hb, ho, hw, _⟩ := hpairs
  obtain ⟨body, hgot, _, hold, hnew⟩ := h.body
  have hbodyReadable := readable_get? hreadable hgot
  refine ⟨unique_eq_some.mpr ⟨hentry, rfl⟩, hk, readable_get? hreadable h.kind, hn,
    readable_get? hreadable h.name, hb, ?_, trivial⟩
  exact ⟨unique_eq_some.mpr ⟨hbody, rfl⟩, ho, readable_get? hbodyReadable hold, hw,
    readable_get? hbodyReadable hnew, trivial⟩

end ReadAs

/-! ## Reading the report -/

theorem key_injective {i j : Identity} (hi : i.id ≠ some []) (hj : j.id ≠ some [])
    (h : i.key = j.key) : i = j := by
  obtain ⟨kind, name, id⟩ := i
  obtain ⟨kind', name', id'⟩ := j
  simp only [Identity.key, EmbeddingLike.apply_eq_iff_eq, Prod.mk.injEq] at h
  obtain ⟨rfl, rfl, hid⟩ := h
  cases id <;> cases id' <;> simp_all

/-- The changes of a list: its entries in the order of their identities, none twice. -/
structure ReadList (op : Operation) (entries : List Json) (read : List Change) : Prop where
  changes : ∃ unsorted, List.Forall₂ (ReadAs op) entries unsorted ∧
    read = sortOn (fun change : Change => change.identity.key) unsorted
  distinct : (read.map (·.identity)).Nodup

theorem ReadList.length_eq {op : Operation} {entries : List Json} {read : List Change}
    (h : ReadList op entries read) : read.length = entries.length := by
  obtain ⟨unsorted, hread, rfl⟩ := h.changes
  rw [(sortOn_perm _ _).length_eq, hread.length_eq]

theorem eq_int_of_isCount {value : Option Json} {n : Nat} (h : isCount value n = true) :
    value = some (.int n) := by
  unfold isCount at h
  split at h
  · rw [eq_of_beq h]
  · cases h

theorem readChanges_eq_ok {changes summary : List (Text × Json)} {op : Operation}
    {read : List Change} (h : readChanges changes summary op = .ok read) :
    ∃ entries, member changes op.name = some (.arr entries) ∧ ReadList op entries read ∧
      member summary op.name = some (.int entries.length) := by
  unfold readChanges at h
  split at h
  · rename_i entries hentries
    obtain ⟨unsorted, hunsorted, h⟩ := bind_eq_ok.mp h
    obtain ⟨hdistinct, h⟩ := require_bind.mp h
    obtain ⟨hcount, h⟩ := require_bind.mp h
    cases h
    have hread := (mapM_eq_ok.mp hunsorted).imp fun _ _ => readChange_eq_ok
    have hlist : ReadList op entries (sortOn (fun change : Change => change.identity.key) unsorted) :=
      ⟨⟨unsorted, hread, rfl⟩, of_decide_eq_true hdistinct⟩
    exact ⟨entries, hentries, hlist, hlist.length_eq ▸ eq_int_of_isCount hcount⟩
  · cases h

/-- A report that was read: its lists, the summary, and the scope of the changes. -/
structure ReadDeck (report : Json) (read : DeckReport) : Prop where
  lists : ∀ op, ReadList op (changeList report op) (read.changes op)
  summary : report.get? (text "summary") = some read.summary
  counted : Unique report →
    Same (summaryJson fun op => (changeList report op).length) read.summary
  scope : validateRuntimeDiffScope read.changes = .ok ()

theorem readDeckReport_eq_ok {report : Json} {read : DeckReport}
    (h : readDeckReport report = .ok read) : ReadDeck report read := by
  unfold readDeckReport at h
  dsimp only at h
  split at h
  · rename_i found
    obtain ⟨_, h⟩ := require_bind.mp h
    split at h
    · split at h
      · split at h
        · rename_i changes hchanges
          split at h
          · rename_i summary hsummary
            obtain ⟨hnames, h⟩ := require_bind.mp h
            obtain ⟨creating, hcreating, h⟩ := bind_eq_ok.mp h
            obtain ⟨updating, hupdating, h⟩ := bind_eq_ok.mp h
            obtain ⟨deleting, hdeleting, h⟩ := bind_eq_ok.mp h
            obtain ⟨htotal, h⟩ := require_bind.mp h
            obtain ⟨_, hscope, h⟩ := bind_eq_ok.mp h
            cases h
            have hget : (Json.obj found).get? (text "changes") = some (.obj changes) := hchanges
            have hlist {op : Operation} {entries : List Json}
                (hmember : member changes op.name = some (.arr entries)) :
                changeList (.obj found) op = entries := by
              unfold changeList
              rw [hget, Option.bind_some, show (Json.obj changes).get? (text op.name) = _ from hmember]
            obtain ⟨ces, hc, hcread, hccount⟩ := readChanges_eq_ok hcreating
            obtain ⟨ues, hu, huread, hucount⟩ := readChanges_eq_ok hupdating
            obtain ⟨des, hd, hdread, hdcount⟩ := readChanges_eq_ok hdeleting
            refine ⟨fun op => ?_, hsummary, fun hunique => ?_, hscope⟩
            · cases op with
              | creating => exact hlist hc ▸ hcread
              | updating => exact hlist hu ▸ huread
              | deleting => exact hlist hd ▸ hdread
            · have hsummaryUnique := unique_get? hunique hsummary
              refine same_named (Bool.and_eq_true_iff.mp hnames).2 hsummaryUnique.1 (by rfl)
                (by exact report_names.1) ?_
              simp only [byOperation, Operation.all, List.map_cons, List.map_nil, List.cons_append,
                List.nil_append, List.forall_mem_cons, hlist hc, hlist hu, hlist hd]
              have htotal' := eq_int_of_isCount htotal
              rw [hcread.length_eq, huread.length_eq, hdread.length_eq] at htotal'
              exact ⟨⟨_, hccount, rfl⟩, ⟨_, hucount, rfl⟩, ⟨_, hdcount, rfl⟩, ⟨_, htotal', rfl⟩,
                by simp⟩
          · cases h
        · cases h
      · cases h
    · cases h
  · cases h

/-- What an accepted text was read as. -/
theorem parseDeck_eq_ok {Digest : Type} {sha256 : Bytes → Digest} {floats : FloatWriting}
    {raw : Text} {view : ReceiptView} {d : Digest}
    (h : parseDeckDiffReport sha256 floats raw = .ok (view, d)) :
    ∃ report read, loadsUnique floats raw = some report ∧ ReadDeck report read ∧
      view = read.view ∧ d = sha256 (Json.canonical read.canonical) := by
  unfold parseDeckDiffReport at h
  split at h
  · rename_i report hreport
    obtain ⟨read, hread, h⟩ := bind_eq_ok.mp h
    cases h
    exact ⟨report, read, hreport, readDeckReport_eq_ok hread, rfl, rfl⟩
  · cases h

end KonnectFapi.Guarantees.Migration

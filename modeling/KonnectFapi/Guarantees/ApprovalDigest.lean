import KonnectFapi.Guarantees.MigrationReceipt

/-!
# The approval digest of a diff

Source: scripts/run-deck.py:76-154 and scripts/wp3_runtime.py:399-515. For both
parsers the digest and the operation view depend on the entries of the change lists
only, and the digest on nothing less than them.
-/

namespace KonnectFapi.Guarantees
open Lib Lib.Json Source.RuntimeDiff Source.Migration Migration

/-- Every change list of the two texts holds the same entries, in whatever order. -/
def SameEntries (floats : FloatWriting) (raw raw' : Text) : Prop :=
  ∀ op, SameMultiset (changeEntries floats raw op) (changeEntries floats raw' op)

/-! ## The third-party runtime -/

section
variable {sanitize : Text → Text} {report report' : Json} {read read' : Report}
  (h : Read sanitize report read) (h' : Read sanitize report' read')
  (hreport : Readable unique report) (hreport' : Readable unique report')
include h h' hreport hreport'

theorem Read.view_eq (hsame : ∀ op, SameMultiset (changeList report op) (changeList report' op)) :
    View.mk read.count (read.safe sanitize) = View.mk read'.count (read'.safe sanitize) := by
  congr 1
  · funext op
    rw [h.count_eq, h'.count_eq, (hsame op).length_eq]
  · funext op
    rw [h.safe_eq, h'.safe_eq]
    have hperm := (hsame op).map (f := fun v => (strOf v "kind", sanitize (strOf v "name")))
      (fun v hv => by rw [strOf_sortKeys hv, strOf_sortKeys hv])
      (changeList_unique hreport op) (changeList_unique hreport' op)
    exact sortOn_eq_of_perm hperm ((h.labels_nodup op).map toLex.injective)

end

theorem Read.summary_counted {sanitize : Text → Text} {report : Json} {read : Report}
    (h : Read sanitize report read) :
    Same (summaryJson read.count) (summaryJson fun op => (changeList report op).length) := by
  rw [funext h.count_eq]
  exact same_self (unique_of_readable (summaryJson_readable _))

/-- Reports read with two orders of walking the secrets have one canonical text exactly
when their change lists hold the same entries. -/
theorem Read.canonical_iff {sanitize sanitize' : Text → Text} {report report' : Json}
    {read read' : Report} (h : Read sanitize report read) (h' : Read sanitize' report' read')
    (hreport : Readable unique report) (hreport' : Readable unique report') :
    Json.canonical (reportJson read.normalized (summaryJson read.count)) =
        Json.canonical (reportJson read'.normalized (summaryJson read'.count)) ↔
      ∀ op, SameMultiset (changeList report op) (changeList report' op) :=
  canonical_report_iff (h.normalized hreport) (h'.normalized hreport') hreport hreport'
    (summaryJson_readable _) (summaryJson_readable _) h.summary_counted h'.summary_counted

/-! ## The API gateway -/

namespace Migration

namespace ReadList
variable {op : Operation} {entries : List Json} {read : List Change} (h : ReadList op entries read)
include h

theorem keys_nodup : (entries.map (identityKey op)).Nodup := by
  have hidentities : (entries.map (identityOf op)).Nodup := by
    have hdistinct := h.distinct
    rw [h.identities_eq] at hdistinct
    exact (sortOn_perm _ _).nodup_iff.mp hdistinct
  have hkeys : ((entries.map (identityOf op)).map Identity.key).Nodup := by
    refine hidentities.map_on fun i hi j hj hij => ?_
    have hfilled {i : Identity} (hi : i ∈ entries.map (identityOf op)) : i.id ≠ some [] := by
      obtain ⟨entry, hentry, rfl⟩ := List.mem_map.mp hi
      obtain ⟨unsorted, hread, _⟩ := h.changes
      obtain ⟨change, _, has⟩ := exists_of_mem_left hread hentry
      exact has.identity ▸ has.filled
    exact key_injective (hfilled hi) (hfilled hj) hij
  rwa [List.map_map] at hkeys

/-- The normalized entries are the entries of the report in the order of their identities. -/
theorem sorted (hreadable : ReadableItems unique entries) :
    sortItems (read.map (·.json)) = sortOn (identityKey op) (entries.map sortKeys) := by
  obtain ⟨unsorted, hread, rfl⟩ := h.changes
  have hboth : List.Forall₂ (fun entry change => Readable unique entry ∧ ReadAs op entry change)
      entries unsorted := (List.forall₂_and_left _ _).mpr ⟨readableItems_iff.mp hreadable, hread⟩
  have hjson {entry : Json} {change : Change} (hentry : Readable unique entry)
      (has : ReadAs op entry change) : sortKeys change.json = sortKeys entry := by
    have hunique := unique_of_readable hentry
    exact (sortKeys_eq_iff (unique_of_readable (has.readable hentry)) hunique).mpr (has.same hunique)
  have hkeys : ∀ change ∈ unsorted, identityKey op (sortKeys change.json) = change.identity.key := by
    intro change hchange
    obtain ⟨entry, _, hentry, has⟩ := exists_of_mem_right hboth hchange
    rw [hjson hentry has, identityKey, identityOf_stable op (unique_of_readable hentry), has.identity]
  rw [sortItems_eq, List.map_map, map_sortOn (k := identityKey op) (f := sortKeys ∘ Change.json) hkeys]
  refine congrArg (sortOn (identityKey op)) (map_eq_of_forall₂ ?_).symm
  exact hboth.imp fun _ _ both => (hjson both.1 both.2).symm

theorem readable (hreadable : ReadableItems unique entries) :
    ReadableItems unique (read.map (·.json)) := by
  refine readableItems_iff.mpr (List.forall_mem_map.mpr fun change hchange => ?_)
  obtain ⟨entry, hentry, has⟩ := h.read_from hchange
  exact has.readable (readableItems_iff.mp hreadable entry hentry)

end ReadList

theorem identityKey_stable (op : Operation) (v : Json) (h : Unique v) :
    identityKey op (sortKeys v) = identityKey op v := congrArg Identity.key (identityOf_stable op h)

theorem ReadDeck.normalized {report : Json} {read : DeckReport} (h : ReadDeck report read)
    (hreport : Readable unique report) :
    Normalized identityKey report fun op => (read.changes op).map (·.json) where
  sorted op := (h.lists op).sorted (changeList_readable hreport op)
  distinct op := by
    rw [keys_sortItems (identityKey_stable op) (changeList_unique hreport op)]
    exact (h.lists op).keys_nodup
  readable op := (h.lists op).readable (changeList_readable hreport op)

section
variable {report report' : Json} {read read' : DeckReport}
  (h : ReadDeck report read) (h' : ReadDeck report' read')
  (hreport : Readable unique report) (hreport' : Readable unique report')
include h h' hreport hreport'

theorem ReadDeck.canonical_iff : Json.canonical read.canonical = Json.canonical read'.canonical ↔
    ∀ op, SameMultiset (changeList report op) (changeList report' op) := by
  have hsummary {report : Json} {read : DeckReport} (h : ReadDeck report read)
      (hreport : Readable unique report) : Readable unique read.summary ∧
      Same read.summary (summaryJson fun op => (changeList report op).length) := by
    have hreadable := readable_get? hreport h.summary
    have hsame := h.counted (unique_of_readable hreport)
    exact ⟨hreadable, (same_comm (unique_of_readable (summaryJson_readable _))
      (unique_of_readable hreadable)).mp hsame⟩
  obtain ⟨hreadable, hcounted⟩ := hsummary h hreport
  obtain ⟨hreadable', hcounted'⟩ := hsummary h' hreport'
  exact canonical_report_iff (h.normalized hreport) (h'.normalized hreport') hreport hreport'
    hreadable hreadable' hcounted hcounted'

theorem ReadDeck.view_eq (hsame : ∀ op, SameMultiset (changeList report op) (changeList report' op)) :
    read.view = read'.view := by
  unfold DeckReport.view
  congr 1
  · funext op
    rw [(h.lists op).length_eq, (h'.lists op).length_eq, (hsame op).length_eq]
  · funext op
    rw [(h.lists op).identities_eq, (h'.lists op).identities_eq]
    have hperm := (hsame op).map (f := identityOf op) (fun v hv => identityOf_stable op hv)
      (changeList_unique hreport op) (changeList_unique hreport' op)
    refine sortOn_eq_of_perm hperm ?_
    rw [List.map_map]
    exact (h.lists op).keys_nodup

end

end Migration

/-! ## Both parsers -/

/-- The members of a report from the last to the first, every change list too. -/
def rearranged (lists : Operation → List Json) : Json :=
  .obj [(text "errors", .arr []), (text "warnings", .arr []),
    (text "summary", summaryJson fun op => (lists op).length),
    (text "changes", .obj (byOperation fun op => .arr (lists op).reverse))]

theorem rearranged_accepted :
    plain (rearranged reviewedEntries) = true ∧
    isOk (readDeckReport (rearranged reviewedEntries)) = true ∧
    isOk (readReport (sanitizeOutput id []) (rearranged reviewedEntries)) = true ∧
    isOk (readReport (sanitizeOutput id []) reviewedReport) = true := by
  decide +kernel

theorem loadsFinite_print {floats : FloatWriting} {v : Json} (h : plain v = true) :
    loadsFinite floats (ofAscii (print v)) = some v := by
  rw [loadsFinite, loads_print unique (readable_of_plain v h)]
  simp only [anyFloat_of_plain isConstant v h, mapFloats_of_plain floats.write v h,
    Bool.false_eq_true, if_false]

theorem changeList_rearranged (lists : Operation → List Json) (op : Operation) :
    changeList (rearranged lists) op = (lists op).reverse := by
  let summary := summaryJson fun op => (lists op).length
  let members := [(text "changes", Json.obj (byOperation fun op => .arr (lists op).reverse)),
    (text "summary", summary), (text "warnings", .arr []), (text "errors", .arr [])]
  have hget : (rearranged lists).get? (text "changes") =
      (reportJson (fun op => (lists op).reverse) summary).get? (text "changes") := by
    show members.reverse.lookup (text "changes") = members.lookup (text "changes")
    exact (lookup_perm (List.reverse_perm members).symm (by exact report_names.2.1) _).symm
  rw [← changeList_report (fun op => (lists op).reverse) summary op, changeList, changeList, hget]

/-- A hash without collisions that gives the known digest of the known bytes. -/
def knownHash (known : Bytes) (digest : Text) (bytes : Bytes) : Text :=
  if bytes = known then digest else codePoint 45 :: ofAscii bytes

theorem knownHash_injective (known : Bytes) {digest : Text}
    (h : ∀ rest, digest ≠ codePoint 45 :: rest) : Function.Injective (knownHash known digest) := by
  intro a b hab
  have hbytes : Function.Injective CodePoint.ofByte := by
    intro x y hxy
    exact UInt8.toNat_inj.mp (Fin.mk.inj hxy)
  unfold knownHash at hab
  split at hab
  · rename_i ha
    split at hab
    · rename_i hb
      rw [ha, hb]
    · exact (h _ hab).elim
  · split at hab
    · exact (h _ hab.symm).elim
    · exact hbytes.list_map (List.cons.inj hab).2

/-- The canonical text of the reviewed migration, and its SHA-256. -/
def reviewedCanonical : Bytes :=
  match readDeckReport reviewedReport with
  | .ok read => Json.canonical read.canonical
  | .error _ => []

def reviewedDigest : Text :=
  text "57a3ea8349c2338dfb7d76c3f204bdda9b0315d8bbc11176937dad703c72cd1e"

end KonnectFapi.Guarantees

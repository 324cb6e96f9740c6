import KonnectFapi.Source.RuntimeDiff

/-!
# The digest of a diff is canonical

Source: scripts/run-deck.py:76-154 and scripts/wp3_runtime.py:399-515. Reports whose
change lists hold the same entries in whatever order get one digest and one view, and
reports of one digest hold the same entries in each list, bodies included.
-/

namespace KonnectFapi.Guarantees
open Lib Lib.Json Source.RuntimeDiff

/-- The entries of a change list of a report. -/
def changeList (report : Json) (op : Operation) : List Json :=
  match (report.get? (text "changes")).bind (·.get? (text op.name)) with
  | some (.arr entries) => entries
  | _ => []

/-- The entries of a change list of a text. -/
def changeEntries (floats : FloatWriting) (raw : Text) (op : Operation) : List Json :=
  match loadsUnique floats raw with
  | some report => changeList report op
  | none => []

theorem changeEntries_eq {floats : FloatWriting} {raw : Text} {report : Json}
    (h : loadsUnique floats raw = some report) (op : Operation) :
    changeEntries floats raw op = changeList report op := by
  rw [changeEntries, h]

/-! ## What an accepted report holds -/

theorem readEntry_eq_ok {op : Operation} {entry : Json} {e : Entry}
    (h : readEntry op entry = .ok e) :
    e.whole = entry ∧ entry.get? (text "kind") = some (.str e.kind) ∧
      entry.get? (text "name") = some (.str e.name) := by
  unfold readEntry at h
  dsimp only at h
  split at h
  · rename_i found
    obtain ⟨_, h⟩ := require_bind.mp h
    split at h
    · rename_i kind hkind
      split at h
      · rename_i name hname
        split at h
        · rename_i body hbody
          obtain ⟨_, h⟩ := require_bind.mp h
          obtain ⟨_, _, h⟩ := bind_eq_ok.mp h
          cases h
          exact ⟨rfl, hkind, hname⟩
        · cases h
      · cases h
    · cases h
  · cases h

theorem readEntries_eq_ok {sanitize : Text → Text} {op : Operation} {seen : List (Text × Text)}
    {entries : List Json} {read : List Entry} (h : readEntries sanitize op seen entries = .ok read) :
    read.map (·.whole) = entries ∧ (∀ e ∈ read, readEntry op e.whole = .ok e) ∧
      (read.map fun e => (e.kind, sanitize e.name)).Nodup ∧
      ∀ e ∈ read, (e.kind, sanitize e.name) ∉ seen := by
  induction entries generalizing seen read with
  | nil =>
    cases h
    simp
  | cons entry rest ih =>
    obtain ⟨e, he, h⟩ := bind_eq_ok.mp h
    obtain ⟨hnew, h⟩ := require_bind.mp h
    obtain ⟨more, hmore, h⟩ := bind_eq_ok.mp h
    cases h
    obtain ⟨hwhole, hread, hnodup, hseen⟩ := ih hmore
    have hself := (readEntry_eq_ok he).1
    have hfresh : (e.kind, sanitize e.name) ∉ more.map fun e => (e.kind, sanitize e.name) := by
      intro hmem
      obtain ⟨f, hf, hfe⟩ := List.mem_map.mp hmem
      exact hseen f hf (hfe ▸ List.mem_cons_self)
    refine ⟨by simp [hwhole, hself], ?_, List.nodup_cons.mpr ⟨hfresh, hnodup⟩, ?_⟩
    · exact List.forall_mem_cons.mpr ⟨by rw [hself]; exact he, hread⟩
    · refine List.forall_mem_cons.mpr ⟨by simpa using hnew, fun f hf hin => ?_⟩
      exact hseen f hf (List.mem_cons_of_mem _ hin)

/-- A report that was read: its lists, entry by entry. -/
structure Read (sanitize : Text → Text) (report : Json) (read : Report) : Prop where
  whole : ∀ op, (read.entries op).map (·.whole) = changeList report op
  entry : ∀ op, ∀ e ∈ read.entries op, readEntry op e.whole = .ok e
  distinct : ∀ op, ((read.entries op).map fun e => (e.kind, sanitize e.name)).Nodup

theorem readOperation_eq_ok {sanitize : Text → Text} {changes summary : List (Text × Json)}
    {op : Operation} {read : List Entry}
    (h : readOperation sanitize changes summary op = .ok read) :
    member changes op.name = some (.arr (read.map (·.whole))) ∧
      (∀ e ∈ read, readEntry op e.whole = .ok e) ∧
      (read.map fun e => (e.kind, sanitize e.name)).Nodup := by
  unfold readOperation at h
  split at h
  · rename_i entries hentries
    obtain ⟨found, hfound, h⟩ := bind_eq_ok.mp h
    obtain ⟨_, h⟩ := require_bind.mp h
    cases h
    obtain ⟨hwhole, hread, hnodup, _⟩ := readEntries_eq_ok hfound
    exact ⟨by rw [hentries, hwhole], hread, hnodup⟩
  · cases h

theorem readReport_eq_ok {sanitize : Text → Text} {report : Json} {read : Report}
    (h : readReport sanitize report = .ok read) : Read sanitize report read := by
  unfold readReport at h
  dsimp only at h
  split at h
  · rename_i found
    obtain ⟨_, h⟩ := require_bind.mp h
    split at h
    · split at h
      · split at h
        · rename_i changes hchanges
          split at h
          · rename_i summary hsummary
            obtain ⟨_, h⟩ := require_bind.mp h
            obtain ⟨creating, hcreating, h⟩ := bind_eq_ok.mp h
            obtain ⟨updating, hupdating, h⟩ := bind_eq_ok.mp h
            obtain ⟨deleting, hdeleting, h⟩ := bind_eq_ok.mp h
            obtain ⟨_, h⟩ := require_bind.mp h
            cases h
            have hlist (op : Operation) {es : List Entry}
                (hmember : member changes op.name = some (.arr (es.map (·.whole)))) :
                es.map (·.whole) = changeList (.obj found) op := by
              have hget : (Json.obj found).get? (text "changes") = some (.obj changes) := hchanges
              unfold changeList
              rw [hget, Option.bind_some, show (Json.obj changes).get? (text op.name) = _ from hmember]
            obtain ⟨hc, hec, hdc⟩ := readOperation_eq_ok hcreating
            obtain ⟨hu, heu, hdu⟩ := readOperation_eq_ok hupdating
            obtain ⟨hd, hed, hdd⟩ := readOperation_eq_ok hdeleting
            constructor
            · intro op
              cases op with
              | creating => exact hlist .creating hc
              | updating => exact hlist .updating hu
              | deleting => exact hlist .deleting hd
            · intro op
              cases op with
              | creating => exact hec
              | updating => exact heu
              | deleting => exact hed
            · intro op
              cases op with
              | creating => exact hdc
              | updating => exact hdu
              | deleting => exact hdd
          · cases h
        · cases h
      · cases h
    · cases h
  · cases h

/-! ## The canonical report -/

theorem byOperation_names (f : Operation → Json) :
    (byOperation f).map Prod.fst = [text "creating", text "updating", text "deleting"] := rfl

/-- The names of a report's objects, in the order they are built. -/
theorem report_names : ([text "creating", text "updating", text "deleting", text "total"]).Nodup ∧
    ([text "changes", text "summary", text "warnings", text "errors"]).Nodup ∧
    [text "creating", text "updating", text "deleting", text "total", text "changes",
      text "summary", text "warnings", text "errors"].all (fun name => !hasPair name) = true := by
  decide +kernel

theorem byOperation_readable {f : Operation → Json} (h : ∀ op, Readable unique (f op)) :
    Readable unique (.obj (byOperation f)) := by
  obtain ⟨hcounts, _, hpairs⟩ := report_names
  simp only [List.all_cons, Bool.and_eq_true, Bool.not_eq_true'] at hpairs
  refine ⟨unique_eq_some.mpr ⟨?_, rfl⟩, hpairs.1, h .creating, hpairs.2.1, h .updating,
    hpairs.2.2.1, h .deleting, trivial⟩
  exact (List.nodup_append.mp (show ([text "creating", text "updating", text "deleting"] ++
    [text "total"]).Nodup from hcounts)).1

theorem summaryJson_readable (count : Operation → Nat) : Readable unique (summaryJson count) := by
  obtain ⟨hcounts, _, hpairs⟩ := report_names
  simp only [List.all_cons, Bool.and_eq_true, Bool.not_eq_true'] at hpairs
  obtain ⟨hc, hu, hd, ht, _⟩ := hpairs
  exact ⟨unique_eq_some.mpr ⟨hcounts, rfl⟩, hc, trivial, hu, trivial, hd, trivial, ht, trivial, trivial⟩

theorem reportJson_readable {changes : Operation → List Json} {summary : Json}
    (h : ∀ op, ReadableItems unique (changes op)) (hsummary : Readable unique summary) :
    Readable unique (reportJson changes summary) := by
  obtain ⟨_, htop, hpairs⟩ := report_names
  simp only [List.all_cons, Bool.and_eq_true, Bool.not_eq_true'] at hpairs
  obtain ⟨_, _, _, _, hch, hsu, hwa, her, _⟩ := hpairs
  exact ⟨unique_eq_some.mpr ⟨htop, rfl⟩, hch, byOperation_readable h, hsu, hsummary, hwa, trivial, her,
    trivial, trivial⟩

/-- Two canonical reports are the same exactly when their lists and summaries are. -/
theorem reportJson_same_iff {changes changes' : Operation → List Json} {summary summary' : Json} :
    Same (reportJson changes summary) (reportJson changes' summary') ↔
      (∀ op, SameItems (changes op) (changes' op)) ∧ Same summary summary' := by
  obtain ⟨hcounts, htop, _⟩ := report_names
  have hops : ([text "creating", text "updating", text "deleting"]).Nodup :=
    (List.nodup_append.mp (show ([text "creating", text "updating", text "deleting"] ++
      [text "total"]).Nodup from hcounts)).1
  rw [reportJson, reportJson, same_obj_iff (by rfl) (by exact htop)]
  simp only [List.map_cons, List.map_nil, SameItems, and_true]
  rw [same_obj_iff (by rfl) (by exact hops)]
  simp only [byOperation, Operation.all, List.map_cons, List.map_nil, SameItems, Same, and_true]
  refine and_congr_left fun _ => ⟨?_, fun h => ⟨h _, h _, h _⟩⟩
  rintro ⟨hc, hu, hd⟩ op
  cases op with
  | creating => exact hc
  | updating => exact hu
  | deleting => exact hd

/-! ## Lists in canonical order -/

/-- The lists of a canonical report are the change lists, sorted on a key that no two
entries of a list share. -/
structure Normalized {κ : Type} [LinearOrder κ] (key : Operation → Json → κ) (report : Json)
    (lists : Operation → List Json) : Prop where
  sorted : ∀ op, sortItems (lists op) = sortOn (key op) ((changeList report op).map sortKeys)
  distinct : ∀ op, (((changeList report op).map sortKeys).map (key op)).Nodup
  readable : ∀ op, ReadableItems unique (lists op)

theorem changeList_readable {report : Json} (h : Readable unique report) (op : Operation) :
    ReadableItems unique (changeList report op) := by
  unfold changeList
  split
  · rename_i entries hentries
    obtain ⟨changes, hchanges, hlist⟩ := Option.bind_eq_some_iff.mp hentries
    exact readable_get? (readable_get? h hchanges) hlist
  · trivial

theorem changeList_unique {report : Json} (h : Readable unique report) (op : Operation) :
    UniqueItems (changeList report op) := uniqueItems_of_readable (changeList_readable h op)

theorem normalized_same_iff {κ : Type} [LinearOrder κ] {key : Operation → Json → κ}
    {report report' : Json} {lists lists' : Operation → List Json}
    (h : Normalized key report lists) (h' : Normalized key report' lists')
    (hreport : Readable unique report) (hreport' : Readable unique report') (op : Operation) :
    SameItems (lists op) (lists' op) ↔ SameMultiset (changeList report op) (changeList report' op) := by
  rw [← sortItems_eq_iff (uniqueItems_of_readable (h.readable op))
    (uniqueItems_of_readable (h'.readable op)), h.sorted, h'.sorted, sortOn_eq_iff (h.distinct op),
    sameMultiset_iff (changeList_unique hreport op) (changeList_unique hreport' op)]

/-- One canonical text exactly when each change list holds the same entries. -/
theorem canonical_report_iff {κ : Type} [LinearOrder κ] {key : Operation → Json → κ}
    {report report' : Json} {lists lists' : Operation → List Json} {summary summary' : Json}
    (h : Normalized key report lists) (h' : Normalized key report' lists')
    (hreport : Readable unique report) (hreport' : Readable unique report')
    (hsummary : Readable unique summary) (hsummary' : Readable unique summary')
    (counted : Same summary (summaryJson fun op => (changeList report op).length))
    (counted' : Same summary' (summaryJson fun op => (changeList report' op).length)) :
    Json.canonical (reportJson lists summary) = Json.canonical (reportJson lists' summary') ↔
      ∀ op, SameMultiset (changeList report op) (changeList report' op) := by
  rw [canonical_eq_iff (reportJson_readable h.readable hsummary)
    (reportJson_readable h'.readable hsummary'), reportJson_same_iff]
  simp only [normalized_same_iff h h' hreport hreport']
  refine and_iff_left_of_imp fun hsame => ?_
  have hcount : (fun op => (changeList report op).length) =
      fun op => (changeList report' op).length := by
    funext op
    exact (hsame op).length_eq
  have hunique := unique_of_readable hsummary
  have hunique' := unique_of_readable hsummary'
  have hcounts (count : Operation → Nat) := unique_of_readable (summaryJson_readable count)
  rw [← sortKeys_eq_iff hunique hunique', (sortKeys_eq_iff hunique (hcounts _)).mpr counted,
    (sortKeys_eq_iff hunique' (hcounts _)).mpr counted', hcount]

/-! ## The third-party report -/

/-- What the entries of a list are sorted on. -/
def entryKey (entry : Json) : Text ×ₗ Text := toLex (strOf entry "kind", strOf entry "name")

theorem entryKey_stable (v : Json) (h : Unique v) : entryKey (sortKeys v) = entryKey v := by
  rw [entryKey, entryKey, strOf_sortKeys h, strOf_sortKeys h]

theorem strOf_entry {op : Operation} {e : Entry} (h : readEntry op e.whole = .ok e) :
    strOf e.whole "kind" = e.kind ∧ strOf e.whole "name" = e.name := by
  obtain ⟨_, hkind, hname⟩ := readEntry_eq_ok h
  simp [strOf, hkind, hname, str?]

namespace Read
variable {sanitize : Text → Text} {report : Json} {read : Report} (h : Read sanitize report read)
include h

theorem normalized_eq (op : Operation) :
    read.normalized op = sortOn entryKey (changeList report op) := by
  rw [← h.whole op]
  refine map_sortOn fun e he => ?_
  obtain ⟨hkind, hname⟩ := strOf_entry (h.entry op e he)
  rw [entryKey, hkind, hname]

theorem safe_eq (op : Operation) : read.safe sanitize op = sortOn toLex
    ((changeList report op).map fun v => (strOf v "kind", sanitize (strOf v "name"))) := by
  rw [← h.whole op, List.map_map]
  refine congrArg (sortOn toLex) (List.map_congr_left fun e he => ?_)
  obtain ⟨hkind, hname⟩ := strOf_entry (h.entry op e he)
  simp only [Function.comp_apply, hkind, hname]

theorem count_eq (op : Operation) : read.count op = (changeList report op).length := by
  simp [Report.count, ← h.whole op]

theorem labels_nodup (op : Operation) : ((changeList report op).map fun v =>
    (strOf v "kind", sanitize (strOf v "name"))).Nodup := by
  have hlabels := h.distinct op
  rw [← h.whole op, List.map_map]
  refine (List.map_congr_left fun e he => ?_) ▸ hlabels
  obtain ⟨hkind, hname⟩ := strOf_entry (h.entry op e he)
  simp only [Function.comp_apply, hkind, hname]

theorem normalized (hreport : Readable unique report) :
    Normalized (fun _ => entryKey) report read.normalized where
  sorted op := by
    rw [h.normalized_eq]
    exact sortItems_sortOn entryKey_stable (changeList_unique hreport op)
  distinct op := by
    rw [keys_sortItems entryKey_stable (changeList_unique hreport op)]
    refine List.Nodup.of_map (fun k => ((ofLex k).1, sanitize (ofLex k).2)) ?_
    rw [List.map_map]
    exact h.labels_nodup op
  readable op := by
    rw [h.normalized_eq]
    refine readableItems_iff.mpr fun v hv => ?_
    exact readableItems_iff.mp (changeList_readable hreport op) v (mem_sortOn.mp hv)

end Read

/-- What an accepted text was read as. -/
theorem parseSanitized_eq_ok {Digest : Type} {sha256 : Bytes → Digest} {floats : FloatWriting}
    {walk : List Text → List Text} {raw : Text} {secrets : List Text} {view : View} {d : Digest}
    (h : parseSanitizedRuntimeDiff sha256 floats walk raw secrets = .ok (view, d)) :
    ∃ report read, loadsUnique floats raw = some report ∧
      Read (sanitizeOutput walk secrets) report read ∧
      view = ⟨read.count, read.safe (sanitizeOutput walk secrets)⟩ ∧
      d = sha256 (Json.canonical (reportJson read.normalized (summaryJson read.count))) := by
  unfold parseSanitizedRuntimeDiff at h
  split at h
  · rename_i report hreport
    obtain ⟨read, hread, h⟩ := bind_eq_ok.mp h
    cases h
    refine ⟨report, read, ?_, readReport_eq_ok hread, rfl, rfl⟩
    unfold loadsFinite at hreport
    unfold loadsUnique
    split at hreport
    · rename_i v hv
      split at hreport
      · cases hreport
      · rw [hv]
        exact hreport
    · cases hreport
  · cases h

end KonnectFapi.Guarantees

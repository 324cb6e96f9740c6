import KonnectFapi.Lib.Lookup
import KonnectFapi.Source.SchemaPages

/-!
# Schema pagination

Source: scripts/wp1_target.py:649-701, scripts/wp1.py:124-177. The listing walks cursors
it has not seen and stops when the announced total is reached; the validator, run in
step with it, counts names where the listing counts items.
-/

namespace KonnectFapi.Guarantees
open Lib Source.SchemaPages

/-- The items of a page and the total it announces. -/
def itemsOf (page : Json) : List Json :=
  match page.get? (text "items") with
  | some (.arr items) => items
  | _ => []

def announced (page : Json) : Option Nat :=
  totalOf ((page.get? (text "page")).bind (·.get? (text "total_count")))

def allItems (pages : List Json) : List Json := pages.flatMap itemsOf

/-! ## What a pass does -/

/-- A page the listing goes on from, or ends with. -/
structure PageOf (s : Listing) (items : List Json) (info : List (Text × Json)) (total : Nat)
    (hasNext : Bool) : Prop where
  announces : totalOf (info.lookup (text "total_count")) = some total
  unchanged : s.count = none ∨ s.count = some total
  continues : info.lookup (text "has_next_page") = some (.bool hasNext)

/-- The listing after a page that is not the last. -/
def advanced (s : Listing) (items : List Json) (info : List (Text × Json)) (total : Nat)
    (cursor : Text) : Listing :=
  ⟨some cursor, s.pages ++ [pageRecord items info s.cursor], cursor :: s.seenCursors, some total,
    s.observed + items.length⟩

/-- The three ways a pass ends without an exception. -/
inductive Passed (s : Listing) : Turn → Prop
  | empty (start : s.pages = []) (first : s.cursor = none) : Passed s (.returned [emptyPage])
  | last (items : List Json) (info : List (Text × Json)) (total : Nat)
      (page : PageOf s items info total false) (whole : s.observed + items.length = total) :
      Passed s (.returned (s.pages ++ [pageRecord items info s.cursor]))
  | next (items : List Json) (info : List (Text × Json)) (total : Nat) (cursor : Text)
      (page : PageOf s items info total true)
      (further : cursorOf (info.lookup (text "next_cursor")) = some cursor)
      (short : s.observed + items.length < total) (some_ : items ≠ []) (fresh : cursor ∉ s.seenCursors)
      (moved : s.cursor ≠ some cursor) :
      Passed s (.next (advanced s items info total cursor))

theorem checkPage_passed {s : Listing} {items : List Json} {info : List (Text × Json)} {turn : Turn}
    (h : checkPage s items info = .ok turn) : Passed s turn := by
  unfold checkPage at h
  split at h
  · cases h
  · rename_i total htotal
    split at h
    · cases h
    · rename_i hcount
      have unchanged : s.count = none ∨ s.count = some total := by
        cases hc : s.count with
        | none => exact Or.inl rfl
        | some n => simpa [hc] using hcount
      dsimp only at h
      split at h
      · cases h
      · rename_i cursor hnext hcursor
        split at h
        · cases h
        · split at h
          · cases h
          · rename_i progress
            split at h
            · cases h
            · rename_i advances
              cases h
              simp only [not_or, Nat.not_le, List.isEmpty_iff] at progress advances
              exact .next items info total cursor ⟨htotal, unchanged, hnext⟩ hcursor progress.1
                progress.2 advances.1 advances.2
      · rename_i hnext
        split at h
        · cases h
        · split at h
          · cases h
          · rename_i whole
            cases h
            exact .last items info total ⟨htotal, unchanged, hnext⟩ (not_not.mp whole)
      · cases h

theorem requestPage_passed {s : Listing} {response : Response} {turn : Turn}
    (h : requestPage s response = .ok turn) : Passed s turn := by
  unfold requestPage at h
  split at h
  · cases h
  · split at h
    · cases h
    · split at h
      · split at h
        · rename_i first
          cases h
          simp only [Bool.and_eq_true, List.isEmpty_iff, Option.isNone_iff_eq_none] at first
          exact .empty first.1 first.2
        · cases h
      · split at h
        · exact checkPage_passed h
        · cases h
      · cases h

/-! ## Requests -/

/-- The cursor in use is one that was seen. -/
def CursorSeen (s : Listing) : Prop := ∀ c, s.cursor = some c → c ∈ s.seenCursors

/-- The cursors requested from a listing on: its own, then fresh ones without repetition. -/
theorem requestLoop_cursors (responses : Nat → Response) (fuel i : Nat) (s : Listing)
    (seen : CursorSeen s) :
    let requested := (requestLoop responses fuel i s).1
    requested.length ≤ fuel ∧ requested.Nodup ∧
      ∀ r ∈ requested, r = s.cursor ∨ ∃ c, r = some c ∧ c ∉ s.seenCursors ∧ c ≠ [] := by
  intro requested
  subst requested
  induction fuel generalizing i s with
  | zero => simp [requestLoop]
  | succ fuel ih =>
    have single : [s.cursor].length ≤ fuel + 1 ∧ [s.cursor].Nodup ∧ ∀ r ∈ [s.cursor], r = s.cursor ∨
        ∃ c, r = some c ∧ c ∉ s.seenCursors ∧ c ≠ [] := by simp
    rw [requestLoop]
    split
    · exact single
    · exact single
    · rename_i t passed
      cases requestPage_passed passed with
      | next items info total cursor page further short some_ fresh moved =>
        have nonempty : cursor ≠ [] := by
          rintro rfl
          unfold cursorOf at further
          split at further
          · rename_i c hc
            split at further
            · cases further
            · rename_i visible
              cases further
              exact visible rfl
          · cases further
        have seen' : CursorSeen (advanced s items info total cursor) := by
          intro c hc
          cases hc
          exact List.mem_cons_self
        obtain ⟨length, distinct, later⟩ := ih (i + 1) _ seen'
        have others : ∀ r ∈ (requestLoop responses fuel (i + 1)
            (advanced s items info total cursor)).1,
            ∃ c, r = some c ∧ c ∉ s.seenCursors ∧ c ≠ [] := by
          intro r hr
          rcases later r hr with rfl | ⟨c, rfl, unseen, visible⟩
          · exact ⟨cursor, rfl, fresh, nonempty⟩
          · exact ⟨c, rfl, fun h => unseen (List.mem_cons_of_mem _ h), visible⟩
        refine ⟨by simpa using length, List.nodup_cons.mpr ⟨?_, distinct⟩, ?_⟩
        · intro again
          obtain ⟨c, hc, unseen, -⟩ := others _ again
          exact unseen (seen c hc)
        · exact List.forall_mem_cons.mpr ⟨Or.inl rfl, fun r hr => Or.inr (others r hr)⟩

theorem requestParams_inj {a b : Option Text} (ha : a ≠ some []) (hb : b ≠ some [])
    (h : requestParams a = requestParams b) : a = b := by
  unfold requestParams at h
  match a, b with
  | none, none => rfl
  | none, some [] => exact absurd rfl hb
  | some [], _ => exact absurd rfl ha
  | none, some (c :: rest) => simp at h
  | some (c :: rest), none => simp at h
  | some (c :: rest), some [] => exact absurd rfl hb
  | some (c :: rest), some (d :: more) => simpa using h

/-! ## Totals -/

theorem itemsOf_pageRecord (items : List Json) (info : List (Text × Json)) (cursor : Option Text) :
    itemsOf (pageRecord items info cursor) = items := rfl

theorem allItems_cons (items : List Json) (info : List (Text × Json)) (cursor : Option Text)
    (later : List Json) :
    allItems (pageRecord items info cursor :: later) = items ++ allItems later := rfl

theorem announced_pageRecord (items : List Json) (info : List (Text × Json)) (cursor : Option Text) :
    announced (pageRecord items info cursor) = totalOf (info.lookup (text "total_count")) := rfl

/-- The pages gathered so far hold the observed items and announce the count. -/
structure Gathered (s : Listing) : Prop where
  items : (allItems s.pages).length = s.observed
  totals : ∀ page ∈ s.pages, announced page = s.count
  counted : s.count = none ↔ s.pages = []

theorem Gathered.append {s : Listing} (h : Gathered s) {items : List Json}
    {info : List (Text × Json)} {total : Nat} {hasNext : Bool}
    (page : PageOf s items info total hasNext) :
    (allItems (s.pages ++ [pageRecord items info s.cursor])).length = s.observed + items.length ∧
      ∀ p ∈ s.pages ++ [pageRecord items info s.cursor], announced p = some total := by
  constructor
  · rw [allItems, List.flatMap_append, List.length_append, ← h.items]
    simp [allItems, itemsOf_pageRecord]
  · intro p hp
    rcases List.mem_append.mp hp with hp | hp
    · rcases page.unchanged with none_ | same
      · rw [h.counted.mp none_] at hp
        cases hp
      · rw [h.totals p hp, same]
    · rw [List.mem_singleton.mp hp, announced_pageRecord, page.announces]

theorem Gathered.advanced {s : Listing} (h : Gathered s) {items : List Json}
    {info : List (Text × Json)} {total : Nat} {hasNext : Bool}
    (page : PageOf s items info total hasNext) {cursor : Text} :
    Gathered (advanced s items info total cursor) where
  items := (h.append page).1
  totals := (h.append page).2
  counted := by simp [Guarantees.advanced]

/-- A listing that has gathered nothing may take the empty first body for a last page. -/
theorem Gathered.empty {s : Listing} (h : Gathered s) (start : s.pages = []) :
    PageOf s [] [(text "total_count", .int 0), (text "has_next_page", .bool false),
      (text "next_cursor", .null)] 0 false ∧ s.observed = 0 := by
  refine ⟨⟨rfl, Or.inl (h.counted.mpr start), rfl⟩, ?_⟩
  rw [← h.items, start]
  rfl

/-- Pages that are returned hold as many items as each of them announces. -/
theorem requestLoop_totals (responses : Nat → Response) (fuel i : Nat) (s : Listing)
    (gathered : Gathered s) {pages : List Json}
    (h : (requestLoop responses fuel i s).2 = .ok pages) :
    ∀ page ∈ pages, announced page = some (allItems pages).length := by
  induction fuel generalizing i s with
  | zero => cases h
  | succ fuel ih =>
    rw [requestLoop] at h
    split at h
    · cases h
    · rename_i returned passed
      cases h
      cases requestPage_passed passed with
      | empty start first =>
        intro page hpage
        rw [List.mem_singleton.mp hpage]
        rfl
      | last items info total page whole =>
        obtain ⟨length, totals⟩ := gathered.append page
        rw [length, whole]
        exact totals
    · rename_i t passed
      cases requestPage_passed passed with
      | next items info total cursor page further short some_ fresh moved =>
        exact ih (i + 1) _ (gathered.advanced page) h

/-! ## The validator in step -/

/-- What the validator has after the pages a listing has gathered. -/
structure InStep (s : Listing) (c : Collected) : Prop where
  found : c.found.length = s.observed
  total : c.expectedTotal = s.count
  seen : c.seenCursors = s.seenCursors

theorem isObj_of_entryOf {item : Json} {e : Text × Text} (h : entryOf item = some e) :
    item.isObj = true := by
  cases item with
  | obj => rfl
  | null | bool | int | float | str | arr => cases h

theorem collectItem_entry {found : Sources} {item : Json} {e : Text × Text}
    (h : entryOf item = some e) (fresh : e.1 ∉ found.map Prod.fst) :
    collectItem found item = .ok (found ++ [e]) := by
  have absent : found.lookup e.1 = none := by
    cases hl : found.lookup e.1 with
    | none => rfl
    | some source => exact absurd (List.mem_map_of_mem (mem_of_lookup_eq_some hl)) fresh
  unfold collectItem
  rw [if_pos (isObj_of_entryOf h), h]
  dsimp only
  rw [absent]
  rfl

/-- Well-formed items under new names are all found. -/
theorem foldlM_collectItem {items : List Json} {found : Sources}
    (wellFormed : ∀ item ∈ items, (entryOf item).isSome = true)
    (distinct : ((found ++ items.filterMap entryOf).map Prod.fst).Nodup) :
    items.foldlM collectItem found = .ok (found ++ items.filterMap entryOf) := by
  induction items generalizing found with
  | nil =>
    rw [List.filterMap_nil, List.append_nil]
    rfl
  | cons item rest ih =>
    obtain ⟨first, others⟩ := List.forall_mem_cons.mp wellFormed
    obtain ⟨e, he⟩ := Option.isSome_iff_exists.mp first
    rw [List.filterMap_cons, he] at distinct ⊢
    dsimp only at distinct ⊢
    have fresh : e.1 ∉ found.map Prod.fst := by
      intro member
      rw [List.map_append, List.map_cons, List.nodup_append] at distinct
      exact distinct.2.2 _ member _ List.mem_cons_self rfl
    rw [List.foldlM_cons, collectItem_entry he fresh]
    have whole : rest.foldlM collectItem (found ++ [e]) =
        .ok ((found ++ [e]) ++ rest.filterMap entryOf) := ih others (by simpa using distinct)
    rw [List.append_assoc] at whole
    exact whole

theorem length_entries {items : List Json}
    (wellFormed : ∀ item ∈ items, (entryOf item).isSome = true) :
    (items.filterMap entryOf).length = items.length := by
  induction items with
  | nil => rfl
  | cons item rest ih =>
    obtain ⟨first, others⟩ := List.forall_mem_cons.mp wellFormed
    obtain ⟨e, he⟩ := Option.isSome_iff_exists.mp first
    rw [List.filterMap_cons, he, List.length_cons, List.length_cons, ih others]

/-- The validator reads from a record what the listing put there. -/
theorem collectPage_record (last : Bool) (c : Collected) (items : List Json)
    (info : List (Text × Json)) (cursor : Option Text) :
    collectPage last c (pageRecord items info cursor) =
      match totalOf (info.lookup (text "total_count")) with
      | none => fail "schema page is missing page.total_count"
      | some total =>
        match info.lookup (text "has_next_page") with
        | some (.bool hasNext) => collectRead last c items total hasNext
            (cursorOf (info.lookup (text "next_cursor"))) (some (orNone cursor))
        | _ => fail "schema page has_next_page is malformed" := rfl

section
variable {s : Listing} {c : Collected} (inStep : InStep s c) {items : List Json}
  {info : List (Text × Json)} {total : Nat}
  (wellFormed : ∀ item ∈ items, (entryOf item).isSome = true)
  (distinct : ((c.found ++ items.filterMap entryOf).map Prod.fst).Nodup)
include inStep wellFormed distinct

omit distinct in
theorem length_collected :
    (c.found ++ items.filterMap entryOf).length = s.observed + items.length := by
  rw [List.length_append, inStep.found, length_entries wellFormed]

omit distinct wellFormed in
theorem count_unchanged {hasNext : Bool} (page : PageOf s items info total hasNext) :
    (c.expectedTotal.any (· ≠ total)) = false := by
  rw [inStep.total]
  rcases page.unchanged with none_ | same
  · rw [none_]
    rfl
  · rw [same]
    simp

/-- The validator takes a page the listing goes on from. -/
theorem collectPage_next {cursor : Text} (page : PageOf s items info total true)
    (further : cursorOf (info.lookup (text "next_cursor")) = some cursor)
    (short : s.observed + items.length < total) (some_ : items ≠ []) (fresh : cursor ∉ s.seenCursors)
    (moved : s.cursor ≠ some cursor) :
    collectPage false c (pageRecord items info s.cursor) =
      .ok ⟨c.found ++ items.filterMap entryOf, some total, cursor :: c.seenCursors⟩ := by
  have length := length_collected inStep wellFormed
  have asked : (orNone s.cursor).str? ≠ some cursor := by
    cases hc : s.cursor with
    | none => exact fun same => by cases same
    | some d => exact fun same => moved (hc.trans same)
  rw [collectPage_record, page.announces, page.continues, further]
  dsimp only
  unfold collectRead
  rw [count_unchanged inStep page, foldlM_collectItem wellFormed distinct]
  have behind : ¬ total ≤ c.found.length + (items.filterMap entryOf).length := by
    rw [← List.length_append]
    omega
  simp [behind, inStep.seen, fresh, asked, some_, bind, Except.bind]

/-- The validator takes the page the listing ends with. -/
theorem collectPage_last (page : PageOf s items info total false) :
    collectPage true c (pageRecord items info s.cursor) =
      .ok ⟨c.found ++ items.filterMap entryOf, some total, c.seenCursors⟩ := by
  rw [collectPage_record, page.announces, page.continues]
  dsimp only
  unfold collectRead
  rw [count_unchanged inStep page, foldlM_collectItem wellFormed distinct]
  rfl

end

/-- What the validator makes of pages: the entries of their items, and a count that agrees. -/
structure Collects (later : List Json) (c : Collected) : Prop where
  ok : ∃ final, collectLoop later c = .ok final ∧
    final.found = c.found ++ (allItems later).filterMap entryOf ∧
    final.expectedTotal = some final.found.length

theorem collects_last {s : Listing} {c : Collected} (inStep : InStep s c) {items : List Json}
    {info : List (Text × Json)} {total : Nat} (page : PageOf s items info total false)
    (whole : s.observed + items.length = total)
    (wellFormed : ∀ item ∈ items, (entryOf item).isSome = true)
    (distinct : ((c.found ++ items.filterMap entryOf).map Prod.fst).Nodup) :
    Collects [pageRecord items info s.cursor] c := by
  refine ⟨⟨c.found ++ items.filterMap entryOf, some total, c.seenCursors⟩, ?_, ?_, ?_⟩
  · rw [collectLoop, List.isEmpty_nil, collectPage_last inStep wellFormed distinct page]
    rfl
  · rw [allItems, List.flatMap_singleton, itemsOf_pageRecord]
  · dsimp only
    rw [length_collected inStep wellFormed, whole]

/-- The validator accepts what a listing returns, from any point on. -/
theorem requestLoop_collects (responses : Nat → Response) (fuel i : Nat) (s : Listing)
    (gathered : Gathered s) {pages : List Json}
    (h : (requestLoop responses fuel i s).2 = .ok pages) :
    ∃ later, pages = s.pages ++ later ∧ later ≠ [] ∧ ∀ c, InStep s c →
      (∀ item ∈ allItems later, (entryOf item).isSome = true) →
      ((c.found ++ (allItems later).filterMap entryOf).map Prod.fst).Nodup → Collects later c := by
  induction fuel generalizing i s with
  | zero => cases h
  | succ fuel ih =>
    have single : ∀ items info total, PageOf s items info total false →
        s.observed + items.length = total → ∀ c, InStep s c →
        (∀ item ∈ allItems [pageRecord items info s.cursor], (entryOf item).isSome = true) →
        ((c.found ++ (allItems [pageRecord items info s.cursor]).filterMap entryOf).map
          Prod.fst).Nodup → Collects [pageRecord items info s.cursor] c := by
      intro items info total page whole c inStep wellFormed distinct
      rw [allItems, List.flatMap_singleton, itemsOf_pageRecord] at wellFormed distinct
      exact collects_last inStep page whole wellFormed distinct
    rw [requestLoop] at h
    split at h
    · cases h
    · rename_i returned passed
      cases h
      cases requestPage_passed passed with
      | empty start first =>
        obtain ⟨page, zero⟩ := gathered.empty start
        have only := single _ _ _ page (by rw [zero]; rfl)
        rw [first] at only
        exact ⟨[emptyPage], by rw [start]; rfl, List.cons_ne_nil _ _, only⟩
      | last items info total page whole =>
        exact ⟨_, rfl, List.cons_ne_nil _ _, single items info total page whole⟩
    · rename_i t passed
      cases requestPage_passed passed with
      | next items info total cursor page further short some_ fresh moved =>
        obtain ⟨later, rfl, nonempty, accepts⟩ := ih (i + 1) _ (gathered.advanced page) h
        refine ⟨pageRecord items info s.cursor :: later, ?_, List.cons_ne_nil _ _, ?_⟩
        · rw [advanced, List.append_assoc]
          rfl
        · intro c inStep wellFormed distinct
          rw [allItems_cons] at wellFormed distinct
          rw [List.filterMap_append, ← List.append_assoc] at distinct
          obtain ⟨first, others⟩ := List.forall_mem_append.mp wellFormed
          have firstDistinct : ((c.found ++ items.filterMap entryOf).map Prod.fst).Nodup := by
            rw [List.map_append] at distinct
            exact (List.nodup_append.mp distinct).1
          obtain ⟨final, loop, found, total'⟩ := accepts
            ⟨c.found ++ items.filterMap entryOf, some total, cursor :: c.seenCursors⟩
            ⟨length_collected inStep first, rfl, by rw [inStep.seen]; rfl⟩ others distinct
          refine ⟨final, ?_, ?_, total'⟩
          · rw [collectLoop, List.isEmpty_eq_false_iff.mpr nonempty,
              collectPage_next inStep first firstDistinct page further short some_ fresh moved]
            exact loop
          · rw [found, allItems_cons, List.filterMap_append, ← List.append_assoc]

/-! ## The two scripts -/

/-- The entries of the items of some pages. -/
def entriesOf (pages : List Json) : Sources := (allItems pages).filterMap entryOf

theorem gathered_initial : Gathered Listing.initial where
  items := rfl
  totals := by simp [Listing.initial]
  counted := by simp [Listing.initial]

/-- The listing stops after a thousand requests, no two of them the same, and what it
returns is whole; the validator finds in it exactly the sources it lists. -/
theorem schema_pagination (responses : Nat → Response) :
    let run := requestSchemaPages responses
    run.1.length ≤ 1000 ∧ run.1.Nodup ∧
      ∀ pages, run.2 = .ok pages →
        (∀ page ∈ pages, announced page = some (allItems pages).length) ∧
        ∀ expectedNames : List Text, (∀ item ∈ allItems pages, (entryOf item).isSome = true) →
          ((entriesOf pages).map Prod.fst).Nodup →
          (∀ name ∈ expectedNames, name ∈ (entriesOf pages).map Prod.fst) →
          ∃ result, collectSchemaPages pages expectedNames = .ok result ∧
            result.map Prod.fst = expectedNames ∧ ∀ e ∈ result, e ∈ entriesOf pages := by
  intro run
  obtain ⟨length, distinct, cursors⟩ := requestLoop_cursors responses 1000 0 Listing.initial
    (fun c hc => by cases hc)
  have visible : ∀ r ∈ (requestLoop responses 1000 0 Listing.initial).1, r ≠ some [] := by
    intro r hr
    rcases cursors r hr with rfl | ⟨c, rfl, -, nonempty⟩
    · exact fun same => by cases same
    · exact fun same => nonempty (Option.some.inj same)
  refine ⟨by simpa [run, requestSchemaPages] using length, ?_, ?_⟩
  · exact distinct.map_on fun a ha b hb => requestParams_inj (visible a ha) (visible b hb)
  · intro pages returned
    refine ⟨requestLoop_totals responses 1000 0 _ gathered_initial returned, ?_⟩
    intro expectedNames wellFormed names listed
    obtain ⟨later, same, -, accepts⟩ :=
      requestLoop_collects responses 1000 0 _ gathered_initial returned
    rw [Listing.initial, List.nil_append] at same
    subst same
    obtain ⟨final, loop, found, total⟩ := accepts ⟨[], none, []⟩ ⟨rfl, rfl, rfl⟩ wellFormed names
    rw [List.nil_append] at found
    have present : ∀ name ∈ expectedNames, ∃ source, final.found.lookup name = some source ∧
        (name, source) ∈ entriesOf pages := by
      intro name hname
      obtain ⟨⟨n, source⟩, hmem, rfl⟩ := List.mem_map.mp (listed name hname)
      refine ⟨source, ?_, hmem⟩
      rw [found]
      exact lookup_eq_some_of_mem names hmem
    have missing : (expectedNames.filter fun name => (final.found.lookup name).isNone) = [] := by
      rw [List.filter_eq_nil_iff]
      intro name hname
      obtain ⟨source, hl, -⟩ := present name hname
      simp [hl]
    refine ⟨expectedNames.map fun name => (name, (final.found.lookup name).getD []), ?_, ?_, ?_⟩
    · unfold collectSchemaPages
      rw [loop]
      show (if final.expectedTotal ≠ some final.found.length then _ else _) = _
      rw [if_neg (not_not.mpr total), missing]
      rfl
    · rw [List.map_map]
      exact List.map_id _
    · intro e he
      obtain ⟨name, hname, rfl⟩ := List.mem_map.mp he
      obtain ⟨source, hl, hmem⟩ := present name hname
      rw [hl]
      exact hmem

end KonnectFapi.Guarantees

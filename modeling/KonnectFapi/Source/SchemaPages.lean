import KonnectFapi.Lib.Json
import KonnectFapi.Lib.Refusal
import KonnectFapi.Lib.SortOn

/-!
# Schema pages

Source: scripts/wp1_target.py:649-701 and scripts/wp1.py:124-177. The server is the
sequence of its answers; a request that fails raises. A page is kept as the dictionary
the second script reads.
-/

namespace KonnectFapi.Source.SchemaPages
open Lib

/-- What `request_json` does on one call. -/
inductive Response where
  | raised
  | answered (status : Nat) (page : Json)

/-- `not value.strip()`. -/
def isBlank (t : Text) : Bool := t.all isSpacePoint

/-- `isinstance(value, str) and value.strip()`. -/
def cursorOf (value : Option Json) : Option Text :=
  match value with
  | some (.str c) => if isBlank c then none else some c
  | _ => none

/-- `type(value) is int and value >= 0`. -/
def totalOf (value : Option Json) : Option Nat :=
  match value with
  | some (.int n) => if n < 0 then none else some n.toNat
  | _ => none

/-- The query parameters of a request. -/
def requestParams (cursor : Option Text) : List (Text × Text) :=
  (text "page[size]", text "100") ::
    match cursor with
    | some (c :: rest) => [(text "page[after]", c :: rest)]
    | _ => []

def orNone (cursor : Option Text) : Json := (cursor.map Json.str).getD .null

/-- What is appended to `pages`. -/
def pageRecord (items : List Json) (info : List (Text × Json)) (cursor : Option Text) : Json :=
  .obj [(text "items", .arr items), (text "page", .obj info), (text "request_cursor", orNone cursor)]

/-- The page an empty first body stands for. -/
def emptyPage : Json :=
  pageRecord [] [(text "total_count", .int 0), (text "has_next_page", .bool false),
    (text "next_cursor", .null)] none

/-! ## `request_schema_pages` -/

structure Listing where
  cursor : Option Text
  pages : List Json
  seenCursors : List Text
  count : Option Nat
  observed : Nat

def Listing.initial : Listing := ⟨none, [], [], none, 0⟩

/-- What one page leaves: the loop goes on, or the pages are returned. -/
inductive Turn where
  | next (listing : Listing)
  | returned (pages : List Json)

/-- The checks of a page once its items and its metadata are there. -/
def checkPage (s : Listing) (items : List Json) (info : List (Text × Json)) : Except Refused Turn :=
  match totalOf (info.lookup (text "total_count")) with
  | none => fail "schema list total_count is missing or changed during pagination"
  | some total =>
    if s.count.any (· ≠ total) then
      fail "schema list total_count is missing or changed during pagination"
    else
      let pages := s.pages ++ [pageRecord items info s.cursor]
      let observed := s.observed + items.length
      match info.lookup (text "has_next_page"), cursorOf (info.lookup (text "next_cursor")) with
      | some (.bool true), none => fail "schema list next_cursor is missing or malformed"
      | some (.bool true), some next =>
        if total < observed then fail "schema list returned more items than page.total_count"
        else if total ≤ observed ∨ items.isEmpty then fail "schema pagination made no progress"
        else if next ∈ s.seenCursors ∨ s.cursor = some next then
          fail "schema page cursor did not advance"
        else .ok (.next ⟨some next, pages, next :: s.seenCursors, some total, observed⟩)
      | some (.bool false), _ =>
        if total < observed then fail "schema list returned more items than page.total_count"
        else if observed ≠ total then fail "schema pagination ended before page.total_count"
        else .ok (.returned pages)
      | _, _ => fail "schema list has_next_page is malformed"

/-- One pass of the loop. -/
def requestPage (s : Listing) (response : Response) : Except Refused Turn :=
  match response with
  | .raised => .error .raised
  | .answered status page =>
    if status ≠ 200 then
      .error (.valueError (text "schema list request failed with HTTP " ++ ofAscii (decimal status)))
    else
      match page with
      | .obj [] =>
        if s.pages.isEmpty && s.cursor.isNone then .ok (.returned [emptyPage])
        else fail "schema list response is missing items or pagination metadata"
      | .obj members =>
        match members.lookup (text "items"), members.lookup (text "page") with
        | some (.arr items), some (.obj info) => checkPage s items info
        | _, _ => fail "schema list response is missing items or pagination metadata"
      | _ => fail "schema list response is malformed"

/-- The loop from its `i`th pass: the cursors requested, and what it returns. -/
def requestLoop (responses : Nat → Response) :
    Nat → Nat → Listing → List (Option Text) × Except Refused (List Json)
  | 0, _, _ => ([], fail "schema pagination exceeded its safety limit")
  | fuel + 1, i, s =>
    match requestPage s (responses i) with
    | .error e => ([s.cursor], .error e)
    | .ok (.returned pages) => ([s.cursor], .ok pages)
    | .ok (.next t) =>
      let later := requestLoop responses fuel (i + 1) t
      (s.cursor :: later.1, later.2)

/-- `request_schema_pages`: the parameters of its requests, and the pages. -/
def requestSchemaPages (responses : Nat → Response) :
    List (List (Text × Text)) × Except Refused (List Json) :=
  let run := requestLoop responses 1000 0 Listing.initial
  (run.1.map requestParams, run.2)

/-! ## `collect_schema_pages` -/

abbrev Sources := List (Text × Text)

/-- The name and the source of an item. -/
def entryOf (item : Json) : Option (Text × Text) :=
  match item.get? (text "name"), item.get? (text "lua_schema") with
  | some (.str (n :: name)), some (.str (s :: source)) => some (n :: name, s :: source)
  | _, _ => none

def collectItem (found : Sources) (item : Json) : Except Refused Sources :=
  if item.isObj then
    match entryOf item with
    | none => fail "schema list item is missing name or original lua_schema"
    | some (name, source) =>
      if (found.lookup name).isSome then
        .error (.valueError (text "duplicate schema entry: " ++ name))
      else .ok (found ++ [(name, source)])
  else fail "schema list item is malformed"

structure Collected where
  found : Sources
  expectedTotal : Option Nat
  seenCursors : List Text

/-- The checks of a page once its metadata is read; `last` when no page follows. -/
def collectRead (last : Bool) (c : Collected) (items : List Json) (total : Nat) (hasNext : Bool)
    (next : Option Text) (request : Option Json) : Except Refused Collected :=
  if hasNext && next.isNone then fail "schema page next_cursor is missing or malformed"
  else if c.expectedTotal.any (· ≠ total) then
    fail "schema page total_count changed during pagination"
  else do
    let found ← items.foldlM collectItem c.found
    if hasNext && last then fail "schema pagination is incomplete"
    else if !hasNext && !last then fail "schema pages continue after total_count was reached"
    else if hasNext && total ≤ found.length then
      fail "schema pagination continues past page.total_count"
    else if hasNext && next.any (· ∈ c.seenCursors) then fail "schema pagination cursor repeated"
    else if hasNext && next.isSome && request.bind Json.str? == next then
      fail "schema page cursor did not advance"
    else if hasNext && items.isEmpty then fail "schema pagination made no progress"
    else .ok ⟨found, some total, if hasNext then next.toList ++ c.seenCursors else c.seenCursors⟩

/-- One pass over a page. -/
def collectPage (last : Bool) (c : Collected) (page : Json) : Except Refused Collected :=
  match page.get? (text "items") with
  | some (.arr items) =>
    let info := page.get? (text "page")
    match totalOf (info.bind (·.get? (text "total_count"))) with
    | none => fail "schema page is missing page.total_count"
    | some total =>
      match info.bind (·.get? (text "has_next_page")) with
      | some (.bool hasNext) =>
        collectRead last c items total hasNext
          (cursorOf (info.bind (·.get? (text "next_cursor")))) (page.get? (text "request_cursor"))
      | _ => fail "schema page has_next_page is malformed"
  | _ => fail "schema page is missing items"

def collectLoop : List Json → Collected → Except Refused Collected
  | [], c => .ok c
  | page :: rest, c => do collectLoop rest (← collectPage rest.isEmpty c page)

/-- `", ".join(names)`. -/
def joinNames : List Text → Text
  | [] => []
  | [name] => name
  | name :: rest => name ++ text ", " ++ joinNames rest

/-- `collect_schema_pages`, the expected names in the order the set is walked. -/
def collectSchemaPages (pages : List Json) (expectedNames : List Text) : Except Refused Sources := do
  let c ← collectLoop pages ⟨[], none, []⟩
  if c.expectedTotal ≠ some c.found.length then
    fail "schema pagination item count does not match page.total_count"
  else
    let missing := expectedNames.filter fun name => (c.found.lookup name).isNone
    if missing.isEmpty then
      .ok (expectedNames.map fun name => (name, (c.found.lookup name).getD []))
    else
      .error (.valueError (text "missing schema: " ++
        joinNames (sortOn id missing)))

end KonnectFapi.Source.SchemaPages

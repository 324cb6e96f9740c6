import KonnectFapi.Source.MigrationScope

/-!
# The diff report of the API gateway

Source: scripts/wp3_runtime.py:404-515. A text that is no JSON and a text that repeats
a name are one refusal here.
-/

namespace KonnectFapi.Source.Migration
open Lib Lib.Json RuntimeDiff

/-- `entity.get("id")`: missing or null, or a text that is not empty. -/
def entityId (entity : Json) : Except Refused (Option Text) :=
  match entity.get? (text "id") with
  | none => .ok none
  | some .null => .ok none
  | some (.str (c :: rest)) => .ok (some (c :: rest))
  | some _ => fail "decK API runtime diff report entity ID is malformed"

def isNullJson (v : Json) : Bool := v matches .null

/-- The bodies of an operation, and its entity. -/
def checkBody (op : Operation) (old new : Json) : Except Refused Json := do
  let entity := if op = .updating then old else new
  require (isObj entity) "decK API runtime diff report entity body is incomplete"
  match op with
  | .creating => require (isNullJson old && isObj new) "decK API create body is malformed"
  | .updating => require (isObj old && isObj new) "decK API update body is malformed"
  | .deleting => require (isNullJson old && isObj new) "decK API delete body is malformed"
  return entity

/-- The canonical name of an entity: that of its body for a plugin, its label otherwise. -/
def identityName (kind name : Text) (entity : Json) : Except Refused Text :=
  if canonicalEntityKind kind = some (text "plugin") then
    match filledText (entity.get? (text "name")) with
    | some name => .ok name
    | none => fail "decK plugin diff body omitted its canonical entity name"
  else .ok name

def readChange (op : Operation) (entry : Json) : Except Refused Change := do
  let .obj found := entry | fail "decK API runtime diff report entity is malformed"
  require (namesAre found ["kind", "name", "body"])
    "decK API runtime diff report entity is malformed"
  let incomplete := "decK API runtime diff report entity identity is incomplete"
  let some kind := filledText (member found "kind") | fail incomplete
  let some name := filledText (member found "name") | fail incomplete
  let some (.obj body) := member found "body" | fail incomplete
  let schema := "decK API runtime diff entity body does not match the pinned schema"
  require (namesAre body ["old", "new"]) schema
  let some old := member body "old" | fail schema
  let some new := member body "new" | fail schema
  let entity ← checkBody op old new
  let id ← entityId entity
  require (op == .creating || id.isSome) "decK API existing entity operation omitted its ID"
  require (op != .updating || (new.get? (text "id")).bind str? == id)
    "decK API update changed an existing entity ID"
  let canonicalName ← identityName kind name entity
  return ⟨⟨kind, canonicalName, id⟩, name, old, new⟩

def Identity.key (identity : Identity) : Text ×ₗ Text ×ₗ Text :=
  toLex (identity.kind, toLex (identity.name, identity.id.getD []))

/-- One pass of the loop over the operations: the sorted changes of a list. -/
def readChanges (changes summary : List (Text × Json)) (op : Operation) :
    Except Refused (List Change) := do
  let some (.arr entries) := member changes op.name
    | fail "decK API runtime diff report operation list is malformed"
  let read ← entries.mapM (readChange op)
  let sorted := sortOn (fun change : Change => change.identity.key) read
  require (decide (sorted.map (·.identity)).Nodup)
    "decK API runtime diff report has duplicate operation identities"
  require (isCount (member summary op.name) sorted.length)
    "decK API runtime diff report summary does not match its operation identities"
  return sorted

/-- What an accepted report says: its sorted changes, and the summary as it stands there. -/
structure DeckReport where
  changes : Operation → List Change
  summary : Json

/-- `receipt_view`: the counts of the summary and the identities of every operation. -/
structure ReceiptView where
  count : Operation → Nat
  operations : Operation → List Identity

def Identity.json (identity : Identity) : Json :=
  .obj [(text "kind", .str identity.kind), (text "name", .str identity.name),
    (text "id", match identity.id with
      | some id => .str id
      | none => .null)]

def ReceiptView.operationsJson (view : ReceiptView) : Json :=
  .obj (byOperation fun op => .arr ((view.operations op).map Identity.json))

def DeckReport.view (report : DeckReport) : ReceiptView where
  count op := (report.changes op).length
  operations op := (report.changes op).map (·.identity)

/-- `canonical_report`. -/
def DeckReport.canonical (report : DeckReport) : Json :=
  reportJson (fun op => (report.changes op).map (·.json)) report.summary

def readDeckReport (report : Json) : Except Refused DeckReport := do
  let unexpected :=
    "decK API runtime diff report contains unexpected fields, warnings, or errors"
  let .obj found := report | fail unexpected
  require (namesAre found ["changes", "summary", "warnings", "errors"]) unexpected
  let some (.arr []) := member found "warnings" | fail unexpected
  let some (.arr []) := member found "errors" | fail unexpected
  let structureChanged := "decK API runtime diff report operation structure changed"
  let some (.obj changes) := member found "changes" | fail structureChanged
  let some (.obj summary) := member found "summary" | fail structureChanged
  require (namesAre changes ["creating", "updating", "deleting"] &&
    namesAre summary ["creating", "updating", "deleting", "total"]) structureChanged
  let creating ← readChanges changes summary .creating
  let updating ← readChanges changes summary .updating
  let deleting ← readChanges changes summary .deleting
  require (isCount (member summary "total") (creating.length + updating.length + deleting.length))
    "decK API runtime diff report total does not match operation counts"
  let read : DeckReport := ⟨fun
    | .creating => creating
    | .updating => updating
    | .deleting => deleting, .obj summary⟩
  validateRuntimeDiffScope read.changes
  return read

section
variable {Digest : Type} (sha256 : Bytes → Digest) (floats : FloatWriting)

def parseDeckDiffReport (raw : Text) : Except Refused (ReceiptView × Digest) := do
  let some report := loadsUnique floats raw
    | fail "decK API runtime diff did not return a valid JSON report"
  let read ← readDeckReport report
  return (read.view, sha256 (Json.canonical read.canonical))

end

end KonnectFapi.Source.Migration

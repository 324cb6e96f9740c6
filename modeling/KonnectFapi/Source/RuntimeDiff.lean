import KonnectFapi.Lib.JsonCanonical
import KonnectFapi.Lib.Refusal

/-!
# The sanitized diff report of the third-party runtime

Source: scripts/run-deck.py:57-154 and scripts/wp3_runtime.py:399-401. The hash
function, the writing of floats and the order in which the interpreter walks a set of
texts are parameters.
-/

namespace KonnectFapi.Source.RuntimeDiff
open Lib Lib.Json

/-! ## `sanitize_output` -/

/-- `text.replace(old, new)` for a text that is not empty, `skip` characters being replaced already. -/
def replaceFrom (old new : Text) : Nat → Text → Text
  | _, [] => []
  | skip + 1, _ :: rest => replaceFrom old new skip rest
  | 0, c :: rest =>
    if old.isPrefixOf (c :: rest) then new ++ replaceFrom old new (old.length - 1) rest
    else c :: replaceFrom old new 0 rest

/-- The length of `[^-\r\n]+-----` at the start of the text. -/
def labelLength (t : Text) : Option Nat :=
  let label := t.takeWhile fun c => c.val != 45 && c.val != 13 && c.val != 10
  if label = [] then none
  else if (text "-----").isPrefixOf (t.drop label.length) then some (label.length + 5) else none

/-- The length of a PEM line that starts with the word. -/
def lineLength (word : String) (t : Text) : Option Nat :=
  if (text word).isPrefixOf t then (labelLength (t.drop word.length)).map (word.length + ·) else none

/-- How far the first end line reaches. -/
def reachesEnd : Text → Option Nat
  | [] => none
  | c :: rest =>
    match lineLength "-----END " (c :: rest) with
    | some n => some n
    | none => (reachesEnd rest).map (· + 1)

/-- `re.sub` of the PEM blocks, `skip` characters being replaced already. -/
def redactPemFrom : Nat → Text → Text
  | _, [] => []
  | skip + 1, _ :: rest => redactPemFrom skip rest
  | 0, c :: rest =>
    match (lineLength "-----BEGIN " (c :: rest)).bind fun start =>
        (reachesEnd ((c :: rest).drop start)).map (start + ·) with
    | some n => text "[REDACTED PEM]" ++ redactPemFrom (n - 1) rest
    | none => c :: redactPemFrom 0 rest

/-- `walk` gives the elements of a set of texts in the order the interpreter walks it. -/
def sanitizeOutput (walk : List Text → List Text) (secrets : List Text) (t : Text) : Text :=
  let safeSecrets := walk (secrets.filter (4 ≤ ·.length)).dedup
  (sortOn (fun secret => OrderDual.toDual secret.length) safeSecrets).foldl
    (fun t secret => replaceFrom secret (text "[REDACTED]") 0 t) (redactPemFrom 0 t)

/-! ## `parse_sanitized_runtime_diff` -/

inductive Operation where
  | creating
  | updating
  | deleting
  deriving DecidableEq

def Operation.name : Operation → String
  | .creating => "creating"
  | .updating => "updating"
  | .deleting => "deleting"

def Operation.all : List Operation := [.creating, .updating, .deleting]

theorem Operation.mem_all (op : Operation) : op ∈ Operation.all := by
  cases op <;> simp [Operation.all]

def member (found : List (Text × Json)) (name : String) : Option Json := found.lookup (text name)

def isConstant (literal : Text) : Bool :=
  literal == text "NaN" || literal == text "Infinity" || literal == text "-Infinity"

/-- `json.loads` with `unique_object` and `reject_constant`. -/
def loadsFinite (floats : FloatWriting) (raw : Text) : Option Json :=
  match loads unique raw with
  | some v => if anyFloat isConstant v then none else some (mapFloats floats.write v)
  | none => none

def entityKinds : List Text :=
  [text "service", text "route", text "plugin", text "certificate", text "ca_certificate"]

/-- An entry of a change list, with its kind and name. -/
structure Entry where
  kind : Text
  name : Text
  whole : Json

def isObject : Option Json → Bool
  | some (.obj _) => true
  | _ => false

def isNull : Option Json → Bool
  | some .null => true
  | _ => false

def checkBody (op : Operation) (body : List (Text × Json)) : Except Refused Unit :=
  match op with
  | .creating =>
    require (isNull (member body "old") && isObject (member body "new"))
      "third-party runtime diff create body is malformed"
  | .updating =>
    require (isObject (member body "old") && isObject (member body "new"))
      "third-party runtime diff update body is malformed"
  | .deleting =>
    require (isNull (member body "old") && isObject (member body "new"))
      "third-party runtime diff delete body is malformed"

def readEntry (op : Operation) (entry : Json) : Except Refused Entry := do
  let message := "third-party runtime diff entity is malformed"
  let .obj found := entry | fail message
  require (namesAre found ["kind", "name", "body"]) message
  let some (.str kind) := member found "kind" | fail message
  let some (.str name) := member found "name" | fail message
  let some (.obj body) := member found "body" | fail message
  require (entityKinds.contains kind && name != [] && name.length ≤ 256 && !name.any isControl &&
    namesAre body ["old", "new"]) message
  checkBody op body
  return ⟨kind, name, entry⟩

/-- The loop over a change list, `seen` being the identities met before. -/
def readEntries (sanitize : Text → Text) (op : Operation) :
    List (Text × Text) → List Json → Except Refused (List Entry)
  | _, [] => .ok []
  | seen, entry :: rest => do
    let e ← readEntry op entry
    let identity := (e.kind, sanitize e.name)
    require (!seen.contains identity)
      "third-party runtime diff contains duplicate operation identities"
    let more ← readEntries sanitize op (identity :: seen) rest
    return e :: more

def isCount (value : Option Json) (n : Nat) : Bool :=
  match value with
  | some (.int m) => m == n
  | _ => false

def readOperation (sanitize : Text → Text) (changes summary : List (Text × Json)) (op : Operation) :
    Except Refused (List Entry) := do
  let some (.arr entries) := member changes op.name
    | fail "third-party runtime diff operation list is malformed"
  let read ← readEntries sanitize op [] entries
  require (isCount (member summary op.name) read.length)
    "third-party runtime diff summary does not match its operation identities"
  return read

/-- What the report says, operation by operation. -/
structure Report where
  entries : Operation → List Entry

namespace Report

def count (report : Report) (op : Operation) : Nat := (report.entries op).length

def total (report : Report) : Nat :=
  report.count .creating + report.count .updating + report.count .deleting

/-- `normalized_changes[operation]`. -/
def normalized (report : Report) (op : Operation) : List Json :=
  (sortOn (fun e : Entry => toLex (e.kind, e.name)) (report.entries op)).map (·.whole)

/-- `safe_changes[operation]` as pairs of kind and name. -/
def safe (sanitize : Text → Text) (report : Report) (op : Operation) : List (Text × Text) :=
  sortOn toLex ((report.entries op).map fun e => (e.kind, sanitize e.name))

end Report

def byOperation (f : Operation → Json) : List (Text × Json) :=
  Operation.all.map fun op => (text op.name, f op)

def summaryJson (count : Operation → Nat) : Json :=
  .obj (byOperation (fun op => .int (count op)) ++
    [(text "total", .int (count .creating + count .updating + count .deleting : Nat))])

/-- The report that is hashed. -/
def reportJson (changes : Operation → List Json) (summary : Json) : Json :=
  .obj [(text "changes", .obj (byOperation fun op => .arr (changes op))),
    (text "summary", summary), (text "warnings", .arr []), (text "errors", .arr [])]

/-- The operation view: the counts, and the safe labels of every operation. -/
structure View where
  count : Operation → Nat
  operations : Operation → List (Text × Text)

def View.summary (view : View) : Json := summaryJson view.count

def labelJson (label : Text × Text) : Json :=
  .obj [(text "kind", .str label.1), (text "name", .str label.2)]

/-- `safe_changes`. -/
def View.operationsJson (view : View) : Json :=
  .obj (byOperation fun op => .arr ((view.operations op).map labelJson))

def readReport (sanitize : Text → Text) (report : Json) : Except Refused Report := do
  let message :=
    "third-party runtime diff report contains errors, warnings, or unexpected fields"
  let .obj found := report | fail message
  require (namesAre found ["changes", "summary", "warnings", "errors"]) message
  let some (.arr []) := member found "warnings" | fail message
  let some (.arr []) := member found "errors" | fail message
  let malformed := "third-party runtime diff report structure is malformed"
  let some (.obj changes) := member found "changes" | fail malformed
  let some (.obj summary) := member found "summary" | fail malformed
  require (namesAre changes ["creating", "updating", "deleting"] &&
    namesAre summary ["creating", "updating", "deleting", "total"]) malformed
  let creating ← readOperation sanitize changes summary .creating
  let updating ← readOperation sanitize changes summary .updating
  let deleting ← readOperation sanitize changes summary .deleting
  require (isCount (member summary "total") (creating.length + updating.length + deleting.length))
    "third-party runtime diff total is malformed"
  return ⟨fun
    | .creating => creating
    | .updating => updating
    | .deleting => deleting⟩

section
variable {Digest : Type} (sha256 : Bytes → Digest) (floats : FloatWriting)
  (walk : List Text → List Text)

/-- The operation view and the digest of the whole report. -/
def parseSanitizedRuntimeDiff (raw : Text) (secrets : List Text) :
    Except Refused (View × Digest) := do
  let some report := loadsFinite floats raw
    | fail "third-party runtime diff did not return valid JSON"
  let read ← readReport (sanitizeOutput walk secrets) report
  return (⟨read.count, read.safe (sanitizeOutput walk secrets)⟩,
    sha256 (canonical (reportJson read.normalized (summaryJson read.count))))

end

end KonnectFapi.Source.RuntimeDiff

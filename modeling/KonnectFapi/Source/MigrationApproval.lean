import KonnectFapi.Source.MigrationDiff

/-!
# The approval receipt of the API runtime migration

Source: scripts/wp3_runtime.py:32-43 and 698-848. What the file system answers is an
input: the directories, the bytes of the receipt and of the state file.
-/

namespace KonnectFapi.Source.Migration
open Lib Lib.Json RuntimeDiff

/-! ## `validate_migration_approval_operations` -/

def expectedTotal : Nat := 19

/-- The kind, name and id of an operation. -/
def describe (identity : Identity) : Option Text × Text × Option Text :=
  (canonicalEntityKind identity.kind, identity.name, identity.id)

def isCertificate (identity : Identity) : Bool :=
  canonicalEntityKind identity.kind == some (text "certificate")

/-- `expected_creates`. -/
def expectedCreates : List (Option Text × Text × Option Text) :=
  runtimeEntities.map fun e => (some e.2.2, e.1, some e.2.1)

/-- `expected_named`, without the tags. -/
def expectedDeletes : List (Option Text × Text) :=
  expectedNamed.map fun e => (some e.1, e.2.1)

def validateMigrationApprovalOperations (count : Operation → Nat) (total : Nat)
    (operations : Operation → List Identity) : Except Refused Unit := do
  require (Operation.all.all (fun op => count op == expectedCount op) && total == expectedTotal)
    "API runtime migration approval is not bound to the reviewed 6/0/13 change"
  require (((operations .creating).map describe).isPerm expectedCreates &&
      (operations .updating).isEmpty)
    "API runtime migration approval create/update identities changed"
  let named := (operations .deleting).filter fun identity => !isCertificate identity
  require ((named.map fun identity => (canonicalEntityKind identity.kind, identity.name)).isPerm
        expectedDeletes &&
      (operations .deleting).countP isCertificate == 2 && (operations .deleting).length == 13)
    "API runtime migration approval delete identities changed"
  require (decide ((operations .creating ++ operations .deleting).map (·.id)).Nodup)
    "API runtime migration approval contains duplicate entity identities"
  require (!(operations .deleting).any fun identity => identity.id.any (protectedIds.contains ·))
    "API runtime migration approval attempts to delete a protected entity"

/-! ## `read_migration_approval` -/

/-- How opening and reading the receipt ends. -/
inductive ReceiptRead where
  | content (bytes : Bytes)
  | notFound
  | failed
  | unsuitable

/-- What `read_migration_approval` is called with and finds. -/
structure ApprovalInputs where
  directories : Bool
  receipt : ReceiptRead
  controlPlaneId : Text
  stateLinked : Bool
  state : Option Bytes
  roleValues : Json

/-- `MIGRATION_APPROVAL_FIELDS`. -/
def migrationApprovalFields : List String :=
  ["schema_version", "scope", "approved", "control_plane_id", "state_sha256", "role_inputs_sha256",
    "diff_sha256", "summary", "operations"]

/-- `re.fullmatch(r"[0-9a-f]{64}", value)`. -/
def isHexDigest (value : Text) : Bool :=
  value.length == 64 && value.all fun c =>
    (48 ≤ c.val && c.val ≤ 57) || (97 ≤ c.val && c.val ≤ 102)

def isHexJson (value : Option Json) : Bool :=
  match value with
  | some (.str s) => isHexDigest s
  | _ => false

def receiptBytes (inputs : ApprovalInputs) : Except Refused Bytes :=
  match inputs.receipt with
  | .content bytes => .ok bytes
  | .notFound => fail "API runtime sync requires the separately reviewed migration approval receipt"
  | .failed => fail "API runtime migration approval receipt is missing or unsafe"
  | .unsuitable =>
    fail "API runtime migration approval receipt must be a regular mode-0600 file under 16 KiB"

/-- `file_sha256` of the state file. -/
def stateSha256 (sha256 : Bytes → Text) (inputs : ApprovalInputs) : Except Refused Text :=
  match inputs.state with
  | some bytes => .ok (sha256 bytes)
  | none => fail "file to digest is missing or unsafe"

section
variable (sha256 : Bytes → Text) (floats : FloatWriting)

/-- Everything that is checked before the summary and the operations. -/
def readReceipt (inputs : ApprovalInputs) : Except Refused Json := do
  require inputs.directories
    "API runtime migration approval receipt directory is missing or unsafe"
  let raw ← receiptBytes inputs
  let some receipt := (decodeUtf8 raw).bind (loadsUnique floats)
    | fail "API runtime migration approval receipt is malformed"
  let fields := "API runtime migration approval receipt fields are malformed"
  let .obj found := receipt | fail fields
  require (namesAre found migrationApprovalFields) fields
  let approved := match member found "approved" with
    | some (.bool true) => true
    | _ => false
  require (isCount (member found "schema_version") 1 &&
      isText (member found "scope") (text "api-runtime-migration") && approved &&
      isText (member found "control_plane_id") inputs.controlPlaneId)
    "API runtime migration approval does not match the API target and scope"
  let stale := "API runtime migration approval does not match the current runtime state"
  require (!inputs.stateLinked) stale
  let some (.str state) := member found "state_sha256" | fail stale
  let current ← stateSha256 sha256 inputs
  require (state == current) stale
  require (isHexDigest state && isHexJson (member found "diff_sha256"))
    "API runtime migration approval digest is malformed"
  require (isHexJson (member found "role_inputs_sha256") &&
      isText (member found "role_inputs_sha256") (sha256 (Json.canonical inputs.roleValues)))
    "API runtime migration approval does not match current certificate role inputs"
  return receipt

end

/-- `type(count) is int and count >= 0`. -/
def natural : Json → Option Nat
  | .int (.ofNat n) => some n
  | _ => none

/-- An entry of the receipt's operations. -/
def readIdentity (entry : Json) : Option Identity :=
  match entry with
  | .obj found =>
    if namesAre found ["kind", "name", "id"] then
      match filledText (member found "kind"), filledText (member found "name"),
        filledText (member found "id") with
      | some kind, some name, some id => some ⟨kind, name, some id⟩
      | _, _, _ => none
    else none
  | _ => none

/-- The loop over the lists of the receipt. -/
def readIdentities (counts : List (Text × Json)) (list : Text × Json) :
    Except Refused (Text × List Identity) := do
  let malformed := "API runtime migration approval operation identities are malformed"
  let .arr entries := list.2 | fail malformed
  require (isCount (counts.lookup list.1) entries.length) malformed
  let some read := entries.mapM readIdentity | fail malformed
  require (sortOn Identity.key read == read)
    "API runtime migration approval operation identities are not canonical"
  return (list.1, read)

/-- The summary and the operations of a receipt. -/
def checkApproval (receipt : Json) : Except Refused Unit := do
  let summary := "API runtime migration approval summary is malformed"
  let some (.obj counts) := receipt.get? (text "summary") | fail summary
  require (namesAre counts ["creating", "updating", "deleting", "total"] &&
    counts.all fun m => (natural m.2).isSome) summary
  let malformed := "API runtime migration approval operation counts are malformed"
  let some (.obj lists) := receipt.get? (text "operations") | fail malformed
  require (namesAre lists ["creating", "updating", "deleting"]) malformed
  let read ← lists.mapM (readIdentities counts)
  let operations (op : Operation) := (read.lookup (text op.name)).getD []
  let count (op : Operation) := (operations op).length
  require (isCount (member counts "total") (count .creating + count .updating + count .deleting))
    "API runtime migration approval total is malformed"
  validateMigrationApprovalOperations count (count .creating + count .updating + count .deleting)
    operations

def readMigrationApproval (sha256 : Bytes → Text) (floats : FloatWriting) (inputs : ApprovalInputs) :
    Except Refused Json := do
  let receipt ← readReceipt sha256 floats inputs
  checkApproval receipt
  return receipt

end KonnectFapi.Source.Migration

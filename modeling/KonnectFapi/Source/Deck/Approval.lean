import KonnectFapi.Source.Deck.Questions

/-!
# The approval receipt of the third-party runtime

Source: scripts/run-deck.py:57-69 and 216-286, 289-362. The receipt names one of four reviewed
plans and repeats its operations.
-/

namespace KonnectFapi.Source.Deck
open Lib Lib.Json
open Dialogue (check)
open Migration (ReceiptRead migrationApprovalFields isHexJson isText)
open RuntimeDiff (member isCount)

/-! ## `validate_backend_scope` -/

inductive PlanType where
  | migration
  | bootstrap
  | noop
  | migrationRecovery
  deriving DecidableEq

namespace PlanType

def name : PlanType → String
  | migration => "migration"
  | bootstrap => "bootstrap"
  | noop => "noop"
  | migrationRecovery => "migration-recovery"

def all : List PlanType := [migration, bootstrap, noop, migrationRecovery]

end PlanType

abbrev Identities := List (String × String)

/-- `WP5_EXPECTED_CREATE_IDENTITIES` -/
def runtimeIdentities : Identities :=
  [("service", "third-party-route-a-api"), ("service", "third-party-route-b-api"),
    ("route", "third-party-route-a"), ("route", "third-party-route-b"),
    ("plugin", "cors for service third-party-route-a-api"),
    ("plugin", "openid-connect for service third-party-route-a-api"),
    ("plugin", "request-transformer for service third-party-route-a-api"),
    ("plugin", "cors for service third-party-route-b-api"),
    ("plugin", "fapi-client-auth-bridge for service third-party-route-b-api"),
    ("plugin", "openid-connect for service third-party-route-b-api"),
    ("plugin", "request-transformer for service third-party-route-b-api")]

/-- `BACKEND_NEW_IDENTITIES` -/
def backendNewIdentities : Identities :=
  [("certificate", "742c3d79-850f-5761-9544-63864bab5cad"), ("service", "third-party-static-ui"),
    ("route", "third-party-static-ui"),
    ("plugin", "request-transformer for service third-party-static-ui")]

/-- `BACKEND_UPDATED_IDENTITIES` -/
def backendUpdatedIdentities : Identities :=
  [("service", "third-party-route-a-api"), ("service", "third-party-route-b-api"),
    ("plugin", "openid-connect for service third-party-route-a-api"),
    ("plugin", "openid-connect for service third-party-route-b-api"),
    ("plugin", "cors for service third-party-route-a-api"),
    ("plugin", "cors for service third-party-route-b-api")]

/-- `BACKEND_PLANS` -/
def backendPlan : PlanType → RuntimeDiff.Operation → Identities
  | .migration, .creating => backendNewIdentities
  | .migration, .updating => backendUpdatedIdentities
  | .bootstrap, .creating => runtimeIdentities ++ backendNewIdentities
  | .migrationRecovery, .creating =>
    [("route", "third-party-static-ui"),
      ("plugin", "request-transformer for service third-party-static-ui")]
  | .migrationRecovery, .updating =>
    [("plugin", "openid-connect for service third-party-route-a-api"),
      ("plugin", "openid-connect for service third-party-route-b-api"),
      ("plugin", "cors for service third-party-route-a-api"),
      ("plugin", "cors for service third-party-route-b-api")]
  | _, _ => []

def planned (plan : PlanType) (op : RuntimeDiff.Operation) : List (Text × Text) :=
  (backendPlan plan op).map fun identity => (text identity.1, text identity.2)

/-- The kind and the name of an entry. -/
def readLabel : Json → Option (Text × Text)
  | .obj found =>
    if namesAre found ["kind", "name"] then
      match member found "kind", member found "name" with
      | some (.str kind), some (.str name) => some (kind, name)
      | _, _ => none
    else none
  | _ => none

def checkOperation (plan : PlanType) (actual : Dict) (op : RuntimeDiff.Operation) :
    Except Refused Unit := do
  let malformed := "backend runtime operation identities are malformed"
  let some (.arr entries) := member actual op.name | fail malformed
  let some identities := entries.mapM readLabel | fail malformed
  let expected := planned plan op
  require (identities.length == expected.length && identities.all (expected.contains ·) &&
      expected.all (identities.contains ·) && sortOn toLex identities == identities)
    "backend runtime identities differ from the exact reviewed scope"

def planTotal (plan : PlanType) : Nat :=
  (RuntimeDiff.Operation.all.map fun op => (planned plan op).length).sum

def validateBackendScope (summary operations planType : Json) : Except Refused PlanType := do
  let invalid := "backend runtime operation scope is invalid"
  let .str name := planType | fail invalid
  let some plan := PlanType.all.find? fun plan => text plan.name == name | fail invalid
  let .obj actual := operations | fail "backend runtime operation identities are malformed"
  require (namesAre actual ["creating", "updating", "deleting"])
    "backend runtime operation identities are malformed"
  RuntimeDiff.Operation.all.forM (checkOperation plan actual)
  let differs := "backend runtime summary differs from the exact reviewed scope"
  let .obj counts := summary | fail differs
  require (namesAre counts ["creating", "updating", "deleting", "total"] &&
      RuntimeDiff.Operation.all.all (fun op => isCount (member counts op.name) (planned plan op).length) &&
      isCount (member counts "total") (planTotal plan))
    differs
  return plan

/-! ## `read_backend_runtime_approval` -/

def receiptFields : List String :=
  ["schema_version", "scope", "approved", "target_sha256", "state_sha256", "role_inputs_sha256",
    "diff_sha256", "summary", "operations", "plan_type"]

def isTrueJson : Option Json → Bool
  | some (.bool b) => b
  | _ => false

/-- What the receipt has to be bound to. -/
structure Bound where
  target : Json
  roleValues : Json

def receiptMember (found : Dict) (name : String) : Json := (member found name).getD .null

def readBackendRuntimeApproval (x : Libraries) (files : BackendFiles) (bound : Bound) :
    Except Refused Json := do
  require files.directories "backend runtime approval receipt directory is missing or unsafe"
  let unread := "backend runtime approval receipt is missing, unsafe, or malformed"
  let .content raw := files.receipt | fail unread
  let some receipt := (decodeUtf8 raw).bind (loadsUnique x.floats) | fail unread
  let fields := "backend runtime approval receipt fields are malformed"
  let .obj found := receipt | fail fields
  require (namesAre found receiptFields) fields
  require (isCount (member found "schema_version") 2 &&
      isText (member found "scope") (text "third-party-backend-runtime-v2") &&
      isTrueJson (member found "approved"))
    "backend runtime approval receipt scope is invalid; old WP5 approval is not accepted"
  let some state := files.state | fail "file to digest is missing or unsafe"
  require (isText (member found "target_sha256") (x.canonicalSha256 bound.target) &&
      isText (member found "state_sha256") (x.sha256 state) &&
      isText (member found "role_inputs_sha256") (x.canonicalSha256 bound.roleValues))
    "backend runtime approval does not match current target, state, or role inputs"
  require (isHexJson (member found "diff_sha256"))
    "backend runtime approval diff digest is malformed"
  let _ ← validateBackendScope (receiptMember found "summary") (receiptMember found "operations")
    (receiptMember found "plan_type")
  return receipt

def askBackendApproval (x : Libraries) (target roleValues : Dict) : Asking Json := do
  let files : BackendFiles ← ask .backendFiles
  check (readBackendRuntimeApproval x files ⟨.obj target, .obj roleValues⟩)

end KonnectFapi.Source.Deck

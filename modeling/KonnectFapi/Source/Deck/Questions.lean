import KonnectFapi.Lib.Dialogue
import KonnectFapi.Lib.JsonEqual
import KonnectFapi.Source.MigrationApproval
import KonnectFapi.Source.SchemaPages
import KonnectFapi.Source.Targets
import KonnectFapi.Source.ThirdPartyState

/-!
# What the deck script asks its surroundings

Source: scripts/run-deck.py:289-306 and 366-434; scripts/wp1_target.py:84-98 and 514-536.
Files, requests and commands are asked for one after another and answered by anything at
all; a file that is read twice may have changed in between.
-/

namespace KonnectFapi.Source.Deck
open Lib Lib.Json Migration SchemaPages

/-- How `path.read_text()` ends, after `path.exists()`. -/
inductive TextRead where
  | missing
  | failed
  | content (t : Text)

/-- How opening and reading the role file ends. -/
inductive RoleRead where
  | unsafeDirectory
  | failed
  | unsuitable
  | content (bytes : Bytes)

/-- What `read_migration_approval` finds. -/
structure MigrationFiles where
  directories : Bool
  receipt : ReceiptRead
  stateLinked : Bool
  state : Option Bytes

/-- What `read_backend_runtime_approval` finds. -/
structure BackendFiles where
  directories : Bool
  receipt : ReceiptRead
  state : Option Bytes

/-- How a process ends whose output is captured. -/
inductive DeckResult where
  | finished (returncode : Int) (stdout stderr : Text)
  /-- The output is no text. -/
  | undecodable
  | timedOut
  | osError

/-- Paths are relative to the root. -/
inductive Question where
  | yaml (path : String)
  /-- How `validate_api_runtime_state` ends. -/
  | apiRuntimeState
  | fileExists (path : String)
  | isFile (path : String)
  | isLink (path : String)
  | readText (path : String)
  | roleFile (path : String) (requirePrivateMode : Bool)
  | migrationFiles
  | backendFiles
  | fileBytes (path : String)
  | openssl (pem : Text)
  | request (url token : Text)
  /-- The requests of one listing. -/
  | schemaPages (url token : Text)
  /-- `PUT` and `POST` of a schema. -/
  | sendSchema (replaces : Bool) (url token source : Text)
  | deck (arguments : List Text) (environment : List (Text × Text))
  | write (line : Text)

abbrev AnswerTo : Question → Type
  | .yaml _ => GatewayState.File
  | .apiRuntimeState => Except Refused Unit
  | .fileExists _ | .isFile _ | .isLink _ => Bool
  | .readText _ => TextRead
  | .roleFile _ _ => RoleRead
  | .migrationFiles => MigrationFiles
  | .backendFiles => BackendFiles
  | .fileBytes _ => Option Bytes
  | .openssl _ => Option (Int × Bytes)
  | .request _ _ => Response
  | .schemaPages _ _ => Nat → Response
  | .sendSchema _ _ _ _ => Response
  | .deck _ _ => DeckResult
  | .write _ => Unit

abbrev Asking (α : Type) := Dialogue Question AnswerTo Refused α

abbrev ask (q : Question) : Asking (AnswerTo q) := Dialogue.question q

abbrev History := List (Dialogue.Exchange AnswerTo)

/-- What the script takes from the language and its libraries. -/
structure Libraries where
  py : Python
  /-- `hashlib.sha256(...).hexdigest()` -/
  sha256 : Bytes → Text
  floats : FloatWriting
  floatEquality : FloatEquality
  /-- The order in which a set of texts is walked. -/
  walk : List Text → List Text

def Libraries.canonicalSha256 (x : Libraries) (value : Json) : Text := x.sha256 (canonical value)

/-- `json.loads(t)` -/
def parseJson (t : Text) : Except Refused Json :=
  match loads (fun found => some (.obj (dict found))) t with
  | some value => .ok value
  | none => .error .raised

/-- `if not holds: raise ValueError(message)`. -/
def demand (holds : Bool) (message : String) : Asking Unit := Dialogue.check (require holds message)

def refuse {α : Type} (message : String) : Asking α := Dialogue.check (fail message)

end KonnectFapi.Source.Deck

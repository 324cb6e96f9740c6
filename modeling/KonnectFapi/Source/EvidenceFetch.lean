import KonnectFapi.Source.ProjectedEvidence

/-!
# The exchange with the API gateway, exception by exception

Source: third-party-backend/app.py:103-118 and 153-183. Every call on the connection
either answers or raises; the clauses of `fetch_evidence` and `project_evidence` match
by class. The interpreter's own limits on a document are a parameter: which documents
exceed them depends on its version and its stack.
-/

namespace KonnectFapi.Source.ThirdPartyBackend
open Lib

/-- The classes the clauses name, and those raised that have a base among them. -/
inductive ExceptionClass where
  | timeoutError
  | sslError
  | osError
  | httpException
  | rejectedEvidence
  | unicodeError
  | valueError
  | recursionError
  deriving DecidableEq

namespace ExceptionClass

/-- The base class, where it is one of these. -/
def base : ExceptionClass → Option ExceptionClass
  | timeoutError => some osError
  | sslError => some osError
  | rejectedEvidence => some valueError
  | unicodeError => some valueError
  | _ => none

/-- `except names:` catches an exception of class `raised`. -/
def caughtBy (names : List ExceptionClass) (raised : ExceptionClass) : Bool :=
  names.contains raised || (raised.base.map names.contains).getD false

end ExceptionClass

/-- What a call on the connection may raise: a timeout, a TLS or other OS error, or an
error of the HTTP client. -/
inductive ConnectionError where
  | timeout
  | tls
  | os
  | http
  deriving DecidableEq

def ConnectionError.exception : ConnectionError → ExceptionClass
  | .timeout => .timeoutError
  | .tls => .sslError
  | .os => .osError
  | .http => .httpException

/-- The same, without the class. -/
def ConnectionError.fault : ConnectionError → Fault
  | .timeout => .timeout
  | .tls => .os
  | .os => .os
  | .http => .http

structure ConnectionResponse where
  status : Nat
  headers : HeaderFields
  /-- `read(n)`. -/
  read : Nat → Except ConnectionError Bytes

def ConnectionResponse.upstream (response : ConnectionResponse) : UpstreamResponse where
  status := response.status
  headers := response.headers
  read n := (response.read n).mapError ConnectionError.fault

/-- How the upstream behaves in one exchange. -/
structure Connection where
  putrequest : Text → Text → Except ConnectionError Unit
  putheader : Text → Text → Except ConnectionError Unit
  endheaders : Except ConnectionError Unit
  getresponse : Except ConnectionError ConnectionResponse

/-- The calls made on the connection, in order. -/
inductive Call where
  | putrequest (method path : Text)
  | putheader (name value : Text)
  | endheaders
  | getresponse
  | read (n : Nat)
  | close
  deriving DecidableEq

/-- The calls a stretch made, and what it returned or raised. -/
structure Exchange where
  calls : List Call
  result : Except ExceptionClass (Nat × Json)

def Exchange.answer (status : Nat) (body : Json) : Exchange := ⟨[], .ok (status, body)⟩

def Exchange.raise (raised : ExceptionClass) : Exchange := ⟨[], .error raised⟩

/-- One call, and what comes after it if it does not raise. -/
def Exchange.perform {α : Type} (call : Call) (outcome : Except ConnectionError α)
    (next : α → Exchange) : Exchange :=
  match outcome with
  | .error raised => ⟨[call], .error raised.exception⟩
  | .ok a => ⟨call :: (next a).calls, (next a).result⟩

/-- A limit of the interpreter that a document exceeds. -/
inductive Limit where
  | nesting
  | integerDigits
  deriving DecidableEq

def Limit.exception : Limit → ExceptionClass
  | .nesting => .recursionError
  | .integerDigits => .valueError

/-- `json.loads(body.decode("utf-8"), object_pairs_hook=unique_object)`. -/
def readObject (limits : Text → Option Limit) (body : Bytes) : Except ExceptionClass Json :=
  match decodeUtf8 body with
  | none => .error .unicodeError
  | some t =>
    match limits t with
    | some limit => .error limit.exception
    | none =>
      match Json.loads Json.unique t with
      | none => .error .valueError
      | some v => .ok v

def projectEvidenceRaising (limits : Text → Option Limit) (body : Bytes) (expected : Expected) :
    Except ExceptionClass Members :=
  match readObject limits body with
  | .error raised =>
    if raised.caughtBy [.unicodeError, .valueError, .recursionError] then .error .rejectedEvidence
    else .error raised
  | .ok (.obj source) =>
    match projectObject source expected with
    | .ok result => .ok result
    | .error _ => .error .rejectedEvidence
  | .ok _ => .error .rejectedEvidence

/-- The response once its header fields are known to be good. -/
def readBody (limits : Text → Option Limit) (response : ConnectionResponse) (declared : Option Nat)
    (expected : Expected) : Exchange :=
  .perform (.read (maxResponseBytes + 1)) (response.read (maxResponseBytes + 1)) fun body =>
    if maxResponseBytes < body.length ∨ declared.any (· ≠ body.length) then
      .raise .rejectedEvidence
    else
      match projectEvidenceRaising limits body expected with
      | .ok result => .answer 200 (.obj result)
      | .error raised => .raise raised

def readResponse (limits : Text → Option Limit) (response : ConnectionResponse)
    (expected : Expected) : Exchange :=
  if response.status = 401 ∨ response.status = 403 then
    .answer response.status (errorBody "upstream_unauthorized")
  else if response.status ≠ 200 then .answer 502 (errorBody "upstream_unavailable")
  else
    match getAll response.headers (text "Content-Type"),
        declaredLength (getAll response.headers (text "Content-Length")) with
    | [contentType], some declared =>
      if mediaType contentType ≠ text "application/json" then .raise .rejectedEvidence
      else readBody limits response declared expected
    | _, _ => .raise .rejectedEvidence

/-- The two `except` clauses of `fetch_evidence`. -/
def clauses (tried : Except ExceptionClass (Nat × Json)) : Except ExceptionClass (Nat × Json) :=
  match tried with
  | .ok answer => .ok answer
  | .error raised =>
    if raised.caughtBy [.timeoutError] then .ok (504, errorBody "upstream_timeout")
    else if raised.caughtBy [.osError, .httpException, .rejectedEvidence] then
      .ok (502, errorBody "upstream_unavailable")
    else .error raised

namespace Connection
variable (limits : Text → Option Limit) (connection : Connection) (token : Text)
  (expected : Expected)

/-- The `try` suite. -/
def attempt : Exchange :=
  .perform (.putrequest (text "GET") (text "/fapi-api/evidence"))
    (connection.putrequest (text "GET") (text "/fapi-api/evidence")) fun _ =>
  .perform (.putheader (text "Authorization") (text "Bearer " ++ token))
    (connection.putheader (text "Authorization") (text "Bearer " ++ token)) fun _ =>
  .perform (.putheader (text "Accept") (text "application/json"))
    (connection.putheader (text "Accept") (text "application/json")) fun _ =>
  .perform .endheaders connection.endheaders fun _ =>
  .perform .getresponse connection.getresponse fun response => readResponse limits response expected

/-- `fetch_evidence`: the suite, its `except` clauses, and `finally`. -/
def fetchEvidence : Exchange :=
  let tried := connection.attempt limits token expected
  ⟨tried.calls ++ [.close], clauses tried.result⟩

/-- What the exchange comes to: a response, or the first call that raised. -/
def exchange : Except ConnectionError UpstreamResponse := do
  connection.putrequest (text "GET") (text "/fapi-api/evidence")
  connection.putheader (text "Authorization") (text "Bearer " ++ token)
  connection.putheader (text "Accept") (text "application/json")
  connection.endheaders
  let response ← connection.getresponse
  return response.upstream

end Connection

end KonnectFapi.Source.ThirdPartyBackend

import KonnectFapi.Lib.LuaValue

/-!
# The API gateway's request guard

Source: kong/api-gateway.yaml:47-119; scripts/wp3_runtime.py:80-155 holds the same
function. The getters of the PDK, which read at most a given number of occurrences, are
a parameter; `pairs` visits the entries of a table in the order they are listed.
-/

namespace KonnectFapi.Source.RequestGuard
open Lib Lib.Lua

/-- `kong.request.get_headers(max)` and `pcall(kong.request.get_query, max)`: a result and
an error, or nothing where the call raised. -/
structure Pdk where
  getHeaders : Nat → Value × Value
  getQuery : Nat → Option (Value × Value)

/-- Header fields of the request that goes on to the service. -/
abbrev Forwarded := List (Bytes × Bytes)

/-- `kong.service.request.clear_header(name)`. -/
def clearHeader (name : Bytes) (forwarded : Forwarded) : Forwarded :=
  forwarded.filter fun field => !sameName field.1 name

structure Refusal where
  status : Nat
  message : Bytes
  /-- The `WWW-Authenticate` field set before. -/
  challenge : Option Bytes
  deriving DecidableEq

/-- The ways the function ends early: it answers, or it raises. -/
inductive Stop where
  | exit (refusal : Refusal)
  | raised
  deriving DecidableEq

def exceedsLimit : Stop :=
  .exit ⟨431, ascii "Request headers exceed inspection limit", none⟩

def rejectQueryAuthentication : Stop :=
  .exit ⟨401, ascii "Invalid access token", some (ascii "Bearer error=\"invalid_token\"")⟩

/-- `string.lower(name):gsub("_", "-")`. -/
def normalized (name : Bytes) : Bytes := (lower name).map fun b => if b = 95 then 45 else b

def identityInput (normalized : Bytes) : Bool :=
  normalized == ascii "cookie" || normalized.take 7 == ascii "x-demo-" ||
    normalized.take 7 == ascii "x-fapi-" || normalized.take 13 == ascii "x-client-cert" ||
    normalized.take 16 == ascii "client-assertion"

/-- `count = count + 1`, and `count + #value - 1` for a table. -/
def counted (count : Nat) (value : Value) : Nat :=
  match value with
  | .table border _ => count + 1 + border - 1
  | _ => count + 1

/-- The loop over the header table: what is forwarded after it. -/
def inspectHeaders : Table → Nat → Forwarded → Except Stop Forwarded
  | [], _, forwarded => .ok forwarded
  | (key, value) :: rest, count, forwarded =>
    if 1000 ≤ counted count value then .error exceedsLimit
    else
      match key with
      | .str name =>
        if identityInput (normalized name) then
          inspectHeaders rest (counted count value) (clearHeader name forwarded)
        else inspectHeaders rest (counted count value) forwarded
      -- `string.lower` takes a number's numeral, which is none of the names above
      | .num _ => inspectHeaders rest (counted count value) forwarded
      | .other _ => .error .raised

/-- `type(index) == "number" and index >= 1 and index % 1 == 0`. -/
def isIndex (key : Key) : Option Rat :=
  match key with
  | .num q => if 1 ≤ q ∧ q.den = 1 then some q else none
  | _ => none

/-- The loop over one array: occurrences and highest index, or nothing at a key that is none. -/
def indices : Table → Nat → Rat → Option (Nat × Rat)
  | [], occurrences, highest => some (occurrences, highest)
  | (key, _) :: rest, occurrences, highest =>
    match isIndex key with
    | some index => indices rest (occurrences + 1) (if highest < index then index else highest)
    | none => none

/-- The occurrences an argument's value stands for, if it has a shape a getter produces. -/
def occurrencesOf (value : Value) : Option Nat :=
  match value with
  | .table _ entries =>
    match indices entries 0 0 with
    | some (occurrences, highest) =>
      if occurrences < 2 ∨ highest ≠ occurrences then none else some occurrences
    | none => none
  | .str _ => some 1
  | .bool _ => some 1
  | _ => none

/-- The loop over the query table. -/
def inspectQuery : Table → Nat → Except Stop Unit
  | [], _ => .ok ()
  | (key, value) :: rest, count =>
    match key with
    | .str name =>
      if normalized name = ascii "access-token" then .error rejectQueryAuthentication
      else
        match occurrencesOf value with
        | some occurrences =>
          if 1000 ≤ count + occurrences then .error rejectQueryAuthentication
          else inspectQuery rest (count + occurrences)
        | none => .error rejectQueryAuthentication
    | _ => .error rejectQueryAuthentication

/-- The pre-function: the forwarded fields when the request goes on. -/
def access (pdk : Pdk) (forwarded : Forwarded) : Except Stop Forwarded :=
  let (headers, err) := pdk.getHeaders 1000
  if headers.truthy = false ∨ err.truthy = true then .error exceedsLimit
  else
    match headers with
    | .table _ entries =>
      match inspectHeaders entries 0 forwarded with
      | .error stop => .error stop
      | .ok forwarded =>
        match pdk.getQuery 1000 with
        | some (.table _ arguments, .nil) =>
          match inspectQuery arguments 0 with
          | .error stop => .error stop
          | .ok () => .ok forwarded
        | _ => .error rejectQueryAuthentication
    | _ => .error .raised

end KonnectFapi.Source.RequestGuard

import KonnectFapi.Lib.JsonCanonical
import KonnectFapi.Lib.Refusal
import KonnectFapi.Lib.UrlSplit
import KonnectFapi.Lib.Uuid

/-!
# Gateway targets

Source: scripts/wp1.py:38-105. Which control planes and endpoints the gateways are
bound to, read off a document that was rendered outside.
-/

namespace KonnectFapi.Source.Targets
open Lib Lib.Json

/-- `value.strip()` -/
def strip (t : Text) : Text := (t.dropWhile isSpacePoint).rdropWhile isSpacePoint

def endpointHost (py : Python) (value : Json) : Except Refused Text :=
  match value with
  | .str t => do
    require (t ≠ [] && t = strip t && !t.any isControl)
      "endpoint contains whitespace or control characters"
    match urlsplit py t with
    | none => fail "endpoint is malformed"
    | some parsed =>
      match parsed.port with
      | none => fail "endpoint is malformed"
      | some port =>
        let hostname := (parsed.hostname py).getD []
        require (parsed.scheme = text "https" && hostname ≠ [] &&
            (userInfo parsed.netloc).1.isNone && (userInfo parsed.netloc).2.isNone &&
            parsed.query = [] && parsed.fragment = [] &&
            (parsed.path = [] || parsed.path = text "/") && (port = none || port = some 443))
          "endpoint must be an unambiguous HTTPS authority"
        return py.lower hostname
  | _ => fail "endpoint contains whitespace or control characters"

/-- `raise ValueError(f"{gateway}...")` -/
def failFor {α : Type} (gateway : Text) (message : String) : Except Refused α :=
  .error (.valueError (gateway ++ text message))

def requireFor (gateway : Text) (holds : Bool) (message : String) : Except Refused Unit :=
  if holds then .ok () else failFor gateway message

def required : List String :=
  ["control_plane_id", "control_plane_name", "control_plane_endpoint", "telemetry_endpoint"]

/-- `isinstance(v, str) and v.strip()` -/
def filled : Json → Option Text
  | .str t => if strip t = [] then none else some t
  | _ => none

/-- The ids, names and targets the loop has collected. -/
structure Collected where
  ids : List Text := []
  names : List Text := []
  normalized : List (Text × Json) := []

/-- `expected_names and cp_name != expected_names[gateway]` -/
def expectName (expectedNames : List (Text × Text)) (gateway cpName : Text) :
    Except Refused Unit :=
  match expectedNames, expectedNames.lookup gateway with
  | [], _ => .ok ()
  | _, none => .error .raised
  | _, some expected =>
    requireFor gateway (cpName = expected)
      " control plane name does not match local configuration"

/-- One pass of the loop. -/
def validateTarget (py : Python) (targets : List (Text × Json))
    (expectedNames : List (Text × Text)) (gateway : Text) (c : Collected) :
    Except Refused Collected := do
  match targets.lookup gateway with
  | some (.obj target) => do
    requireFor gateway (namesAre target required) " target fields are incomplete or unexpected"
    match (target.lookup (text "control_plane_id")).bind filled,
        (target.lookup (text "control_plane_name")).bind filled with
    | some cpId, some cpName => do
      requireFor gateway ((uuid cpId).any fun id => uuidText id = py.lower cpId)
        " control plane ID is not a UUID"
      require (!c.ids.contains cpId) "API and third-party control plane IDs must differ"
      require (!c.names.contains cpName) "API and third-party control plane names must differ"
      expectName expectedNames gateway cpName
      let cpHost ← endpointHost py ((target.lookup (text "control_plane_endpoint")).getD .null)
      let tpHost ← endpointHost py ((target.lookup (text "telemetry_endpoint")).getD .null)
      requireFor gateway (cpHost ≠ tpHost)
        " control plane and telemetry endpoints are ambiguous"
      return {
        ids := cpId :: c.ids
        names := cpName :: c.names
        normalized := c.normalized ++ [(gateway, .obj (target ++
          [(text "control_plane_host", .str cpHost), (text "telemetry_host", .str tpHost)]))] }
    | _, _ => failFor gateway " control plane ID/name is empty"
  | _ => failFor gateway " target fields are incomplete or unexpected"

def gateways : List String := ["api", "third-party"]

/-- `expected_names=None` is the empty dictionary. -/
def validateTargets (py : Python) (targets : List (Text × Json))
    (expectedNames : List (Text × Text)) : Except Refused (List (Text × Json)) := do
  require (namesAre targets gateways)
    "gateway target manifest must contain api and third-party"
  let collected ← (gateways.map text).foldlM
    (fun c gateway => validateTarget py targets expectedNames gateway c) {}
  return collected.normalized

end KonnectFapi.Source.Targets

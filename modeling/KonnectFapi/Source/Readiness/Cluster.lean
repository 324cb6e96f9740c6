import KonnectFapi.Source.Readiness.Reader
import KonnectFapi.Source.Readiness.Tracking

/-!
# The data plane and its supervisor

Source: scripts/require-wp5-readiness.sh:99-139 and 254-345; handler.lua:448-507. The worker
processes and the supervisor meet in one directory. A worker performs the file operations of
a step one after another, and anything may happen between two of them; a file is replaced
whole. The supervisor is any process that publishes nothing but what its validator has
printed for lines it has read.
-/

namespace KonnectFapi.Source.Readiness
open Lib Lib.Lua Lib.Json Transport

/-- What the parties run with; `ι` are the worker processes that are ever started. -/
structure Setting (ι : Type) where
  host : Host
  process : ι → Process
  /-- `cjson.encode` of a status, as the validator reads it. -/
  encode : StatusSnapshot → Text
  floats : FloatEquality
  digits : Digits
  sha256 : Bytes → Bytes

/-- One worker process: its state, and what it has yet to do to the files. -/
structure Proc where
  world : Worker.World := Worker.World.initial
  pending : List FileEffect := []

structure Cluster (ι : Type) where
  procs : ι → Proc := fun _ => {}
  /-- The status file of each worker id. -/
  rows : Nat → Option StatusSnapshot := fun _ => none
  /-- `ready.json`. -/
  marker : Option Bytes := none
  /-- The lines captured so far. -/
  lines : List Text := []
  /-- `CURRENT_MARKER`. -/
  current : Option Bytes := none

inductive Event (ι : Type) where
  | worked (i : ι) (event : Worker.Event)
  | wrote (i : ι) (status : StatusSnapshot)
  | removed (i : ι)
  | published (marker : Bytes)
  | unpublished

inductive Input (ι : Type) where
  /-- One stretch of handler code. -/
  | work (i : ι) (step : Worker.Step)
  /-- The next file operation of a worker. -/
  | perform (i : ι)
  /-- A capture starts. -/
  | capture
  | generation (t : Text)
  | workerPid (t : Text)
  /-- One status file is read. -/
  | read (n : Nat)
  | validate (expectedGeneration : Text)
  /-- `publish_ready_marker` and `remove_ready_marker`. -/
  | publish
  | unpublish

/-- The two steps that read the marker read what is there. -/
def seeing (marker : Option Bytes) : Worker.Step → Worker.Step
  | .begin r env self uri options => .begin r { env with marker := marker } self uri options
  | .access r env sharedTable routeId =>
    .access r { env with files := Function.update env.files readyMarker marker } sharedTable routeId
  | step => step

/-- `*[!A-Za-z0-9._-]*` -/
def isGenerationPoint (c : CodePoint) : Bool :=
  (48 ≤ c.val && c.val ≤ 57) || (65 ≤ c.val && c.val ≤ 90) || (97 ≤ c.val && c.val ≤ 122) ||
    c.val == 46 || c.val == 95 || c.val == 45

def isGeneration (t : Text) : Bool := t != [] && t.all isGenerationPoint

def statusName (n : Nat) : Text := text "worker-" ++ ofAscii (decimal n) ++ text ".json"

/-- A line of the capture. -/
def captureLine (kind : String) (rest : Text) : Text := text kind ++ 9 :: (rest ++ [10])

def statusLine (n : Nat) (content : Text) : Text := captureLine "S" (statusName n ++ 9 :: content)

variable {ι : Type} [DecidableEq ι]

def Cluster.setProc (c : Cluster ι) (i : ι) (p : Proc) : Cluster ι :=
  { c with procs := Function.update c.procs i p }

def isFile : Worker.Event → Bool
  | .file _ => true
  | _ => false

namespace Setting
variable (x : Setting ι)

/-- One file operation. -/
def performed (c : Cluster ι) (i : ι) : FileEffect → Cluster ι × List (Event ι)
  | .removeMarker => ({ c with marker := none }, [.removed i])
  | .writeStatus status =>
    ({ c with rows := Function.update c.rows (status.workerId.getD 0) (some status) },
      [.wrote i status])

def step (c : Cluster ι) : Input ι → Cluster ι × List (Event ι)
  | .work i step =>
    -- the handlers run in one thread and finish their file operations first
    if (c.procs i).pending = [] then
      let (world, events) :=
        Worker.step x.host (x.process i) (c.procs i).world (seeing c.marker step)
      (c.setProc i ⟨world, Worker.filesOf events⟩,
        (events.filter fun event => !isFile event).map (.worked i))
    else (c, [])
  | .perform i =>
    match (c.procs i).pending with
    | [] => (c, [])
    | effect :: rest => performed (c.setProc i ⟨(c.procs i).world, rest⟩) i effect
  | .capture => ({ c with lines := [] }, [])
  | .generation t =>
    (if isGeneration t then { c with lines := c.lines ++ [captureLine "G" t] } else c, [])
  | .workerPid t => ({ c with lines := c.lines ++ [captureLine "P" t] }, [])
  | .read n =>
    match c.rows n with
    | some status => ({ c with lines := c.lines ++ [statusLine n (x.encode status)] }, [])
    | none => (c, [])
  | .validate expectedGeneration =>
    match Readiness.validate x.floats x.digits c.lines expectedGeneration with
    | some accepted =>
      ({ c with current := (readValidation (accepted.output x.sha256)).map Prod.snd }, [])
    | none => (c, [])
  | .publish =>
    match c.current with
    | some marker => ({ c with marker := some marker }, [.published marker])
    | none => (c, [])
  | .unpublish => ({ c with marker := none }, [.unpublished])

/-- Every order of the steps of every party. -/
abbrev run (c : Cluster ι) (inputs : List (Input ι)) : Cluster ι × List (Event ι) :=
  Machine.run x.step c inputs

end Setting

end KonnectFapi.Source.Readiness

import KonnectFapi.Lib.Machine
import KonnectFapi.Source.Bridge.Handler
import KonnectFapi.Source.Transport.Guard

/-!
# One worker process

The two handlers share one Lua state; every request has its own `kong.ctx.shared`.
A step is one uninterrupted stretch of handler code: a whole phase handler, or a
piece of a request call between two yields. Contexts and calls keep their place
in their request's lists, which is what a reference held by an in-flight call or a
stored callback means. Everything the environment decides is part of the step.
-/

namespace KonnectFapi.Source.Worker
open Lib Lib.Lua Transport

inductive Stage where
  | awaitSigner (pending : Pending)
  | awaitNetwork (pending : Pending)
  | finished

/-- A request call: the context it was started with and where it stands. -/
structure Call where
  context : Option Nat
  stage : Stage

structure Request where
  /-- Every context table created for this request, oldest first. -/
  contexts : List Context := []
  /-- `kong.ctx.shared.fapi_as_transport`. -/
  shared : Option Nat := none
  calls : List Call := []

structure World where
  modules : Bridge.Modules
  requests : Nat → Request

/-- Both handlers loaded: loading the bridge marks it in the transport. -/
def World.initial : World where
  modules := { transport := { State.initial with bridgeLoaded := true }
               bridge := Bridge.State.initial }
  requests := fun _ => {}

inductive Step where
  | configure (env refreshEnv : Env) (configs : Value)
  | initWorker (env refreshEnv : Env)
  | markBridgeLoaded (env : Env)
  | markBridgeStatus (env : Env) (ready : Bool) (epoch : Option Bytes)
  | bridgeConfigure (loadedEnv env : Env) (configs : Value)
  | bridgeInitWorker (loadedEnv env : Env)
  | bridgeAccess (request : Nat) (env : Env) (accessEnv : Bridge.AccessEnv) (conf : Value)
  | refreshTransportStatus (env : Env)
  | access (request : Nat) (env : Env) (sharedTable : Bool) (routeId : Option Bytes)
  | begin (request : Nat) (env : CallEnv) (self uri options : Value)
  | signerReturns (request call : Nat) (now : Nat) (result : SignerResult)
  | networkReturns (request call : Nat) (result : NetworkResult)
  | callback (request context : Nat) (accessEnv : Bridge.AccessEnv)

/-- What can be observed of a step. `sent` is an invocation of the underlying
`request_uri` with `pending.endpoint.mappedUri` and `pending.params`. -/
inductive Event where
  | file (effect : FileEffect)
  | exited (request : Nat) (status : Nat)
  | rejected (request : Nat) (context : Option Nat)
  | raised (request : Nat)
  | passedThrough (request : Nat) (uri : Value) (options : Table)
  | signerCalled (request : Nat) (context : Option Nat) (pending : Pending)
  | signerFailed (request : Nat) (context : Option Nat) (pending : Pending)
  | sent (request : Nat) (context : Option Nat) (pending : Pending)
  | answered (request : Nat) (context : Option Nat) (result : CallResult)
  | assertion (request : Nat) (text : Bytes)

def World.setRequest (w : World) (r : Nat) (request : Request) : World :=
  { w with requests := Function.update w.requests r request }

/-- The table a reference denotes. -/
def Request.context? (request : Request) (reference : Option Nat) : Option Context :=
  reference.bind fun i => request.contexts[i]?

/-- Writes through a reference. -/
def Request.writeContext (request : Request) (reference : Option Nat) (context : Option Context) :
    Request :=
  match reference, context with
  | some i, some c => { request with contexts := request.contexts.set i c }
  | _, _ => request

/-- `refresh_bridge_status`. -/
def refreshAfter (host : Host) (process : Process) (env : Env) (bridge : Bridge.State)
    (outcome : Transport.Outcome) : Bridge.Outcome :=
  if outcome.refresh then
    let refreshed := Bridge.refreshTransportStatus host process env ⟨outcome.state, bridge⟩
    ⟨refreshed.modules, outcome.effects ++ refreshed.effects⟩
  else ⟨⟨outcome.state, bridge⟩, outcome.effects⟩

/-- The stage a call enters and the event it shows. -/
def Begun.stage : Begun → Stage
  | .awaitSigner pending => .awaitSigner pending
  | .sending pending => .awaitNetwork pending
  | _ => .finished

def Begun.event (request : Nat) (context : Option Nat) : Begun → Event
  | .rejected => .rejected request context
  | .signerFailed pending => .signerFailed request context pending
  | .passthrough uri options => .passedThrough request uri options
  | .awaitSigner pending => .signerCalled request context pending
  | .sending pending => .sent request context pending
  | .raised => .raised request

/-- `Transport:access` stores a fresh table, or clears the slot. -/
def Request.accessed (request : Request) (result : AccessResult) : Request :=
  match result.shared with
  | some context =>
    { request with
      contexts := request.contexts ++ [context]
      shared := some request.contexts.length }
  | none => { request with shared := none }

def Request.begin (host : Host) (s : State) (env : CallEnv) (self uri options : Value)
    (request : Request) : Request × Begun :=
  let (context, begun) :=
    beginCall host s env (request.context? request.shared) self uri options
  let request := request.writeContext request.shared context
  ({ request with calls := request.calls ++ [⟨request.shared, Begun.stage begun⟩] }, begun)

def Request.advance (request : Request) (call : Nat) (reference : Option Nat)
    (context : Option Context) (stage : Stage) : Request :=
  let request := request.writeContext reference context
  { request with calls := request.calls.set call ⟨reference, stage⟩ }

def applyModules (w : World) (outcome : Bridge.Outcome) : World × List Event :=
  ({ w with modules := outcome.modules }, outcome.effects.map Event.file)

section
variable (host : Host) (process : Process)

/-- Steps of the module level: no request is involved. -/
def moduleStep (m : Bridge.Modules) : Step → Option Bridge.Outcome
  | .configure env refreshEnv configs =>
    some (refreshAfter host process refreshEnv m.bridge
      (Transport.configure host process env configs m.transport))
  | .initWorker env refreshEnv =>
    some (refreshAfter host process refreshEnv m.bridge
      (Transport.initWorker host process env m.transport))
  | .markBridgeLoaded env =>
    let (transport, effects) := Transport.markBridgeLoaded process env m.transport
    some ⟨{ m with transport := transport }, effects⟩
  | .markBridgeStatus env ready epoch => some (Bridge.markStatus process env ready epoch m)
  | .bridgeConfigure loadedEnv env configs =>
    some (Bridge.configure host process loadedEnv env configs m)
  | .bridgeInitWorker loadedEnv env => some (Bridge.initWorker host process loadedEnv env m)
  | .refreshTransportStatus env => some (Bridge.refreshTransportStatus host process env m)
  | _ => none

/-- A call of the bridge's access phase, on the request's current context. -/
def bridgeAccessStep (w : World) (r : Nat) (env : Env) (accessEnv : Bridge.AccessEnv)
    (conf : Value) : World × List Event :=
  let request := w.requests r
  let outcome := Bridge.access host process env accessEnv conf (request.context? request.shared)
    w.modules
  ((({ w with modules := outcome.modules } : World).setRequest r
      (request.writeContext request.shared outcome.context)),
    outcome.effects.map Event.file ++
      (match outcome.ending with
        | .continue => []
        | .exit status => [.exited r status]) ++
      (match outcome.assertion with
        | some text => [.assertion r text]
        | none => []))

def accessStep (w : World) (r : Nat) (env : Env) (sharedTable : Bool) (routeId : Option Bytes) :
    World × List Event :=
  let result := Transport.access host env w.modules.transport sharedTable routeId
  (w.setRequest r ((w.requests r).accessed result), if result.exit503 then [.exited r 503] else [])

/-- The decorated function exists only once the wrapper is installed. -/
def beginStep (w : World) (r : Nat) (env : CallEnv) (self uri options : Value) :
    World × List Event :=
  if w.modules.transport.httpWrapped then
    let (request, begun) := (w.requests r).begin host w.modules.transport env self uri options
    (w.setRequest r request, [Begun.event r (w.requests r).shared begun])
  else (w, [])

def signerStep (w : World) (r call : Nat) (now : Nat) (result : SignerResult) :
    World × List Event :=
  match (w.requests r).calls[call]? with
  | some ⟨reference, .awaitSigner pending⟩ =>
    let (context, begun) :=
      afterSigner host now ((w.requests r).context? reference) pending result
    (w.setRequest r ((w.requests r).advance call reference context (Begun.stage begun)),
      [Begun.event r reference begun])
  | _ => (w, [])

def networkStep (w : World) (r call : Nat) (result : NetworkResult) : World × List Event :=
  match (w.requests r).calls[call]? with
  | some ⟨reference, .awaitNetwork pending⟩ =>
    let (context, answer) := afterNetwork ((w.requests r).context? reference) pending result
    (w.setRequest r ((w.requests r).advance call reference context .finished),
      [.answered r reference answer])
  | _ => (w, [])

/-- Invocation of the closure stored in a context. -/
def callbackStep (w : World) (r i : Nat) (accessEnv : Bridge.AccessEnv) : World × List Event :=
  match (w.requests r).contexts[i]? with
  | some context =>
    match context.signAssertion with
    | some callback =>
      let (bridge, text) := Bridge.signCallback host accessEnv context callback w.modules
      ({ w with modules := { w.modules with bridge := bridge } },
        match text with
        | some text => [.assertion r text]
        | none => [])
    | none => (w, [])
  | none => (w, [])

def step (w : World) (i : Step) : World × List Event :=
  match i with
  | .bridgeAccess r env accessEnv conf => bridgeAccessStep host process w r env accessEnv conf
  | .access r env sharedTable routeId => accessStep host w r env sharedTable routeId
  | .begin r env self uri options => beginStep host w r env self uri options
  | .signerReturns r call now result => signerStep host w r call now result
  | .networkReturns r call result => networkStep w r call result
  | .callback r i accessEnv => callbackStep host w r i accessEnv
  | i =>
    match moduleStep host process w.modules i with
    | some outcome => applyModules w outcome
    | none => (w, [])

/-- Runs of one worker. -/
abbrev run (w : World) (inputs : List Step) : World × List Event :=
  Machine.run (step host process) w inputs

end

end KonnectFapi.Source.Worker

import KonnectFapi.Lib.Machine

/-!
# The local TCP forwarder

`LocalForwarder` of the demo: its accept loop, one thread for each accepted
connection, and `stop`, which the main thread calls at the end of `serve` and
which also runs on the main thread as the handler of SIGINT and SIGTERM. The
state keeps where every thread stands; one step is one thread executing up to
the next point at which another thread or a signal handler can run.

The two locks are plain ones, so the thread that holds one waits for itself when
it takes it again: `self.lock`, and the lock that `threading.Event.set` takes.
The pumps touch neither and end at any moment.

Source: scripts/wp5-demo-forward.py:9-134
-/

namespace KonnectFapi.Source.Forwarder

/-- The two connections of a pair. -/
inductive Side where
  | client
  | upstream
  deriving DecidableEq, Repr

/-- A connection: the handler thread it belongs to, and its side. -/
abbrev Connection := Nat × Side

/-- The connections of the pair that the handler thread registers. -/
def pair (handler : Nat) : List Connection := [(handler, .client), (handler, .upstream)]

/-- The threads that take `self.lock`. -/
inductive Thread where
  | main
  | handler (index : Nat)
  deriving DecidableEq, Repr

inductive Listener where
  | absent
  | listening
  | closed
  deriving DecidableEq, Repr

/-- Where the main thread stands in `serve`. -/
inductive ServePc where
  | creating
  | binding
  | checking
  | accepting
  | accepted
  | returning
  | raised
  deriving DecidableEq, Repr

/-- Where one running call of `stop` stands. -/
inductive StopPc where
  | enteringEvent
  | settingFlag
  | leavingEvent
  | closingListener
  | acquiring
  | copying
  | releasing (active : List Nat)
  | closing (remaining : List Connection)
  deriving DecidableEq, Repr

/-- Where one handler thread stands in `handle`. -/
inductive HandlePc where
  | connecting
  | acquiring
  | checking
  | refusing (remaining : List Connection)
  | adding
  | added
  | serving
  | closing (remaining : List Connection)
  | acquiringAgain
  | discarding
  | discarded
  | ended
  deriving DecidableEq, Repr

/-- What `accept`, `bind` and the creation of a connection can come to. -/
inductive Outcome where
  | success
  | timeout
  | osError
  deriving DecidableEq, Repr

/-- What the run shows: a pair put into `self.connections`, and a call of `stop`
that returned. -/
inductive Event where
  | registered (handler : Nat)
  | stopReturned
  deriving DecidableEq, Repr

inductive Label where
  | signal
  | main (outcome : Outcome)
  | handler (index : Nat) (outcome : Outcome)
  deriving DecidableEq, Repr

structure LocalForwarder where
  serve : ServePc
  /-- The running calls of `stop`, the innermost first. -/
  calls : List StopPc
  eventLock : Bool
  stopping : Bool
  listener : Listener
  lock : Option Thread
  connections : List Nat
  handlers : List HandlePc
  closed : List Connection
  deriving DecidableEq, Repr

/-- The forwarder when `main` calls `serve`, the signal handlers installed. -/
def start : LocalForwarder where
  serve := .creating
  calls := []
  eventLock := false
  stopping := false
  listener := .absent
  lock := none
  connections := []
  handlers := []
  closed := []

/-- One step of the innermost call of `stop`; `outer` are the calls it interrupted. -/
def stopStep (s : LocalForwarder) (outer : List StopPc) : StopPc → Option (LocalForwarder × List Event)
  | .enteringEvent =>
    if s.eventLock then none
    else some ({ s with calls := .settingFlag :: outer, eventLock := true }, [])
  | .settingFlag => some ({ s with calls := .leavingEvent :: outer, stopping := true }, [])
  | .leavingEvent => some ({ s with calls := .closingListener :: outer, eventLock := false }, [])
  | .closingListener =>
    let listener := if s.listener = .absent then .absent else .closed
    some ({ s with calls := .acquiring :: outer, listener := listener }, [])
  | .acquiring =>
    if s.lock = none then
      some ({ s with calls := .copying :: outer, lock := some .main }, [])
    else none
  | .copying => some ({ s with calls := .releasing s.connections :: outer }, [])
  | .releasing active =>
    some ({ s with calls := .closing (active.flatMap pair) :: outer, lock := none }, [])
  | .closing (connection :: remaining) =>
    some ({ s with calls := .closing remaining :: outer,
                   closed := connection :: s.closed }, [])
  | .closing [] => some ({ s with calls := outer }, [.stopReturned])

/-- The flag was read as set: `serve` leaves its loop and calls `stop`. -/
def callStop (s : LocalForwarder) : LocalForwarder :=
  { s with serve := .returning, calls := [.enteringEvent] }

/-- One step of `serve` outside `stop`. A closed listener refuses to bind and to
accept; an `OSError` of `accept` ends the loop when the flag is set and is raised
otherwise. -/
def serveStep (s : LocalForwarder) (outcome : Outcome) : Option (LocalForwarder × List Event) :=
  match s.serve with
  | .creating =>
    match outcome with
    | .success => some ({ s with serve := .binding, listener := .listening }, [])
    | _ => some ({ s with serve := .raised }, [])
  | .binding =>
    if outcome = .success ∧ s.listener = .listening then
      some ({ s with serve := .checking }, [])
    else some ({ s with serve := .raised }, [])
  | .checking =>
    if s.stopping then some (callStop s, []) else some ({ s with serve := .accepting }, [])
  | .accepting =>
    match outcome with
    | .success =>
      if s.listener = .listening then some ({ s with serve := .accepted }, []) else none
    | .timeout =>
      if s.listener = .listening then some ({ s with serve := .checking }, []) else none
    | .osError =>
      if s.stopping then some (callStop s, []) else some ({ s with serve := .raised }, [])
  | .accepted =>
    match outcome with
    | .success =>
      some ({ s with serve := .checking, handlers := s.handlers ++ [.connecting] }, [])
    | _ => some ({ s with serve := .raised }, [])
  | .returning => none
  | .raised => none

/-- The handler thread goes on at `pc`. -/
def LocalForwarder.move (s : LocalForwarder) (i : Nat) (pc : HandlePc) : LocalForwarder :=
  { s with handlers := s.handlers.set i pc }

@[simp] theorem move_closed (s : LocalForwarder) (i : Nat) (pc : HandlePc) :
    (s.move i pc).closed = s.closed := rfl

/-- One step of the handler thread `i` that stands at the given place. -/
def handleStep (s : LocalForwarder) (i : Nat) (outcome : Outcome) :
    HandlePc → Option (LocalForwarder × List Event)
  | .connecting =>
    if outcome = .success then some (s.move i .acquiring, []) else some (s.move i .ended, [])
  | .acquiring =>
    if s.lock = none then
      some ({ s.move i .checking with lock := some (.handler i) }, [])
    else none
  | .checking =>
    if s.stopping then some (s.move i (.refusing (pair i)), []) else some (s.move i .adding, [])
  | .refusing (connection :: remaining) =>
    -- an error of this `close` leaves the `with` block and the thread
    if outcome = .success then
      some ({ s.move i (.refusing remaining) with closed := connection :: s.closed }, [])
    else some ({ s.move i .ended with lock := none }, [])
  | .refusing [] => some ({ s.move i .ended with lock := none }, [])
  | .adding =>
    some ({ s.move i .added with connections := s.connections ++ [i] }, [.registered i])
  | .added => some ({ s.move i .serving with lock := none }, [])
  | .serving => some (s.move i (.closing (pair i)), [])
  | .closing (connection :: remaining) =>
    some ({ s.move i (.closing remaining) with closed := connection :: s.closed }, [])
  | .closing [] => some (s.move i .acquiringAgain, [])
  | .acquiringAgain =>
    if s.lock = none then
      some ({ s.move i .discarding with lock := some (.handler i) }, [])
    else none
  | .discarding =>
    some ({ s.move i .discarded with connections := s.connections.filter (· ≠ i) }, [])
  | .discarded => some ({ s.move i .ended with lock := none }, [])
  | .ended => none

/-- One step, `none` where the thread waits or has ended. A signal puts a call of
`stop` on top of whatever the main thread is doing. -/
def step? (s : LocalForwarder) : Label → Option (LocalForwarder × List Event)
  | .signal => some ({ s with calls := .enteringEvent :: s.calls }, [])
  | .main outcome =>
    match s.calls with
    | [] => serveStep s outcome
    | pc :: outer => stopStep s outer pc
  | .handler i outcome => s.handlers[i]?.bind (handleStep s i outcome)

/-- One step; a thread that cannot go on leaves everything as it is. -/
def step (s : LocalForwarder) (label : Label) : LocalForwarder × List Event :=
  (step? s label).getD (s, [])

/-- The forwarder and what happened after the labels. -/
def run (labels : List Label) : LocalForwarder × List Event := Lib.Machine.run step start labels

end KonnectFapi.Source.Forwarder

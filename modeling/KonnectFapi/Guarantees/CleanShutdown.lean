import KonnectFapi.Source.ForwarderClosing
import KonnectFapi.Source.ForwarderProgress

/-!
# The forwarder shuts down cleanly

Once a call of `stop` has returned, every registered pair is closed and no other
pair is registered, and a running `stop` always returns, provided that no signal
handler starts while the main thread is inside one of the two critical sections
of a `stop` it is already running. Both locks are plain ones: there, the handler
would wait for the thread it interrupted, which is itself.

Source: scripts/wp5-demo-forward.py:18-134
-/

namespace KonnectFapi.Guarantees

open KonnectFapi.Source.Forwarder
open KonnectFapi.Lib

/-- The thread stands where it takes `self.lock`. -/
def Waits (s : LocalForwarder) : Thread → Prop
  | .main => s.calls.head? = some .acquiring
  | .handler i => s.handlers[i]?.any HandlePc.wantsLock

/-- What a run leaves behind: pairs closed and none registered after a `stop`, no
thread waiting for itself, and every running `stop` about to return. -/
structure ShutsDownCleanly (labels : List Label) : Prop where
  closed : .stopReturned ∈ (run labels).2 → ∀ i, .registered i ∈ (run labels).2 →
    ∀ c ∈ pair i, c ∈ (run labels).1.closed
  last : (run labels).2.Pairwise fun earlier later =>
    earlier = .stopReturned → ∀ i, later ≠ .registered i
  unwaited : ∀ thread, Waits (run labels).1 thread → (run labels).1.lock ≠ some thread
  returns : Inevitable Moves (fun t => t.calls = []) (run labels).1

/-- A signal finds the main thread outside the critical sections of `stop`. -/
def SignalOutside (s : LocalForwarder) (label : Label) : Prop :=
  label = .signal → s.inCriticalSection = false

instance (s : LocalForwarder) (label : Label) : Decidable (SignalOutside s label) :=
  inferInstanceAs (Decidable (label = .signal → s.inCriticalSection = false))

/-- What the threads rely on, in every state together with what happened before it. -/
structure InOrder (s : LocalForwarder) (past : List Event) : Prop where
  locks : Locks s
  closing : Closing s past
  registry : Registry s

theorem inOrder_start : InOrder start [] := ⟨locks_start, closing_start, registry_start⟩

theorem InOrder.step {s : LocalForwarder} {past : List Event} {label : Label}
    (h : InOrder s past) (ok : SignalOutside s label) :
    InOrder (step s label).1 (past ++ (step s label).2) := by
  unfold Source.Forwarder.step
  cases moved : step? s label with
  | none => simpa using h
  | some next => exact ⟨h.locks.step ok moved, h.closing.step h.locks moved, h.registry.step moved⟩

theorem inOrder_run {labels : List Label} (meets : Machine.RunMeets step SignalOutside start labels) :
    InOrder (run labels).1 (run labels).2 :=
  Machine.run_history_of_meets (P := InOrder) (fun _ _ _ h ok => h.step ok) start labels meets []
    inOrder_start

/-- No thread waits for a lock it holds. -/
theorem not_waiting_for_itself {s : LocalForwarder} (h : Locks s) (thread : Thread)
    (waits : Waits s thread) : s.lock ≠ some thread := by
  intro held
  cases thread with
  | main =>
    have top := h.main.mp held
    simp only [Waits] at waits
    rw [waits] at top
    cases top
  | handler i =>
    obtain ⟨pc, at_, wants⟩ := (Option.any_eq_true _ _).mp waits
    have holds := (h.handler i).mp held
    rw [at_, Option.any_some] at holds
    cases pc <;> simp [HandlePc.holdsLock, HandlePc.wantsLock] at holds wants

/-- The forwarder shuts down cleanly in every run whose signals arrive outside the
critical sections of `stop`. -/
theorem shuts_down_cleanly (labels : List Label)
    (meets : Machine.RunMeets step SignalOutside start labels) : ShutsDownCleanly labels := by
  have order := inOrder_run meets
  constructor
  · intro returned i registered c mem
    have covered := order.closing.covered _ (.inr ⟨rfl, returned⟩) i registered c mem
    simpa [StopPc.Covers] using covered
  · exact order.closing.ordered
  · exact not_waiting_for_itself order.locks
  · exact stop_returns order.locks order.registry

/-- The innermost call of `stop` needs a lock that the main thread holds further out. -/
def Blocked (s : LocalForwarder) : Prop :=
  s.calls.head? = some .enteringEvent ∧ s.eventLock = true ∨
    (∃ pc outer, s.calls = pc :: outer ∧ pc.pastLock = false) ∧ s.lock = some .main ∧
      ∀ i : Nat, s.handlers[i]?.any HandlePc.holdsLock = false

theorem Blocked.running {s : LocalForwarder} (h : Blocked s) : s.calls ≠ [] := by
  intro calls
  rcases h with ⟨top, -⟩ | ⟨⟨pc, outer, top, -⟩, -⟩
  · simp [calls] at top
  · simp [calls] at top

theorem Blocked.stopStep {s t : LocalForwarder} {out : List Event} {pc : StopPc}
    {outer : List StopPc} (h : Blocked s) (calls : s.calls = pc :: outer)
    (hstep : stopStep s outer pc = some (t, out)) : Blocked t := by
  rcases h with ⟨top, taken⟩ | ⟨⟨pc', outer', calls', early⟩, held, idle⟩
  · rw [calls, List.head?_cons, Option.some.injEq] at top
    simp [Source.Forwarder.stopStep, top, taken] at hstep
  · obtain ⟨rfl, rfl⟩ := List.cons.inj (calls.symm.trans calls')
    unfold Source.Forwarder.stopStep at hstep
    repeat' split at hstep
    all_goals cases hstep
    -- the call goes on to where it takes the lock, and no further
    all_goals first
      | exact .inr ⟨⟨_, _, rfl, rfl⟩, held, idle⟩
      | cases early
    rename_i free
    rw [held] at free
    cases free

theorem Blocked.handleStep {s t : LocalForwarder} {out : List Event} {i : Nat} {pc : HandlePc}
    {outcome : Outcome} (h : Blocked s) (at_ : s.handlers[i]? = some pc)
    (hstep : handleStep s i outcome pc = some (t, out)) : Blocked t := by
  unfold Source.Forwarder.handleStep at hstep
  repeat' split at hstep
  all_goals cases hstep
  all_goals rcases h with event | ⟨top, held, idle⟩
  all_goals first | exact .inl event | skip
  all_goals grind [Blocked, LocalForwarder.move, HandlePc.holdsLock]

theorem Blocked.moves {s t : LocalForwarder} (h : Blocked s) (move : Moves s t) : Blocked t := by
  obtain ⟨label, out, thread, hstep⟩ := move
  cases label with
  | signal => exact absurd rfl thread
  | main outcome =>
    cases calls : s.calls with
    | nil => exact absurd calls h.running
    | cons pc outer =>
      simp only [step?, calls] at hstep
      exact h.stopStep calls hstep
  | handler i outcome =>
    obtain ⟨pc, at_, hstep⟩ := Option.bind_eq_some_iff.mp hstep
    exact h.handleStep at_ hstep

/-- A signal inside a critical section starts a call of `stop` that never returns. -/
theorem signal_inside_never_returns (labels : List Label)
    (meets : Machine.RunMeets step SignalOutside start labels)
    (inside : (run labels).1.inCriticalSection) : ¬ ShutsDownCleanly (labels ++ [.signal]) := by
  intro clean
  have returns := clean.returns
  have last : (run (labels ++ [.signal])).1 =
      { (run labels).1 with calls := .enteringEvent :: (run labels).1.calls } := by
    rw [run, Machine.run_append]
    rfl
  rw [last] at returns
  refine Inevitable.not_of_invariant (P := Blocked) (fun _ => Blocked.running)
    (fun _ _ => Blocked.moves) ?_ returns
  have locks := (inOrder_run meets).locks
  cases event : (run labels).1.eventLock with
  | true => exact .inl ⟨rfl, event⟩
  | false =>
    have held : (run labels).1.lock = some .main := by
      apply locks.main.mpr
      have quiet := locks.event
      rw [event] at quiet
      obtain ⟨pc, top, inside⟩ := (Option.any_eq_true _ _).mp inside
      rw [top, Option.any_some] at quiet ⊢
      simpa [← quiet] using inside
    refine .inr ⟨⟨_, _, rfl, rfl⟩, held, fun i => ?_⟩
    by_contra holds
    have other := (locks.handler i).mpr (by simpa using holds)
    rw [held] at other
    cases other

/-- A connection is accepted and its pair registered, a signal arrives, and `stop`
closes the pair. -/
def servedThenStopped : List Label :=
  List.replicate 5 (.main .success) ++ List.replicate 5 (.handler 0 .success) ++ [.signal] ++
    List.replicate 10 (.main .success)

theorem shuts_down_cleanly_served :
    (run servedThenStopped).2 = [.registered 0, .stopReturned] ∧
      ShutsDownCleanly servedThenStopped :=
  ⟨by decide, shuts_down_cleanly servedThenStopped (by decide)⟩

/-- A second signal arrives while the first one's handler copies the connections. -/
def interruptedCopy : List Label :=
  List.replicate 2 (.main .success) ++ [.signal] ++ List.replicate 5 (.main .success) ++
    [.signal] ++ List.replicate 4 (.main .success)

/-- The handler of a signal that arrives inside `with self.lock` waits for itself. -/
theorem shutdown_blocks_itself : ¬ ∀ labels, ShutsDownCleanly labels := by
  intro all
  have waits : Waits (run interruptedCopy).1 .main := by
    rw [Waits]
    decide
  exact (all interruptedCopy).unwaited .main waits (by decide)

end KonnectFapi.Guarantees

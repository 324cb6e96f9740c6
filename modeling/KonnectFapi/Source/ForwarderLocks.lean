import KonnectFapi.Source.Forwarder

/-!
# Who holds the forwarder's locks

Both locks are held exactly where the program is inside their `with` blocks, in
every run in which no signal handler starts while the main thread is inside one.

Source: scripts/wp5-demo-forward.py:24-41, 58-95
-/

namespace KonnectFapi.Source.Forwarder

def StopPc.holdsLock : StopPc → Bool
  | .copying | .releasing _ => true
  | _ => false

def StopPc.holdsEventLock : StopPc → Bool
  | .settingFlag | .leavingEvent => true
  | _ => false

def HandlePc.holdsLock : HandlePc → Bool
  | .checking | .refusing _ | .adding | .added | .discarding | .discarded => true
  | _ => false

/-- The thread is about to take `self.lock`. -/
def HandlePc.wantsLock : HandlePc → Bool
  | .acquiring | .acquiringAgain => true
  | _ => false

/-- The main thread is inside a critical section of the `stop` it runs. -/
def LocalForwarder.inCriticalSection (s : LocalForwarder) : Bool :=
  s.calls.head?.any fun pc => pc.holdsLock || pc.holdsEventLock

/-- Each lock is held exactly by the thread that stands in its critical section,
and no interrupted call of `stop` stands in one. -/
structure Locks (s : LocalForwarder) : Prop where
  main : s.lock = some .main ↔ s.calls.head?.any StopPc.holdsLock
  event : s.eventLock = s.calls.head?.any StopPc.holdsEventLock
  outer : ∀ pc ∈ s.calls.tail, pc.holdsLock = false ∧ pc.holdsEventLock = false
  handler : ∀ i, s.lock = some (.handler i) ↔ s.handlers[i]?.any HandlePc.holdsLock

theorem locks_start : Locks start := by
  constructor <;> simp [start]

/-- The interrupted call of `stop` goes on outside its critical sections. -/
theorem Locks.resumed {s : LocalForwarder} {pc : StopPc} {outer : List StopPc} (h : Locks s)
    (calls : s.calls = pc :: outer) :
    outer.head?.any StopPc.holdsLock = false ∧ outer.head?.any StopPc.holdsEventLock = false := by
  have free := h.outer
  rw [calls, List.tail_cons] at free
  cases outer with
  | nil => simp
  | cons next rest => simpa using free next (by simp)

theorem Locks.stopStep {s t : LocalForwarder} {out : List Event} {pc : StopPc}
    {outer : List StopPc} (h : Locks s) (calls : s.calls = pc :: outer)
    (hstep : stopStep s outer pc = some (t, out)) : Locks t := by
  obtain ⟨main, event, free, handler⟩ := h
  have resumed := Locks.resumed ⟨main, event, free, handler⟩ calls
  simp only [calls, List.head?_cons, Option.any_some, List.tail_cons] at main event free
  cases pc with
  | enteringEvent =>
    simp only [Forwarder.stopStep, Option.ite_none_left_eq_some] at hstep
    obtain ⟨-, hstep⟩ := hstep
    cases hstep
    exact ⟨by simpa [StopPc.holdsLock] using main, by simp [StopPc.holdsEventLock], free, handler⟩
  | acquiring =>
    simp only [Forwarder.stopStep, Option.ite_none_right_eq_some] at hstep
    obtain ⟨unlocked, hstep⟩ := hstep
    cases hstep
    refine ⟨by simp [StopPc.holdsLock], by simpa [StopPc.holdsEventLock] using event, free, ?_⟩
    intro i
    rw [← handler i, unlocked]
    simp
  | releasing active =>
    cases hstep
    refine ⟨by simp [StopPc.holdsLock], by simpa [StopPc.holdsEventLock] using event, free, ?_⟩
    intro i
    rw [← handler i, main.mpr (by simp [StopPc.holdsLock])]
    simp
  | closing remaining =>
    cases remaining with
    | nil =>
      cases hstep
      refine ⟨?_, ?_, fun pc mem => free pc (List.mem_of_mem_tail mem), handler⟩
      · simpa [resumed, StopPc.holdsLock] using main
      · simpa [resumed, StopPc.holdsEventLock] using event
    | cons connection remaining =>
      cases hstep
      exact ⟨by simpa [StopPc.holdsLock] using main,
        by simpa [StopPc.holdsEventLock] using event, free, handler⟩
  | leavingEvent =>
    cases hstep
    exact ⟨by simpa [StopPc.holdsLock] using main, by simp [StopPc.holdsEventLock], free, handler⟩
  | settingFlag | closingListener | copying =>
    cases hstep
    exact ⟨by simpa [StopPc.holdsLock] using main,
      by simpa [StopPc.holdsEventLock] using event, free, handler⟩

theorem Locks.serveStep {s t : LocalForwarder} {out : List Event} {outcome : Outcome}
    (h : Locks s) (calls : s.calls = []) (hstep : serveStep s outcome = some (t, out)) :
    Locks t := by
  obtain ⟨main, event, free, handler⟩ := h
  rw [calls] at main event
  unfold Forwarder.serveStep at hstep
  repeat' split at hstep
  all_goals cases hstep
  -- a new handler thread holds nothing, and neither does a `stop` that starts
  all_goals constructor
  all_goals
    grind [callStop, StopPc.holdsLock, StopPc.holdsEventLock, HandlePc.holdsLock]

theorem Locks.handleStep {s t : LocalForwarder} {out : List Event} {i : Nat} {pc : HandlePc}
    {outcome : Outcome} (h : Locks s) (at_ : s.handlers[i]? = some pc)
    (hstep : handleStep s i outcome pc = some (t, out)) : Locks t := by
  obtain ⟨main, event, free, handler⟩ := h
  unfold Forwarder.handleStep at hstep
  repeat' split at hstep
  all_goals cases hstep
  -- only the entry of this thread changes, together with the lock it takes or releases
  all_goals constructor
  all_goals grind [LocalForwarder.move, HandlePc.holdsLock]

theorem Locks.signal {s : LocalForwarder} (h : Locks s) (ok : s.inCriticalSection = false) :
    Locks { s with calls := .enteringEvent :: s.calls } := by
  obtain ⟨main, event, free, handler⟩ := h
  have outside : ∀ pc ∈ s.calls.head?, pc.holdsLock = false ∧ pc.holdsEventLock = false := by
    intro pc mem
    simpa [LocalForwarder.inCriticalSection, Option.mem_def.mp mem] using ok
  have unlocked : s.calls.head?.any StopPc.holdsLock = false := by
    cases top : s.calls.head? <;> simp_all
  have quiet : s.calls.head?.any StopPc.holdsEventLock = false := by
    cases top : s.calls.head? <;> simp_all
  constructor
  · simpa [StopPc.holdsLock, unlocked] using main
  · simpa [StopPc.holdsEventLock, quiet] using event
  · intro pc mem
    cases calls : s.calls with
    | nil => simp [calls] at mem
    | cons top outer =>
      rw [calls] at free outside mem
      rcases List.mem_cons.mp mem with rfl | mem
      · exact outside pc rfl
      · exact free pc mem
  · exact handler

/-- A step that is not a signal inside a critical section keeps the locks where
they belong. -/
theorem Locks.step {s t : LocalForwarder} {out : List Event} {label : Label} (h : Locks s)
    (ok : label = .signal → s.inCriticalSection = false) (hstep : step? s label = some (t, out)) :
    Locks t := by
  cases label with
  | signal =>
    cases hstep
    exact h.signal (ok rfl)
  | main outcome =>
    cases calls : s.calls with
    | nil =>
      simp only [step?, calls] at hstep
      exact h.serveStep calls hstep
    | cons pc outer =>
      simp only [step?, calls] at hstep
      exact h.stopStep calls hstep
  | handler i outcome =>
    obtain ⟨pc, at_, hstep⟩ := Option.bind_eq_some_iff.mp hstep
    exact h.handleStep at_ hstep

end KonnectFapi.Source.Forwarder

import KonnectFapi.Source.ForwarderLocks

/-!
# What a call of `stop` has still to close

Every registered pair is in `self.connections` or closed; from its copy of
`self.connections` on, a call of `stop` has each of them before it or behind it,
and nothing is registered any more.

Source: scripts/wp5-demo-forward.py:24-41, 58-95
-/

namespace KonnectFapi.Source.Forwarder

/-- This call has set the flag. -/
def StopPc.pastFlag : StopPc → Bool
  | .enteringEvent | .settingFlag => false
  | _ => true

/-- This call has taken the lock. -/
def StopPc.pastLock : StopPc → Bool
  | .copying | .releasing _ | .closing _ => true
  | _ => false

/-- Whether this call will still close the connection of a registered pair. -/
def StopPc.Covers (connection : Connection) : StopPc → Prop
  | .releasing active => connection.1 ∈ active
  | .closing remaining => connection ∈ remaining
  | _ => True

/-- Whether the thread may leave the connection of its own pair open for now. -/
def HandlePc.Covers (connection : Connection) : HandlePc → Prop
  | .closing remaining => connection ∈ remaining
  | .acquiringAgain | .discarding => False
  | _ => True

/-- The calls of `stop`: those that run, and one for all that have returned. -/
def Stops (s : LocalForwarder) (past : List Event) (pc : StopPc) : Prop :=
  pc ∈ s.calls ∨ pc = .closing [] ∧ .stopReturned ∈ past

/-- How the connections, the calls of `stop` and the handler threads stand to what
has happened so far. -/
structure Closing (s : LocalForwarder) (past : List Event) : Prop where
  flag : ∀ pc, Stops s past pc → pc.pastFlag → s.stopping = true
  quiet : ∀ pc, Stops s past pc → pc.pastLock → .adding ∉ s.handlers
  tracked : ∀ i, .registered i ∈ past → i ∈ s.connections ∨ ∀ c ∈ pair i, c ∈ s.closed
  covered : ∀ pc, Stops s past pc → ∀ i, .registered i ∈ past →
    ∀ c ∈ pair i, pc.Covers c ∨ c ∈ s.closed
  own : ∀ i pc, s.handlers[i]? = some pc → ∀ c ∈ pair i, pc.Covers c ∨ c ∈ s.closed
  ordered : past.Pairwise fun earlier later =>
    earlier = .stopReturned → ∀ i, later ≠ .registered i

theorem closing_start : Closing start [] := by
  constructor <;> simp [start, Stops]

/-- A call that goes on at `next` keeps everything when `next` itself is fine: no
thread moves, and flag and closed connections stay. -/
theorem Closing.advance {s t : LocalForwarder} {past : List Event} {pc next : StopPc}
    {outer : List StopPc} (h : Closing s past) (calls : s.calls = pc :: outer)
    (calls' : t.calls = next :: outer) (handlers : t.handlers = s.handlers)
    (connections : t.connections = s.connections) (closed : ∀ c ∈ s.closed, c ∈ t.closed)
    (stopping : s.stopping = true → t.stopping = true)
    (flag : next.pastFlag → t.stopping = true) (quiet : next.pastLock → .adding ∉ s.handlers)
    (covered : ∀ i, .registered i ∈ past → ∀ c ∈ pair i, next.Covers c ∨ c ∈ t.closed) :
    Closing t past := by
  have stops : ∀ other, Stops t past other → other = next ∨ Stops s past other := by
    rintro other (mem | returned)
    · rw [calls', List.mem_cons] at mem
      exact mem.imp_right fun mem => .inl (calls ▸ List.mem_cons_of_mem pc mem)
    · exact .inr (.inr returned)
  constructor
  · intro other stop past
    rcases stops other stop with rfl | stop
    · exact flag past
    · exact stopping (h.flag other stop past)
  · intro other stop past
    rw [handlers]
    rcases stops other stop with rfl | stop
    · exact quiet past
    · exact h.quiet other stop past
  · intro i registered
    rw [connections]
    exact (h.tracked i registered).imp_right fun all c mem => closed c (all c mem)
  · intro other stop i registered c mem
    rcases stops other stop with rfl | stop
    · exact covered i registered c mem
    · exact (h.covered other stop i registered c mem).imp_right (closed c)
  · intro i at_ found c mem
    rw [handlers] at found
    exact (h.own i at_ found c mem).imp_right (closed c)
  · exact h.ordered

/-- A call that closed its last connection returns. -/
theorem Closing.returned {s : LocalForwarder} {past : List Event} {outer : List StopPc}
    (h : Closing s past) (calls : s.calls = .closing [] :: outer) :
    Closing { s with calls := outer } (past ++ [.stopReturned]) := by
  have stops : ∀ pc, Stops { s with calls := outer } (past ++ [.stopReturned]) pc →
      Stops s past pc := by
    rintro pc (mem | ⟨rfl, -⟩)
    · exact .inl (calls ▸ List.mem_cons_of_mem _ mem)
    · exact .inl (calls ▸ List.mem_cons_self)
  have registered : ∀ i, .registered i ∈ past ++ [.stopReturned] → .registered i ∈ past := by
    simp
  constructor
  · exact fun pc stop => h.flag pc (stops pc stop)
  · exact fun pc stop => h.quiet pc (stops pc stop)
  · exact fun i mem => h.tracked i (registered i mem)
  · exact fun pc stop i mem => h.covered pc (stops pc stop) i (registered i mem)
  · exact h.own
  · simp [List.pairwise_append, h.ordered]

/-- A signal handler that starts has done nothing yet. -/
theorem Closing.interrupted {s : LocalForwarder} {past : List Event} (h : Closing s past) :
    Closing { s with calls := .enteringEvent :: s.calls } past := by
  have stops : ∀ pc, Stops { s with calls := .enteringEvent :: s.calls } past pc →
      pc = .enteringEvent ∨ Stops s past pc := by
    rintro pc (mem | returned)
    · exact (List.mem_cons.mp mem).imp_right .inl
    · exact .inr (.inr returned)
  constructor
  · intro pc stop set
    rcases stops pc stop with rfl | stop
    · cases set
    · exact h.flag pc stop set
  · intro pc stop copied
    rcases stops pc stop with rfl | stop
    · cases copied
    · exact h.quiet pc stop copied
  · exact h.tracked
  · intro pc stop
    rcases stops pc stop with rfl | stop
    · exact fun i _ c _ => .inl trivial
    · exact h.covered pc stop
  · exact h.own
  · exact h.ordered

theorem mem_pair {i : Nat} {c : Connection} (h : c ∈ pair i) : c.1 = i := by
  simp only [pair, List.mem_cons, List.not_mem_nil, or_false] at h
  rcases h with rfl | rfl <;> rfl

theorem Closing.stopStep {s t : LocalForwarder} {past out : List Event} {pc : StopPc}
    {outer : List StopPc} (locks : Locks s) (h : Closing s past) (calls : s.calls = pc :: outer)
    (hstep : stopStep s outer pc = some (t, out)) : Closing t (past ++ out) := by
  have current : Stops s past pc := .inl (calls ▸ List.mem_cons_self)
  cases pc with
  | enteringEvent =>
    simp only [Forwarder.stopStep, Option.ite_none_left_eq_some] at hstep
    obtain ⟨-, hstep⟩ := hstep
    cases hstep
    rw [List.append_nil]
    exact h.advance calls rfl rfl rfl (fun c mem => mem) id (fun past => by cases past)
      (fun copied => by cases copied) fun i _ c _ => .inl trivial
  | settingFlag =>
    cases hstep
    rw [List.append_nil]
    exact h.advance calls rfl rfl rfl (fun c mem => mem) (fun _ => rfl) (fun _ => rfl)
      (fun copied => by cases copied) fun i _ c _ => .inl trivial
  | leavingEvent | closingListener =>
    cases hstep
    rw [List.append_nil]
    exact h.advance calls rfl rfl rfl (fun c mem => mem) id (fun _ => h.flag _ current rfl)
      (fun copied => by cases copied) fun i _ c _ => .inl trivial
  | acquiring =>
    simp only [Forwarder.stopStep, Option.ite_none_right_eq_some] at hstep
    obtain ⟨unlocked, hstep⟩ := hstep
    cases hstep
    rw [List.append_nil]
    -- the lock was free, so no thread stands between its test of the flag and its entry
    have idle : .adding ∉ s.handlers := by
      intro mem
      obtain ⟨i, found⟩ := List.mem_iff_getElem?.mp mem
      have held := (locks.handler i).mpr (by simp [found, HandlePc.holdsLock])
      rw [unlocked] at held
      cases held
    exact h.advance calls rfl rfl rfl (fun c mem => mem) id (fun _ => h.flag _ current rfl)
      (fun _ => idle) fun i _ c _ => .inl trivial
  | copying =>
    cases hstep
    rw [List.append_nil]
    refine h.advance calls rfl rfl rfl (fun c mem => mem) id (fun _ => h.flag _ current rfl)
      (fun _ => h.quiet _ current rfl) ?_
    intro i registered c mem
    rcases h.tracked i registered with held | closed
    · left
      rwa [StopPc.Covers, mem_pair mem]
    · exact .inr (closed c mem)
  | releasing active =>
    cases hstep
    rw [List.append_nil]
    refine h.advance calls rfl rfl rfl (fun c mem => mem) id (fun _ => h.flag _ current rfl)
      (fun _ => h.quiet _ current rfl) ?_
    intro i registered c mem
    refine (h.covered _ current i registered c mem).imp_left fun held => ?_
    exact List.mem_flatMap.mpr ⟨i, mem_pair mem ▸ held, mem⟩
  | closing remaining =>
    cases remaining with
    | nil =>
      cases hstep
      exact h.returned calls
    | cons connection remaining =>
      cases hstep
      rw [List.append_nil]
      refine h.advance calls rfl rfl rfl (fun c mem => List.mem_cons_of_mem _ mem) id
        (fun _ => h.flag _ current rfl) (fun _ => h.quiet _ current rfl) ?_
      intro i registered c mem
      have before := h.covered _ current i registered c mem
      simp only [StopPc.Covers, List.mem_cons] at before ⊢
      tauto

theorem Closing.serveStep {s t : LocalForwarder} {past out : List Event} {outcome : Outcome}
    (h : Closing s past) (calls : s.calls = []) (hstep : serveStep s outcome = some (t, out)) :
    Closing t (past ++ out) := by
  obtain ⟨flag, quiet, tracked, covered, own, ordered⟩ := h
  unfold Forwarder.serveStep at hstep
  repeat' split at hstep
  all_goals cases hstep
  all_goals rw [List.append_nil]
  -- a `stop` that starts has set no flag and copied nothing, and a new thread has no pair
  all_goals constructor
  all_goals
    grind [callStop, Stops, StopPc.pastFlag, StopPc.pastLock, StopPc.Covers, HandlePc.Covers]

theorem StopPc.pastFlag_of_pastLock {pc : StopPc} (h : pc.pastLock) : pc.pastFlag := by
  cases pc <;> first | rfl | cases h

/-- A thread that goes on at `next` keeps everything when it does not set out to
register a pair under a set flag, gives up a pair only closed, and is itself fine. -/
theorem Closing.moved {s t : LocalForwarder} {past : List Event} {i : Nat} {next : HandlePc}
    (h : Closing s past) (calls : t.calls = s.calls) (stopping : t.stopping = s.stopping)
    (handlers : t.handlers = s.handlers.set i next)
    (connections : ∀ j ∈ s.connections, j ∈ t.connections ∨ ∀ c ∈ pair j, c ∈ t.closed)
    (closed : ∀ c ∈ s.closed, c ∈ t.closed) (quiet : next = .adding → s.stopping = false)
    (own : ∀ c ∈ pair i, next.Covers c ∨ c ∈ t.closed) : Closing t past := by
  have stops : ∀ pc, Stops t past pc → Stops s past pc := by
    intro pc stop
    rwa [Stops, calls] at stop
  constructor
  · intro pc stop past
    rw [stopping]
    exact h.flag pc (stops pc stop) past
  · intro pc stop past
    have set := h.flag pc (stops pc stop) (StopPc.pastFlag_of_pastLock past)
    rw [handlers]
    intro mem
    rcases List.mem_or_eq_of_mem_set mem with mem | mem
    · exact h.quiet pc (stops pc stop) past mem
    · rw [quiet mem.symm] at set
      cases set
  · intro j registered
    rcases h.tracked j registered with mem | all
    · exact connections j mem
    · exact .inr fun c mem => closed c (all c mem)
  · intro pc stop j registered c mem
    exact (h.covered pc (stops pc stop) j registered c mem).imp_right (closed c)
  · intro j pc found c mem
    rw [handlers, List.getElem?_set] at found
    split at found
    · rename_i same
      subst same
      split at found
      · cases found
        exact own c mem
      · cases found
    · exact (h.own j pc found c mem).imp_right (closed c)
  · exact h.ordered

/-- A thread that registers its pair does so before any call of `stop` has copied
the connections. -/
theorem Closing.registered {s : LocalForwarder} {past : List Event} {i : Nat}
    (h : Closing s past) (adding : s.handlers[i]? = some .adding) :
    Closing { s.move i .added with connections := s.connections ++ [i] }
      (past ++ [.registered i]) := by
  have early : ∀ pc, Stops s past pc → pc.pastLock = false := by
    intro pc stop
    by_contra copied
    exact h.quiet pc stop (by simpa using copied) (List.mem_of_getElem? adding)
  have stops : ∀ pc, Stops { s.move i .added with connections := s.connections ++ [i] }
      (past ++ [.registered i]) pc → Stops s past pc := by
    rintro pc (mem | ⟨rfl, returned⟩)
    · exact .inl mem
    · exact .inr ⟨rfl, by simpa using returned⟩
  constructor
  · exact fun pc stop => h.flag pc (stops pc stop)
  · intro pc stop copied
    rw [early pc (stops pc stop)] at copied
    cases copied
  · intro j mem
    rcases List.mem_append.mp mem with before | now
    · exact (h.tracked j before).imp_left (List.mem_append_left _)
    · rw [List.mem_singleton, Event.registered.injEq] at now
      exact .inl (now ▸ List.mem_append_right _ (List.mem_singleton_self j))
  · intro pc stop j _ c _
    have copied := early pc (stops pc stop)
    cases pc <;> first | exact .inl trivial | cases copied
  · intro j pc found c mem
    rw [LocalForwarder.move, List.getElem?_set] at found
    split at found
    · split at found
      · cases found
        exact .inl trivial
      · cases found
    · exact h.own j pc found c mem
  · refine List.pairwise_append.mpr ⟨h.ordered, List.pairwise_singleton .., ?_⟩
    rintro earlier mem later _ rfl j
    have := early _ (.inr ⟨rfl, mem⟩)
    cases this

theorem Closing.handleStep {s t : LocalForwarder} {past out : List Event} {i : Nat} {pc : HandlePc}
    {outcome : Outcome} (h : Closing s past) (at_ : s.handlers[i]? = some pc)
    (hstep : handleStep s i outcome pc = some (t, out)) : Closing t (past ++ out) := by
  have own := h.own i pc at_
  have kept : ∀ j ∈ s.connections, j ∈ s.connections ∨ ∀ c ∈ pair j, c ∈ s.closed :=
    fun j mem => .inl mem
  have same : ∀ c ∈ s.closed, c ∈ s.closed := fun c mem => mem
  cases pc with
  | connecting =>
    simp only [Forwarder.handleStep] at hstep
    split at hstep
    all_goals
      cases hstep
      rw [List.append_nil]
      exact h.moved rfl rfl rfl kept same nofun fun c _ => .inl trivial
  | acquiring =>
    simp only [Forwarder.handleStep, Option.ite_none_right_eq_some] at hstep
    obtain ⟨-, hstep⟩ := hstep
    cases hstep
    rw [List.append_nil]
    exact h.moved rfl rfl rfl kept same nofun fun c _ => .inl trivial
  | checking =>
    simp only [Forwarder.handleStep] at hstep
    split at hstep
    · cases hstep
      rw [List.append_nil]
      exact h.moved rfl rfl rfl kept same nofun fun c _ => .inl trivial
    · rename_i unset
      cases hstep
      rw [List.append_nil]
      exact h.moved rfl rfl rfl kept same (fun _ => by simpa using unset) fun c _ => .inl trivial
  | refusing remaining =>
    cases remaining with
    | nil =>
      cases hstep
      rw [List.append_nil]
      exact h.moved rfl rfl rfl kept same nofun fun c _ => .inl trivial
    | cons connection remaining =>
      simp only [Forwarder.handleStep] at hstep
      split at hstep
      · cases hstep
        rw [List.append_nil]
        exact h.moved rfl rfl rfl (fun j mem => .inl mem)
          (fun c mem => List.mem_cons_of_mem _ mem) nofun fun c _ => .inl trivial
      · cases hstep
        rw [List.append_nil]
        exact h.moved rfl rfl rfl kept same nofun fun c _ => .inl trivial
  | adding =>
    cases hstep
    exact h.registered at_
  | added | serving | discarded =>
    cases hstep
    rw [List.append_nil]
    exact h.moved rfl rfl rfl kept same nofun fun c mem => .inl (by first | exact mem | trivial)
  | closing remaining =>
    cases remaining with
    | nil =>
      cases hstep
      rw [List.append_nil]
      refine h.moved rfl rfl rfl kept same nofun fun c mem => .inr ?_
      simpa [HandlePc.Covers] using own c mem
    | cons connection remaining =>
      cases hstep
      rw [List.append_nil]
      refine h.moved rfl rfl rfl (fun j mem => .inl mem) (fun c mem => List.mem_cons_of_mem _ mem)
        nofun fun c mem => ?_
      have before := own c mem
      simp only [HandlePc.Covers, List.mem_cons] at before ⊢
      tauto
  | acquiringAgain =>
    simp only [Forwarder.handleStep, Option.ite_none_right_eq_some] at hstep
    obtain ⟨-, hstep⟩ := hstep
    cases hstep
    rw [List.append_nil]
    exact h.moved rfl rfl rfl kept same nofun own
  | discarding =>
    cases hstep
    rw [List.append_nil]
    -- the pair that leaves `self.connections` is closed
    refine h.moved rfl rfl rfl (fun j mem => ?_) same nofun fun c _ => .inl trivial
    by_cases mine : j = i
    · subst mine
      exact .inr fun c mem => by simpa [HandlePc.Covers] using own c mem
    · exact .inl (List.mem_filter.mpr ⟨mem, by simpa using mine⟩)
  | ended => cases hstep

/-- Every step keeps connections, calls and threads in order. -/
theorem Closing.step {s t : LocalForwarder} {past out : List Event} {label : Label}
    (locks : Locks s) (h : Closing s past) (hstep : step? s label = some (t, out)) :
    Closing t (past ++ out) := by
  cases label with
  | signal =>
    cases hstep
    rw [List.append_nil]
    exact h.interrupted
  | main outcome =>
    cases calls : s.calls with
    | nil =>
      simp only [step?, calls] at hstep
      exact h.serveStep calls hstep
    | cons pc outer =>
      simp only [step?, calls] at hstep
      exact h.stopStep locks calls hstep
  | handler i outcome =>
    obtain ⟨pc, at_, hstep⟩ := Option.bind_eq_some_iff.mp hstep
    exact h.handleStep at_ hstep

end KonnectFapi.Source.Forwarder

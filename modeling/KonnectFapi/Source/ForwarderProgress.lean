import Mathlib.Data.List.Perm.Subperm
import KonnectFapi.Lib.Inevitable
import KonnectFapi.Source.ForwarderLocks
import Mathlib.Algebra.GroupWithZero.Nat

/-!
# A running `stop` returns

While a call of `stop` runs, some thread can always go on, and every step other
than a signal brings the end nearer: a call has a bounded way to go, which its
copy of `self.connections` bounds, and so has every handler thread.

Source: scripts/wp5-demo-forward.py:24-41, 58-95
-/

namespace KonnectFapi.Source.Forwarder

/-- The thread has not yet registered its pair. -/
def HandlePc.unregistered : HandlePc → Bool
  | .connecting | .acquiring | .checking | .adding => true
  | _ => false

/-- Each handler thread has its pair in `self.connections` at most once. -/
structure Registry (s : LocalForwarder) : Prop where
  distinct : s.connections.Nodup
  known : ∀ i ∈ s.connections, i < s.handlers.length
  fresh : ∀ i pc, s.handlers[i]? = some pc → pc.unregistered → i ∉ s.connections

theorem registry_start : Registry start := by
  constructor <;> simp [start]

theorem Registry.length_le {s : LocalForwarder} (h : Registry s) :
    s.connections.length ≤ s.handlers.length := by
  have sub : s.connections ⊆ List.range s.handlers.length :=
    fun i mem => List.mem_range.mpr (h.known i mem)
  simpa using (List.subperm_of_subset h.distinct sub).length_le

/-- A thread that goes on without touching `self.connections`. -/
theorem Registry.moved {s t : LocalForwarder} {i : Nat} {pc next : HandlePc} (h : Registry s)
    (at_ : s.handlers[i]? = some pc) (connections : t.connections = s.connections)
    (handlers : t.handlers = s.handlers.set i next)
    (unregistered : next.unregistered → pc.unregistered) : Registry t := by
  constructor
  · rw [connections]
    exact h.distinct
  · rw [connections, handlers, List.length_set]
    exact h.known
  · intro j other found new
    rw [handlers, List.getElem?_set] at found
    rw [connections]
    split at found
    · rename_i same
      subst same
      split at found
      · cases found
        exact h.fresh i pc at_ (unregistered new)
      · cases found
    · exact h.fresh j other found new

theorem Registry.registered {s : LocalForwarder} {i : Nat} (h : Registry s)
    (adding : s.handlers[i]? = some .adding) :
    Registry { s.move i .added with connections := s.connections ++ [i] } := by
  have new := h.fresh i .adding adding rfl
  obtain ⟨inside, -⟩ := List.getElem?_eq_some_iff.mp adding
  constructor
  · refine List.nodup_append.mpr ⟨h.distinct, by simp, fun j mem k own => ?_⟩
    rw [List.mem_singleton.mp own]
    exact fun same => new (same ▸ mem)
  · intro j mem
    rw [LocalForwarder.move, List.length_set]
    rcases List.mem_append.mp mem with old | own
    · exact h.known j old
    · rwa [List.mem_singleton.mp own]
  · intro j other found unregistered
    by_cases differ : i = j
    · subst differ
      rw [LocalForwarder.move, List.getElem?_set_self inside] at found
      cases found
      cases unregistered
    · rw [LocalForwarder.move, List.getElem?_set_ne differ] at found
      have old := h.fresh j other found unregistered
      simp [old, Ne.symm differ]

theorem Registry.discarded {s : LocalForwarder} {i : Nat} (h : Registry s) :
    Registry { s.move i .discarded with connections := s.connections.filter (· ≠ i) } := by
  constructor
  · exact h.distinct.filter _
  · intro j mem
    rw [LocalForwarder.move, List.length_set]
    exact h.known j (List.mem_of_mem_filter mem)
  · intro j other found unregistered mem
    rw [LocalForwarder.move, List.getElem?_set] at found
    split at found
    · split at found
      · cases found
        cases unregistered
      · cases found
    · exact h.fresh j other found unregistered (List.mem_of_mem_filter mem)

theorem Registry.handleStep {s t : LocalForwarder} {out : List Event} {i : Nat} {pc : HandlePc}
    {outcome : Outcome} (h : Registry s) (at_ : s.handlers[i]? = some pc)
    (hstep : handleStep s i outcome pc = some (t, out)) : Registry t := by
  unfold Forwarder.handleStep at hstep
  repeat' split at hstep
  all_goals cases hstep
  all_goals first
    | exact h.moved at_ rfl rfl (by simp [HandlePc.unregistered])
    | exact h.registered at_
    | exact h.discarded

/-- A new thread's index is that of no earlier one. -/
theorem Registry.started {s t : LocalForwarder} (h : Registry s)
    (connections : t.connections = s.connections)
    (handlers : t.handlers = s.handlers ++ [.connecting]) : Registry t := by
  constructor
  · rw [connections]
    exact h.distinct
  · intro i mem
    have := h.known i (connections ▸ mem)
    rw [handlers, List.length_append]
    omega
  · intro i pc found unregistered mem
    rw [handlers] at found
    have known := h.known i (connections ▸ mem)
    rw [List.getElem?_append_left known] at found
    exact h.fresh i pc found unregistered (connections ▸ mem)

theorem Registry.step {s t : LocalForwarder} {out : List Event} {label : Label}
    (h : Registry s) (hstep : step? s label = some (t, out)) : Registry t := by
  cases label with
  | signal =>
    cases hstep
    exact ⟨h.distinct, h.known, h.fresh⟩
  | main outcome =>
    cases calls : s.calls with
    | nil =>
      simp only [step?, calls] at hstep
      unfold serveStep at hstep
      repeat' split at hstep
      all_goals cases hstep
      all_goals first
        | exact ⟨h.distinct, h.known, h.fresh⟩
        | exact h.started rfl rfl
    | cons pc outer =>
      simp only [step?, calls] at hstep
      unfold stopStep at hstep
      repeat' split at hstep
      all_goals cases hstep
      all_goals exact ⟨h.distinct, h.known, h.fresh⟩
  | handler i outcome =>
    obtain ⟨pc, at_, hstep⟩ := Option.bind_eq_some_iff.mp hstep
    exact h.handleStep at_ hstep

/-! ## How far every thread has to go -/

/-- The steps a call of `stop` may still take when there are `threads` handlers. -/
def StopPc.cost (threads : Nat) : StopPc → Nat
  | .enteringEvent => 2 * threads + 8
  | .settingFlag => 2 * threads + 7
  | .leavingEvent => 2 * threads + 6
  | .closingListener => 2 * threads + 5
  | .acquiring => 2 * threads + 4
  | .copying => 2 * threads + 3
  | .releasing active => 2 * active.length + 2
  | .closing remaining => remaining.length + 1

/-- The steps a handler thread may still take. -/
def HandlePc.cost : HandlePc → Nat
  | .connecting => 12
  | .acquiring => 11
  | .checking => 10
  | .refusing remaining => remaining.length + 1
  | .adding => 9
  | .added => 8
  | .serving => 7
  | .closing remaining => remaining.length + 4
  | .acquiringAgain => 3
  | .discarding => 2
  | .discarded => 1
  | .ended => 0

/-- The steps all running calls of `stop` and all handler threads may still take. -/
def LocalForwarder.cost (s : LocalForwarder) : Nat :=
  (s.calls.map (StopPc.cost s.handlers.length)).sum + (s.handlers.map HandlePc.cost).sum

theorem sum_cost_set {handlers : List HandlePc} {i : Nat} {pc next : HandlePc}
    (at_ : handlers[i]? = some pc) (lower : next.cost < pc.cost) :
    ((handlers.set i next).map HandlePc.cost).sum < (handlers.map HandlePc.cost).sum := by
  induction handlers generalizing i with
  | nil => cases at_
  | cons first rest ih =>
    cases i with
    | zero =>
      cases at_
      simpa using lower
    | succ i => simpa using ih (by simpa using at_)

theorem length_flatMap_pair (active : List Nat) :
    (active.flatMap pair).length = 2 * active.length := by
  induction active with
  | nil => rfl
  | cons i rest ih =>
    simp only [List.flatMap_cons, List.length_append, ih, pair, List.length_cons, List.length_nil]
    omega

theorem stopStep_cost {s t : LocalForwarder} {out : List Event} {pc : StopPc}
    {outer : List StopPc} (h : Registry s) (calls : s.calls = pc :: outer)
    (hstep : stopStep s outer pc = some (t, out)) : t.cost < s.cost := by
  have bound := h.length_le
  unfold stopStep at hstep
  repeat' split at hstep
  all_goals cases hstep
  all_goals
    simp only [LocalForwarder.cost, calls, List.map_cons, List.sum_cons, StopPc.cost,
      length_flatMap_pair, List.length_cons, List.length_nil]
    omega

theorem handleStep_cost {s t : LocalForwarder} {out : List Event} {i : Nat} {pc : HandlePc}
    {outcome : Outcome} (at_ : s.handlers[i]? = some pc)
    (hstep : handleStep s i outcome pc = some (t, out)) : t.cost < s.cost := by
  have lower : ∀ next, next.cost < pc.cost → (s.move i next).cost < s.cost := by
    intro next lower
    have less := sum_cost_set at_ lower
    simp only [LocalForwarder.cost, LocalForwarder.move, List.length_set]
    omega
  unfold handleStep at hstep
  repeat' split at hstep
  all_goals cases hstep
  all_goals exact lower _ (by simp [HandlePc.cost, pair])

/-- A thread goes on; no signal arrives. -/
def Moves (s t : LocalForwarder) : Prop :=
  ∃ label out, label ≠ .signal ∧ step? s label = some (t, out)

theorem cost_of_moves {s t : LocalForwarder} (h : Registry s) (running : s.calls ≠ [])
    (move : Moves s t) : t.cost < s.cost := by
  obtain ⟨label, out, thread, hstep⟩ := move
  cases label with
  | signal => exact absurd rfl thread
  | main outcome =>
    cases calls : s.calls with
    | nil => exact absurd calls running
    | cons pc outer =>
      simp only [step?, calls] at hstep
      exact stopStep_cost h calls hstep
  | handler i outcome =>
    obtain ⟨pc, at_, hstep⟩ := Option.bind_eq_some_iff.mp hstep
    exact handleStep_cost at_ hstep

/-- A thread inside a `with` block never waits there. -/
theorem holder_moves {s : LocalForwarder} {i : Nat} {pc : HandlePc}
    (at_ : s.handlers[i]? = some pc) (held : pc.holdsLock) : ∃ t, Moves s t := by
  have enabled : ∃ t out, handleStep s i .success pc = some (t, out) := by
    cases pc with
    | checking =>
      simp only [handleStep]
      split <;> exact ⟨_, _, rfl⟩
    | refusing remaining => cases remaining <;> exact ⟨_, _, rfl⟩
    | adding | added | discarding | discarded => exact ⟨_, _, rfl⟩
    | connecting | acquiring | serving | closing | acquiringAgain | ended => cases held
  obtain ⟨t, out, hstep⟩ := enabled
  exact ⟨t, .handler i .success, out, nofun, by simp [step?, at_, hstep]⟩

/-- While a call of `stop` runs, it can go on, or the handler thread that holds the
lock it waits for can. -/
theorem progress {s : LocalForwarder} (h : Locks s) (running : s.calls ≠ []) :
    ∃ t, Moves s t := by
  cases calls : s.calls with
  | nil => exact absurd calls running
  | cons pc outer =>
    have main : ∀ t out, stopStep s outer pc = some (t, out) → ∃ t, Moves s t := by
      intro t out hstep
      exact ⟨t, .main .success, out, nofun, by simp only [step?, calls, hstep]⟩
    cases pc with
    | enteringEvent =>
      have free : s.eventLock = false := by simpa [calls, StopPc.holdsEventLock] using h.event
      exact main _ _ (by simp only [stopStep, free]; rfl)
    | acquiring =>
      cases lock : s.lock with
      | none => exact main _ _ (by simp only [stopStep, lock]; rfl)
      | some holder =>
        cases holder with
        | main =>
          have held := h.main.mp lock
          simp [calls, StopPc.holdsLock] at held
        | handler i =>
          obtain ⟨pc, at_, held⟩ := (Option.any_eq_true _ _).mp ((h.handler i).mp lock)
          exact holder_moves at_ held
    | closing remaining => cases remaining <;> exact main _ _ rfl
    | settingFlag | leavingEvent | closingListener | copying | releasing active =>
      exact main _ _ rfl

/-- With the locks in order, every running call of `stop` returns. -/
theorem stop_returns {s : LocalForwarder} (locks : Locks s) (registry : Registry s) :
    Lib.Inevitable Moves (fun t => t.calls = []) s := by
  apply Lib.Inevitable.of_measure (P := fun t => Locks t ∧ Registry t) LocalForwarder.cost
    _ _ ⟨locks, registry⟩
  · rintro s ⟨locks, -⟩ running
    exact progress locks running
  · rintro s t ⟨locks, registry⟩ running move
    have lower := cost_of_moves registry running move
    obtain ⟨label, out, thread, hstep⟩ := move
    have quiet : label = .signal → s.inCriticalSection = false := fun signal => absurd signal thread
    exact ⟨⟨locks.step quiet hstep, registry.step hstep⟩, lower⟩

end KonnectFapi.Source.Forwarder

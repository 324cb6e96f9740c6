import KonnectFapi.Lib.BoundedLog
import KonnectFapi.Source.Transport.GuardEffects

/-!
# What a call leaves in the observations

Source: kong/plugins/fapi-as-mtls-transport/handler.lua:1075-1099, 1307-1454. The
entry of a call is put in before the call can yield and rewritten in its place when
the call goes on.
-/

namespace KonnectFapi.Source.Transport
open Lib Lib.Lua

/-- The entry tells whether the underlying `request_uri` was invoked. -/
structure Tells (entry : Observation) (invoked : Bool) : Prop where
  sent : entry.sent = some true ∧ entry.notSent = false ↔ invoked = true
  unsent : invoked = false → entry.sent ≠ some true ∧ entry.notSent = true

theorem tells_invoked {entry : Observation} (sent : entry.sent = some true)
    (notSent : entry.notSent = false) : Tells entry true :=
  ⟨by simp [sent, notSent], by rintro ⟨⟩⟩

theorem tells_kept {entry : Observation} (sent : entry.sent ≠ some true)
    (notSent : entry.notSent = true) : Tells entry false :=
  ⟨by simp [notSent], fun _ => ⟨sent, notSent⟩⟩

/-- While entries are kept. -/
def Correlated (s : State) : Prop :=
  ∃ registry, s.registry = some registry ∧ registry.evidenceCorrelationEnabled = true

/-- Whether a stretch stands for an entry, and for an invoked `request_uri`. -/
def Begun.recorded : Begun → Option Bool
  | .rejected | .signerFailed _ | .awaitSigner _ => some false
  | .sending _ => some true
  | .passthrough .. | .raised => none

/-- The call that goes on. -/
def Begun.pending? : Begun → Option Pending
  | .awaitSigner pending | .sending pending => some pending
  | _ => none

/-- The observations before and after a first stretch. -/
structure RecordsBegun (before after : Option Context) (begun : Begun) : Prop where
  silent : begun.recorded = none → after.map Context.observations = before.map Context.observations
  noted : ∀ invoked, begun.recorded = some invoked → ∃ entry, Tells entry invoked ∧
    after.map Context.observations =
      before.map fun c => record maxObservations c.observations entry
  going : ∀ pending, begun.pending? = some pending → ∀ invoked, begun.recorded = some invoked →
    Tells pending.observation invoked ∧
      ∀ c, before = some c → pending.slot = freeSlot maxObservations c.observations.length

/-- Only the observations of the context matter. -/
theorem RecordsBegun.of_same {a b after : Option Context} {begun : Begun}
    (same : b.map Context.observations = a.map Context.observations)
    (h : RecordsBegun b after begun) : RecordsBegun a after begun where
  silent unrecorded := (h.silent unrecorded).trans same
  noted invoked recorded := by
    obtain ⟨entry, tells, noted⟩ := h.noted invoked recorded
    have composed : ∀ context : Option Context,
        (context.map fun c => record maxObservations c.observations entry) =
          (context.map Context.observations).map fun log => record maxObservations log entry := by
      simp [Option.map_map, Function.comp_def]
    exact ⟨entry, tells, by rw [noted, composed, composed, same]⟩
  going pending isPending invoked recorded := by
    obtain ⟨tells, slot⟩ := h.going pending isPending invoked recorded
    refine ⟨tells, fun c found => ?_⟩
    subst found
    obtain ⟨c', rfl, log⟩ := Option.map_eq_some_iff.mp same
    exact log ▸ slot c' rfl

/-! ## Entering and rewriting -/

theorem appendObservation_records {s : State} (enabled : Correlated s) (context : Option Context)
    (entry : Observation) :
    (appendObservation s context entry).1.map Context.observations =
        context.map (fun c => record maxObservations c.observations entry) ∧
      (appendObservation s context entry).2 =
        context.bind fun c => freeSlot maxObservations c.observations.length := by
  obtain ⟨registry, found, on⟩ := enabled
  unfold appendObservation record freeSlot
  cases context with
  | none => simp
  | some c =>
    by_cases room : c.observations.length < maxObservations
    · simp [found, on, room, Nat.not_le.mpr room]
    · simp [found, on, room, Nat.not_lt.mp room]

theorem updateObservation_records (context : Option Context) (slot : Option Nat)
    (entry : Observation) :
    (updateObservation context slot entry).map Context.observations =
      context.map fun c => rewrite c.observations slot entry := by
  unfold updateObservation rewrite
  cases context <;> cases slot <;> rfl

/-- An entry rewritten in the stretch it was entered in was never anything else. -/
theorem append_update_records {s : State} (enabled : Correlated s) (context : Option Context)
    (entry later : Observation) :
    (updateObservation (appendObservation s context entry).1 (appendObservation s context entry).2
        later).map Context.observations =
      context.map fun c => record maxObservations c.observations later := by
  obtain ⟨log, slot⟩ := appendObservation_records enabled context entry
  rw [updateObservation_records, slot]
  cases context with
  | none => simpa using log
  | some c =>
    obtain ⟨c', hc', log⟩ := Option.map_eq_some_iff.mp log
    rw [hc']
    simp [log, rewrite_record]

theorem reject_records {s : State} (enabled : Correlated s) (context : Option Context)
    (kind : Option EndpointKind) (method : Option Bytes) (reason : RejectionReason) :
    RecordsBegun context (reject s context kind method reason) .rejected where
  silent := by rintro ⟨⟩
  noted := by
    rintro _ ⟨⟩
    exact ⟨_, tells_kept (by simp) rfl, (appendObservation_records enabled context _).1⟩
  going := by rintro _ ⟨⟩

/-! ## The first stretch -/

theorem dispatch_records {s : State} (enabled : Correlated s) (context : Option Context)
    (selected : Selected) {pending : Pending} (kept : Tells pending.observation false) :
    RecordsBegun context (dispatch s context selected pending).1
      (dispatch s context selected pending).2 := by
  have entered := appendObservation_records enabled context pending.observation
  have rewritten := append_update_records enabled context pending.observation
  have slot : ∀ c, context = some c → (appendObservation s context pending.observation).2 =
      freeSlot maxObservations c.observations.length := by
    rintro c rfl
    exact entered.2
  unfold dispatch
  generalize appendObservation s context pending.observation = noted at entered rewritten slot ⊢
  obtain ⟨c', given⟩ := noted
  dsimp only at entered rewritten slot ⊢
  split
  · cases c' with
    | none =>
      have absent : context = none := by simpa using entered.1.symm
      subst absent
      exact ⟨fun _ => rfl, by rintro _ ⟨⟩, by rintro _ ⟨⟩⟩
    | some c =>
      dsimp only
      split
      · refine ⟨by rintro ⟨⟩, ?_, ?_⟩
        · rintro _ ⟨⟩
          exact ⟨_, kept, entered.1⟩
        · rintro _ ⟨⟩ _ ⟨⟩
          exact ⟨kept, slot⟩
      · refine ⟨by rintro ⟨⟩, ?_, by rintro _ ⟨⟩⟩
        rintro _ ⟨⟩
        exact ⟨signerUnavailable { pending with slot := given },
          tells_kept (kept.unsent rfl).1 rfl, rewritten _⟩
  · refine ⟨by rintro ⟨⟩, ?_, ?_⟩
    · rintro _ ⟨⟩
      exact ⟨_, tells_invoked rfl rfl, rewritten _⟩
    · rintro _ ⟨⟩ _ ⟨⟩
      exact ⟨tells_invoked rfl rfl, slot⟩

theorem launch_records {s : State} (enabled : Correlated s) (registry : Registry)
    (context : Option Context) (selected : Selected) (correlationId : Option Bytes)
    {pending : Pending} (kept : Tells pending.observation false) :
    RecordsBegun context (launch s registry context selected correlationId pending).1
      (launch s registry context selected correlationId pending).2 := by
  unfold launch
  split
  · exact reject_records enabled ..
  · have stored : (storeObservationId context correlationId).map Context.observations =
        context.map Context.observations := by
      unfold storeObservationId
      cases correlationId <;> cases context <;> rfl
    exact (dispatch_records enabled _ selected kept).of_same stored

theorem beginAdmitted_records {host : Host} {s : State} (enabled : Correlated s) (env : CallEnv)
    (context : Option Context) (client : Value) (options : Table) (endpoint : Endpoint)
    (method : Bytes) (selected : Selected) :
    RecordsBegun context
      (beginAdmitted host s env context client options endpoint method selected).1
      (beginAdmitted host s env context client options endpoint method selected).2 := by
  have raised : RecordsBegun context context .raised := ⟨fun _ => rfl, by rintro _ ⟨⟩, by rintro _ ⟨⟩⟩
  unfold beginAdmitted
  split
  · exact raised
  split
  · exact reject_records enabled ..
  · exact raised
  dsimp only
  split
  · exact launch_records enabled _ _ _ _ (tells_kept (by simp [requestObservation]) rfl)
  · split
    · exact reject_records enabled ..
    split
    · exact ⟨fun _ => rfl, by rintro _ ⟨⟩, by rintro _ ⟨⟩⟩
    · rename_i c
      have refused : ∀ entry : Observation, Tells entry false →
          RecordsBegun (some c) (appendObservation s (some c) entry).1 .rejected := by
        intro entry kept
        refine ⟨by rintro ⟨⟩, ?_, by rintro _ ⟨⟩⟩
        rintro _ ⟨⟩
        exact ⟨entry, kept, (appendObservation_records enabled (some c) entry).1⟩
      split
      · exact refused _ (tells_kept (by simp [requestObservation]) rfl)
      split
      · exact refused _ (tells_kept (by simp [requestObservation]) rfl)
      · rename_i post _ _
        have same : (some (markSent c post)).map Context.observations =
            (some c).map Context.observations := rfl
        refine RecordsBegun.of_same same (launch_records enabled _ _ _ _ ?_)
        exact tells_kept (by simp [postObservation, requestObservation]) rfl

theorem beginCall_records {host : Host} {s : State} (enabled : Correlated s) (env : CallEnv)
    (context : Option Context) (client uri options : Value) :
    RecordsBegun context (beginCall host s env context client uri options).1
      (beginCall host s env context client uri options).2 := by
  unfold beginCall
  split
  · exact ⟨fun _ => rfl, by rintro _ ⟨⟩, by rintro _ ⟨⟩⟩
  · exact reject_records enabled ..
  · exact ⟨fun _ => rfl, by rintro _ ⟨⟩, by rintro _ ⟨⟩⟩
  · exact beginAdmitted_records enabled ..

/-! ## The stretches after a yield -/

/-- The entry of a call, rewritten in its place. -/
structure RecordsResumed (before after : Option Context) (pending : Pending) (begun : Begun) :
    Prop where
  rewritten : ∃ entry invoked, begun.recorded = some invoked ∧ Tells entry invoked ∧
    after.map Context.observations =
      before.map fun c => rewrite c.observations pending.slot entry
  going : ∀ next, begun.pending? = some next → begun = .sending next ∧
    Tells next.observation true ∧ next.slot = pending.slot

theorem afterSigner_records (host : Host) (now : Nat) (context : Option Context) {pending : Pending}
    (kept : Tells pending.observation false) (result : SignerResult) :
    RecordsResumed context (afterSigner host now context pending result).1 pending
      (afterSigner host now context pending result).2 := by
  unfold afterSigner
  split
  · refine ⟨⟨_, true, rfl, tells_invoked rfl rfl, updateObservation_records ..⟩, ?_⟩
    rintro _ ⟨⟩
    exact ⟨rfl, tells_invoked rfl rfl, rfl⟩
  · refine ⟨⟨signerUnavailable pending, false, rfl, ?_, updateObservation_records ..⟩, by rintro _ ⟨⟩⟩
    exact tells_kept (kept.unsent rfl).1 rfl

theorem afterNetwork_records (context : Option Context) {pending : Pending}
    (sent : Tells pending.observation true) (result : NetworkResult) :
    ∃ entry, Tells entry true ∧ (afterNetwork context pending result).1.map Context.observations =
      context.map fun c => rewrite c.observations pending.slot entry := by
  have answered : ∀ entry : Observation, entry.sent = pending.observation.sent →
      entry.notSent = false → ∃ kept, Tells kept true ∧
        (updateObservation context pending.slot entry).map Context.observations =
          context.map fun c => rewrite c.observations pending.slot kept :=
    fun entry same notSent => ⟨entry, tells_invoked (same.trans (sent.sent.mpr rfl).1) notSent,
      updateObservation_records ..⟩
  unfold afterNetwork
  split
  · exact answered _ rfl rfl
  · dsimp only
    split
    · exact answered _ rfl rfl
    · exact answered _ rfl rfl

end KonnectFapi.Source.Transport
